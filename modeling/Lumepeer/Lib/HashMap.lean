import Mathlib.Data.List.AList

/-!
# Hash maps

A hash map is a list of entries with distinct keys, in one of the orders an
iterator may visit them: Mathlib's `AList` at a constant family. This module
adds in-place modification of one value or of all and the number of entries a
predicate selects, with the lemmas that say how the map operations move that
number.
-/

namespace Lumepeer.Lib

universe u v
variable {K : Type u} {V : Type v}

/-- A finite map from `K` to `V`. -/
abbrev HashMap (K : Type u) (V : Type v) := AList (fun _ : K => V)

namespace HashMap

/-- How many entries satisfy `p`. -/
def countWhere (p : K → V → Bool) (m : HashMap K V) : Nat :=
  m.entries.countP fun entry => p entry.1 entry.2

theorem countWhere_perm {p : K → V → Bool} {m m' : HashMap K V}
    (perm : m.entries.Perm m'.entries) : countWhere p m = countWhere p m' :=
  perm.countP_eq _

/-- Applies `f` to every value. -/
def mapValues (f : V → V) (m : HashMap K V) : HashMap K V where
  entries := m.entries.map fun entry => ⟨entry.1, f entry.2⟩
  nodupKeys := by
    have distinct : m.entries.keys.Nodup := m.nodupKeys
    rw [List.NodupKeys, List.keys, List.map_map]
    exact distinct

/-- `HashMap::values`. -/
def values (m : HashMap K V) : List V := m.entries.map Sigma.snd

/-- `HashMap::retain`: keeps the entries that satisfy `p`. -/
def retain (p : K → V → Bool) (m : HashMap K V) : HashMap K V where
  entries := m.entries.filter fun entry => p entry.1 entry.2
  nodupKeys := List.NodupKeys.sublist List.filter_sublist m.nodupKeys

variable [DecidableEq K]

theorem mem_values {m : HashMap K V} {v : V} : v ∈ values m ↔ ∃ k, m.lookup k = some v := by
  unfold values
  rw [List.mem_map]
  constructor
  · rintro ⟨⟨k, v⟩, member, rfl⟩
    exact ⟨k, AList.mem_lookup_iff.mpr member⟩
  · rintro ⟨k, found⟩
    exact ⟨⟨k, v⟩, AList.mem_lookup_iff.mp found, rfl⟩

theorem lookup_retain (p : K → V → Bool) (m : HashMap K V) (k : K) :
    (retain p m).lookup k = (m.lookup k).filter (p k) := by
  rw [Option.ext_iff]
  intro v
  rw [Option.filter_eq_some_iff, ← Option.mem_def, ← Option.mem_def, AList.mem_lookup_iff,
    AList.mem_lookup_iff]
  exact List.mem_filter

theorem lookup_mapValues (f : V → V) (m : HashMap K V) (k : K) :
    (mapValues f m).lookup k = (m.lookup k).map f := by
  unfold mapValues AList.lookup
  simp only
  induction m.entries with
  | nil => rfl
  | cons entry entries ih =>
      obtain ⟨k', v⟩ := entry
      by_cases same : k = k'
      · subst same
        rw [List.map_cons, List.dlookup_cons_eq, List.dlookup_cons_eq]
        rfl
      · rw [List.map_cons, List.dlookup_cons_ne _ _ same, List.dlookup_cons_ne _ _ same, ih]

/-- Applies `f` to the value at `k`, if there is one. -/
def modify (k : K) (f : V → V) (m : HashMap K V) : HashMap K V :=
  match m.lookup k with
  | some v => m.insert k (f v)
  | none => m

theorem lookup_insert_eq (m : HashMap K V) (k k' : K) (v : V) :
    (m.insert k v).lookup k' = if k' = k then some v else m.lookup k' := by
  by_cases same : k' = k
  · subst same
    simp
  · simp [same, AList.lookup_insert_ne]

theorem lookup_erase_eq (m : HashMap K V) (k k' : K) :
    (m.erase k).lookup k' = if k' = k then none else m.lookup k' := by
  by_cases same : k' = k
  · subst same
    simp
  · simp [same, AList.lookup_erase_ne]

theorem lookup_modify_eq (m : HashMap K V) (k k' : K) (f : V → V) :
    (modify k f m).lookup k' = if k' = k then (m.lookup k).map f else m.lookup k' := by
  unfold modify
  cases found : m.lookup k with
  | none =>
      by_cases same : k' = k
      · subst same
        simp [found]
      · simp [same]
  | some v => simp [lookup_insert_eq]

private theorem kerase_eq_filter (entries : List (Sigma fun _ : K => V)) (k : K)
    (distinct : entries.NodupKeys) :
    entries.kerase k = entries.filter fun entry => decide (entry.1 ≠ k) := by
  induction entries with
  | nil => rfl
  | cons entry entries ih =>
      obtain ⟨fresh, rest⟩ := List.nodupKeys_cons.mp distinct
      by_cases same : entry.1 = k
      · have untouched : ∀ other ∈ entries, other.1 ≠ k := by
          intro other member equal
          exact fresh (same ▸ equal ▸ List.mem_keys_of_mem member)
        rw [List.kerase_cons_eq same.symm, List.filter_cons_of_neg (by simp [same]),
          List.filter_eq_self.mpr (by simpa using untouched)]
      · rw [List.kerase_cons_ne (Ne.symm same), ih rest,
          List.filter_cons_of_pos (by simp [same])]

/-- Putting the value a map holds at `k` back in only moves its entry. -/
theorem perm_insert_lookup {m : HashMap K V} {k : K} {v : V} (found : m.lookup k = some v) :
    m.entries.Perm (m.insert k v).entries := by
  have member : Sigma.mk k v ∈ m.entries := AList.mem_lookup_iff.mp found
  obtain ⟨v', front, back, -, split, erased⟩ :=
    List.exists_of_kerase (List.mem_keys_of_mem member)
  have same : v' = v := by
    have found' : m.lookup k = some v' := AList.mem_lookup_iff.mpr (by simp [split])
    exact Option.some.inj (found'.symm.trans found)
  rw [AList.entries_insert, erased, split, same]
  exact List.perm_middle

/-- Erasing `k` leaves the selected entries of the other keys. -/
theorem countWhere_erase (p : K → V → Bool) (m : HashMap K V) (k : K) :
    countWhere p (m.erase k) = countWhere (fun k' v => k' != k && p k' v) m := by
  unfold countWhere
  show (m.entries.kerase k).countP _ = _
  rw [kerase_eq_filter _ _ m.nodupKeys, List.countP_filter]
  apply List.countP_congr
  intro entry _
  simp [and_comm]

/-- Inserting at `k` adds at most one entry to the selected ones of the other keys. -/
theorem countWhere_insert (p : K → V → Bool) (m : HashMap K V) (k : K) (v : V) :
    countWhere p (m.insert k v) =
      countWhere (fun k' v => k' != k && p k' v) m + if p k v then 1 else 0 := by
  rw [← countWhere_erase]
  unfold countWhere
  rw [AList.entries_insert, List.countP_cons]
  rfl

/-- The selected entries are those of the other keys and the one at `k`. -/
theorem countWhere_eq_others (p : K → V → Bool) (m : HashMap K V) (k : K) :
    countWhere p m = countWhere (fun k' v => k' != k && p k' v) m +
      if (m.lookup k).any (p k) then 1 else 0 := by
  cases found : m.lookup k with
  | none =>
      have absent : k ∉ m := AList.lookup_eq_none.mp found
      have same : m.erase k = m := by
        apply AList.ext
        exact List.kerase_of_notMem_keys absent
      simp [← countWhere_erase, same]
  | some v =>
      rw [countWhere_perm (perm_insert_lookup found), countWhere_insert]
      simp

omit [DecidableEq K] in
theorem countWhere_eq_length (p : K → V → Bool) (m : HashMap K V) :
    countWhere p m = ((m.entries.filter fun entry => p entry.1 entry.2).map Sigma.fst).length := by
  simp [countWhere, List.countP_eq_length_filter]

/-- Where all selected keys are in a list, there are no more of them than there. -/
theorem countWhere_le_length {p : K → V → Bool} {m : HashMap K V} {keys : List K}
    (covered : ∀ k v, m.lookup k = some v → p k v → k ∈ keys) : countWhere p m ≤ keys.length := by
  rw [countWhere_eq_length]
  apply List.Subperm.length_le
  apply List.subperm_of_subset
  · have nodup : (m.entries.map Sigma.fst).Nodup := m.keys_nodup
    exact (List.filter_sublist.map Sigma.fst).nodup nodup
  · intro k member
    obtain ⟨⟨k', v⟩, selected, rfl⟩ := List.mem_map.mp member
    obtain ⟨entry, holds⟩ := List.mem_filter.mp selected
    exact covered k' v (AList.mem_lookup_iff.mpr entry) holds

/-- A map whose selected keys are all keys that are selected of another selects no more entries. -/
theorem countWhere_le_of_covered {p p' : K → V → Bool} {m m' : HashMap K V}
    (covered : ∀ k v', m'.lookup k = some v' → p' k v' → ∃ v, m.lookup k = some v ∧ p k v) :
    countWhere p' m' ≤ countWhere p m := by
  rw [countWhere_eq_length, countWhere_eq_length]
  apply List.Subperm.length_le
  apply List.subperm_of_subset
  · have keys : (m'.entries.map Sigma.fst).Nodup := m'.keys_nodup
    exact (List.filter_sublist.map Sigma.fst).nodup keys
  · intro k member
    obtain ⟨⟨k', v'⟩, selected, rfl⟩ := List.mem_map.mp member
    obtain ⟨entry, holds⟩ := List.mem_filter.mp selected
    obtain ⟨v, found, held⟩ := covered k' v' (AList.mem_lookup_iff.mpr entry) holds
    exact List.mem_map.mpr ⟨⟨k', v⟩,
      List.mem_filter.mpr ⟨AList.mem_lookup_iff.mp found, held⟩, rfl⟩

/-- A map whose selected keys are all selected keys of another selects no more entries. -/
theorem countWhere_le_of_lookup {p : K → V → Bool} {m m' : HashMap K V}
    (covered : ∀ k v', m'.lookup k = some v' → p k v' → ∃ v, m.lookup k = some v ∧ p k v) :
    countWhere p m' ≤ countWhere p m :=
  countWhere_le_of_covered covered

end HashMap

end Lumepeer.Lib
