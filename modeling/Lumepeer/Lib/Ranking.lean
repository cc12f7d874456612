import Mathlib.Data.List.Sort

/-!
# Places in a stable sort

A list is sorted together with another one behind it. The sort is stable, so an
element of the second list comes before one of the first only if it ranks
strictly above it: `ranksAbove` says that it ranks above some of them, and the
number of these decides whether the whole first list is among the first `n`.
-/

namespace Lumepeer.Lib.Ranking

universe u
variable {α : Type u} {r : α → α → Prop} [DecidableRel r]

/-- Ranks strictly above one of these. -/
def ranksAbove (r : α → α → Prop) [DecidableRel r] (first : List α) (b : α) : Bool :=
  first.any fun a => ¬r a b

theorem ranksAbove_eq_true {first : List α} {b : α} :
    ranksAbove r first b = true ↔ ∃ a ∈ first, ¬r a b := by simp [ranksAbove]

theorem ranksAbove_eq_false {first : List α} {b : α} :
    ranksAbove r first b = false ↔ ∀ a ∈ first, r a b := by simp [ranksAbove]

/-- What ranks no lower than the back goes into the front. -/
theorem orderedInsert_append_of_rel {a : α} {front back : List α} (above : ∀ b ∈ back, r a b) :
    (front ++ back).orderedInsert r a = front.orderedInsert r a ++ back := by
  induction front with
  | nil =>
      cases back with
      | nil => rfl
      | cons b back => exact List.orderedInsert_cons_of_le r back (above b List.mem_cons_self)
  | cons b front ih =>
      rw [List.cons_append, List.orderedInsert_cons, List.orderedInsert_cons]
      by_cases before : r a b
      · rw [if_pos before, if_pos before]
        rfl
      · rw [if_neg before, if_neg before, ih]
        rfl

/-- What ranks below the front goes into the back. -/
theorem orderedInsert_append_of_not_rel {a : α} {front back : List α}
    (below : ∀ b ∈ front, ¬r a b) :
    (front ++ back).orderedInsert r a = front ++ back.orderedInsert r a := by
  induction front with
  | nil => rfl
  | cons b front ih =>
      rw [List.cons_append, List.orderedInsert_of_not_le r _ (below b List.mem_cons_self),
        ih fun b member => below b (List.mem_cons_of_mem _ member)]
      rfl

/-- A list in two parts, one strictly above the other, is sorted part by part. -/
theorem insertionSort_eq_append {p : α → Bool} {list : List α}
    (apart : ∀ a ∈ list, ∀ b ∈ list, p a = true → p b = false → r a b ∧ ¬r b a) :
    list.insertionSort r =
      (list.filter p).insertionSort r ++ (list.filter fun b => !p b).insertionSort r := by
  induction list with
  | nil => rfl
  | cons a list ih =>
      have sorted := ih fun a member b member' =>
        apart a (List.mem_cons_of_mem _ member) b (List.mem_cons_of_mem _ member')
      rw [List.insertionSort_cons, sorted]
      cases upper : p a with
      | true =>
          rw [List.filter_cons_of_pos upper, List.filter_cons_of_neg (by simp [upper]),
            List.insertionSort_cons]
          apply orderedInsert_append_of_rel
          intro b member
          obtain ⟨member, lower⟩ := List.mem_filter.mp ((List.mem_insertionSort r).mp member)
          exact (apart a List.mem_cons_self b (List.mem_cons_of_mem _ member) upper
            (by simpa using lower)).1
      | false =>
          rw [List.filter_cons_of_neg (by simp [upper]), List.filter_cons_of_pos (by simp [upper]),
            List.insertionSort_cons]
          apply orderedInsert_append_of_not_rel
          intro b member
          obtain ⟨member, higher⟩ := List.mem_filter.mp ((List.mem_insertionSort r).mp member)
          exact (apart b (List.mem_cons_of_mem _ member) a List.mem_cons_self higher upper).2

/-- What ranks above none of the first list stays behind all of it. -/
theorem insertionSort_append {p : α → Bool} {first second : List α}
    (above : ∀ a ∈ first, ∀ b ∈ second, p b = false → r a b)
    (apart : ∀ a ∈ second, ∀ b ∈ second, p a = true → p b = false → r a b ∧ ¬r b a) :
    (first ++ second).insertionSort r =
      (first ++ second.filter p).insertionSort r ++
        (second.filter fun b => !p b).insertionSort r := by
  induction first with
  | nil => exact insertionSort_eq_append apart
  | cons a first ih =>
      rw [List.cons_append, List.insertionSort_cons,
        ih fun a member => above a (List.mem_cons_of_mem _ member)]
      apply orderedInsert_append_of_rel
      intro b member
      obtain ⟨member, lower⟩ := List.mem_filter.mp ((List.mem_insertionSort r).mp member)
      exact above a List.mem_cons_self b member (by simpa using lower)

/-- The first list is whole among the first `n` of both if and only if there is room for it and
for all that rank above one of it. -/
theorem forall_mem_take_iff [Std.Total r] [IsTrans α r] {first second : List α} {n : Nat}
    (nodup : (first ++ second).Nodup) :
    (∀ a ∈ first, a ∈ ((first ++ second).insertionSort r).take n) ↔
      first.length + second.countP (ranksAbove r first) ≤ n := by
  have split : (first ++ second).insertionSort r =
      (first ++ second.filter (ranksAbove r first)).insertionSort r ++
        (second.filter fun b => !ranksAbove r first b).insertionSort r := by
    apply insertionSort_append
    · exact fun a member b _ lower => ranksAbove_eq_false.mp lower a member
    · intro a _ b _ higher lower
      obtain ⟨c, member, not⟩ := ranksAbove_eq_true.mp higher
      have below : r c b := ranksAbove_eq_false.mp lower c member
      have upper : r a c := (Std.Total.total a c).resolve_right not
      exact ⟨IsTrans.trans _ _ _ upper below, fun back => not (IsTrans.trans _ _ _ below back)⟩
  set front := (first ++ second.filter (ranksAbove r first)).insertionSort r with isFront
  have members (a : α) : a ∈ front ↔ a ∈ first ∨ a ∈ second ∧ ranksAbove r first a = true := by
    rw [isFront, List.mem_insertionSort, List.mem_append, List.mem_filter]
  have length : front.length = first.length + second.countP (ranksAbove r first) := by
    rw [isFront, List.length_insertionSort, List.length_append, List.countP_eq_length_filter]
  rw [split, ← length]
  constructor
  · intro kept
    by_contra full
    obtain ⟨init, last, isInit⟩ := (List.eq_nil_or_concat front).resolve_left fun none => by
      rw [none] at full
      exact full (Nat.zero_le n)
    rw [List.concat_eq_append] at isInit
    have sorted : front.Pairwise r := List.pairwise_insertionSort r _
    -- Nothing ranks below the last element of the front, so it is of the first list.
    have isFirst : last ∈ first := by
      have member : last ∈ front := by simp [isInit]
      rcases (members last).mp member with isFirst | ⟨-, higher⟩
      · exact isFirst
      · obtain ⟨a, isFirst, not⟩ := ranksAbove_eq_true.mp higher
        have isMember := (members a).mpr (.inl isFirst)
        rw [isInit] at isMember sorted
        rcases List.mem_append.mp isMember with before | same
        · exact absurd ((List.pairwise_append.mp sorted).2.2 a before last (by simp)) not
        · obtain rfl := List.mem_singleton.mp same
          exact absurd ((Std.Total.total a a).elim id id) not
    have whole :
        (front ++ (second.filter fun b => !ranksAbove r first b).insertionSort r).Nodup := by
      rw [← split]
      exact (List.perm_insertionSort r _).nodup_iff.mpr nodup
    have once : (init ++ [last]).Nodup := by
      rw [← isInit]
      exact (List.nodup_append.mp whole).1
    rw [isInit, List.length_append, List.length_singleton] at full
    have kept := kept last isFirst
    rw [isInit, List.append_assoc, List.take_append_of_le_length (by omega)] at kept
    exact (List.nodup_append.mp once).2.2 last (List.mem_of_mem_take kept) last
      (List.mem_singleton.mpr rfl) rfl
  · intro room a isFirst
    rw [List.take_append, List.take_of_length_le room]
    exact List.mem_append_left _ ((members a).mpr (.inl isFirst))

end Lumepeer.Lib.Ranking
