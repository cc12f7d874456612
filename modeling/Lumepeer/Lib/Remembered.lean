import Mathlib.Data.List.Basic

/-!
# The keys let in last

Keys come one after another and a memory of bounded size keeps those that were
let in last. A key that is in the memory is refused; any other one is let in and
remembered, in place of the oldest where the memory is full. `Remembers` relates
the memory to the log of all keys, each with whether it was let in: a key that
was refused was let in before, and a key that is let in twice has as many other
keys between as the memory holds.
-/

namespace Lumepeer.Lib

universe u
variable {κ : Type u} {capacity : Nat} {key : κ} {seen : List κ} {log : List (κ × Bool)}

/-- The keys that were let in, oldest first. -/
def letIn (log : List (κ × Bool)) : List κ := (log.filter Prod.snd).map Prod.fst

/-- The memory in which `key` takes the place of the oldest one, if there is no room. -/
def remember (capacity : Nat) (seen : List κ) (key : κ) : List κ :=
  (if seen.length = capacity then seen.tail else seen) ++ [key]

/-- The log that a memory decided, one key after the other. -/
inductive Remembers (capacity : Nat) : List (κ × Bool) → List κ → Prop
  | nil : Remembers capacity [] []
  | refused {log : List (κ × Bool)} {seen : List κ} {key : κ} :
      Remembers capacity log seen → key ∈ seen → Remembers capacity (log ++ [(key, false)]) seen
  | admitted {log : List (κ × Bool)} {seen : List κ} {key : κ} :
      Remembers capacity log seen → key ∉ seen →
        Remembers capacity (log ++ [(key, true)]) (remember capacity seen key)

theorem letIn_append (first second : List (κ × Bool)) :
    letIn (first ++ second) = letIn first ++ letIn second := by
  rw [letIn, List.filter_append, List.map_append]
  rfl

@[simp] theorem letIn_nil : letIn ([] : List (κ × Bool)) = [] := rfl

@[simp] theorem letIn_cons_true : letIn ((key, true) :: log) = key :: letIn log := rfl

@[simp] theorem letIn_cons_false : letIn ((key, false) :: log) = letIn log := rfl

theorem mem_letIn : key ∈ letIn log ↔ (key, true) ∈ log := by
  simp [letIn]

namespace Remembers

/-- A memory holds the last of the keys that were let in. -/
theorem keeps (room : 0 < capacity) (remembers : Remembers capacity log seen) :
    seen = (letIn log).drop ((letIn log).length - capacity) := by
  induction remembers with
  | nil => simp
  | refused earlier known ih => simpa [letIn_append] using ih
  | @admitted log seen key earlier isFresh ih =>
      have counted : seen.length = (letIn log).length - ((letIn log).length - capacity) := by
        rw [ih, List.length_drop]
      rw [remember, letIn_append, letIn_cons_true, letIn_nil, List.length_append,
        List.length_singleton, List.drop_append_of_le_length (by omega)]
      split
      · next full =>
          rw [ih, List.tail_drop]
          have further : (letIn log).length - capacity + 1 = (letIn log).length + 1 - capacity := by
            omega
          rw [further]
      · next roomLeft =>
          have all : (letIn log).length - capacity = 0 := by omega
          have all' : (letIn log).length + 1 - capacity = 0 := by omega
          rw [all] at ih
          rw [all', ih]

theorem nodup (remembers : Remembers capacity log seen) : seen.Nodup := by
  induction remembers with
  | nil => exact List.nodup_nil
  | refused earlier known ih => exact ih
  | @admitted log seen key earlier isFresh ih =>
      have left : (if seen.length = capacity then seen.tail else seen).Sublist seen := by
        split
        · exact List.tail_sublist seen
        · exact List.Sublist.refl seen
      rw [remember, List.nodup_append]
      refine ⟨ih.sublist left, by simp, ?_⟩
      rintro other isLeft _ isKey rfl
      rw [List.mem_singleton] at isKey
      exact isFresh (isKey ▸ left.subset isLeft)

/-- Every entry of the log was decided by the memory that the entries before it left. -/
theorem at_entry (remembers : Remembers capacity log seen) {before after : List (κ × Bool)}
    {isNew : Bool} (split : log = before ++ (key, isNew) :: after) :
    ∃ memory, Remembers capacity before memory ∧ (isNew = true ↔ key ∉ memory) := by
  induction remembers generalizing after with
  | nil => simp at split
  | refused earlier known ih =>
      rcases List.eq_nil_or_concat after with rfl | ⟨rest, last, rfl⟩
      · obtain ⟨rfl, same⟩ := List.append_inj' split rfl
        cases same
        exact ⟨_, earlier, by simpa using known⟩
      · rw [List.concat_eq_append, ← List.cons_append, ← List.append_assoc] at split
        exact ih (List.append_inj' split rfl).1
  | admitted earlier isFresh ih =>
      rcases List.eq_nil_or_concat after with rfl | ⟨rest, last, rfl⟩
      · obtain ⟨rfl, same⟩ := List.append_inj' split rfl
        cases same
        exact ⟨_, earlier, by simpa using isFresh⟩
      · rw [List.concat_eq_append, ← List.cons_append, ← List.append_assoc] at split
        exact ih (List.append_inj' split rfl).1

/-- A key that was refused had been let in before. -/
theorem admitted_of_refused (room : 0 < capacity) (remembers : Remembers capacity log seen)
    (refused : (key, false) ∈ log) : (key, true) ∈ log := by
  obtain ⟨before, after, split⟩ := List.append_of_mem refused
  obtain ⟨memory, earlier, decided⟩ := remembers.at_entry split
  have known : key ∈ memory := by simpa using decided
  rw [earlier.keeps room] at known
  rw [split]
  exact List.mem_append_left _ (mem_letIn.mp (List.mem_of_mem_drop known))

/-- Between two times that a key is let in stand as many different other keys as the memory
holds. -/
theorem apart (room : 0 < capacity) (remembers : Remembers capacity log seen)
    {before between after : List (κ × Bool)}
    (twice : log = before ++ (key, true) :: (between ++ (key, true) :: after)) :
    ∃ others : List κ, others.Nodup ∧ others.length = capacity ∧ key ∉ others ∧
      ∀ other ∈ others, (other, true) ∈ between := by
  have split : log = (before ++ (key, true) :: between) ++ (key, true) :: after := by
    rw [twice, List.append_assoc, List.cons_append]
  obtain ⟨memory, earlier, decided⟩ := remembers.at_entry split
  have isFresh : key ∉ memory := by simpa using decided
  have holds := earlier.keeps room
  rw [letIn_append, letIn_cons_true, List.length_append, List.length_cons] at holds
  -- The memory has lost the key, so all of it came after.
  have lost : (letIn before).length <
      (letIn before).length + ((letIn between).length + 1) - capacity := by
    by_contra kept
    rw [Nat.not_lt] at kept
    rw [List.drop_append_of_le_length kept] at holds
    exact isFresh (holds ▸ List.mem_append_right _ List.mem_cons_self)
  refine ⟨memory, earlier.nodup, ?_, isFresh, ?_⟩
  · rw [holds, List.length_drop, List.length_append, List.length_cons]
    omega
  · intro other member
    rw [holds, List.drop_append, List.drop_of_length_le (by omega), List.nil_append] at member
    have later : (letIn before).length + ((letIn between).length + 1) - capacity -
        (letIn before).length = (letIn before).length + (letIn between).length - capacity -
          (letIn before).length + 1 := by omega
    rw [later, List.drop_succ_cons] at member
    exact mem_letIn.mp (List.mem_of_mem_drop member)

end Remembers
end Lumepeer.Lib
