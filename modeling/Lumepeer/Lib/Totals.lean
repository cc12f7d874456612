import Lumepeer.Lib.Chunks
import Lumepeer.Lib.Saturating
import Mathlib.Algebra.GroupWithZero.Nat

/-!
# Running totals in machine words

A loop that adds to a list of `u32` totals and stops at the first overflow
computes the exact totals if they fit and nothing if one of them does not: what
is added never makes a total smaller, so an overflow on the way is still there
at the end. `words32` is that reading of exact totals, and the lemmas pass it
through one loop after the other.
-/

namespace Lumepeer.Lib

universe u v w
variable {σ : Type u} {β : Type v} {ι : Type w}

/-- Exact totals as `u32`, `none` if one of them does not fit. -/
def words32 (totals : List Nat) : Option (List UInt32) := totals.mapM tryFrom32

@[simp] theorem words32_nil : words32 [] = some [] := rfl

theorem words32_cons (total : Nat) (totals : List Nat) :
    words32 (total :: totals) =
      (tryFrom32 total).bind fun word => (words32 totals).map fun words => word :: words := by
  unfold words32
  rw [List.mapM_cons]
  cases tryFrom32 total <;> cases totals.mapM tryFrom32 <;> rfl

theorem words32_append (front back : List Nat) :
    words32 (front ++ back) =
      (words32 front).bind fun words => (words32 back).map fun more => words ++ more := by
  induction front with
  | nil => simp
  | cons total front ih =>
      rw [List.cons_append, words32_cons, words32_cons, ih]
      cases tryFrom32 total <;> cases words32 front <;> cases words32 back <;> rfl

theorem length_of_words32 {totals : List Nat} {words : List UInt32}
    (fit : words32 totals = some words) : words.length = totals.length := by
  induction totals generalizing words with
  | nil =>
      cases fit
      rfl
  | cons total totals ih =>
      rw [words32_cons] at fit
      cases first : tryFrom32 total with
      | none => simp [first] at fit
      | some word =>
          cases rest : words32 totals with
          | none => simp [first, rest] at fit
          | some more =>
              simp only [first, rest, Option.bind_some, Option.map_some, Option.some.injEq] at fit
              rw [← fit, List.length_cons, List.length_cons, ih rest]

theorem words32_of_lt {totals : List Nat} (fit : ∀ total ∈ totals, total < 2 ^ 32) :
    words32 totals = some (totals.map UInt32.ofNat) :=
  mapM_eq_some fun total member => if_pos (fit total member)

theorem words32_eq_none {totals : List Nat} {total : Nat} (member : total ∈ totals)
    (past : 2 ^ 32 ≤ total) : words32 totals = none :=
  mapM_eq_none member (if_neg (Nat.not_lt.mpr past))

/-- A loop whose every turn adds to the totals adds up what the turns add. -/
theorem foldlM_totals {read : (ι → Nat) → Option σ} {step : σ → β → Option σ}
    {gain : β → ι → Nat} {items : List β}
    (adds : ∀ totals, ∀ item ∈ items,
      ((read totals).bind fun s => step s item) = read fun i => totals i + gain item i)
    (totals : ι → Nat) :
    ((read totals).bind fun s => items.foldlM step s) =
      read fun i => totals i + (items.map fun item => gain item i).sum := by
  induction items generalizing totals with
  | nil => simp [List.foldlM]
  | cons item items ih =>
      have turn := adds totals item (by simp)
      have rest := ih (fun totals other member => adds totals other (by simp [member]))
        (fun i => totals i + gain item i)
      rw [← turn, Option.bind_assoc] at rest
      simpa [List.foldlM_cons, Nat.add_assoc] using rest

/-- A loop over pieces in which every item adds to its own piece. -/
theorem overChunks_totals {n : Nat} {step : List UInt32 → β → Option (List UInt32)}
    {before after : β → List Nat} {items : List β} (length : ∀ item, (before item).length = n)
    (adds : ∀ item ∈ items,
      ((words32 (before item)).bind fun words => step words item) = words32 (after item)) :
    ((words32 (items.flatMap before)).bind fun words => overChunks n step words items) =
      words32 (items.flatMap after) := by
  induction items with
  | nil => rfl
  | cons item items ih =>
      have rest := ih fun other member => adds other (by simp [member])
      rw [List.flatMap_cons, List.flatMap_cons, words32_append, words32_append, ← rest,
        ← adds item (by simp)]
      cases piece : words32 (before item) with
      | none => rfl
      | some words =>
          have short : words.length = n := (length_of_words32 piece).trans (length item)
          cases words32 (items.flatMap before) with
          | none => simp
          | some more => exact overChunks_append short more item items

end Lumepeer.Lib
