import Mathlib.Algebra.BigOperators.Group.Finset.Basic
import Mathlib.Algebra.Order.BigOperators.Group.Finset

/-!
# Growing pauses

A sequence of pauses, the `n`-th of length `pause n`, that have to be waited out
one after another. `waited` is the time the first `n` of them take and `fitting`
the number of them that fit into a stretch of time.
-/

namespace Lumepeer.Lib

variable (pause : Nat → Nat)

/-- The time the first `n` pauses take. -/
def waited (n : Nat) : Nat := ∑ i ∈ Finset.range n, pause i

/-- The number of pauses that fit into `elapsed`, one after another. -/
def fitting (elapsed : Nat) : Nat := Nat.findGreatest (fun n => waited pause n ≤ elapsed) elapsed

@[simp] theorem waited_zero : waited pause 0 = 0 := rfl

theorem waited_succ (n : Nat) : waited pause (n + 1) = waited pause n + pause n :=
  Finset.sum_range_succ pause n

theorem waited_mono : Monotone (waited pause) := by
  apply monotone_nat_of_le_succ
  intro n
  rw [waited_succ]
  exact Nat.le_add_right _ _

variable {pause}

theorem le_waited (positive : ∀ i, 0 < pause i) (n : Nat) : n ≤ waited pause n := by
  induction n with
  | zero => exact Nat.zero_le _
  | succ n ih =>
      have step := positive n
      rw [waited_succ]
      omega

/-- Pauses that have been waited out fit. -/
theorem le_fitting (positive : ∀ i, 0 < pause i) {n elapsed : Nat}
    (fits : waited pause n ≤ elapsed) : n ≤ fitting pause elapsed :=
  Nat.le_findGreatest ((le_waited positive n).trans fits) fits

end Lumepeer.Lib
