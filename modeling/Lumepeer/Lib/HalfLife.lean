import Mathlib.Algebra.Group.Nat.Defs

/-!
# Counts that are forgotten by halves

A count is forgotten with a half-life `period` if after `k` full periods no more
than a `2^k`-th of it is left. A single halving does that for up to two periods,
and a count that stays as it is does it for less than one.
-/

namespace Lumepeer.Lib

/-- Of the count `before`, after `idle` no more is left than `after`, halved once a period. -/
def Forgets (period idle before after : Nat) : Prop :=
  ∀ k, k * period ≤ idle → after * 2 ^ k ≤ before

variable {period idle n m : Nat}

theorem forgets_zero : Forgets period idle n 0 := by
  intro k _
  rw [Nat.zero_mul]
  exact Nat.zero_le n

/-- Before the first period is over anything may be left. -/
theorem forgets_of_idle_lt (soon : idle < period) (le : m ≤ n) : Forgets period idle n m := by
  intro k periods
  cases k with
  | zero => rwa [Nat.pow_zero, Nat.mul_one]
  | succ k =>
      rw [Nat.add_mul, Nat.one_mul] at periods
      omega

/-- A count that stays as it is. -/
theorem forgets_self_iff : Forgets period idle n n ↔ idle < period ∨ n = 0 := by
  constructor
  · intro forgets
    by_cases soon : idle < period
    · exact .inl soon
    · have once := forgets 1 (by omega)
      exact .inr (by omega)
  · rintro (soon | rfl)
    · exact forgets_of_idle_lt soon (Nat.le_refl n)
    · exact forgets_zero

/-- A count that is halved once. -/
theorem forgets_half_iff : Forgets period idle n (n / 2) ↔ idle < 2 * period ∨ n ≤ 1 := by
  constructor
  · intro forgets
    by_cases soon : idle < 2 * period
    · exact .inl soon
    · have twice := forgets 2 (by omega)
      exact .inr (by omega)
  · rintro (soon | small)
    · intro k periods
      match k with
      | 0 => omega
      | 1 => omega
      | k + 2 =>
          have two : (k + 2) * period = k * period + 2 * period := Nat.add_mul k 2 period
          omega
    · rw [Nat.div_eq_of_lt (by omega)]
      exact forgets_zero

end Lumepeer.Lib
