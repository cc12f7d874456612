import Mathlib.Algebra.Field.ZMod
import Mathlib.Algebra.Polynomial.Div
import Mathlib.Tactic.LinearCombination

/-!
# Cyclic redundancy checks

A word is read as a polynomial over the field of two elements, bit `i` being the
coefficient of `X ^ i`, and a message as the polynomial of all its bits, its
first bit the highest. The checksum of a message of width `w` is the remainder
of the message moved up by `w` places; `crc` computes it bit by bit, the most
significant bit of each byte first, from zero and without a final inversion.
-/

namespace Lumepeer.Lib
open Polynomial

/-- The polynomial whose coefficients are the bits of `x`. -/
noncomputable def toPolynomial {w : Nat} (x : BitVec w) : (ZMod 2)[X] :=
  ∑ i ∈ Finset.range w, if x.getLsbD i then X ^ i else 0

/-- The polynomial whose coefficients are the bits of the bytes, the first byte highest. -/
noncomputable def messagePoly (bytes : List UInt8) : (ZMod 2)[X] :=
  bytes.foldl (fun message byte => message * X ^ 8 + toPolynomial byte.toBitVec) 0

/-- The divisor whose coefficients below `X ^ w` are the bits of `g`. -/
noncomputable def generatorPoly {w : Nat} (g : BitVec w) : (ZMod 2)[X] := X ^ w + toPolynomial g

/-- One bit of a division by the generator: shift, and subtract it where a bit is shifted out. -/
def crcStep {w : Nat} (g x : BitVec w) : BitVec w :=
  if x.msb then (x <<< 1) ^^^ g else x <<< 1

/-- `n` bits of it. -/
def crcSteps {w : Nat} (g : BitVec w) : Nat → BitVec w → BitVec w
  | 0, x => x
  | n + 1, x => crcSteps g n (crcStep g x)

/-- One byte of the message, taken in at the top of the register. -/
def crcByte {w : Nat} (g x : BitVec w) (byte : UInt8) : BitVec w :=
  crcSteps g 8 (x ^^^ (byte.toBitVec.setWidth w <<< (w - 8)))

/-- The checksum of the bytes. -/
def crc {w : Nat} (g : BitVec w) (bytes : List UInt8) : BitVec w := bytes.foldl (crcByte g) 0

section

variable {w : Nat}

theorem coeff_toPolynomial (x : BitVec w) (n : Nat) :
    (toPolynomial x).coeff n = if x.getLsbD n then 1 else 0 := by
  have summand : ∀ i, (if x.getLsbD i then (X : (ZMod 2)[X]) ^ i else 0).coeff n =
      if n = i then (if x.getLsbD n then 1 else 0) else 0 := by
    intro i
    by_cases same : n = i
    · subst same
      cases x.getLsbD n <;> simp
    · cases x.getLsbD i <;> simp [coeff_X_pow, same]
  rw [toPolynomial, finsetSum_coeff, Finset.sum_congr rfl fun i _ => summand i]
  rw [Finset.sum_ite_eq]
  by_cases inside : n < w
  · rw [if_pos (Finset.mem_range.mpr inside)]
  · rw [if_neg (by simpa using inside), BitVec.getLsbD_of_ge x n (Nat.le_of_not_lt inside)]
    rfl

theorem toPolynomial_zero : toPolynomial (0 : BitVec w) = 0 := by
  ext n
  simp [coeff_toPolynomial]

theorem degree_toPolynomial_lt (x : BitVec w) : (toPolynomial x).degree < w := by
  rw [degree_lt_iff_coeff_zero]
  intro n above
  rw [coeff_toPolynomial, BitVec.getLsbD_of_ge x n above]
  rfl

theorem toPolynomial_xor (x y : BitVec w) : toPolynomial (x ^^^ y) = toPolynomial x + toPolynomial y := by
  ext n
  rw [coeff_add, coeff_toPolynomial, coeff_toPolynomial, coeff_toPolynomial, BitVec.getLsbD_xor]
  cases x.getLsbD n <;> cases y.getLsbD n <;> decide

/-- A word placed at the top of a wider one. -/
theorem toPolynomial_shiftLeft_setWidth {n : Nat} (x : BitVec n) (fits : n ≤ w) :
    toPolynomial (x.setWidth w <<< (w - n)) = toPolynomial x * X ^ (w - n) := by
  ext i
  rw [coeff_toPolynomial, coeff_mul_X_pow', BitVec.getLsbD_shiftLeft, BitVec.getLsbD_setWidth,
    coeff_toPolynomial]
  by_cases low : i < w - n
  · rw [if_neg (Nat.not_le.mpr low)]
    simp [low]
  · rw [if_pos (Nat.le_of_not_lt low)]
    by_cases inside : i < w
    · have below : i - (w - n) < w := by omega
      simp [low, inside, below]
    · have above : n ≤ i - (w - n) := by omega
      simp [inside, BitVec.getLsbD_of_ge x _ above]

/-- Shifting by one place multiplies by `X`, but for the bit that is shifted out. -/
theorem X_mul_toPolynomial (x : BitVec w) :
    X * toPolynomial x = toPolynomial (x <<< 1) + if x.msb then X ^ w else 0 := by
  have top := BitVec.msb_eq_getLsbD_last x
  ext n
  rw [coeff_add, coeff_toPolynomial, BitVec.getLsbD_shiftLeft]
  cases n with
  | zero =>
      rw [coeff_X_mul_zero]
      cases w with
      | zero => simp [BitVec.msb_eq_getLsbD_last, BitVec.getLsbD_of_ge]
      | succ w => cases x.msb <;> simp [coeff_X_pow]
  | succ n =>
      rw [coeff_X_mul, coeff_toPolynomial]
      rcases Nat.lt_trichotomy (n + 1) w with inside | last | above
      · have other : n + 1 ≠ w := by omega
        cases x.msb <;> simp [inside, coeff_X_pow, other]
      · have same : x.getLsbD n = x.msb := by rw [top, show w - 1 = n by omega]
        rw [same]
        cases x.msb <;> simp [last, coeff_X_pow]
      · have beyond : x.getLsbD n = false := BitVec.getLsbD_of_ge x n (by omega)
        have other : n + 1 ≠ w := by omega
        cases x.msb <;> simp [beyond, coeff_X_pow, other]

theorem monic_generatorPoly (g : BitVec w) : (generatorPoly g).Monic :=
  monic_X_pow_add (degree_toPolynomial_lt g)

theorem degree_generatorPoly (g : BitVec w) : (generatorPoly g).degree = w := by
  rw [generatorPoly, degree_add_eq_left_of_degree_lt, degree_X_pow]
  rw [degree_X_pow]
  exact degree_toPolynomial_lt g

theorem toPolynomial_crcStep (g x : BitVec w) :
    toPolynomial (crcStep g x) = X * toPolynomial x %ₘ generatorPoly g := by
  -- what is subtracted: the generator where a bit was shifted out
  have division : toPolynomial (crcStep g x) + generatorPoly g * (if x.msb then 1 else 0) =
      X * toPolynomial x := by
    rw [X_mul_toPolynomial, crcStep]
    cases x.msb with
    | false => simp
    | true =>
        simp only [if_true, toPolynomial_xor, generatorPoly, mul_one]
        have twice : toPolynomial g + toPolynomial g = 0 := by
          rw [← toPolynomial_xor, BitVec.xor_self]
          exact toPolynomial_zero
        linear_combination twice
  have small : (toPolynomial (crcStep g x)).degree < (generatorPoly g).degree := by
    rw [degree_generatorPoly]
    exact degree_toPolynomial_lt _
  exact (div_modByMonic_unique _ _ (monic_generatorPoly g) ⟨division, small⟩).2.symm

theorem toPolynomial_modByMonic (g x : BitVec w) : toPolynomial x %ₘ generatorPoly g = toPolynomial x := by
  apply (modByMonic_eq_self_iff (monic_generatorPoly g)).mpr
  rw [degree_generatorPoly]
  exact degree_toPolynomial_lt x

/-- A remainder may be taken before multiplying. -/
theorem mul_modByMonic_right (p q g : (ZMod 2)[X]) : p * (q %ₘ g) %ₘ g = p * q %ₘ g := by
  by_cases monic : g.Monic
  · apply modByMonic_eq_of_dvd_sub monic
    rw [← mul_sub]
    exact Dvd.dvd.mul_left (dvd_modByMonic_sub q g) p
  · rw [modByMonic_eq_of_not_monic q monic]

theorem toPolynomial_crcSteps (g : BitVec w) (n : Nat) (x : BitVec w) :
    toPolynomial (crcSteps g n x) = X ^ n * toPolynomial x %ₘ generatorPoly g := by
  induction n generalizing x with
  | zero => rw [crcSteps, pow_zero, one_mul, toPolynomial_modByMonic]
  | succ n ih =>
      rw [crcSteps, ih, toPolynomial_crcStep, mul_modByMonic_right, pow_succ, mul_assoc]

/-- After each byte the register holds the remainder of what has been read, moved up by `w`. -/
theorem toPolynomial_foldl_crcByte (g : BitVec w) (wide : 8 ≤ w) (bytes : List UInt8) (x : BitVec w)
    (message : (ZMod 2)[X]) (held : toPolynomial x = message * X ^ w %ₘ generatorPoly g) :
    toPolynomial (bytes.foldl (crcByte g) x) =
      bytes.foldl (fun message byte => message * X ^ 8 + toPolynomial byte.toBitVec) message * X ^ w
        %ₘ generatorPoly g := by
  induction bytes generalizing x message with
  | nil => exact held
  | cons byte bytes ih =>
      apply ih
      have moved : X ^ 8 * (toPolynomial byte.toBitVec * X ^ (w - 8)) =
          toPolynomial byte.toBitVec * X ^ w := by
        have places : w - 8 + 8 = w := Nat.sub_add_cancel wide
        rw [mul_left_comm, ← pow_add, Nat.add_comm, places]
      rw [crcByte, toPolynomial_crcSteps, toPolynomial_xor, toPolynomial_shiftLeft_setWidth _ wide, held]
      rw [mul_add, moved, add_modByMonic, mul_modByMonic_right, ← add_modByMonic]
      congr 1
      ring

/-- The checksum is the remainder of the message by the generator. -/
theorem toPolynomial_crc (g : BitVec w) (wide : 8 ≤ w) (bytes : List UInt8) :
    toPolynomial (crc g bytes) = messagePoly bytes * X ^ w %ₘ generatorPoly g := by
  apply toPolynomial_foldl_crcByte g wide
  rw [toPolynomial_zero, zero_mul, zero_modByMonic]

end

end Lumepeer.Lib
