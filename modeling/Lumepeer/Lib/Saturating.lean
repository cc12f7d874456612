import Mathlib.Algebra.Group.Nat.Defs

/-!
# Saturating and checked arithmetic on machine words

Rust's `saturating_add`, `saturating_sub` and `saturating_mul`: the exact result
where it fits the word and the nearest bound of the word where it does not; and
`checked_add`, which has no result where it does not fit. Every operation is
read through `toNat`, and so are `max` and `min`.
-/

namespace Lumepeer.Lib

/-- `u8::saturating_add`. -/
def saturatingAdd8 (a b : UInt8) : UInt8 := UInt8.ofNat (min (a.toNat + b.toNat) (2 ^ 8 - 1))

/-- `u8::saturating_sub`. -/
def saturatingSub8 (a b : UInt8) : UInt8 := UInt8.ofNat (a.toNat - b.toNat)

/-- `u32::saturating_add`. -/
def saturatingAdd32 (a b : UInt32) : UInt32 :=
  UInt32.ofNat (min (a.toNat + b.toNat) (2 ^ 32 - 1))

/-- `u32::saturating_sub`. -/
def saturatingSub32 (a b : UInt32) : UInt32 := UInt32.ofNat (a.toNat - b.toNat)

/-- `u32::saturating_mul`. -/
def saturatingMul32 (a b : UInt32) : UInt32 :=
  UInt32.ofNat (min (a.toNat * b.toNat) (2 ^ 32 - 1))

/-- `u64::saturating_add`. -/
def saturatingAdd64 (a b : UInt64) : UInt64 :=
  UInt64.ofNat (min (a.toNat + b.toNat) (2 ^ 64 - 1))

/-- `u64::saturating_sub`. -/
def saturatingSub64 (a b : UInt64) : UInt64 := UInt64.ofNat (a.toNat - b.toNat)

/-- `u64::saturating_mul`. -/
def saturatingMul64 (a b : UInt64) : UInt64 :=
  UInt64.ofNat (min (a.toNat * b.toNat) (2 ^ 64 - 1))

/-- `u64::checked_add`. -/
def checkedAdd64 (a b : UInt64) : Option UInt64 :=
  if a.toNat + b.toNat < 2 ^ 64 then some (UInt64.ofNat (a.toNat + b.toNat)) else none

/-- `u32::try_from`. -/
def tryFrom32 (n : Nat) : Option UInt32 := if n < 2 ^ 32 then some (UInt32.ofNat n) else none

/-- `u32` addition that overflows where the sum does not fit. -/
def checkedAdd32 (a b : UInt32) : Option UInt32 := tryFrom32 (a.toNat + b.toNat)

/-- `u32::checked_sub`. -/
def checkedSub32 (a b : UInt32) : Option UInt32 := if b ≤ a then some (a - b) else none

/-- An overflow is found at the end or on the way. -/
theorem checkedAdd32_tryFrom32 (n : Nat) (b : UInt32) :
    ((tryFrom32 n).bind fun a => checkedAdd32 a b) = tryFrom32 (n + b.toNat) := by
  by_cases fits : n < 2 ^ 32
  · rw [tryFrom32, if_pos fits, Option.bind_some, checkedAdd32, UInt32.toNat_ofNat_of_lt' fits]
  · rw [tryFrom32, if_neg fits, tryFrom32, if_neg (by omega)]
    rfl

theorem toNat_of_checkedAdd64 {a b sum : UInt64} (fits : checkedAdd64 a b = some sum) :
    sum.toNat = a.toNat + b.toNat := by
  unfold checkedAdd64 at fits
  split at fits
  · rename_i below
    cases fits
    exact UInt64.toNat_ofNat_of_lt' below
  · cases fits

@[simp] theorem toNat_saturatingAdd8 (a b : UInt8) :
    (saturatingAdd8 a b).toNat = min (a.toNat + b.toNat) (2 ^ 8 - 1) := by
  rw [saturatingAdd8, UInt8.toNat_ofNat_of_lt']
  exact Nat.lt_of_le_of_lt (Nat.min_le_right _ _) (by decide)

@[simp] theorem toNat_saturatingSub8 (a b : UInt8) :
    (saturatingSub8 a b).toNat = a.toNat - b.toNat := by
  rw [saturatingSub8, UInt8.toNat_ofNat_of_lt']
  exact Nat.lt_of_le_of_lt (Nat.sub_le _ _) a.toNat_lt

@[simp] theorem toNat_saturatingAdd32 (a b : UInt32) :
    (saturatingAdd32 a b).toNat = min (a.toNat + b.toNat) (2 ^ 32 - 1) := by
  rw [saturatingAdd32, UInt32.toNat_ofNat_of_lt']
  exact Nat.lt_of_le_of_lt (Nat.min_le_right _ _) (by decide)

@[simp] theorem toNat_saturatingSub32 (a b : UInt32) :
    (saturatingSub32 a b).toNat = a.toNat - b.toNat := by
  rw [saturatingSub32, UInt32.toNat_ofNat_of_lt']
  exact Nat.lt_of_le_of_lt (Nat.sub_le _ _) a.toNat_lt

@[simp] theorem toNat_saturatingMul32 (a b : UInt32) :
    (saturatingMul32 a b).toNat = min (a.toNat * b.toNat) (2 ^ 32 - 1) := by
  rw [saturatingMul32, UInt32.toNat_ofNat_of_lt']
  exact Nat.lt_of_le_of_lt (Nat.min_le_right _ _) (by decide)

@[simp] theorem toNat_saturatingAdd64 (a b : UInt64) :
    (saturatingAdd64 a b).toNat = min (a.toNat + b.toNat) (2 ^ 64 - 1) := by
  rw [saturatingAdd64, UInt64.toNat_ofNat_of_lt']
  exact Nat.lt_of_le_of_lt (Nat.min_le_right _ _) (by decide)

@[simp] theorem toNat_saturatingSub64 (a b : UInt64) :
    (saturatingSub64 a b).toNat = a.toNat - b.toNat := by
  rw [saturatingSub64, UInt64.toNat_ofNat_of_lt']
  exact Nat.lt_of_le_of_lt (Nat.sub_le _ _) a.toNat_lt

@[simp] theorem toNat_saturatingMul64 (a b : UInt64) :
    (saturatingMul64 a b).toNat = min (a.toNat * b.toNat) (2 ^ 64 - 1) := by
  rw [saturatingMul64, UInt64.toNat_ofNat_of_lt']
  exact Nat.lt_of_le_of_lt (Nat.min_le_right _ _) (by decide)

theorem toNat_max64 (a b : UInt64) : (max a b).toNat = max a.toNat b.toNat := by
  show (if a ≤ b then b else a).toNat = _
  by_cases below : a ≤ b
  · rw [if_pos below]
    exact (Nat.max_eq_right (UInt64.le_iff_toNat_le.mp below)).symm
  · rw [if_neg below]
    have above : b ≤ a := UInt64.le_of_lt (UInt64.not_le.mp below)
    exact (Nat.max_eq_left (UInt64.le_iff_toNat_le.mp above)).symm

theorem toNat_max32 (a b : UInt32) : (max a b).toNat = max a.toNat b.toNat := by
  show (if a ≤ b then b else a).toNat = _
  by_cases below : a ≤ b
  · rw [if_pos below]
    exact (Nat.max_eq_right (UInt32.le_iff_toNat_le.mp below)).symm
  · rw [if_neg below]
    have above : b ≤ a := UInt32.le_of_lt (UInt32.not_le.mp below)
    exact (Nat.max_eq_left (UInt32.le_iff_toNat_le.mp above)).symm

theorem toNat_max8 (a b : UInt8) : (max a b).toNat = max a.toNat b.toNat := by
  show (if a ≤ b then b else a).toNat = _
  by_cases below : a ≤ b
  · rw [if_pos below]
    exact (Nat.max_eq_right (UInt8.le_iff_toNat_le.mp below)).symm
  · rw [if_neg below]
    have above : b ≤ a := UInt8.le_of_lt (UInt8.not_le.mp below)
    exact (Nat.max_eq_left (UInt8.le_iff_toNat_le.mp above)).symm

theorem toNat_min8 (a b : UInt8) : (min a b).toNat = min a.toNat b.toNat := by
  show (if a ≤ b then a else b).toNat = _
  by_cases below : a ≤ b
  · rw [if_pos below]
    exact (Nat.min_eq_left (UInt8.le_iff_toNat_le.mp below)).symm
  · rw [if_neg below]
    have above : b ≤ a := UInt8.le_of_lt (UInt8.not_le.mp below)
    exact (Nat.min_eq_right (UInt8.le_iff_toNat_le.mp above)).symm

theorem toNat_min32 (a b : UInt32) : (min a b).toNat = min a.toNat b.toNat := by
  show (if a ≤ b then a else b).toNat = _
  by_cases below : a ≤ b
  · rw [if_pos below]
    exact (Nat.min_eq_left (UInt32.le_iff_toNat_le.mp below)).symm
  · rw [if_neg below]
    have above : b ≤ a := UInt32.le_of_lt (UInt32.not_le.mp below)
    exact (Nat.min_eq_right (UInt32.le_iff_toNat_le.mp above)).symm

theorem toNat_min64 (a b : UInt64) : (min a b).toNat = min a.toNat b.toNat := by
  show (if a ≤ b then a else b).toNat = _
  by_cases below : a ≤ b
  · rw [if_pos below]
    exact (Nat.min_eq_left (UInt64.le_iff_toNat_le.mp below)).symm
  · rw [if_neg below]
    have above : b ≤ a := UInt64.le_of_lt (UInt64.not_le.mp below)
    exact (Nat.min_eq_right (UInt64.le_iff_toNat_le.mp above)).symm

end Lumepeer.Lib
