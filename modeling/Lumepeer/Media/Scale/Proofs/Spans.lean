import Lumepeer.Media.Scale
import Mathlib.Algebra.Order.Group.Nat
import Mathlib.Tactic.Ring

/-!
# The spans of an axis and the means of its boxes

A point `p` of the source axis lies in one span, the one numbered
`((p + 1) * target - 1) / source`. No span is longer than the ratio of the axes
rounded up, and the last one is exactly as long. The reciprocal a small box is
divided with gives the quotient for every sum a box of that size can have.
-/

namespace Lumepeer.Media
open Lumepeer.Lib

/-- The ratio of the axes, rounded up: the samples of the longest span. -/
def longest (source target : Nat) : Nat := (source + target - 1) / target

section
variable {source target : Nat}

/-- On an axis that is not enlarged no span needs to be made longer. -/
theorem span_eq (pos : 0 < target) (reduced : target ≤ source) (i : Nat) :
    span source target i = (i * source / target, (i + 1) * source / target) := by
  have grows : i * source / target + 1 ≤ (i + 1) * source / target := by
    rw [← Nat.add_div_right _ pos, Nat.succ_mul]
    exact Nat.div_le_div_right (by omega)
  unfold span
  simp only [Nat.max_eq_left grows]

theorem span_lt (i : Nat) : (span source target i).1 < (span source target i).2 := by
  unfold span
  simp only
  omega

theorem span_le (pos : 0 < target) (reduced : target ≤ source) {i : Nat} (inside : i < target) :
    (span source target i).2 ≤ source := by
  rw [span_eq pos reduced]
  apply Nat.div_le_of_le_mul
  exact Nat.mul_le_mul_right source inside

/-- Every span is a piece of its axis. -/
theorem within_of_mem_spans (pos : 0 < target) (reduced : target ≤ source) {cell : Nat × Nat}
    (member : cell ∈ spans source target) : cell.1 < cell.2 ∧ cell.2 ≤ source := by
  obtain ⟨i, inside, rfl⟩ := List.mem_map.mp member
  exact ⟨span_lt i, span_le pos reduced (List.mem_range.mp inside)⟩

/-- The one span a point lies in. -/
theorem mem_span_iff (pos : 0 < target) (reduced : target ≤ source) (p i : Nat) :
    (span source target i).1 ≤ p ∧ p < (span source target i).2 ↔
      i = ((p + 1) * target - 1) / source := by
  have sourcePos : 0 < source := Nat.lt_of_lt_of_le pos reduced
  have positive : 0 < (p + 1) * target := Nat.mul_pos p.succ_pos pos
  have first : i * source / target ≤ p ↔ i ≤ ((p + 1) * target - 1) / source := by
    rw [Nat.le_div_iff_mul_le sourcePos, Nat.le_sub_one_iff_lt positive, ← Nat.lt_succ_iff,
      Nat.div_lt_iff_lt_mul pos]
  have last : p < (i + 1) * source / target ↔ ((p + 1) * target - 1) / source < i + 1 := by
    rw [Nat.div_lt_iff_lt_mul sourcePos, Nat.sub_lt_iff_lt_add' positive, Nat.lt_one_add_iff,
      ← Nat.succ_le_iff, Nat.le_div_iff_mul_le pos]
  rw [span_eq pos reduced, first, last]
  omega

theorem length_span_le (pos : 0 < target) (reduced : target ≤ source) (i : Nat) :
    (span source target i).2 - (span source target i).1 ≤ longest source target := by
  rw [span_eq pos reduced, Nat.sub_le_iff_le_add]
  unfold longest
  have split := Nat.div_add_mod (i * source) target
  have small := Nat.mod_lt (i * source) pos
  calc (i + 1) * source / target
      ≤ (source + target - 1 + target * (i * source / target)) / target := by
        apply Nat.div_le_div_right
        rw [Nat.succ_mul]
        omega
    _ = (source + target - 1) / target + i * source / target := by
        rw [Nat.add_mul_div_left _ _ pos]

theorem length_last_span (pos : 0 < target) (reduced : target ≤ source) :
    (span source target (target - 1)).2 - (span source target (target - 1)).1 =
      longest source target := by
  rw [span_eq pos reduced, Nat.sub_add_cancel pos, Nat.mul_div_cancel_left _ pos, Nat.sub_mul,
    Nat.one_mul]
  have cut := Nat.mul_sub_div (source - 1) target source (by
    have := Nat.mul_le_mul_right source pos
    omega)
  have ratio : longest source target = (source - 1) / target + 1 := by
    rw [longest, ← Nat.add_div_right _ pos]
    congr 1
    omega
  have within : (source - 1) / target < source :=
    Nat.lt_of_le_of_lt (Nat.div_le_self _ _) (by omega)
  rw [Nat.sub_add_cancel (by omega)] at cut
  rw [cut, ratio]
  omega

end

/-- The spans of an axis cut it up, and no product of theirs overflows a `usize`. -/
structure Partition (source target : Nat) : Prop where
  inside : ∀ cell ∈ spans source target, cell.1 < cell.2 ∧ cell.2 ≤ source
  covers : ∀ p < source, ∃! i : Nat, ∃ cell : Nat × Nat, (spans source target)[i]? = some cell ∧
    cell.1 ≤ p ∧ p < cell.2
  small : ∀ i < target, (i + 1) * source < 2 ^ 64

theorem spans_partition {source target : Nat} (pos : 0 < target) (reduced : target ≤ source)
    (word : source < 2 ^ 32) : Partition source target where
  inside := by
    intro cell member
    exact within_of_mem_spans pos reduced member
  covers := by
    intro p within
    have sourcePos : 0 < source := Nat.lt_of_lt_of_le pos reduced
    have inside : ((p + 1) * target - 1) / source < target := by
      rw [Nat.div_lt_iff_lt_mul sourcePos]
      have below : (p + 1) * target ≤ target * source := by
        rw [Nat.mul_comm target]
        exact Nat.mul_le_mul_right target within
      have positive : 0 < (p + 1) * target := Nat.mul_pos p.succ_pos pos
      omega
    refine ⟨((p + 1) * target - 1) / source, ⟨span source target _, ?_,
      (mem_span_iff pos reduced p _).mpr rfl⟩, ?_⟩
    · simp [spans, inside]
    · rintro i ⟨cell, found, bounds⟩
      rw [spans, List.getElem?_map, Option.map_eq_some_iff] at found
      obtain ⟨j, isIndex, rfl⟩ := found
      obtain ⟨within, same⟩ := List.getElem?_eq_some_iff.mp isIndex
      rw [List.getElem_range] at same
      subst same
      exact (mem_span_iff pos reduced p i).mp bounds
  small := by
    intro i inside
    calc (i + 1) * source ≤ 2 ^ 32 * source := Nat.mul_le_mul_right source (by omega)
      _ < 2 ^ 32 * 2 ^ 32 := Nat.mul_lt_mul_of_pos_left word (by omega)
      _ = 2 ^ 64 := by rw [← Nat.pow_add]

/-! ## Means -/

/-- Multiplying with the reciprocal rounded up divides, for sums under `2 ^ 16`. -/
theorem reciprocal_exact {sum count : Nat} (pos : 0 < count) (small : count ≤ 257)
    (short : sum < 2 ^ 16) : sum * ((2 ^ 32 + count - 1) / count) / 2 ^ 32 = sum / count := by
  have low : 2 ^ 32 ≤ (2 ^ 32 + count - 1) / count * count := by
    have := Nat.div_add_mod (2 ^ 32 + count - 1) count
    have := Nat.mod_lt (2 ^ 32 + count - 1) pos
    rw [Nat.mul_comm]
    omega
  have high : (2 ^ 32 + count - 1) / count * count ≤ 2 ^ 32 + count - 1 := Nat.div_mul_le_self _ _
  generalize (2 ^ 32 + count - 1) / count = reciprocal at low high
  apply Nat.div_eq_of_lt_le
  · calc sum / count * 2 ^ 32
        ≤ sum / count * (reciprocal * count) := Nat.mul_le_mul_left _ low
      _ = sum / count * count * reciprocal := by ring
      _ ≤ sum * reciprocal := Nat.mul_le_mul_right _ (Nat.div_mul_le_self _ _)
  · apply Nat.lt_of_mul_lt_mul_right (a := count)
    have excess : sum * (count - 1) < 2 ^ 32 :=
      calc sum * (count - 1) ≤ 2 ^ 16 * 256 := Nat.mul_le_mul (by omega) (by omega)
        _ < 2 ^ 32 := by omega
    have next : sum + 1 ≤ (sum / count + 1) * count := by
      have := Nat.div_add_mod sum count
      have := Nat.mod_lt sum pos
      rw [Nat.succ_mul, Nat.mul_comm]
      omega
    calc sum * reciprocal * count
        = sum * (reciprocal * count) := Nat.mul_assoc _ _ _
      _ ≤ sum * (2 ^ 32 + (count - 1)) := Nat.mul_le_mul_left _ (by omega)
      _ = sum * 2 ^ 32 + sum * (count - 1) := Nat.mul_add _ _ _
      _ < (sum + 1) * 2 ^ 32 := by
          rw [Nat.succ_mul]
          omega
      _ ≤ (sum / count + 1) * count * 2 ^ 32 := Nat.mul_le_mul_right _ next
      _ = (sum / count + 1) * 2 ^ 32 * count := by ring

/-- `u8::try_from(mean).unwrap_or(u8::MAX)` of a mean that is a byte. -/
theorem toNat_byte {mean : UInt64} {n : Nat} (isMean : mean.toNat = n) (byte : n < 256) :
    (if mean < 256 then mean.toUInt8 else 255).toNat = n := by
  have below : mean < 256 := by
    rw [UInt64.lt_iff_toNat_lt, isMean]
    exact byte
  rw [if_pos below, UInt64.toNat_toUInt8, isMean, Nat.mod_eq_of_lt byte]

/-- What a box of `count` bytes that add up to `sum` is divided to. -/
theorem divide_new {sum count : Nat} (pos : 0 < count) (bounded : sum ≤ 255 * count)
    (small : 255 * count < 2 ^ 32) :
    ((Divisor.new (UInt32.ofNat count)).divide (UInt32.ofNat sum)).toNat = sum / count := by
  have word : count < 2 ^ 32 := by omega
  have sumWord : sum < 2 ^ 32 := by omega
  have mean : sum / count < 256 := by
    rw [Nat.div_lt_iff_lt_mul pos]
    omega
  have isCount : (max (UInt32.ofNat count) 1).toNat = count := by
    rw [toNat_max32, UInt32.toNat_ofNat_of_lt' word]
    exact Nat.max_eq_left pos
  unfold Divisor.new
  simp only [isCount]
  by_cases magic : max (UInt32.ofNat count) 1 ≤ magicMaxCount
  · have few : count ≤ 257 := by
      have below := UInt32.le_iff_toNat_le.mp magic
      rw [isCount] at below
      exact below
    have short : sum < 2 ^ 16 := by omega
    have bound : (2 ^ 32 + count - 1) / count ≤ 2 ^ 32 := by
      apply Nat.div_le_of_le_mul
      have := Nat.mul_le_mul (Nat.sub_le count 1) (by omega : 1 ≤ 2 ^ 32)
      rw [Nat.sub_mul] at this
      omega
    have noWrap : sum * ((2 ^ 32 + count - 1) / count) < 2 ^ 64 :=
      calc sum * ((2 ^ 32 + count - 1) / count) ≤ sum * 2 ^ 32 := Nat.mul_le_mul_left _ bound
        _ < 2 ^ 32 * 2 ^ 32 := Nat.mul_lt_mul_of_pos_right sumWord (by omega)
    have quotient : (((UInt32.ofNat sum).toUInt64 *
        UInt64.ofNat ((2 ^ 32 + count - 1) / count)) >>> 32).toNat = sum / count := by
      rw [UInt64.toNat_shiftRight, UInt64.toNat_mul, UInt32.toNat_toUInt64,
        UInt32.toNat_ofNat_of_lt' sumWord, UInt64.toNat_ofNat_of_lt' (Nat.lt_of_le_of_lt bound (by decide)),
        Nat.mod_eq_of_lt noWrap, Nat.shiftRight_eq_div_pow]
      exact reciprocal_exact pos few short
    rw [if_pos magic, Divisor.divide, toNat_byte quotient mean]
  · have quotient : (UInt32.ofNat sum / max (UInt32.ofNat count) 1).toUInt64.toNat = sum / count := by
      rw [UInt32.toNat_toUInt64, UInt32.toNat_div, isCount, UInt32.toNat_ofNat_of_lt' sumWord]
    rw [if_neg magic, Divisor.divide, toNat_byte quotient mean]

end Lumepeer.Media
