import Lumepeer.Lib.Chunks
import Mathlib.Algebra.Group.Nat.Defs
import Mathlib.Tactic.Ring

/-!
# Bit strings, most significant bit first

`toBits n x` is the `n` low bits of a number and `ofBits` its inverse; a byte
string read as bits is `bytesToBits`, and bits become bytes again in pieces of
eight. `expGolomb` is the code of numbers of any size.
-/

namespace Lumepeer.Lib

/-- The `n` low bits of `x`. -/
def toBits : Nat → Nat → List Bool
  | 0, _ => []
  | n + 1, x => x.testBit n :: toBits n x

/-- The number a list of bits spells. -/
def ofBits : List Bool → Nat
  | [] => 0
  | b :: bs => 2 ^ bs.length * b.toNat + ofBits bs

@[simp] theorem length_toBits (n x : Nat) : (toBits n x).length = n := by
  induction n with
  | zero => rfl
  | succ n ih => simp [toBits, ih]

theorem getElem?_toBits (n x i : Nat) :
    (toBits n x)[i]? = if i < n then some (x.testBit (n - 1 - i)) else none := by
  induction n generalizing i with
  | zero => rfl
  | succ n ih =>
      cases i with
      | zero => simp [toBits]
      | succ i =>
          have index : n + 1 - 1 - (i + 1) = n - 1 - i := by omega
          rw [toBits, List.getElem?_cons_succ, ih, index]
          simp only [Nat.add_lt_add_iff_right]

theorem ofBits_lt (bs : List Bool) : ofBits bs < 2 ^ bs.length := by
  induction bs with
  | nil => simp [ofBits]
  | cons b bs ih =>
      have small : b.toNat ≤ 1 := Bool.toNat_le b
      have scaled : 2 ^ bs.length * b.toNat ≤ 2 ^ bs.length * 1 := Nat.mul_le_mul_left _ small
      simp only [ofBits, List.length_cons, pow_succ]
      omega

theorem ofBits_toBits (n x : Nat) : ofBits (toBits n x) = x % 2 ^ n := by
  induction n with
  | zero => simp [toBits, ofBits, Nat.mod_one]
  | succ n ih =>
      rw [toBits, ofBits, length_toBits, ih, pow_succ, Nat.mod_mul, Nat.toNat_testBit]
      omega

/-- What lies above the low `n` bits does not reach them. -/
theorem toBits_add_mul (n k x : Nat) : toBits n (2 ^ n * k + x) = toBits n x := by
  induction n generalizing k with
  | zero => rfl
  | succ n ih =>
      have regroup : 2 ^ (n + 1) * k + x = 2 ^ n * (2 * k) + x := by ring
      rw [toBits, toBits, regroup, ih, ← regroup]
      congr 1
      rw [Nat.testBit_eq_decide_div_mod_eq, Nat.testBit_eq_decide_div_mod_eq, regroup,
        Nat.mul_add_div (Nat.two_pow_pos n), Nat.mul_add_mod]

theorem toBits_ofBits (bs : List Bool) : toBits bs.length (ofBits bs) = bs := by
  induction bs with
  | nil => rfl
  | cons b bs ih =>
      rw [List.length_cons, toBits, ofBits, toBits_add_mul, ih]
      congr 1
      rw [Nat.testBit_eq_decide_div_mod_eq, Nat.mul_add_div (Nat.two_pow_pos _),
        Nat.div_eq_of_lt (ofBits_lt bs)]
      cases b <;> rfl

/-- The exponential Golomb code of a number: the bits of its successor, behind a
zero for each of them but the first. -/
def expGolomb (n : Nat) : List Bool :=
  List.replicate (n + 1).log2 false ++ toBits ((n + 1).log2 + 1) (n + 1)

/-- The first bit that is set ends the zeros. -/
theorem expGolomb_eq (n : Nat) :
    expGolomb n = List.replicate (n + 1).log2 false ++ [true] ++ toBits (n + 1).log2 (n + 1) := by
  rw [expGolomb, toBits, Nat.testBit_log2 (Nat.succ_ne_zero n), List.append_assoc]
  rfl

/-- The bits behind the first that is set. -/
theorem ofBits_expGolomb (n : Nat) :
    2 ^ (n + 1).log2 + ofBits (toBits (n + 1).log2 (n + 1)) = n + 1 := by
  have least : 2 ^ (n + 1).log2 ≤ n + 1 := Nat.log2_self_le (Nat.succ_ne_zero n)
  have below := @Nat.lt_log2_self (n + 1)
  rw [pow_succ] at below
  rw [ofBits_toBits, Nat.mod_eq_sub_mod least, Nat.mod_eq_of_lt (by omega)]
  omega

/-- Zeros, a bit that is set and as many bits as there were zeros are a code. -/
theorem expGolomb_of_word (word : List Bool) :
    expGolomb (2 ^ word.length + ofBits word - 1) =
      List.replicate word.length false ++ [true] ++ word := by
  have positive : 0 < 2 ^ word.length := Nat.two_pow_pos word.length
  have below := ofBits_lt word
  have next : 2 ^ word.length + ofBits word - 1 + 1 = 2 ^ word.length * 1 + ofBits word := by omega
  have length : (2 ^ word.length * 1 + ofBits word).log2 = word.length := by
    rw [Nat.log2_eq_iff (by omega), pow_succ]
    omega
  rw [expGolomb_eq, next, length, toBits_add_mul, toBits_ofBits]

/-- The bits of a byte string. -/
def bytesToBits (bytes : List UInt8) : List Bool := bytes.flatMap fun b => toBits 8 b.toNat

/-- The first `k` bytes of a bit string. -/
def bitsToBytes (k : Nat) (bits : List Bool) : List UInt8 :=
  (groups 8 k bits).map fun group => UInt8.ofNat (ofBits group)

@[simp] theorem length_bytesToBits (bytes : List UInt8) :
    (bytesToBits bytes).length = 8 * bytes.length := by
  induction bytes with
  | nil => rfl
  | cons b bytes ih =>
      rw [bytesToBits, List.flatMap_cons, List.length_append, length_toBits, List.length_cons,
        ← bytesToBits, ih]
      ring

@[simp] theorem bytesToBits_append (bytes more : List UInt8) :
    bytesToBits (bytes ++ more) = bytesToBits bytes ++ bytesToBits more :=
  List.flatMap_append

theorem getElem?_bytesToBits (bytes : List UInt8) (i : Nat) :
    (bytesToBits bytes)[i]? = bytes[i / 8]?.map fun b => b.toNat.testBit (7 - i % 8) := by
  induction bytes generalizing i with
  | nil => rfl
  | cons b bytes ih =>
      rw [bytesToBits, List.flatMap_cons, ← bytesToBits]
      by_cases first : i < 8
      · rw [List.getElem?_append_left (by simpa using first), getElem?_toBits, if_pos first,
          Nat.div_eq_of_lt first, Nat.mod_eq_of_lt first]
        rfl
      · have next : i / 8 = (i - 8) / 8 + 1 := by omega
        have same : (i - 8) % 8 = i % 8 := by omega
        rw [List.getElem?_append_right (by simp; omega), length_toBits, ih, next, same,
          List.getElem?_cons_succ]

/-- A bit of a byte as a shift reads it. -/
theorem shiftRight_and_one (b : UInt8) {k : Nat} (small : k < 8) :
    ((b >>> UInt8.ofNat k) &&& 1 == 1) = b.toNat.testBit k := by
  have shift : (UInt8.ofNat k).toNat % 8 = k := by
    rw [UInt8.toNat_ofNat_of_lt' (lt_trans small (by decide)), Nat.mod_eq_of_lt small]
  have low : ((b >>> UInt8.ofNat k) &&& 1).toNat = b.toNat >>> k % 2 := by
    rw [UInt8.toNat_and, UInt8.toNat_shiftRight, shift, UInt8.toNat_one, Nat.and_one_is_mod]
  rw [Nat.testBit_eq_decide_div_mod_eq, ← Nat.shiftRight_eq_div_pow, ← low, Bool.eq_iff_iff,
    beq_iff_eq, decide_eq_true_iff, ← UInt8.toNat_inj, UInt8.toNat_one]

theorem bitsToBytes_bytesToBits (bytes : List UInt8) (rest : List Bool) :
    bitsToBytes bytes.length (bytesToBits bytes ++ rest) = bytes := by
  have same (b : UInt8) : UInt8.ofNat (ofBits (toBits 8 b.toNat)) = b := by
    have small : b.toNat < 2 ^ 8 := b.toNat_lt
    rw [ofBits_toBits, Nat.mod_eq_of_lt small, UInt8.ofNat_toNat]
  have length (b : UInt8) : (toBits 8 b.toNat).length = 8 := length_toBits 8 b.toNat
  rw [bitsToBytes, bytesToBits, groups_flatMap length, List.map_map]
  calc bytes.map ((fun group => UInt8.ofNat (ofBits group)) ∘ fun b => toBits 8 b.toNat)
      = bytes.map id := List.map_congr_left fun b _ => same b
    _ = bytes := List.map_id bytes

end Lumepeer.Lib
