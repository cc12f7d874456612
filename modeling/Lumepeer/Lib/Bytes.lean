import Mathlib.Data.Vector.Basic
import Mathlib.Tactic.Ring

/-!
# Fixed-width byte strings and words in them

`Bytes n` is a byte array of exactly `n` bytes, the length carried by the type.
`splitBytes` takes one off the front of a byte string. `beEncode` and `beDecode`
are the big-endian encoding of a number in `n` bytes and its inverse; the
little-endian encoding of a word is the same bytes in the other order.
-/

namespace Lumepeer.Lib

/-- A byte array of `n` bytes. -/
abbrev Bytes (n : Nat) := List.Vector UInt8 n

/-- The first `n` bytes and the rest, if there are as many. -/
def splitBytes (n : Nat) (bytes : List UInt8) : Option (Bytes n × List UInt8) :=
  if enough : n ≤ bytes.length then some (⟨bytes.take n, by simp [enough]⟩, bytes.drop n) else none

theorem splitBytes_append {n : Nat} (first : Bytes n) (rest : List UInt8) :
    splitBytes n (first.toList ++ rest) = some (first, rest) := by
  have enough : n ≤ (first.toList ++ rest).length := by simp
  rw [splitBytes, dif_pos enough]
  refine congrArg some (Prod.ext (Subtype.ext ?_) ?_)
  · exact List.take_left' first.toList_length
  · exact List.drop_left' first.toList_length

theorem splitBytes_of_length {n : Nat} {first : List UInt8} (length : first.length = n)
    (rest : List UInt8) : splitBytes n (first ++ rest) = some (⟨first, length⟩, rest) :=
  splitBytes_append ⟨first, length⟩ rest

theorem splitBytes_eq_none {n : Nat} {bytes : List UInt8} (short : bytes.length < n) :
    splitBytes n bytes = none :=
  dif_neg (Nat.not_le.mpr short)

/-- What is split off and the rest make up the bytes. -/
theorem append_of_splitBytes {n : Nat} {bytes rest : List UInt8} {first : Bytes n}
    (split : splitBytes n bytes = some (first, rest)) : first.toList ++ rest = bytes := by
  unfold splitBytes at split
  split at split
  · cases split
    exact List.take_append_drop n bytes
  · cases split

/-- `<[u8; n]>::try_from(slice)`: the slice as an array, if it is that long. -/
def toArray (n : Nat) (bytes : List UInt8) : Option (Bytes n) :=
  if length : bytes.length = n then some ⟨bytes, length⟩ else none

theorem toArray_toList {n : Nat} (bytes : Bytes n) : toArray n bytes.toList = some bytes :=
  dif_pos bytes.toList_length

theorem toArray_eq_some_iff {n : Nat} {bytes : List UInt8} {array : Bytes n} :
    toArray n bytes = some array ↔ array.toList = bytes := by
  constructor
  · intro made
    unfold toArray at made
    split at made
    · cases made
      rfl
    · cases made
  · rintro rfl
    exact toArray_toList array

/-- The `n` low bytes of `x`, most significant first. -/
def beEncode : Nat → Nat → List UInt8
  | 0, _ => []
  | n + 1, x => UInt8.ofNat (x / 256 ^ n) :: beEncode n x

/-- The number a list of bytes spells, most significant first. -/
def beDecode : List UInt8 → Nat
  | [] => 0
  | b :: bs => b.toNat * 256 ^ bs.length + beDecode bs

@[simp] theorem length_beEncode (n x : Nat) : (beEncode n x).length = n := by
  induction n with
  | zero => rfl
  | succ n ih => simp [beEncode, ih]

theorem beDecode_lt (bs : List UInt8) : beDecode bs < 256 ^ bs.length := by
  induction bs with
  | nil => simp [beDecode]
  | cons b bs ih =>
      have small : b.toNat + 1 ≤ 256 := b.toNat_lt
      calc beDecode (b :: bs) = b.toNat * 256 ^ bs.length + beDecode bs := rfl
        _ < b.toNat * 256 ^ bs.length + 256 ^ bs.length := by omega
        _ = (b.toNat + 1) * 256 ^ bs.length := by ring
        _ ≤ 256 * 256 ^ bs.length := Nat.mul_le_mul_right _ small
        _ = 256 ^ (b :: bs).length := by simp [pow_succ, mul_comm]

/-- What lies above the low `n` bytes does not reach the encoding. -/
theorem beEncode_add_mul (n k x : Nat) : beEncode n (k * 256 ^ n + x) = beEncode n x := by
  induction n generalizing k with
  | zero => rfl
  | succ n ih =>
      have regroup : k * 256 ^ (n + 1) + x = k * 256 * 256 ^ n + x := by ring
      have positive : 0 < 256 ^ n := Nat.pow_pos (by decide)
      have head : (k * 256 * 256 ^ n + x) / 256 ^ n = k * 256 + x / 256 ^ n := by
        rw [add_comm, Nat.add_mul_div_right _ _ positive, add_comm]
      simp only [beEncode]
      rw [regroup, ih, head]
      congr 1
      apply UInt8.toNat_inj.mp
      simp only [UInt8.toNat_ofNat']
      omega

theorem beDecode_beEncode (n x : Nat) : beDecode (beEncode n x) = x % 256 ^ n := by
  induction n with
  | zero => simp [beEncode, beDecode, Nat.mod_one]
  | succ n ih =>
      have split : x % 256 ^ (n + 1) = x % 256 ^ n + 256 ^ n * (x / 256 ^ n % 256) := by
        rw [Nat.pow_succ, Nat.mod_mul]
      simp only [beEncode, beDecode, length_beEncode, ih, UInt8.toNat_ofNat', split]
      ring

theorem beEncode_beDecode (bs : List UInt8) : beEncode bs.length (beDecode bs) = bs := by
  induction bs with
  | nil => rfl
  | cons b bs ih =>
      have below := beDecode_lt bs
      have positive : 0 < 256 ^ bs.length := Nat.pow_pos (by decide)
      have head : (b.toNat * 256 ^ bs.length + beDecode bs) / 256 ^ bs.length = b.toNat := by
        rw [add_comm, Nat.add_mul_div_right _ _ positive, Nat.div_eq_of_lt below, zero_add]
      simp only [List.length_cons, beDecode, beEncode]
      rw [head, beEncode_add_mul, ih, UInt8.ofNat_toNat]

/-- `u16::to_be_bytes`. -/
def toBeBytes16 (x : UInt16) : List UInt8 := beEncode 2 x.toNat

/-- `u16::from_be_bytes`. -/
def fromBeBytes16 (bs : Bytes 2) : UInt16 := UInt16.ofNat (beDecode bs.toList)

/-- `u32::to_be_bytes`. -/
def toBeBytes32 (x : UInt32) : List UInt8 := beEncode 4 x.toNat

/-- `u32::from_be_bytes`. -/
def fromBeBytes32 (bs : Bytes 4) : UInt32 := UInt32.ofNat (beDecode bs.toList)

/-- `u64::to_be_bytes`. -/
def toBeBytes64 (x : UInt64) : List UInt8 := beEncode 8 x.toNat

/-- `u64::from_be_bytes`. -/
def fromBeBytes64 (bs : Bytes 8) : UInt64 := UInt64.ofNat (beDecode bs.toList)

/-- `u16::to_le_bytes`. -/
def toLeBytes16 (x : UInt16) : List UInt8 := (toBeBytes16 x).reverse

/-- `u16::from_le_bytes`. -/
def fromLeBytes16 (bs : Bytes 2) : UInt16 := fromBeBytes16 ⟨bs.toList.reverse, by simp⟩

/-- `u32::to_le_bytes`. -/
def toLeBytes32 (x : UInt32) : List UInt8 := (toBeBytes32 x).reverse

/-- `u32::from_le_bytes`. -/
def fromLeBytes32 (bs : Bytes 4) : UInt32 := fromBeBytes32 ⟨bs.toList.reverse, by simp⟩

/-- `u64::to_le_bytes`. -/
def toLeBytes64 (x : UInt64) : List UInt8 := (toBeBytes64 x).reverse

/-- `u64::from_le_bytes`. -/
def fromLeBytes64 (bs : Bytes 8) : UInt64 := fromBeBytes64 ⟨bs.toList.reverse, by simp⟩

@[simp] theorem length_toBeBytes16 (x : UInt16) : (toBeBytes16 x).length = 2 :=
  length_beEncode 2 _

@[simp] theorem length_toBeBytes32 (x : UInt32) : (toBeBytes32 x).length = 4 :=
  length_beEncode 4 _

@[simp] theorem length_toBeBytes64 (x : UInt64) : (toBeBytes64 x).length = 8 :=
  length_beEncode 8 _

theorem fromBeBytes16_toBeBytes16 (x : UInt16) :
    fromBeBytes16 ⟨toBeBytes16 x, length_toBeBytes16 x⟩ = x := by
  have small : x.toNat < 256 ^ 2 := x.toNat_lt
  show UInt16.ofNat (beDecode (beEncode 2 x.toNat)) = x
  rw [beDecode_beEncode, Nat.mod_eq_of_lt small, UInt16.ofNat_toNat]

theorem fromBeBytes32_toBeBytes32 (x : UInt32) :
    fromBeBytes32 ⟨toBeBytes32 x, length_toBeBytes32 x⟩ = x := by
  have small : x.toNat < 256 ^ 4 := x.toNat_lt
  show UInt32.ofNat (beDecode (beEncode 4 x.toNat)) = x
  rw [beDecode_beEncode, Nat.mod_eq_of_lt small, UInt32.ofNat_toNat]

theorem fromBeBytes64_toBeBytes64 (x : UInt64) :
    fromBeBytes64 ⟨toBeBytes64 x, length_toBeBytes64 x⟩ = x := by
  have small : x.toNat < 256 ^ 8 := x.toNat_lt
  show UInt64.ofNat (beDecode (beEncode 8 x.toNat)) = x
  rw [beDecode_beEncode, Nat.mod_eq_of_lt small, UInt64.ofNat_toNat]

theorem toBeBytes16_fromBeBytes16 (bs : Bytes 2) :
    toBeBytes16 (fromBeBytes16 bs) = bs.toList := by
  have below := beDecode_lt bs.toList
  rw [bs.toList_length] at below
  have encoded := beEncode_beDecode bs.toList
  rw [bs.toList_length] at encoded
  rw [toBeBytes16, fromBeBytes16, UInt16.toNat_ofNat_of_lt' below, encoded]

theorem toBeBytes32_fromBeBytes32 (bs : Bytes 4) :
    toBeBytes32 (fromBeBytes32 bs) = bs.toList := by
  have below := beDecode_lt bs.toList
  rw [bs.toList_length] at below
  have encoded := beEncode_beDecode bs.toList
  rw [bs.toList_length] at encoded
  rw [toBeBytes32, fromBeBytes32, UInt32.toNat_ofNat_of_lt' below, encoded]

theorem toBeBytes64_fromBeBytes64 (bs : Bytes 8) :
    toBeBytes64 (fromBeBytes64 bs) = bs.toList := by
  have below := beDecode_lt bs.toList
  rw [bs.toList_length] at below
  have encoded := beEncode_beDecode bs.toList
  rw [bs.toList_length] at encoded
  rw [toBeBytes64, fromBeBytes64, UInt64.toNat_ofNat_of_lt' below, encoded]

@[simp] theorem length_toLeBytes16 (x : UInt16) : (toLeBytes16 x).length = 2 := by
  rw [toLeBytes16, List.length_reverse, length_toBeBytes16]

@[simp] theorem length_toLeBytes32 (x : UInt32) : (toLeBytes32 x).length = 4 := by
  rw [toLeBytes32, List.length_reverse, length_toBeBytes32]

@[simp] theorem length_toLeBytes64 (x : UInt64) : (toLeBytes64 x).length = 8 := by
  rw [toLeBytes64, List.length_reverse, length_toBeBytes64]

theorem fromLeBytes16_toLeBytes16 (x : UInt16) :
    fromLeBytes16 ⟨toLeBytes16 x, length_toLeBytes16 x⟩ = x := by
  have turned : (toLeBytes16 x).reverse = toBeBytes16 x := List.reverse_reverse _
  simp only [fromLeBytes16, List.Vector.toList, turned, fromBeBytes16_toBeBytes16]

theorem fromLeBytes32_toLeBytes32 (x : UInt32) :
    fromLeBytes32 ⟨toLeBytes32 x, length_toLeBytes32 x⟩ = x := by
  have turned : (toLeBytes32 x).reverse = toBeBytes32 x := List.reverse_reverse _
  simp only [fromLeBytes32, List.Vector.toList, turned, fromBeBytes32_toBeBytes32]

theorem toLeBytes32_fromLeBytes32 (bs : Bytes 4) :
    toLeBytes32 (fromLeBytes32 bs) = bs.toList := by
  let turned : Bytes 4 := ⟨bs.toList.reverse, by simp⟩
  have same : toBeBytes32 (fromBeBytes32 turned) = bs.toList.reverse :=
    toBeBytes32_fromBeBytes32 turned
  show (toBeBytes32 (fromBeBytes32 turned)).reverse = bs.toList
  rw [same, List.reverse_reverse]

theorem fromLeBytes64_toLeBytes64 (x : UInt64) :
    fromLeBytes64 ⟨toLeBytes64 x, length_toLeBytes64 x⟩ = x := by
  have turned : (toLeBytes64 x).reverse = toBeBytes64 x := List.reverse_reverse _
  simp only [fromLeBytes64, List.Vector.toList, turned, fromBeBytes64_toBeBytes64]

end Lumepeer.Lib
