import Lumepeer.Lib.Bits
import Lumepeer.Lib.Utf8

/-!
# Base32 without padding

RFC 4648's base32 in the upper case alphabet, no `=` behind it: five bits a
digit, the last digit filled with zero bits. The decoder refuses a digit outside
the alphabet, a length no byte string encodes to, and fill bits that are not
zero, so it takes apart exactly what the encoder makes.
-/

namespace Lumepeer.Lib.Base32

/-- The digit of a five-bit value: `A` to `Z`, then `2` to `7`. -/
def digit (value : Nat) : Char :=
  if value < 26 then Char.ofNat (65 + value) else Char.ofNat (24 + value)

/-- The value of an ASCII digit. -/
def valueOf (byte : UInt8) : Option Nat :=
  if 65 ≤ byte.toNat ∧ byte.toNat ≤ 90 then some (byte.toNat - 65)
  else if 50 ≤ byte.toNat ∧ byte.toNat ≤ 55 then some (byte.toNat - 24)
  else none

/-- How many digits `n` bytes take. -/
def digits (n : Nat) : Nat := (8 * n + 4) / 5

/-- The values of the digits of a byte string. -/
def values (bytes : List UInt8) : List Nat :=
  let fill := List.replicate (5 * digits bytes.length - 8 * bytes.length) false
  (groups 5 (digits bytes.length) (bytesToBits bytes ++ fill)).map ofBits

/-- `BASE32_NOPAD.encode`. -/
def encode (bytes : List UInt8) : String := String.ofList ((values bytes).map digit)

/-- `BASE32_NOPAD.decode`. -/
def decode (text : List UInt8) : Option (List UInt8) := do
  let bits := (← text.mapM valueOf).flatMap (toBits 5)
  let n := bits.length / 8
  let fill := bits.drop (8 * n)
  if fill.length ≥ 5 ∨ fill.any id then none
  else some (bitsToBytes n bits)

/-- A digit is one byte of text, and the byte has the digit's value. -/
theorem digit_spec : ∀ value < 32, ∃ byte, String.utf8EncodeChar (digit value) = [byte] ∧
    valueOf byte = some value := by
  intro value small
  refine ⟨(String.utf8EncodeChar (digit value)).headD 0, ?_⟩
  revert value
  decide

theorem length_filled (bytes : List UInt8) :
    (bytesToBits bytes ++
      List.replicate (5 * digits bytes.length - 8 * bytes.length) false).length =
        5 * digits bytes.length := by
  have enough : 8 * bytes.length ≤ 5 * digits bytes.length := by
    unfold digits
    omega
  rw [List.length_append, length_bytesToBits, List.length_replicate]
  omega

theorem values_lt {bytes : List UInt8} {value : Nat} (member : value ∈ values bytes) :
    value < 32 := by
  obtain ⟨group, inGroups, rfl⟩ := List.mem_map.mp member
  have length := length_of_mem_groups (length_filled bytes) inGroups
  have below := ofBits_lt group
  rw [length] at below
  exact below

theorem flatMap_values (bytes : List UInt8) :
    (values bytes).flatMap (toBits 5) = bytesToBits bytes ++
      List.replicate (5 * digits bytes.length - 8 * bytes.length) false := by
  have undo : ∀ group ∈ groups 5 (digits bytes.length) (bytesToBits bytes ++
      List.replicate (5 * digits bytes.length - 8 * bytes.length) false),
      toBits 5 (ofBits group) = group := by
    intro group inGroups
    have whole := toBits_ofBits group
    rwa [length_of_mem_groups (length_filled bytes) inGroups] at whole
  rw [values, List.flatMap_map, List.flatMap_def, List.map_congr_left undo, List.map_id',
    flatten_groups (length_filled bytes)]

/-- The digits of a text are read back as their values. -/
theorem mapM_valueOf {vs : List Nat} (small : ∀ value ∈ vs, value < 32) :
    ((vs.map digit).flatMap String.utf8EncodeChar).mapM valueOf = some vs := by
  induction vs with
  | nil => rfl
  | cons value vs ih =>
      obtain ⟨byte, isByte, isValue⟩ := digit_spec value (small value List.mem_cons_self)
      rw [List.map_cons, List.flatMap_cons, isByte, List.singleton_append, List.mapM_cons, isValue,
        ih fun v member => small v (List.mem_cons_of_mem _ member)]
      rfl

theorem decode_encode (bytes : List UInt8) : decode (asBytes (encode bytes)) = some bytes := by
  have length := length_filled bytes
  have isBytes : 5 * digits bytes.length / 8 = bytes.length := by
    unfold digits
    omega
  have few : 5 * digits bytes.length - 8 * bytes.length < 5 := by
    unfold digits
    omega
  unfold decode encode
  rw [asBytes_ofList, mapM_valueOf fun _ => values_lt]
  simp only [Option.bind_eq_bind, Option.bind_some, flatMap_values, length, isBytes]
  rw [List.drop_left' (length_bytesToBits bytes), bitsToBytes_bytesToBits, if_neg]
  simp [few]

end Lumepeer.Lib.Base32
