import Mathlib.Algebra.Order.Group.Nat

/-!
# Text and its bytes

`asBytes` is the UTF-8 encoding of a text as a list of bytes and `fromUtf8` the
partial inverse that accepts exactly the encodings. `splitAtByte` cuts a text at
an offset and fails inside a character and past the end, and `rfind` is the
offset of the last character that satisfies a predicate, so a cut at what
`rfind` found never fails.
-/

namespace Lumepeer.Lib

/-- `str::as_bytes`. -/
def asBytes (text : String) : List UInt8 := text.toByteArray.data.toList

/-- `String::from_utf8`, `none` for bytes that are no text. -/
def fromUtf8 (bytes : List UInt8) : Option String := String.fromUTF8? ⟨bytes.toArray⟩

@[simp] theorem fromUtf8_asBytes (text : String) : fromUtf8 (asBytes text) = some text := by
  have same : (⟨(asBytes text).toArray⟩ : ByteArray) = text.toByteArray := by
    simp [asBytes]
  unfold fromUtf8 String.fromUTF8?
  rw [same, dif_pos text.isValidUTF8]
  rfl

theorem asBytes_of_fromUtf8 {bytes : List UInt8} {text : String}
    (read : fromUtf8 bytes = some text) : asBytes text = bytes := by
  unfold fromUtf8 String.fromUTF8? at read
  split at read
  · cases read
    simp [asBytes, String.fromUTF8]
  · cases read

theorem asBytes_append (first second : String) :
    asBytes (first ++ second) = asBytes first ++ asBytes second := by
  simp [asBytes]

theorem asBytes_ofList (chars : List Char) :
    asBytes (String.ofList chars) = chars.flatMap String.utf8EncodeChar := by
  simp [asBytes, List.utf8Encode]

theorem asBytes_inj {first second : String} (same : asBytes first = asBytes second) :
    first = second := by
  have read := congrArg fromUtf8 same
  rw [fromUtf8_asBytes, fromUtf8_asBytes] at read
  exact Option.some.inj read

/-!
## Byte offsets

A text is a list of characters here, and an offset counts the bytes of their encodings.
-/

/-- Bytes of the UTF-8 encoding. -/
def byteLen : List Char → Nat
  | [] => 0
  | c :: text => c.utf8Size + byteLen text

/-- The text before and after an offset, if the offset lies between two characters. -/
def splitAtByte : List Char → Nat → Option (List Char × List Char)
  | text, 0 => some ([], text)
  | [], _ + 1 => none
  | c :: text, n + 1 =>
      if c.utf8Size ≤ n + 1 then
        (splitAtByte text (n + 1 - c.utf8Size)).map fun (front, back) => (c :: front, back)
      else none

/-- The offset of the last character that satisfies `p`. -/
def rfind (p : Char → Bool) : List Char → Option Nat
  | [] => none
  | c :: text =>
      match rfind p text with
      | some offset => some (c.utf8Size + offset)
      | none => if p c then some 0 else none

@[simp] theorem byteLen_nil : byteLen [] = 0 := rfl

@[simp] theorem byteLen_cons (c : Char) (text : List Char) :
    byteLen (c :: text) = c.utf8Size + byteLen text := rfl

@[simp] theorem byteLen_append (front back : List Char) :
    byteLen (front ++ back) = byteLen front + byteLen back := by
  induction front with
  | nil => simp
  | cons c front ih =>
      rw [List.cons_append, byteLen_cons, byteLen_cons, ih, Nat.add_assoc]

theorem splitAtByte_cons {c : Char} {text : List Char} {n : Nat} (after : c.utf8Size ≤ n) :
    splitAtByte (c :: text) n =
      (splitAtByte text (n - c.utf8Size)).map fun (front, back) => (c :: front, back) := by
  have positive := c.utf8Size_pos
  cases n with
  | zero => omega
  | succ n => rw [splitAtByte, if_pos after]

/-- A cut between two pieces succeeds and gives them. -/
theorem splitAtByte_append (front back : List Char) :
    splitAtByte (front ++ back) (byteLen front) = some (front, back) := by
  induction front with
  | nil => cases back <;> rfl
  | cons c front ih =>
      rw [List.cons_append, byteLen_cons, splitAtByte_cons (Nat.le_add_right _ _),
        Nat.add_sub_cancel_left, ih, Option.map_some]

theorem rfind_of_plain {p : Char → Bool} {text : List Char} (plain : ∀ c ∈ text, p c = false) :
    rfind p text = none := by
  induction text with
  | nil => rfl
  | cons c text ih =>
      rw [List.forall_mem_cons] at plain
      rw [rfind, ih plain.2, plain.1]
      rfl

/-- The last character that satisfies `p` is found at the length of what stands before it. -/
theorem rfind_append_cons {p : Char → Bool} {front back : List Char} {c : Char} (found : p c = true)
    (plain : ∀ c ∈ back, p c = false) : rfind p (front ++ c :: back) = some (byteLen front) := by
  induction front with
  | nil =>
      rw [List.nil_append, rfind, rfind_of_plain plain]
      exact if_pos found
  | cons first front ih => rw [List.cons_append, rfind, ih, byteLen_cons]

end Lumepeer.Lib
