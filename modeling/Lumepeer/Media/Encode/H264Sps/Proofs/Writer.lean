import Lumepeer.Lib.Bits
import Lumepeer.Media.Encode.H264Sps
import Mathlib.Data.List.Basic

/-!
# What the writer has written

`Wrote w bits` says that the bytes of `w` are `bits` and then fewer than eight
zeros. Every operation of the writer appends the bits it stands for, and a
finished parameter set ends in a byte that is not zero.
-/

namespace Lumepeer.Media.H264Sps
open Lumepeer.Lib

/-- The bits of a writer, and the zeros that fill its last byte. -/
structure Wrote (w : BitWriter) (bits : List Bool) : Prop where
  used : w.used = bits.length
  bytes : ∃ free, free < 8 ∧ bytesToBits w.bytes = bits ++ List.replicate free false

theorem wrote_nothing : Wrote {} [] := ⟨rfl, 0, by omega, rfl⟩

/-- Setting a bit of a byte, counted from the top. -/
theorem toBits_mark (byte : UInt8) {k : Nat} (small : k < 8) :
    toBits 8 (byte ||| ((0x80 : UInt8) >>> UInt8.ofNat k)).toNat =
      (toBits 8 byte.toNat).set k true := by
  have shift : (UInt8.ofNat k).toNat % 8 = k := by
    rw [UInt8.toNat_ofNat_of_lt' (lt_trans small (by decide)), Nat.mod_eq_of_lt small]
  have mark : ((0x80 : UInt8) >>> UInt8.ofNat k).toNat = 2 ^ (7 - k) := by
    rw [UInt8.toNat_shiftRight, shift, Nat.shiftRight_eq_div_pow]
    change 2 ^ 7 / 2 ^ k = _
    rw [Nat.pow_div (by omega) (by omega)]
  apply List.ext_getElem?
  intro i
  rw [getElem?_toBits, List.getElem?_set, length_toBits, getElem?_toBits, UInt8.toNat_or, mark]
  by_cases inside : i < 8
  · by_cases here : k = i
    · simp [here, inside, Nat.testBit_or]
    · have other : 7 - k ≠ 7 - i := by omega
      simp [here, inside, Nat.testBit_or, other]
  · have outside : k ≠ i := by omega
    simp [inside, outside]

/-- The byte a writer writes its next bit to. -/
theorem Wrote.next_byte {w : BitWriter} {bits : List Bool} (wrote : Wrote w bits) :
    ∃ front last, (if w.used % 8 = 0 then w.bytes ++ [0] else w.bytes) = front ++ [last] ∧
      bytesToBits front ++ toBits 8 last.toNat =
        bits ++ false :: List.replicate (7 - bits.length % 8) false := by
  obtain ⟨used, free, few, isBytes⟩ := wrote
  have size := congrArg List.length isBytes
  rw [length_bytesToBits, List.length_append, List.length_replicate] at size
  by_cases full : w.used % 8 = 0
  · have none : free = 0 := by omega
    refine ⟨w.bytes, 0, if_pos full, ?_⟩
    rw [isBytes, none, ← used, full, List.replicate_zero, List.append_nil]
    rfl
  · have left : free = 7 - bits.length % 8 + 1 := by omega
    rcases List.eq_nil_or_concat' w.bytes with empty | ⟨front, last, isFront⟩
    · rw [empty, List.length_nil] at size
      omega
    · refine ⟨front, last, by rw [if_neg full, isFront], ?_⟩
      rw [isFront, bytesToBits_append, left, List.replicate_succ] at isBytes
      rw [← isBytes]
      simp [bytesToBits]

theorem Wrote.flag {w : BitWriter} {bits : List Bool} (wrote : Wrote w bits) (bit : Bool) :
    Wrote (w.flag bit) (bits ++ [bit]) := by
  obtain ⟨front, last, isBytes, isBits⟩ := wrote.next_byte
  have used := wrote.used
  have size := congrArg List.length isBits
  rw [List.length_append, length_bytesToBits, length_toBits, List.length_append, List.length_cons,
    List.length_replicate] at size
  refine ⟨by simp [BitWriter.flag, used], 7 - bits.length % 8, by omega, ?_⟩
  rw [BitWriter.flag, isBytes]
  cases bit with
  | false =>
      rw [if_neg (by decide), bytesToBits_append, List.append_assoc]
      simpa [bytesToBits] using isBits
  | true =>
      have small : w.used % 8 < 8 := Nat.mod_lt _ (by omega)
      have here : bits.length = (bytesToBits front).length + w.used % 8 := by
        rw [length_bytesToBits]
        omega
      rw [if_pos rfl, List.modifyLast_concat, bytesToBits_append, List.append_assoc]
      calc bytesToBits front ++ bytesToBits [last ||| ((0x80 : UInt8) >>> UInt8.ofNat (w.used % 8))]
          = bytesToBits front ++ (toBits 8 last.toNat).set (w.used % 8) true := by
            rw [← toBits_mark last small]
            simp [bytesToBits]
        _ = (bytesToBits front ++ toBits 8 last.toNat).set bits.length true := by
            rw [here, List.set_append_right _ _ (by omega), Nat.add_sub_cancel_left]
        _ = bits ++ ([true] ++ List.replicate (7 - bits.length % 8) false) := by
            rw [isBits, List.set_append_right _ _ (by omega), Nat.sub_self]
            rfl

theorem Wrote.flags {w : BitWriter} {bits : List Bool} (wrote : Wrote w bits) (more : List Bool) :
    Wrote (w.flags more) (bits ++ more) := by
  induction more generalizing w bits with
  | nil =>
      rw [List.append_nil]
      exact wrote
  | cons bit more ih =>
      have rest := ih (wrote.flag bit)
      rwa [List.append_assoc] at rest

theorem Wrote.copy {w : BitWriter} {bits : List Bool} (wrote : Wrote w bits) {data : List UInt8}
    {count : Nat} (inside : count ≤ (bytesToBits data).length) :
    Wrote (w.copy data count) (bits ++ (bytesToBits data).take count) := by
  have copied : (bytesToBits data).take count = (List.range count).map fun index =>
      (data[index / 8]?.getD 0 >>> UInt8.ofNat (7 - index % 8)) &&& 1 == 1 := by
    apply List.ext_getElem?
    intro i
    rw [List.getElem?_take, List.getElem?_map]
    by_cases below : i < count
    · rw [length_bytesToBits] at inside
      have isByte := List.getElem?_eq_getElem (by omega : i / 8 < data.length)
      rw [if_pos below, getElem?_bytesToBits, List.getElem?_range below, isByte]
      simp only [Option.map_some]
      rw [shiftRight_and_one _ (by omega), isByte, Option.getD_some]
    · rw [if_neg below, List.getElem?_eq_none (by simpa using below)]
      rfl
  rw [copied]
  exact wrote.flags _

/-- Bits from the highest down. -/
theorem map_reverse_range (x : UInt64) {n : Nat} (small : n ≤ 64) :
    (List.range n).reverse.map (fun shift => (x >>> UInt64.ofNat shift) &&& 1 == 1) =
      toBits n x.toNat := by
  induction n with
  | zero => rfl
  | succ n ih =>
      have shift : (UInt64.ofNat n).toNat % 64 = n := by
        rw [UInt64.toNat_ofNat_of_lt' (lt_of_lt_of_le small (by decide)), Nat.mod_eq_of_lt small]
      have low : ((x >>> UInt64.ofNat n) &&& 1).toNat = x.toNat >>> n % 2 := by
        rw [UInt64.toNat_and, UInt64.toNat_shiftRight, shift, UInt64.toNat_one, Nat.and_one_is_mod]
      have bit : ((x >>> UInt64.ofNat n) &&& 1 == 1) = x.toNat.testBit n := by
        rw [Nat.testBit_eq_decide_div_mod_eq, ← Nat.shiftRight_eq_div_pow, ← low, Bool.eq_iff_iff,
          beq_iff_eq, decide_eq_true_iff, ← UInt64.toNat_inj, UInt64.toNat_one]
      rw [List.range_succ, List.reverse_append, List.map_append, ih (by omega), toBits, ← bit]
      rfl

theorem Wrote.ue {w : BitWriter} {bits : List Bool} (wrote : Wrote w bits) (value : UInt32) :
    Wrote (w.ue value) (bits ++ expGolomb value.toNat) := by
  have below := value.toNat_lt
  have coded : (value.toUInt64 + 1).toNat = value.toNat + 1 := by
    rw [UInt64.toNat_add, UInt32.toNat_toUInt64, UInt64.toNat_one, Nat.mod_eq_of_lt (by omega)]
  have notZero : value.toUInt64 + 1 ≠ 0 := by
    intro zero
    rw [zero] at coded
    cases coded
  have few : (value.toNat + 1).log2 < 33 := (Nat.log2_lt (Nat.succ_ne_zero _)).mpr (by omega)
  have length : 64 - BitWriter.leadingZeros (value.toUInt64 + 1) = (value.toNat + 1).log2 + 1 := by
    rw [BitWriter.leadingZeros, if_neg notZero, coded]
    omega
  have both := (wrote.flags (List.replicate (value.toNat + 1).log2 false)).flags
    (toBits ((value.toNat + 1).log2 + 1) (value.toNat + 1))
  rw [List.append_assoc] at both
  rw [BitWriter.ue, length, map_reverse_range _ (by omega), coded, Nat.add_sub_cancel,
    List.map_const', List.length_range']
  exact both

theorem Wrote.fill {w : BitWriter} {bits : List Bool} (wrote : Wrote w bits) :
    Wrote w.fill (bits ++ List.replicate ((8 - bits.length % 8) % 8) false) := by
  fun_induction BitWriter.fill w generalizing bits with
  | case1 w full =>
      have none : (8 - bits.length % 8) % 8 = 0 := by
        rw [← wrote.used, full]
      rw [none, List.replicate_zero, List.append_nil]
      exact wrote
  | case2 w notFull ih =>
      have rest := ih (wrote.flag false)
      have used := wrote.used
      have one : (8 - bits.length % 8) % 8 = (8 - (bits ++ [false]).length % 8) % 8 + 1 := by
        rw [List.length_append, List.length_singleton]
        omega
      rw [one, List.replicate_succ]
      rwa [List.append_assoc] at rest

/-- The bits of a finished parameter set: the trailing bits end its last byte. -/
theorem Wrote.finish {w : BitWriter} {bits : List Bool} (wrote : Wrote w bits) :
    ∃ free, free < 8 ∧ bytesToBits w.finish = bits ++ true :: List.replicate free false := by
  obtain ⟨_, left, few, isBytes⟩ := (wrote.flag true).fill
  have size := congrArg List.length isBytes
  simp only [length_bytesToBits, List.length_append, List.length_replicate,
    List.length_singleton] at size
  have none : left = 0 := by omega
  refine ⟨(8 - (bits ++ [true]).length % 8) % 8, Nat.mod_lt _ (by omega), ?_⟩
  rw [none, List.replicate_zero, List.append_nil, List.append_assoc] at isBytes
  exact isBytes

/-- Bytes whose last set bit is fewer than eight bits from the end. -/
theorem getLast?_ne_zero {bytes : List UInt8} {bits : List Bool} {free : Nat} (few : free < 8)
    (isBits : bytesToBits bytes = bits ++ true :: List.replicate free false) :
    bytes.getLast? ≠ some 0 := by
  intro last
  obtain ⟨front, rfl⟩ := List.getLast?_eq_some_iff.mp last
  have zeros : bytesToBits [0] = List.replicate 8 false := by decide
  rw [bytesToBits_append, zeros] at isBits
  -- Read from the end, the set bit stands where only the zeros of the byte are.
  have backwards := congrArg (fun bits => bits.reverse[free]?) isBits
  simp only [List.reverse_append, List.reverse_replicate, List.reverse_cons] at backwards
  rw [List.getElem?_append_left (by simpa using few), List.getElem?_replicate_of_lt few,
    List.append_assoc, List.getElem?_append_right (by simp), List.length_replicate] at backwards
  simp at backwards

/-!
## Emulation prevention

`escape` keeps two zero bytes and a byte below three apart, so nothing it writes
can be taken for a start code, and `unescape` takes out what it put in.
-/

/-- The counter of `escape` and the zero bytes it stands for: a third one is never
written behind two. -/
inductive Behind : Int32 → List UInt8 → Prop
  | none : Behind 0 []
  | one : Behind 1 [0]
  | two : Behind 2 [0, 0]

/-- The counter behind a byte that needed nothing in front of it. -/
theorem Behind.next {zeros : Int32} {last : List UInt8} (behind : Behind zeros last) {byte : UInt8}
    (kept : ¬ (zeros ≥ 2 ∧ byte ≤ 3)) :
    ∃ last', Behind (if byte = 0 then zeros + 1 else 0) last' ∧
      (byte = 0 → last' = last ++ [0]) ∧ (byte ≠ 0 → last' = []) := by
  by_cases zero : byte = 0
  · rw [if_pos zero]
    cases behind with
    | none => exact ⟨[0], .one, fun _ => rfl, fun other => absurd zero other⟩
    | one => exact ⟨[0, 0], .two, fun _ => rfl, fun other => absurd zero other⟩
    | two => exact absurd ⟨by decide, by rw [zero]; decide⟩ kept
  · rw [if_neg zero]
    exact ⟨[], .none, fun other => absurd other zero, fun _ => rfl⟩

/-- The counter behind a byte that a three was put in front of. -/
theorem behind_inserted (byte : UInt8) :
    ∃ last, Behind (if byte = 0 then 0 + 1 else 0) last ∧
      (byte = 0 → last = [0]) ∧ (byte ≠ 0 → last = []) := by
  by_cases zero : byte = 0
  · rw [if_pos zero]
    exact ⟨[0], .one, fun _ => rfl, fun other => absurd zero other⟩
  · rw [if_neg zero]
    exact ⟨[], .none, fun other => absurd other zero, fun _ => rfl⟩

theorem unescapeFrom_escapeFrom {zeros : Int32} {last : List UInt8} (behind : Behind zeros last)
    (rbsp : List UInt8) : unescapeFrom zeros (escapeFrom zeros rbsp) = rbsp := by
  induction rbsp generalizing zeros last with
  | nil => rfl
  | cons byte rbsp ih =>
      by_cases inserted : zeros ≥ 2 ∧ byte ≤ 3
      · obtain ⟨last', behind', _⟩ := behind_inserted byte
        have noneYet : ¬ ((0 : Int32) ≥ 2 ∧ byte = 3) := fun both => absurd both.1 (by decide)
        rw [escapeFrom, if_pos inserted, unescapeFrom, if_pos ⟨inserted.1, rfl⟩, unescapeFrom,
          if_neg noneYet, ih behind']
      · obtain ⟨last', behind', _⟩ := behind.next inserted
        have kept : ¬ (zeros ≥ 2 ∧ byte = 3) := by
          rintro ⟨two, rfl⟩
          exact inserted ⟨two, by decide⟩
        rw [escapeFrom, if_neg inserted, unescapeFrom, if_neg kept, ih behind']

/-- A decoder finds the bytes that were escaped. -/
theorem unescape_escape (rbsp : List UInt8) : unescape (escape rbsp) = rbsp :=
  unescapeFrom_escapeFrom .none rbsp

/-- Two zero bytes are followed by nothing below three. -/
theorem guarded_escapeFrom {zeros : Int32} {last : List UInt8} (behind : Behind zeros last)
    {low : UInt8} (isLow : low < 3) (rbsp : List UInt8) :
    ¬ [0, 0, low] <:+: last ++ escapeFrom zeros rbsp := by
  have notThree : low ≠ 3 := by
    rintro rfl
    exact absurd isLow (by decide)
  induction rbsp generalizing zeros last with
  | nil =>
      intro code
      have long := code.length_le
      cases behind <;> simp [escapeFrom] at long
  | cons byte rbsp ih =>
      by_cases inserted : zeros ≥ 2 ∧ byte ≤ 3
      · obtain ⟨last', behind', isZero, notZero⟩ := behind_inserted byte
        have rest := ih behind'
        rw [escapeFrom, if_pos inserted]
        cases behind with
        | none => exact absurd inserted.1 (by decide)
        | one => exact absurd inserted.1 (by decide)
        | two =>
            by_cases zero : byte = 0
            · rw [isZero zero] at rest
              simp_all [List.infix_cons_iff, List.cons_prefix_cons]
            · rw [notZero zero] at rest
              simp_all [List.infix_cons_iff, List.cons_prefix_cons, Ne.symm zero]
      · obtain ⟨last', behind', isZero, notZero⟩ := behind.next inserted
        have rest := ih behind'
        rw [escapeFrom, if_neg inserted]
        by_cases zero : byte = 0
        · rw [isZero zero, List.append_assoc] at rest
          simpa [zero] using rest
        · rw [notZero zero] at rest
          have differs : zeros ≥ 2 → low ≠ byte := by
            rintro two rfl
            exact inserted ⟨two, UInt8.le_of_lt isLow⟩
          cases behind with
          | none => simp_all [List.infix_cons_iff, List.cons_prefix_cons, Ne.symm zero]
          | one => simp_all [List.infix_cons_iff, List.cons_prefix_cons, Ne.symm zero]
          | two =>
              have apart := differs (by decide)
              simp_all [List.infix_cons_iff, List.cons_prefix_cons, Ne.symm zero]

/-- An escaped payload behind a header holds no start code, and nothing that could
become one. -/
theorem guarded_nal {header low : UInt8} (notZero : header ≠ 0) (isLow : low < 3)
    (rbsp : List UInt8) : ¬ [0, 0, low] <:+: header :: escape rbsp := by
  intro code
  rcases List.infix_cons_iff.mp code with atHeader | behind
  · exact notZero (List.cons_prefix_cons.mp atHeader).1.symm
  · exact guarded_escapeFrom .none isLow rbsp behind

theorem getLast?_escapeFrom (zeros : Int32) (rbsp : List UInt8) :
    (escapeFrom zeros rbsp).getLast? = rbsp.getLast? := by
  induction rbsp generalizing zeros with
  | nil => rfl
  | cons byte rbsp ih =>
      rw [escapeFrom]
      split
      · rw [List.getLast?_cons_cons, List.getLast?_cons, ih, List.getLast?_cons]
      · rw [List.getLast?_cons, ih, List.getLast?_cons]

/-- An escaped payload behind a header ends as the payload does. -/
theorem getLast?_nal {header : UInt8} {rbsp : List UInt8} (notZero : header ≠ 0)
    (ends : rbsp.getLast? ≠ some 0) : (header :: escape rbsp).getLast? ≠ some 0 := by
  rw [List.getLast?_cons, escape, getLast?_escapeFrom]
  cases last : rbsp.getLast? with
  | none => simpa using notZero
  | some byte =>
      rw [last] at ends
      simpa using ends

end Lumepeer.Media.H264Sps
