import Lumepeer.Lib.Crc
import Lumepeer.Lib.Ogg
import Lumepeer.Media.Export

/-!
# One page of the exported stream

`write_page` either appends one Ogg page or, for a packet that does not fit one,
nothing at all. The page holds the packet whole, and its checksum is the
remainder of the page, with the checksum field zero, by the Ogg polynomial.
-/

namespace Lumepeer.Media
open Lumepeer.Lib Lumepeer.Core
open scoped Polynomial

/-- The bits of the Ogg polynomial below `X ^ 32`. -/
def oggGenerator : BitVec 32 := 0x04c11db7

theorem toBitVec_oggCrcBit (c : UInt32) :
    (oggCrcBit c).toBitVec = crcStep oggGenerator c.toBitVec := by
  have top : c &&& 0x80000000 = 0 ↔ c.toBitVec.msb = false := by
    have mask : (0x80000000 : BitVec 32) = BitVec.twoPow 32 31 := rfl
    rw [← UInt32.toBitVec_inj, UInt32.toBitVec_and]
    show c.toBitVec &&& (0x80000000 : BitVec 32) = 0 ↔ _
    rw [mask, BitVec.and_twoPow, BitVec.msb_eq_getLsbD_last]
    show (if c.toBitVec.getLsbD 31 = true then _ else _) = _ ↔ c.toBitVec.getLsbD 31 = false
    cases c.toBitVec.getLsbD 31 <;> decide
  rw [oggCrcBit, crcStep]
  cases bit : c.toBitVec.msb with
  | false =>
      rw [if_pos (top.mpr bit)]
      rfl
  | true =>
      rw [if_neg (by rw [top, bit]; decide)]
      rfl

theorem toBitVec_iterate_oggCrcBit (n : Nat) (c : UInt32) :
    (Nat.iterate oggCrcBit n c).toBitVec = crcSteps oggGenerator n c.toBitVec := by
  induction n generalizing c with
  | zero => rfl
  | succ n ih =>
      rw [Function.iterate_succ_apply, ih, toBitVec_oggCrcBit]
      rfl

theorem toBitVec_foldl_oggCrcByte (bytes : List UInt8) (c : UInt32) :
    (bytes.foldl oggCrcByte c).toBitVec = bytes.foldl (crcByte oggGenerator) c.toBitVec := by
  induction bytes generalizing c with
  | nil => rfl
  | cons byte bytes ih =>
      rw [List.foldl_cons, ih, oggCrcByte, toBitVec_iterate_oggCrcBit]
      rfl

/-- `ogg_crc32` is the remainder of the bytes, moved up by 32 places, by the Ogg polynomial. -/
theorem toPolynomial_oggCrc32 (bytes : List UInt8) :
    toPolynomial (oggCrc32 bytes).toBitVec =
      messagePoly bytes * Polynomial.X ^ 32 %ₘ generatorPoly oggGenerator := by
  rw [oggCrc32, toBitVec_foldl_oggCrcByte]
  exact toPolynomial_crc oggGenerator (by decide) bytes

/-- One turn of the loop. -/
theorem lacingValues_turn (left : Nat) :
    lacingValues left =
      if left < 255 then [UInt8.ofNat left] else 255 :: lacingValues (left - 255) := by
  rw [lacingValues]
  show (if min left 255 < 255 then [u8OrMax (min left 255)]
    else u8OrMax (min left 255) :: lacingValues (left - min left 255)) = _
  by_cases short : left < 255
  · have byte : u8OrMax left = UInt8.ofNat left := if_pos (Nat.lt_trans short (by decide))
    rw [Nat.min_eq_left (Nat.le_of_lt short), if_pos short, if_pos short, byte]
  · rw [Nat.min_eq_right (Nat.le_of_not_lt short), if_neg (Nat.lt_irrefl 255), if_neg short]
    rfl

/-- The lacing of a packet: as many full segments as it has, and one more that is not full. -/
theorem lacingValues_eq (left : Nat) :
    lacingValues left = List.replicate (left / 255) 255 ++ [UInt8.ofNat (left % 255)] := by
  induction left using Nat.strongRecOn with
  | ind left ih =>
      rw [lacingValues_turn]
      by_cases short : left < 255
      · rw [if_pos short, Nat.div_eq_of_lt short, Nat.mod_eq_of_lt short]
        rfl
      · have count : left / 255 = (left - 255) / 255 + 1 := by omega
        have rest : left % 255 = (left - 255) % 255 := by omega
        rw [if_neg short, ih (left - 255) (by omega), count, rest, List.replicate_succ]
        rfl

theorem length_lacingValues (left : Nat) : (lacingValues left).length = left / 255 + 1 := by
  rw [lacingValues_eq, List.length_append, List.length_replicate]
  rfl

theorem toNat_last_lacing (left : Nat) : (UInt8.ofNat (left % 255)).toNat = left % 255 :=
  UInt8.toNat_ofNat_of_lt' (Nat.lt_trans (Nat.mod_lt _ (by decide)) (by decide))

theorem unlace_lacingValues (packet : List UInt8) :
    unlace [] (lacingValues packet.length) packet = ([packet], []) := by
  have last := toNat_last_lacing packet.length
  rw [lacingValues_eq]
  apply unlace_packet
  · intro full
    rw [full] at last
    exact absurd last (Nat.ne_of_gt (Nat.mod_lt _ (by decide)))
  · rw [last]
    exact (Nat.div_add_mod _ _).symm

theorem lacingTotal_lacingValues (left : Nat) : lacingTotal (lacingValues left) = left := by
  rw [lacingValues_eq, lacingTotal_packet, toNat_last_lacing]
  exact Nat.div_add_mod _ _

/-- The page holds the packet and the header `write_page` gives it. -/
structure Carries (page : OggPage) (packet : List UInt8) (flags : UInt8) (granule : UInt64)
    (sequence : UInt32) : Prop where
  flags_eq : page.flags = flags
  granule_eq : page.granule = granule
  sequence_eq : page.sequence = sequence
  checksum_eq : page.checksum = oggCrc32 page.unsigned.bytes
  packet_eq : unlace [] page.lacing page.body = ([packet], [])

theorem Carries.remainder {page : OggPage} {packet : List UInt8} {flags : UInt8} {granule : UInt64}
    {sequence : UInt32} (carries : Carries page packet flags granule sequence) :
    toPolynomial page.checksum.toBitVec =
      messagePoly page.unsigned.bytes * Polynomial.X ^ 32 %ₘ generatorPoly oggGenerator := by
  rw [carries.checksum_eq]
  exact toPolynomial_oggCrc32 _

/-- The longest packet `write_page` takes is one byte shorter than 255 full segments. -/
theorem length_lacingValues_le_iff (left : Nat) :
    (lacingValues left).length ≤ oggMaxSegmentsPerPage ↔ left < 255 * 255 := by
  rw [length_lacingValues, oggMaxSegmentsPerPage]
  omega

/-- The page for a packet that fits one. -/
def pageOf (packet : List UInt8) (short : packet.length < 255 * 255) (flags : UInt8)
    (granule : UInt64) (sequence checksum : UInt32) : OggPage where
  flags := flags
  granule := granule
  serial := oggSerial
  sequence := sequence
  checksum := checksum
  lacing := lacingValues packet.length
  body := packet
  segments := (length_lacingValues_le_iff _).mpr short
  filled := (lacingTotal_lacingValues _).symm

theorem unsignedPage_eq {packet : List UInt8} (short : packet.length < 255 * 255) (flags : UInt8)
    (granule : UInt64) (sequence : UInt32) :
    unsignedPage (lacingValues packet.length) packet flags granule sequence =
      (pageOf packet short flags granule sequence 0).bytes := by
  have narrow : (lacingValues packet.length).length < 2 ^ 8 :=
    Nat.lt_succ_of_le ((length_lacingValues_le_iff _).mpr short)
  simp only [unsignedPage, u8OrMax, if_pos narrow, pageOf, OggPage.bytes, OggPage.front,
    OggPage.back, capturePattern, List.append_assoc]

/-- Writing the checksum over its field changes nothing else. -/
theorem signPage_unsigned (page : OggPage) (right : page.checksum = oggCrc32 page.unsigned.bytes) :
    signPage page.unsigned.bytes = page.bytes := by
  have before : page.unsigned.bytes.take 22 = page.front := by
    rw [OggPage.bytes, List.append_assoc]
    exact List.take_left' page.length_front
  have after : page.unsigned.bytes.drop 26 = page.back := by
    rw [OggPage.bytes]
    exact List.drop_left' (by simp [OggPage.unsigned])
  rw [signPage, before, after, ← right, OggPage.bytes]

namespace OggOpusWriter

/-- A packet that fits one page is appended as a page. -/
theorem writePage_short (writer : OggOpusWriter) (sink : List UInt8) {packet : List UInt8}
    (short : packet.length < 255 * 255) (flags : UInt8) (granule : UInt64) :
    ∃ page, Carries page packet flags granule writer.sequence ∧
      writer.writePage sink packet flags granule =
        (.ok (), { writer with sequence := writer.sequence + 1 }, sink ++ page.bytes) := by
  have fits := Nat.not_lt.mpr ((length_lacingValues_le_iff packet.length).mpr short)
  obtain ⟨checksum, computed⟩ :
    ∃ checksum, checksum = oggCrc32 (pageOf packet short flags granule writer.sequence 0).bytes :=
    ⟨_, rfl⟩
  let page := pageOf packet short flags granule writer.sequence checksum
  have unsigned : page.unsigned = pageOf packet short flags granule writer.sequence 0 := rfl
  have right : page.checksum = oggCrc32 page.unsigned.bytes := by
    rw [unsigned, ← computed]
    rfl
  refine ⟨page, ⟨rfl, rfl, rfl, right, unlace_lacingValues packet⟩, ?_⟩
  rw [writePage, if_neg fits, unsignedPage_eq short, ← unsigned, signPage_unsigned page right]
  rfl

theorem writePage_long (writer : OggOpusWriter) (sink : List UInt8) {packet : List UInt8}
    (long : 255 * 255 ≤ packet.length) (flags : UInt8) (granule : UInt64) :
    writer.writePage sink packet flags granule =
      (.error (.corrupt "packet too large for one page"), writer, sink) := by
  have crowded : (lacingValues packet.length).length > oggMaxSegmentsPerPage := by
    rw [gt_iff_lt, ← Nat.not_le, length_lacingValues_le_iff]
    exact Nat.not_lt.mpr long
  rw [writePage, if_pos crowded]

end OggOpusWriter

end Lumepeer.Media
