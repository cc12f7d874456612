import Lumepeer.Lib.Bytes

/-!
# Ogg pages

A page is a header, a table of lacing values and the segments they measure. A
packet is cut into segments: 255 says that the packet goes on in the next
segment, also across a page boundary, and a smaller value that it ends with this
one. `oggPages` reads a byte string as pages, `demux` reads the packets off them.
-/

namespace Lumepeer.Lib

/-- The bytes the lacing values measure. -/
def lacingTotal : List UInt8 → Nat
  | [] => 0
  | value :: lacing => value.toNat + lacingTotal lacing

/-- A page of version 0: at most 255 segments, and a body that fills them. -/
@[ext]
structure OggPage where
  flags : UInt8
  granule : UInt64
  serial : UInt32
  sequence : UInt32
  checksum : UInt32
  lacing : List UInt8
  body : List UInt8
  segments : lacing.length ≤ 255
  filled : body.length = lacingTotal lacing

/-- The capture pattern `OggS`. -/
def capturePattern : List UInt8 := [0x4F, 0x67, 0x67, 0x53]

namespace OggPage

/-- The fields before the checksum. -/
def front (page : OggPage) : List UInt8 :=
  capturePattern ++ [0] ++ [page.flags] ++ toLeBytes64 page.granule ++ toLeBytes32 page.serial
    ++ toLeBytes32 page.sequence

/-- The segment table and the segments. -/
def back (page : OggPage) : List UInt8 :=
  [UInt8.ofNat page.lacing.length] ++ page.lacing ++ page.body

/-- The bytes of a page. -/
def bytes (page : OggPage) : List UInt8 := page.front ++ toLeBytes32 page.checksum ++ page.back

/-- The page with its checksum field zeroed. -/
def unsigned (page : OggPage) : OggPage := { page with checksum := 0 }

/-- The first page of a stream. -/
def bos (page : OggPage) : Bool := page.flags &&& 0x02 ≠ 0

/-- The last page of a stream. -/
def eos (page : OggPage) : Bool := page.flags &&& 0x04 ≠ 0

/-- The page at the front of the bytes and what follows it. -/
def parse (bytes : List UInt8) : Option (OggPage × List UInt8) := do
  let (capture, bytes) ← splitBytes 4 bytes
  let (version, bytes) ← splitBytes 1 bytes
  if capture.toList ≠ capturePattern ∨ version.head ≠ 0 then none
  let (flags, bytes) ← splitBytes 1 bytes
  let (granule, bytes) ← splitBytes 8 bytes
  let (serial, bytes) ← splitBytes 4 bytes
  let (sequence, bytes) ← splitBytes 4 bytes
  let (checksum, bytes) ← splitBytes 4 bytes
  let (count, bytes) ← splitBytes 1 bytes
  let (lacing, bytes) ← splitBytes count.head.toNat bytes
  let (body, bytes) ← splitBytes (lacingTotal lacing.toList) bytes
  let page : OggPage :=
    { flags := flags.head
      granule := fromLeBytes64 granule
      serial := fromLeBytes32 serial
      sequence := fromLeBytes32 sequence
      checksum := fromLeBytes32 checksum
      lacing := lacing.toList
      body := body.toList
      segments := by
        rw [lacing.toList_length]
        exact Nat.le_of_lt_succ count.head.toNat_lt
      filled := body.toList_length }
  some (page, bytes)

/-- A page is read back, whatever follows it. -/
theorem parse_bytes (page : OggPage) (rest : List UInt8) :
    parse (page.bytes ++ rest) = some (page, rest) := by
  have counted : page.lacing.length = (UInt8.ofNat page.lacing.length).toNat :=
    (UInt8.toNat_ofNat_of_lt' (Nat.lt_succ_of_le page.segments)).symm
  have lacing : splitBytes (UInt8.ofNat page.lacing.length).toNat
      (page.lacing ++ (page.body ++ rest)) = some (⟨page.lacing, counted⟩, page.body ++ rest) :=
    splitBytes_of_length counted _
  have body := splitBytes_of_length page.filled rest
  -- the fields one by one, each of the length it is read with
  rw [parse, bytes, front, back]
  simp only [List.append_assoc, splitBytes_of_length (length_toLeBytes64 _),
    splitBytes_of_length (length_toLeBytes32 _),
    splitBytes_of_length (show capturePattern.length = 4 from rfl),
    splitBytes_of_length (show [_].length = 1 from rfl), Option.bind_eq_bind, Option.bind_some,
    List.Vector.toList, List.Vector.head, lacing, body, fromLeBytes64_toLeBytes64,
    fromLeBytes32_toLeBytes32]
  rfl

theorem bytes_ne_nil (page : OggPage) : page.bytes ≠ [] := by
  simp [bytes, front, capturePattern]

@[simp] theorem length_front (page : OggPage) : page.front.length = 22 := by
  simp [front, capturePattern]

end OggPage

/-- The pages of the bytes, at most `budget` of them. -/
def parsePages : Nat → List UInt8 → Option (List OggPage)
  | _, [] => some []
  | 0, _ :: _ => none
  | budget + 1, bytes@(_ :: _) => do
      let (page, bytes) ← OggPage.parse bytes
      let pages ← parsePages budget bytes
      some (page :: pages)

/-- The pages a byte string is made of. No page is empty, so there are not more of them than
bytes. -/
def oggPages (bytes : List UInt8) : Option (List OggPage) := parsePages bytes.length bytes

theorem parsePages_flatMap (pages : List OggPage) {budget : Nat} (enough : pages.length ≤ budget) :
    parsePages budget (pages.flatMap OggPage.bytes) = some pages := by
  induction pages generalizing budget with
  | nil => cases budget <;> rfl
  | cons page pages ih =>
      cases budget with
      | zero => exact absurd enough (Nat.not_succ_le_zero _)
      | succ budget =>
          have parsed := page.parse_bytes (pages.flatMap OggPage.bytes)
          have rest := ih (Nat.le_of_succ_le_succ enough)
          rw [List.flatMap_cons]
          cases front : page.bytes with
          | nil => exact absurd front page.bytes_ne_nil
          | cons byte bytes =>
              rw [front] at parsed
              rw [List.cons_append] at parsed ⊢
              rw [parsePages, parsed]
              simp only [Option.bind_eq_bind, Option.bind_some, rest]

/-- Pages written one after the other are read back. -/
theorem oggPages_flatMap (pages : List OggPage) :
    oggPages (pages.flatMap OggPage.bytes) = some pages := by
  apply parsePages_flatMap
  induction pages with
  | nil => exact Nat.le_refl 0
  | cons page pages ih =>
      have positive := List.length_pos_of_ne_nil page.bytes_ne_nil
      rw [List.flatMap_cons, List.length_append, List.length_cons]
      omega

/-- The packets the lacing values cut a body into: those that end, the first of them after
`begun`, and what is begun and not ended. -/
def unlace (begun : List UInt8) : List UInt8 → List UInt8 → List (List UInt8) × List UInt8
  | [], _ => ([], begun)
  | value :: lacing, body =>
      let packet := begun ++ body.take value.toNat
      if value = 255 then unlace packet lacing (body.drop value.toNat)
      else
        let (packets, begun) := unlace [] lacing (body.drop value.toNat)
        (packet :: packets, begun)

/-- The packets of the pages, `begun` being the one that the first page continues. -/
def demuxFrom (begun : List UInt8) : List OggPage → List (List UInt8) × List UInt8
  | [] => ([], begun)
  | page :: pages =>
      let (ended, begun) := unlace begun page.lacing page.body
      let (packets, begun) := demuxFrom begun pages
      (ended ++ packets, begun)

/-- The packets of a stream and what is left of one that does not end. -/
def demux (pages : List OggPage) : List (List UInt8) × List UInt8 := demuxFrom [] pages

theorem demuxFrom_append (begun : List UInt8) (pages more : List OggPage) :
    demuxFrom begun (pages ++ more) =
      ((demuxFrom begun pages).1 ++ (demuxFrom (demuxFrom begun pages).2 more).1,
        (demuxFrom (demuxFrom begun pages).2 more).2) := by
  induction pages generalizing begun with
  | nil => rfl
  | cons page pages ih =>
      rw [List.cons_append]
      simp only [demuxFrom, ih, List.append_assoc]

/-- One more page, of one whole packet, after packets that all end. -/
theorem demux_concat {pages : List OggPage} {packets : List (List UInt8)} {page : OggPage}
    {packet : List UInt8} (before : demux pages = (packets, []))
    (whole : unlace [] page.lacing page.body = ([packet], [])) :
    demux (pages ++ [page]) = (packets ++ [packet], []) := by
  rw [demux] at before ⊢
  rw [demuxFrom_append, before]
  simp only [demuxFrom, whole, List.append_nil]

/-- Full segments and a last one that is not full are the lacing of one packet. -/
theorem unlace_packet (begun body : List UInt8) {count : Nat} {last : UInt8} (short : last ≠ 255)
    (length : body.length = 255 * count + last.toNat) :
    unlace begun (List.replicate count 255 ++ [last]) body = ([begun ++ body], []) := by
  induction count generalizing begun body with
  | zero =>
      have all : body.take last.toNat = body := List.take_of_length_le (by omega)
      rw [List.replicate_zero, List.nil_append, unlace]
      simp only [if_neg short, unlace, all]
  | succ count ih =>
      have rest : (body.drop 255).length = 255 * count + last.toNat := by
        rw [List.length_drop, length]
        omega
      have continued := ih (begun ++ body.take 255) (body.drop 255) rest
      rw [List.replicate_succ, List.cons_append, unlace, if_pos rfl]
      show unlace (begun ++ body.take 255) _ (body.drop 255) = _
      rw [continued, List.append_assoc, List.take_append_drop]

theorem lacingTotal_packet (count : Nat) (last : UInt8) :
    lacingTotal (List.replicate count 255 ++ [last]) = 255 * count + last.toNat := by
  induction count with
  | zero => simp [lacingTotal]
  | succ count ih =>
      rw [List.replicate_succ, List.cons_append, lacingTotal, ih]
      show 255 + (255 * count + last.toNat) = 255 * (count + 1) + last.toNat
      omega

end Lumepeer.Lib
