import Lumepeer.Media.Export.Proofs.Page

/-!
# The exported audio stream

What the Ogg writer has put on pages, kept as an invariant while the packets
arrive: they demultiplex to the two headers and the packets so far, the pages
are numbered from 0, each granule position is the number of samples up to its
page, and only a page written as the last one closes the stream.
-/

namespace Lumepeer.Media
open Lumepeer.Lib Lumepeer.Core
open scoped Polynomial

/-- The samples of a packet at 48 kHz, 0 where its TOC is not valid. -/
def samplesOf (packet : List UInt8) : Nat :=
  match packetSamples48k packet with
  | .ok samples => samples.toNat
  | .error _ => 0

/-- The samples of several packets. -/
def playedSamples : List (List UInt8) → Nat
  | [] => 0
  | packet :: packets => samplesOf packet + playedSamples packets

/-- A packet with a valid TOC that fits one page. -/
def Exportable (packet : List UInt8) : Prop :=
  packet.length < 255 * 255 ∧ ∃ samples, packetSamples48k packet = .ok samples

/-- The pages are an Ogg stream of the two Opus headers and the packets, one packet a page: page 0
begins it, its last page closes it if it has `ended`, and page `i + 1` ends after the samples of
the first `i` packets. -/
structure OggOpus (channels : UInt8) (packets : List (List UInt8)) (ended : Bool)
    (pages : List OggPage) : Prop where
  demuxed : demux pages = (opusHead channels :: opusTags :: packets, [])
  count : pages.length = packets.length + 2
  sequence : ∀ i page, pages[i]? = some page → page.sequence.toNat = i % 2 ^ 32
  granule : ∀ i page, pages[i]? = some page →
    page.granule.toNat = min (playedSamples (packets.take (i - 1))) (2 ^ 64 - 1)
  bos : ∀ i page, pages[i]? = some page → (page.bos = true ↔ i = 0)
  eos : ∀ i page, pages[i]? = some page → (page.eos = true ↔ ended = true ∧ i + 1 = pages.length)
  checksum : ∀ page ∈ pages, toPolynomial page.checksum.toBitVec =
    messagePoly page.unsigned.bytes * Polynomial.X ^ 32 %ₘ generatorPoly oggGenerator

theorem playedSamples_append (packets more : List (List UInt8)) :
    playedSamples (packets ++ more) = playedSamples packets + playedSamples more := by
  induction packets with
  | nil => simp [playedSamples]
  | cons packet packets ih =>
      rw [List.cons_append, playedSamples, playedSamples, ih, Nat.add_assoc]

theorem playedSamples_concat (packets : List (List UInt8)) (packet : List UInt8) :
    playedSamples (packets ++ [packet]) = playedSamples packets + samplesOf packet := by
  rw [playedSamples_append]
  rfl

/-- A property of every page and its number, one page at a time. -/
theorem forall_getElem?_concat {P : Nat → OggPage → Prop} {pages : List OggPage} {page : OggPage}
    (before : ∀ i old, pages[i]? = some old → P i old) (here : P pages.length page) :
    ∀ i any, (pages ++ [page])[i]? = some any → P i any := by
  intro i any found
  by_cases old : i < pages.length
  · rw [List.getElem?_append_left old] at found
    exact before i any found
  · rw [List.getElem?_append_right (Nat.le_of_not_lt old)] at found
    cases place : i - pages.length with
    | zero =>
        rw [place] at found
        cases found
        rwa [show i = pages.length by omega]
    | succ more =>
        rw [place] at found
        cases found

/-- The flags of a packet's page: it closes the stream or has none. -/
theorem flags_of_emit {page : OggPage} {last : Bool}
    (flags : page.flags = if last then oggFlagEos else 0) :
    page.bos = false ∧ page.eos = last := by
  rw [OggPage.bos, OggPage.eos, flags]
  cases last <;> decide

variable {channels : UInt8} {packets : List (List UInt8)} {pages : List OggPage}

/-- One more packet on a page of its own. -/
theorem OggOpus.concat (stream : OggOpus channels packets false pages) {packet : List UInt8}
    {page : OggPage} {last : Bool} {granule : UInt64} {sequence : UInt32}
    (carries : Carries page packet (if last then oggFlagEos else 0) granule sequence)
    (numbered : sequence.toNat = pages.length % 2 ^ 32)
    (timed : granule.toNat = min (playedSamples (packets ++ [packet])) (2 ^ 64 - 1)) :
    OggOpus channels (packets ++ [packet]) last (pages ++ [page]) := by
  have count := stream.count
  obtain ⟨notFirst, closes⟩ := flags_of_emit carries.flags_eq
  constructor
  case demuxed => exact demux_concat stream.demuxed carries.packet_eq
  case count =>
    rw [List.length_append, List.length_append, count, List.length_singleton,
      List.length_singleton]
  case sequence =>
    apply forall_getElem?_concat stream.sequence
    rw [carries.sequence_eq, numbered]
  case granule =>
    apply forall_getElem?_concat
    · intro i old found
      have inside : i < pages.length := (List.getElem?_eq_some_iff.mp found).1
      rw [List.take_append_of_le_length (by omega)]
      exact stream.granule i old found
    · have all : (packets ++ [packet]).length ≤ pages.length - 1 := by
        rw [List.length_append, List.length_singleton]
        omega
      rw [carries.granule_eq, timed, List.take_of_length_le all]
  case bos =>
    apply forall_getElem?_concat stream.bos
    rw [notFirst]
    constructor
    · exact nofun
    · omega
  case eos =>
    rw [List.length_append, List.length_singleton]
    apply forall_getElem?_concat
    · intro i old found
      have inside : i < pages.length := (List.getElem?_eq_some_iff.mp found).1
      rw [stream.eos i old found]
      constructor
      · exact fun closed => absurd closed.1 Bool.false_ne_true
      · omega
    · rw [closes]
      exact (and_iff_left rfl).symm
  case checksum =>
    intro any member
    rcases List.mem_append.mp member with old | new
    · exact stream.checksum any old
    · rw [List.mem_singleton.mp new]
      exact carries.remainder

/-- The two header pages. -/
theorem OggOpus.headers {head tags : OggPage}
    (carriesHead : Carries head (opusHead channels) oggFlagBos 0 0)
    (carriesTags : Carries tags opusTags 0 0 1) : OggOpus channels [] false [head, tags] := by
  have first : head.bos = true ∧ head.eos = false := by
    rw [OggPage.bos, OggPage.eos, carriesHead.flags_eq]
    decide
  have second : tags.bos = false ∧ tags.eos = false := flags_of_emit carriesTags.flags_eq
  have each : ∀ {P : Nat → OggPage → Prop}, P 0 head → P 1 tags →
      ∀ i page, [head, tags][i]? = some page → P i page := by
    intro P atHead atTags i page found
    match i, found with
    | 0, found =>
        cases found
        exact atHead
    | 1, found =>
        cases found
        exact atTags
  constructor
  case demuxed =>
    have none : demux [] = ([], []) := rfl
    exact demux_concat (demux_concat none carriesHead.packet_eq) carriesTags.packet_eq
  case count => rfl
  case sequence =>
    apply each
    · rw [carriesHead.sequence_eq]
      rfl
    · rw [carriesTags.sequence_eq]
      rfl
  case granule =>
    apply each
    · rw [carriesHead.granule_eq]
      rfl
    · rw [carriesTags.granule_eq]
      rfl
  case bos => exact each (by simp [first]) (by simp [second])
  case eos => exact each (by simp [first]) (by simp [second])
  case checksum =>
    intro page member
    rcases List.mem_pair.mp member with rfl | rfl
    · exact carriesHead.remainder
    · exact carriesTags.remainder

/-- The state of a writer after some packets: their pages are in the sink, and its counters stand
at the next page. -/
structure Writing (channels : UInt8) (packets : List (List UInt8)) (pages : List OggPage)
    (writer : OggOpusWriter) (audio : List UInt8) : Prop where
  audio_eq : audio = pages.flatMap OggPage.bytes
  stream : OggOpus channels packets false pages
  sequence : writer.sequence.toNat = pages.length % 2 ^ 32
  granule : writer.granule.toNat = min (playedSamples packets) (2 ^ 64 - 1)
  exportable : ∀ packet ∈ packets, Exportable packet

/-- The packet held back is on no page. -/
theorem Writing.hold {writer : OggOpusWriter} {audio : List UInt8}
    (held : Writing channels packets pages writer audio) (pending : Option (List UInt8)) :
    Writing channels packets pages { writer with pending } audio :=
  ⟨held.audio_eq, held.stream, held.sequence, held.granule, held.exportable⟩

theorem toNat_wrapping_succ {sequence : UInt32} {n : Nat} (numbered : sequence.toNat = n % 2 ^ 32) :
    (sequence + 1).toNat = (n + 1) % 2 ^ 32 := by
  rw [UInt32.toNat_add, numbered]
  exact Nat.mod_add_mod n (2 ^ 32) 1

namespace OggOpusWriter

variable {writer : OggOpusWriter} {audio : List UInt8}

/-- A packet is put on a page of its own, or refused. -/
theorem emit_cases (held : Writing channels packets pages writer audio) (packet : List UInt8)
    (last : Bool) :
    (Exportable packet ∧ ∃ page next,
      writer.emit audio packet last = (.ok (), next, audio ++ page.bytes) ∧
      OggOpus channels (packets ++ [packet]) last (pages ++ [page]) ∧
      next.sequence.toNat = (pages.length + 1) % 2 ^ 32 ∧
      next.granule.toNat = min (playedSamples (packets ++ [packet])) (2 ^ 64 - 1)) ∨
    ¬ Exportable packet ∧ ∃ e next sink, writer.emit audio packet last = (.error e, next, sink) := by
  cases valid : packetSamples48k packet with
  | error e =>
      right
      constructor
      · rintro ⟨-, samples, isOk⟩
        rw [valid] at isOk
        cases isOk
      · rw [emit, valid]
        exact ⟨_, _, _, rfl⟩
  | ok samples =>
      have timed : (saturatingAdd64 writer.granule samples.toUInt64).toNat =
          min (playedSamples (packets ++ [packet])) (2 ^ 64 - 1) := by
        have counted : samplesOf packet = samples.toNat := by rw [samplesOf, valid]
        rw [toNat_saturatingAdd64, held.granule, playedSamples_concat, counted,
          UInt32.toNat_toUInt64]
        omega
      rw [emit, valid]
      simp only
      by_cases short : packet.length < 255 * 255
      · left
        refine ⟨⟨short, samples, valid⟩, ?_⟩
        obtain ⟨page, carries, wrote⟩ := writePage_short
          { writer with granule := saturatingAdd64 writer.granule samples.toUInt64 } audio short
          (if last then oggFlagEos else 0) (saturatingAdd64 writer.granule samples.toUInt64)
        rw [wrote]
        exact ⟨page, _, rfl, held.stream.concat carries held.sequence timed,
          toNat_wrapping_succ held.sequence, timed⟩
      · right
        refine ⟨fun exportable => short exportable.1, ?_⟩
        rw [writePage_long _ audio (Nat.le_of_not_lt short)]
        exact ⟨_, _, _, rfl⟩

theorem length_opusHead (channels : UInt8) : (opusHead channels).length = 19 := rfl

/-- The writer begins with the two header pages. -/
theorem begin_nil (channels : UInt8) : ∃ writer pages,
    begin ([] : List UInt8) channels = (.ok writer, pages.flatMap OggPage.bytes) ∧
      writer.pending = none ∧ Writing channels [] pages writer (pages.flatMap OggPage.bytes) := by
  have headShort : (opusHead channels).length < 255 * 255 := by
    rw [length_opusHead]
    decide
  have tagsShort : opusTags.length < 255 * 255 := by decide
  have vendorShort : (asBytes opusTagsVendor).length < 2 ^ 32 := by decide
  obtain ⟨head, carriesHead, wroteHead⟩ := writePage_short
    { sequence := 0, granule := 0, pending := none } [] headShort oggFlagBos 0
  obtain ⟨tags, carriesTags, wroteTags⟩ := writePage_short
    { sequence := 0 + 1, granule := 0, pending := none } ([] ++ head.bytes) tagsShort 0 0
  refine ⟨{ sequence := 0 + 1 + 1, granule := 0, pending := none }, [head, tags], ?_, rfl, ?_⟩
  · rw [begin, wroteHead]
    simp only [if_pos vendorShort, wroteTags]
    simp
  · exact ⟨rfl, OggOpus.headers carriesHead carriesTags, rfl, rfl, nofun⟩

end OggOpusWriter

end Lumepeer.Media
