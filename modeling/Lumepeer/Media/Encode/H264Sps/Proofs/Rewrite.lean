import Lumepeer.Media.Encode.H264Sps.Proofs.Reader
import Lumepeer.Media.Encode.H264Sps.Proofs.Units
import Lumepeer.Media.Encode.H264Sps.Proofs.Writer

/-!
# A rewritten stream

A parameter set without a restriction is rewritten into one that a decoder reads
to the same point, finds the restriction there and no reordering in it; every
other byte of the stream stays, and a second rewriting has nothing to do.
-/

namespace Lumepeer.Media.H264Sps
open Lumepeer.Lib AnnexB BitReader

/-! ## Reading the restriction -/

/-- `read_sps`, with its two places where the reader's position is kept. -/
theorem readSps_eq (r : BitReader) :
    readSps r = (readBeforeVui r).bind fun (n, atVui) => (flag atVui).bind fun (hasVui, r) =>
      if hasVui = true then
        (readBeforeRestriction r).bind fun (_, atFlag) => (flag atFlag).bind fun (said, r) =>
          some (⟨n, if said = true then .present else .absent atFlag.position⟩, r)
      else some (⟨n, .noVui atVui.position⟩, r) := by
  change (readBeforeVui r).bind _ = _
  congr 1
  funext ⟨n, atVui⟩
  change (flag atVui).bind _ = _
  congr 1
  funext ⟨hasVui, r⟩
  cases hasVui with
  | false => rfl
  | true =>
      change (readBeforeRestriction r).bind _ = (readBeforeRestriction r).bind _
      congr 1
      funext ⟨_, atFlag⟩
      change (flag atFlag).bind _ = (flag atFlag).bind _
      congr 1
      funext ⟨said, r⟩
      cases said <;> rfl

/-- What precedes the restriction decides that it is read. -/
theorem reads_readSps {word vui : List Bool} {n : UInt32} (before : Reads readBeforeVui word n)
    (inVui : Reads readBeforeRestriction vui ()) :
    Reads readSps (word ++ ([true] ++ (vui ++ [true]))) ⟨n, .present⟩ := by
  intro r rest isAhead
  simp only [List.append_assoc] at isAhead
  have atVui := ahead_skip isAhead
  have atNext := ahead_skip atVui
  have atFlag := ahead_skip atNext
  simp only [readSps_eq, before r _ isAhead, reads_flag true _ _ atVui, inVui _ _ atNext,
    reads_flag true _ _ atFlag, Option.bind_some, if_true]
  simp only [skip_skip, List.length_append, Nat.add_assoc]

/-- A VUI that says nothing before its restriction. -/
theorem reads_empty_vui : Reads readBeforeRestriction (List.replicate 8 false) () := by
  have off (m : Read Unit) : Reads (whenFlag m) [false] () :=
    (reads_flag false).bind (reads_pure ())
  exact (off _).bind ((off _).bind ((off _).bind ((off _).bind ((off _).bind
    ((reads_flag false).bind ((reads_pure ()).bind ((reads_flag false).bind
      ((reads_pure ()).bind ((reads_pure ()).bind ((reads_flag false).bind
        (reads_pure ())))))))))))

/-- The restriction as it is written. -/
def restrictionBits (n : UInt32) : List Bool :=
  [true] ++ ((expGolomb 0 ++ (expGolomb 0 ++ (expGolomb 16 ++ (expGolomb 16 ++ [])))) ++
    (expGolomb 0 ++ (expGolomb (max n 1).toNat ++ [])))

theorem reads_readRestriction {n : UInt32} (small : n.toNat + 1 < 2 ^ 32) :
    Reads readRestriction (restrictionBits n) (0, max n 1) := by
  have zero : Reads ue (expGolomb (0 : UInt32).toNat) 0 := reads_ue (by decide)
  have sixteen : Reads ue (expGolomb (16 : UInt32).toNat) 16 := reads_ue (by decide)
  have buffering : Reads ue (expGolomb (max n 1).toNat) (max n 1) := by
    apply reads_ue
    rw [toNat_max32, UInt32.toNat_one]
    omega
  exact (reads_flag true).bind ((zero.discard.bind (zero.discard.bind (sixteen.discard.bind
    (sixteen.discard.bind (reads_pure ()))))).bind (zero.bind (buffering.bind (reads_pure _))))

/-- What `read_sps` has read where it succeeds: the bits up to the VUI, and the VUI
up to its restriction if there is one. -/
theorem readSps_eq_some {rbsp : List UInt8} {layout : SpsLayout} {r : BitReader}
    (read : readSps (new rbsp) = some (layout, r)) :
    ∃ word rest, bytesToBits rbsp = word ++ rest ∧ Reads readBeforeVui word layout.maxNumRefFrames ∧
      layout.maxNumRefFrames.toNat + 1 < 2 ^ 32 ∧
      (layout.restriction = .noVui word.length ∨
        ∃ vui rest', rest = [true] ++ (vui ++ rest') ∧ Reads readBeforeRestriction vui () ∧
          (layout.restriction = .present ∨
            layout.restriction = .absent (word.length + (1 + vui.length)))) := by
  rw [readSps_eq] at read
  obtain ⟨⟨n, atVui⟩, before, read⟩ := Option.bind_eq_some_iff.mp read
  have small := yields_readBeforeVui _ _ _ before
  obtain ⟨word, rest, isAhead, rfl, reads⟩ := steady_readBeforeVui _ _ _ before
  obtain ⟨⟨hasVui, behindFlag⟩, isFlag, read⟩ := Option.bind_eq_some_iff.mp read
  obtain ⟨inVui, isVui, rfl⟩ := flag_eq_some isFlag
  rw [ahead_skip isAhead] at isVui
  cases hasVui with
  | false =>
      cases read
      refine ⟨word, rest, isAhead, reads, small, .inl ?_⟩
      simp [new]
  | true =>
      simp only [if_true] at read
      obtain ⟨⟨_, atFlag⟩, ran, read⟩ := Option.bind_eq_some_iff.mp read
      obtain ⟨vui, rest', isRest, rfl, readsVui⟩ := steady_readBeforeRestriction _ _ _ ran
      obtain ⟨⟨said, last⟩, _, read⟩ := Option.bind_eq_some_iff.mp read
      have atVui : ((new rbsp).skip word.length).ahead = [true] ++ inVui := by
        rw [ahead_skip isAhead, isVui]
      have behindFlag : (((new rbsp).skip word.length).skip 1).ahead = inVui := ahead_skip atVui
      rw [behindFlag] at isRest
      cases read
      refine ⟨word, rest, isAhead, reads, small, .inr ⟨vui, rest', ?_, readsVui, ?_⟩⟩
      · rw [isVui, isRest]
      · cases said with
        | true => exact .inl rfl
        | false =>
            right
            simp [new, Nat.add_assoc]

/-! ## A rewritten parameter set -/

/-- The bit at which a restriction is to be added. -/
def Restriction.flagAt? : Restriction → Option Nat
  | .present => none
  | .absent flagAt => some flagAt
  | .noVui flagAt => some flagAt

/-- `max_num_ref_frames` of a sequence parameter set without a restriction, and the
bit at which one is to be added. -/
def lackingRestriction (nal : List UInt8) : Option (UInt32 × Nat) := do
  let header ← nal.head?
  if header &&& 0x1f = nalSps then do
    let (layout, _) ← readSps (new (unescape nal.tail))
    let flagAt ← layout.restriction.flagAt?
    some (layout.maxNumRefFrames, flagAt)
  else none

/-- `nal'` is the parameter set `nal` with a restriction at `flagAt`: the bits before
it are those of `nal`, a decoder reads out of it that nothing is reordered, and it
holds neither a start code nor three zero bytes. -/
structure SaysNoReordering (nal nal' : List UInt8) (maxNumRefFrames : UInt32) (flagAt : Nat) :
    Prop where
  header : nal'.head? = nal.head?
  inside : flagAt ≤ (bytesToBits (unescape nal.tail)).length
  kept : (bytesToBits (unescape nal.tail)).take flagAt ++ [true] <+:
    bytesToBits (unescape nal'.tail)
  said : reorderOf nal' = some (maxNumRefFrames, some (0, max maxNumRefFrames 1))
  noStartCode : ¬ [0, 0, 1] <:+: nal'
  noZeros : ¬ [0, 0, 0] <:+: nal'

/-- The bits up to the restriction. -/
theorem wrote_restrictionFlag {rbsp : List UInt8} {layout : SpsLayout} {r : BitReader}
    (read : readSps (new rbsp) = some (layout, r)) {flagAt : Nat}
    (lacks : layout.restriction.flagAt? = some flagAt) :
    ∃ w word vui, restrictionFlag rbsp layout.restriction = some w ∧
      Reads readBeforeVui word layout.maxNumRefFrames ∧ Reads readBeforeRestriction vui () ∧
      Wrote w (word ++ ([true] ++ (vui ++ [true]))) ∧
      flagAt ≤ (bytesToBits rbsp).length ∧
      (bytesToBits rbsp).take flagAt ++ [true] <+: word ++ ([true] ++ (vui ++ [true])) := by
  obtain ⟨word, rest, isBits, reads, _, noVui | ⟨vui, rest', isRest, readsVui, present | absent⟩⟩ :=
    readSps_eq_some read
  · rw [noVui] at lacks ⊢
    cases lacks
    have inside : word.length ≤ (bytesToBits rbsp).length := by simp [isBits]
    have front : (bytesToBits rbsp).take word.length = word := by
      rw [isBits, List.take_left' rfl]
    refine ⟨_, word, List.replicate 8 false, rfl, reads, reads_empty_vui, ?_, inside, ?_⟩
    · have copied := (wrote_nothing.copy inside).flag true
      have wrote := (copied.flags (List.replicate 8 false)).flag true
      rw [front] at wrote
      simpa using wrote
    · rw [front, List.prefix_append_right_inj]
      exact List.prefix_append _ _
  · rw [present] at lacks
    cases lacks
  · rw [absent] at lacks ⊢
    cases lacks
    have width : (word ++ ([true] ++ vui)).length = word.length + (1 + vui.length) := by
      simp [Nat.add_comm 1]
    have regroup : bytesToBits rbsp = word ++ ([true] ++ vui) ++ rest' := by
      rw [isBits, isRest, List.append_assoc, List.append_assoc]
    have inside : word.length + (1 + vui.length) ≤ (bytesToBits rbsp).length := by
      rw [← width, regroup]
      exact (List.prefix_append _ _).length_le
    have front : (bytesToBits rbsp).take (word.length + (1 + vui.length)) =
        word ++ ([true] ++ vui) := by
      rw [regroup, List.take_left' width]
    have same : word ++ ([true] ++ vui) ++ [true] = word ++ ([true] ++ (vui ++ [true])) := by simp
    refine ⟨_, word, vui, rfl, reads, readsVui, ?_, inside, ?_⟩
    · have wrote := (wrote_nothing.copy inside).flag true
      rw [front, List.nil_append, same] at wrote
      exact wrote
    · exact front ▸ same ▸ List.prefix_rfl

/-- The writer after the restriction. -/
def withRestriction (w : BitWriter) (n : UInt32) : BitWriter :=
  ((((((w.flag true).ue 0).ue 0).ue log2MaxMvLengthUnrestricted).ue
    log2MaxMvLengthUnrestricted).ue 0).ue (max n 1)

theorem Wrote.restriction {w : BitWriter} {bits : List Bool} (wrote : Wrote w bits) (n : UInt32) :
    Wrote (withRestriction w n) (bits ++ restrictionBits n) := by
  have all := ((((((wrote.flag true).ue 0).ue 0).ue 16).ue 16).ue 0).ue (max n 1)
  simpa [withRestriction, restrictionBits, log2MaxMvLengthUnrestricted] using all

/-- What a decoder reads out of a written parameter set. -/
theorem reorderOf_written {rbsp : List UInt8} {word vui rest : List Bool} {n : UInt32}
    (header : UInt8) (before : Reads readBeforeVui word n)
    (inVui : Reads readBeforeRestriction vui ()) (small : n.toNat + 1 < 2 ^ 32)
    (isBits : bytesToBits rbsp =
      word ++ ([true] ++ (vui ++ [true])) ++ (restrictionBits n ++ rest)) :
    reorderOf (header :: escape rbsp) = some (n, some (0, max n 1)) := by
  have atStart : (new rbsp).ahead =
      word ++ ([true] ++ (vui ++ [true])) ++ (restrictionBits n ++ rest) := isBits
  have sps := reads_readSps before inVui _ _ atStart
  have said := reads_readRestriction small _ _ (ahead_skip atStart)
  rw [reorderOf, List.tail_cons, unescape_escape, sps]
  simp only [Option.bind_eq_bind, Option.bind_some, if_true, said]

/-- Only parameter sets are rewritten. -/
theorem rewriteUnit_cons (header : UInt8) (payload : List UInt8) :
    rewriteUnit (header :: payload) =
      if header &&& 0x1f = nalSps then spsWithoutReordering (header :: payload) else none := by
  by_cases isSps : header &&& 0x1f = nalSps
  · simp [rewriteUnit, Option.filter, isSps]
  · simp [rewriteUnit, Option.filter, isSps]

theorem spsWithoutReordering_cons {header : UInt8} {payload : List UInt8} {layout : SpsLayout}
    {r : BitReader} (read : readSps (new (unescape payload)) = some (layout, r)) :
    spsWithoutReordering (header :: payload) =
      (restrictionFlag (unescape payload) layout.restriction).map fun w =>
        header :: escape (withRestriction w layout.maxNumRefFrames).finish := by
  simp only [spsWithoutReordering, read, Option.bind_eq_bind, Option.bind_some]
  cases restrictionFlag (unescape payload) layout.restriction <;> rfl

theorem restrictionFlag_eq_none_iff {rbsp : List UInt8} {restriction : Restriction} :
    restrictionFlag rbsp restriction = none ↔ restriction.flagAt? = none := by
  cases restriction <;> simp [restrictionFlag, Restriction.flagAt?]

theorem saysNoReordering_written {header : UInt8} {payload : List UInt8} {layout : SpsLayout}
    {r : BitReader} {flagAt : Nat} (notZero : header ≠ 0)
    (read : readSps (new (unescape payload)) = some (layout, r))
    (lacks : layout.restriction.flagAt? = some flagAt) :
    ∃ rbsp, spsWithoutReordering (header :: payload) = some (header :: escape rbsp) ∧
      SaysNoReordering (header :: payload) (header :: escape rbsp) layout.maxNumRefFrames flagAt ∧
      rbsp.getLast? ≠ some 0 := by
  obtain ⟨_, _, _, _, small, _⟩ := readSps_eq_some read
  obtain ⟨w, word, vui, flagged, before, inVui, wrote, inside, kept⟩ :=
    wrote_restrictionFlag read lacks
  obtain ⟨free, few, isBits⟩ := (wrote.restriction layout.maxNumRefFrames).finish
  have ends := getLast?_ne_zero few isBits
  have rewrites : spsWithoutReordering (header :: payload) = _ := spsWithoutReordering_cons read
  rw [flagged, Option.map_some] at rewrites
  generalize (withRestriction w layout.maxNumRefFrames).finish = rbsp at isBits ends rewrites
  rw [List.append_assoc] at isBits
  refine ⟨rbsp, rewrites, ?_, ends⟩
  constructor
  case header => rfl
  case inside => exact inside
  case kept =>
    rw [List.tail_cons, List.tail_cons, unescape_escape, isBits]
    exact kept.trans (List.prefix_append _ _)
  case said => exact reorderOf_written header before inVui small isBits
  case noStartCode => exact guarded_nal notZero (by decide) rbsp
  case noZeros => exact guarded_nal notZero (by decide) rbsp

theorem rewriteUnit_eq_some {nal : List UInt8} {n : UInt32} {flagAt : Nat}
    (lacks : lackingRestriction nal = some (n, flagAt)) :
    ∃ nal', rewriteUnit nal = some nal' ∧ SaysNoReordering nal nal' n flagAt ∧
      nal'.getLast? ≠ some 0 := by
  cases nal with
  | nil => cases lacks
  | cons header payload =>
      by_cases isSps : header &&& 0x1f = nalSps
      · have notZero : header ≠ 0 := by
          rintro rfl
          exact absurd isSps (by decide)
        simp only [lackingRestriction, List.head?_cons, Option.bind_eq_bind, Option.bind_some,
          isSps, if_true, List.tail_cons, Option.bind_eq_some_iff, Option.some.injEq,
          Prod.mk.injEq] at lacks
        obtain ⟨⟨layout, r⟩, read, flagAt', isFlagAt, rfl, rfl⟩ := lacks
        obtain ⟨rbsp, rewrites, isSaid, ends⟩ := saysNoReordering_written notZero read isFlagAt
        refine ⟨header :: escape rbsp, ?_, isSaid, getLast?_nal notZero ends⟩
        rw [rewriteUnit_cons, if_pos isSps, rewrites]
      · simp [lackingRestriction, isSps] at lacks

theorem rewriteUnit_eq_none {nal : List UInt8} (lacks : lackingRestriction nal = none) :
    rewriteUnit nal = none := by
  cases nal with
  | nil => rfl
  | cons header payload =>
      rw [rewriteUnit_cons]
      by_cases isSps : header &&& 0x1f = nalSps
      · rw [if_pos isSps]
        cases read : readSps (new (unescape payload)) with
        | none => simp [spsWithoutReordering, read]
        | some result =>
            have none : result.1.restriction.flagAt? = none := by
              rw [Option.eq_none_iff_forall_ne_some]
              simpa [lackingRestriction, isSps, read] using lacks
            rw [spsWithoutReordering_cons read, restrictionFlag_eq_none_iff.mpr none]
            rfl
      · rw [if_neg isSps]

/-! ## The stream -/

/-- A unit and what becomes of it: a parameter set without a restriction gets one,
anything else stays. -/
def Preserved (nal nal' : List UInt8) : Prop :=
  match lackingRestriction nal with
  | some (maxNumRefFrames, flagAt) => SaysNoReordering nal nal' maxNumRefFrames flagAt
  | none => nal' = nal

/-- What becomes of a unit. -/
theorem rewritten_cases (nal : List UInt8) :
    (lackingRestriction nal = none ∧ rewritten nal = nal) ∨
      ∃ n flagAt, lackingRestriction nal = some (n, flagAt) ∧
        SaysNoReordering nal (rewritten nal) n flagAt ∧ (rewritten nal).getLast? ≠ some 0 := by
  cases lacks : lackingRestriction nal with
  | none =>
      left
      rw [rewritten, rewriteUnit_eq_none lacks, Option.getD_none]
      exact ⟨rfl, rfl⟩
  | some result =>
      right
      obtain ⟨nal', rewrites, isSaid, ends⟩ := rewriteUnit_eq_some lacks
      rw [rewritten, rewrites, Option.getD_some]
      exact ⟨result.1, result.2, rfl, isSaid, ends⟩

theorem preserved_rewritten (nal : List UInt8) : Preserved nal (rewritten nal) := by
  unfold Preserved
  rcases rewritten_cases nal with ⟨lacks, same⟩ | ⟨n, flagAt, lacks, isSaid, _⟩
  · rw [lacks]
    exact same
  · rw [lacks]
    exact isSaid

theorem plain_rewritten {nal : List UInt8} (plain : Plain nal) : Plain (rewritten nal) := by
  rcases rewritten_cases nal with ⟨_, same⟩ | ⟨n, flagAt, _, isSaid, _⟩
  · rwa [same]
  · exact isSaid.noStartCode

theorem getLast?_rewritten {nal : List UInt8} (notZero : nal.getLast? ≠ some 0) :
    (rewritten nal).getLast? ≠ some 0 := by
  rcases rewritten_cases nal with ⟨_, same⟩ | ⟨n, flagAt, _, _, ends⟩
  · rwa [same]
  · exact ends

/-- A parameter set that says it is left alone. -/
theorem lackingRestriction_of_reorderOf {nal : List UInt8} {n : UInt32} {said : UInt32 × UInt32}
    (reorder : reorderOf nal = some (n, some said)) : lackingRestriction nal = none := by
  obtain ⟨⟨layout, r⟩, read, rest⟩ := Option.bind_eq_some_iff.mp reorder
  have present : layout.restriction = .present := by
    by_contra absent
    simp [absent] at rest
  cases nal with
  | nil => rfl
  | cons header payload =>
      rw [List.tail_cons] at read
      simp [lackingRestriction, read, present, Restriction.flagAt?]

theorem rewriteUnit_rewritten (nal : List UInt8) : rewriteUnit (rewritten nal) = none := by
  apply rewriteUnit_eq_none
  rcases rewritten_cases nal with ⟨lacks, same⟩ | ⟨n, flagAt, _, isSaid, _⟩
  · rw [same]
    exact lacks
  · exact lackingRestriction_of_reorderOf isSaid.said

/-- Every stream is cut into units or has none; no index leaves it. A rewritten
stream is cut into the same units at the same start codes, except that each
parameter set without a restriction says that nothing is reordered, and rewriting
it again changes nothing. -/
theorem sps_rewriting_preserves_the_stream (s : List UInt8) :
    ∃ result, withoutReordering s = some result ∧ ∀ t, result = some t →
      ∃ lead units units', s = lead ++ render units ∧ t = lead ++ render units' ∧
        nalContents s = some (units.map Nal.body) ∧ nalContents t = some (units'.map Nal.body) ∧
        List.Forall₂ (fun unit unit' => unit'.zeros = unit.zeros ∧ Preserved unit.body unit'.body)
          units units' ∧
        withoutReordering t = some none := by
  obtain ⟨lead, units, rfl, plain, sound⟩ := exists_layout s
  refine ⟨_, withoutReordering_eq plain sound, ?_⟩
  intro t isT
  have rewrites : t = lead ++ render (mapBodies rewritten units) := by
    split at isT
    · exact (Option.some.inj isT).symm
    · cases isT
  have sound' : Sound (mapBodies rewritten units) :=
    sound.mapBodies (fun _ => plain_rewritten) (fun _ => getLast?_rewritten)
  refine ⟨lead, units, mapBodies rewritten units, rfl, rewrites, nalContents_eq plain sound, ?_, ?_,
    ?_⟩
  · rw [rewrites]
    exact nalContents_eq plain sound'
  · rw [mapBodies, List.forall₂_map_right_iff]
    exact List.forall₂_same.mpr fun unit _ => ⟨rfl, preserved_rewritten unit.body⟩
  · have done : (mapBodies rewritten units).any (fun unit => (rewriteUnit unit.body).isSome) =
        false := by
      simp [mapBodies, rewriteUnit_rewritten]
    rw [rewrites, withoutReordering_eq plain sound', done]
    rfl

-- The keyframe of the tests: the restriction follows the bits of its parameter set.
example :
    withoutReordering [0, 0, 0, 1, 0x27, 0x4d, 0x40, 0x1e, 0xa9, 0x18, 0x18, 0x06, 0xbf, 0x26, 0x02,
      0xd4, 0x08, 0x08, 0x08, 0xc2, 0xb5, 0xef, 0x7c, 0x04, 0, 0, 0, 1, 0x28, 0xfe, 0x09, 0xc8] =
    some (some [0, 0, 0, 1, 0x27, 0x4d, 0x40, 0x1e, 0xa9, 0x18, 0x18, 0x06, 0xbf, 0x26, 0x02,
      0xd4, 0x08, 0x08, 0x08, 0xc2, 0xb5, 0xef, 0x7c, 0x0f, 0x08, 0x84, 0x6e, 0, 0, 0, 1, 0x28,
      0xfe, 0x09, 0xc8]) := by
  decide +kernel

end Lumepeer.Media.H264Sps
