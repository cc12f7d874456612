import Lumepeer.Lib.Saturating
import Lumepeer.Lib.Chunks
import Mathlib.Algebra.Group.Int.Defs
import Mathlib.Data.List.ModifyLast

/-!
# An H.264 stream that never reorders

The rewriting of sequence parameter sets in `crates/media/src/encode/h264_sps.rs`.
A reader is a computation on a `BitReader` with the source's `None` as failure;
in `nalUnits` and `withoutReordering` an outer `none` is a panic, an index or a
range outside the stream. A `usize` is a `Nat`, and the counters of `unescape`
and `escape` are the `i32` Rust gives them, wrapping as in a release build.
-/

namespace Lumepeer.Media.H264Sps
open Lumepeer.Lib

/-- `NAL_SPS` (`h264_sps.rs:16`). -/
def nalSps : UInt8 := 7

/-- `HIGH_PROFILES` (`h264_sps.rs:20`). -/
def highProfiles : List UInt32 := [100, 110, 122, 244, 44, 83, 86, 118, 128, 138, 139, 134, 135]

/-- `LOG2_MAX_MV_LENGTH_UNRESTRICTED` (`h264_sps.rs:24`). -/
def log2MaxMvLengthUnrestricted : UInt32 := 16

/-! ## Emulation prevention -/

/-- The loop of `unescape` after `zeros` zero bytes. -/
def unescapeFrom : Int32 → List UInt8 → List UInt8
  | _, [] => []
  | zeros, byte :: rest =>
      if zeros ≥ 2 ∧ byte = 3 then unescapeFrom 0 rest
      else byte :: unescapeFrom (if byte = 0 then zeros + 1 else 0) rest

/-- `unescape` (`h264_sps.rs:271-283`). -/
def unescape (payload : List UInt8) : List UInt8 := unescapeFrom 0 payload

/-- The loop of `escape` after `zeros` zero bytes. -/
def escapeFrom : Int32 → List UInt8 → List UInt8
  | _, [] => []
  | zeros, byte :: rest =>
      if zeros ≥ 2 ∧ byte ≤ 3 then
        3 :: byte :: escapeFrom (if byte = 0 then 0 + 1 else 0) rest
      else byte :: escapeFrom (if byte = 0 then zeros + 1 else 0) rest

/-- `escape` (`h264_sps.rs:286-298`). -/
def escape (rbsp : List UInt8) : List UInt8 := escapeFrom 0 rbsp

/-! ## Reading bits -/

/-- `BitReader` (`h264_sps.rs:301-304`). -/
structure BitReader where
  data : List UInt8
  position : Nat

/-- A computation that reads bits, or fails. -/
abbrev Read := StateT BitReader Option

namespace BitReader

/-- `BitReader::new` (`h264_sps.rs:307-309`). -/
def new (data : List UInt8) : BitReader := { data, position := 0 }

/-- `BitReader::flag` (`h264_sps.rs:315-320`). -/
def flag : Read Bool := fun r => do
  let byte ← r.data[r.position / 8]?
  let bit := (byte >>> UInt8.ofNat (7 - r.position % 8)) &&& 1
  some (bit == 1, { r with position := r.position + 1 })

/-- The loop of `bits`. -/
def bitsFrom (value : UInt32) : Nat → Read UInt32
  | 0 => pure value
  | count + 1 => do
      let bit ← flag
      bitsFrom ((value <<< 1) ||| bit.toUInt32) count

/-- `BitReader::bits` (`h264_sps.rs:322-328`). -/
def bits (count : Nat) : Read UInt32 := bitsFrom 0 count

/-- The loop of `ue`, which gives up at one zero more than `left`. -/
def zerosFrom (zeros : Nat) : Nat → Read Nat
  | 0 => do if ← flag then pure zeros else failure
  | left + 1 => do if ← flag then pure zeros else zerosFrom (zeros + 1) left

/-- `BitReader::ue` (`h264_sps.rs:330-340`). -/
def ue : Read UInt32 := do
  let zeros ← zerosFrom 0 31
  let rest ← bits zeros
  let base ← liftM (checkedSub32 ((1 : UInt32) <<< UInt32.ofNat zeros) 1)
  liftM (checkedAdd32 base rest)

/-- `BitReader::se` (`h264_sps.rs:342-350`). -/
def se : Read Int := do
  let code : Int := (← ue).toNat
  let value := if code % 2 = 1 then (code + 1) / 2 else -(code / 2)
  if -2 ^ 31 ≤ value ∧ value < 2 ^ 31 then pure value else failure

end BitReader

/-! ## Writing bits -/

/-- `BitWriter` (`h264_sps.rs:355-358`). -/
structure BitWriter where
  bytes : List UInt8 := []
  used : Nat := 0

namespace BitWriter

/-- `BitWriter::flag` (`h264_sps.rs:361-369`). -/
def flag (w : BitWriter) (bit : Bool) : BitWriter :=
  let bytes := if w.used % 8 = 0 then w.bytes ++ [0] else w.bytes
  let mark := (0x80 : UInt8) >>> UInt8.ofNat (w.used % 8)
  { bytes := if bit then bytes.modifyLast (· ||| mark) else bytes, used := w.used + 1 }

/-- A run of `flag` calls. -/
def flags (w : BitWriter) (written : List Bool) : BitWriter := written.foldl flag w

/-- `u64::leading_zeros`. -/
def leadingZeros (x : UInt64) : Nat := if x = 0 then 64 else 63 - x.toNat.log2

/-- `BitWriter::ue` (`h264_sps.rs:379-388`). -/
def ue (w : BitWriter) (value : UInt32) : BitWriter :=
  let coded := value.toUInt64 + 1
  let length := 64 - leadingZeros coded
  let w := w.flags ((List.range' 1 (length - 1)).map fun _ => false)
  w.flags ((List.range length).reverse.map fun shift => (coded >>> UInt64.ofNat shift) &&& 1 == 1)

/-- `BitWriter::copy` (`h264_sps.rs:391-396`). -/
def copy (w : BitWriter) (data : List UInt8) (count : Nat) : BitWriter :=
  w.flags ((List.range count).map fun index =>
    let byte := data[index / 8]?.getD 0
    (byte >>> UInt8.ofNat (7 - index % 8)) &&& 1 == 1)

/-- The loop of `finish`. -/
def fill (w : BitWriter) : BitWriter :=
  if w.used % 8 = 0 then w else fill (w.flag false)
  termination_by (8 - w.used % 8) % 8
  decreasing_by
    simp only [flag]
    omega

/-- `BitWriter::finish` (`h264_sps.rs:399-405`). -/
def finish (w : BitWriter) : List UInt8 := (fill (w.flag true)).bytes

end BitWriter

/-! ## Reading a parameter set -/

/-- `Restriction` (`h264_sps.rs:125-132`). -/
inductive Restriction where
  | present
  | absent (flagAt : Nat)
  | noVui (flagAt : Nat)
  deriving DecidableEq, Repr

/-- `SpsLayout` (`h264_sps.rs:135-138`). -/
structure SpsLayout where
  maxNumRefFrames : UInt32
  restriction : Restriction
  deriving DecidableEq, Repr

section Reading
open BitReader

/-- `if condition { m }`. -/
def onlyIf (condition : Bool) (m : Read Unit) : Read Unit := if condition then m else pure ()

/-- `if r.flag()? { m }`. -/
def whenFlag (m : Read Unit) : Read Unit := do
  let bit ← flag
  onlyIf bit m

/-- `for _ in 0..count { m }`. -/
def times (m : Read Unit) : Nat → Read Unit
  | 0 => pure ()
  | count + 1 => do
      m
      times m count

/-- The loop of `skip_scaling_list`. -/
def scalingListFrom (last next : Int) : Nat → Read Unit
  | 0 => pure ()
  | left + 1 => do
      let next ← if next ≠ 0 then (fun offset => (last + offset + 256).tmod 256) <$> se
        else pure next
      scalingListFrom (if next ≠ 0 then next else last) next left

/-- `skip_scaling_list` (`h264_sps.rs:244-255`). -/
def skipScalingList (size : Nat) : Read Unit := scalingListFrom 8 8 size

/-- One turn of the loop of `skip_hrd`. -/
def skipCpb : Read Unit := do
  let _ ← ue -- bit_rate_value_minus1
  let _ ← ue -- cpb_size_value_minus1
  let _ ← flag -- cbr_flag

/-- `skip_hrd` (`h264_sps.rs:258-268`). -/
def skipHrd : Read Unit := do
  let count ← liftM (checkedAdd32 (← ue) 1)
  let _ ← bits 8 -- bit_rate_scale, cpb_size_scale
  times skipCpb count.toNat
  let _ ← bits 20 -- four delay and length fields

/-- The scaling lists of a high profile (`h264_sps.rs:155-160`). -/
def readScalingLists (chromaFormatIdc : UInt32) : Read Unit :=
  let lists := if chromaFormatIdc = 3 then 12 else 8
  (List.range lists).forM fun list => whenFlag (skipScalingList (if list < 6 then 16 else 64))

/-- What a high profile adds (`h264_sps.rs:147-161`). -/
def readHighProfile : Read Unit := do
  let chromaFormatIdc ← ue
  onlyIf (chromaFormatIdc = 3) (discard flag) -- separate_colour_plane_flag
  let _ ← ue -- bit_depth_luma_minus8
  let _ ← ue -- bit_depth_chroma_minus8
  let _ ← flag -- qpprime_y_zero_transform_bypass_flag
  whenFlag (readScalingLists chromaFormatIdc)

/-- The picture order count of type 1 (`h264_sps.rs:169-174`). -/
def readPicOrderCycle : Read Unit := do
  let _ ← flag -- delta_pic_order_always_zero_flag
  let _ ← se -- offset_for_non_ref_pic
  let _ ← se -- offset_for_top_to_bottom_field
  let count ← ue
  times (discard se) count.toNat -- offset_for_ref_frame

/-- The picture order count (`h264_sps.rs:164-177`). -/
def readPicOrderCnt : Read Unit := do
  let picOrderCntType ← ue
  if picOrderCntType = 0 then discard ue -- log2_max_pic_order_cnt_lsb_minus4
  else onlyIf (picOrderCntType = 1) readPicOrderCycle

/-- `read_sps` before the VUI (`h264_sps.rs:143-190`): `max_num_ref_frames`. -/
def readBeforeVui : Read UInt32 := do
  let profileIdc ← bits 8
  let _ ← bits 16 -- constraint flags, reserved bits, level_idc
  let _ ← ue -- seq_parameter_set_id
  onlyIf (highProfiles.contains profileIdc) readHighProfile
  let _ ← ue -- log2_max_frame_num_minus4
  readPicOrderCnt
  let maxNumRefFrames ← ue
  let _ ← flag -- gaps_in_frame_num_value_allowed_flag
  let _ ← ue -- pic_width_in_mbs_minus1
  let _ ← ue -- pic_height_in_map_units_minus1
  let frameMbsOnly ← flag
  onlyIf (!frameMbsOnly) (discard flag) -- mb_adaptive_frame_field_flag
  let _ ← flag -- direct_8x8_inference_flag
  whenFlag (times (discard ue) 4) -- frame_crop_*_offset
  pure maxNumRefFrames

/-- `if r.bits(8)? == 255 { r.bits(32)? }` of the aspect ratio (`h264_sps.rs:198-200`). -/
def readAspectRatio : Read Unit := do
  let idc ← bits 8
  onlyIf (idc = 255) (discard (bits 32)) -- sar_width, sar_height

/-- The video signal type (`h264_sps.rs:205-208`). -/
def readVideoSignalType : Read Unit := do
  let _ ← bits 4 -- video_format, video_full_range_flag
  whenFlag (discard (bits 24)) -- colour_primaries, transfer, matrix

/-- The chroma sample location (`h264_sps.rs:211-212`). -/
def readChromaLoc : Read Unit := do
  let _ ← ue -- chroma_sample_loc_type_top_field
  let _ ← ue -- chroma_sample_loc_type_bottom_field

/-- The timing (`h264_sps.rs:215-217`). -/
def readTiming : Read Unit := do
  let _ ← bits 32 -- num_units_in_tick
  let _ ← bits 32 -- time_scale
  let _ ← flag -- fixed_frame_rate_flag

/-- The VUI up to its restriction (`h264_sps.rs:198-230`). -/
def readBeforeRestriction : Read Unit := do
  whenFlag readAspectRatio
  whenFlag (discard flag) -- overscan_appropriate_flag
  whenFlag readVideoSignalType
  whenFlag readChromaLoc
  whenFlag readTiming
  let nalHrd ← flag
  onlyIf nalHrd skipHrd
  let vclHrd ← flag
  onlyIf vclHrd skipHrd
  onlyIf (nalHrd || vclHrd) (discard flag) -- low_delay_hrd_flag
  let _ ← flag -- pic_struct_present_flag

/-- `read_sps` (`h264_sps.rs:142-241`). -/
def readSps : Read SpsLayout := do
  let maxNumRefFrames ← readBeforeVui
  let vuiAt := (← get).position
  if !(← flag) then pure { maxNumRefFrames, restriction := .noVui vuiAt }
  else do
    readBeforeRestriction
    let flagAt := (← get).position
    if ← flag then pure { maxNumRefFrames, restriction := .present }
    else pure { maxNumRefFrames, restriction := .absent flagAt }

/-- The restriction that `reorder_of` of the tests reads (`h264_sps.rs:434-438`):
`max_num_reorder_frames` and `max_dec_frame_buffering`. -/
def readRestriction : Read (UInt32 × UInt32) := do
  let _ ← flag -- motion_vectors_over_pic_boundaries_flag
  times (discard ue) 4
  let maxNumReorderFrames ← ue
  let maxDecFrameBuffering ← ue
  pure (maxNumReorderFrames, maxDecFrameBuffering)

/-- What `reorder_of` of the tests (`h264_sps.rs:424-443`) reads out of one SPS. -/
def reorderOf (nal : List UInt8) : Option (UInt32 × Option (UInt32 × UInt32)) := do
  let (layout, r) ← readSps (new (unescape nal.tail))
  if layout.restriction = .present then do
    let (said, _) ← readRestriction r
    some (layout.maxNumRefFrames, some said)
  else some (layout.maxNumRefFrames, none)

end Reading

/-! ## The rewriting -/

/-- The bits up to the restriction of a rewritten parameter set, `none` where
there is one already. -/
def restrictionFlag (rbsp : List UInt8) : Restriction → Option BitWriter
  | .present => none
  | .absent flagAt => some ((BitWriter.copy {} rbsp flagAt).flag true)
  | .noVui flagAt =>
      -- The VUI that says only this: eight flags are off before the restriction's.
      some ((((BitWriter.copy {} rbsp flagAt).flag true).flags (List.replicate 8 false)).flag true)

/-- `sps_without_reordering` (`h264_sps.rs:85-122`). -/
def spsWithoutReordering : List UInt8 → Option (List UInt8)
  | [] => none
  | header :: payload => do
      let rbsp := unescape payload
      let (layout, _) ← readSps (BitReader.new rbsp)
      let writer ← restrictionFlag rbsp layout.restriction
      let writer := writer.flag true -- motion_vectors_over_pic_boundaries_flag
      let writer := writer.ue 0 -- max_bytes_per_pic_denom
      let writer := writer.ue 0 -- max_bits_per_mb_denom
      let writer := writer.ue log2MaxMvLengthUnrestricted
      let writer := writer.ue log2MaxMvLengthUnrestricted
      let writer := writer.ue 0 -- max_num_reorder_frames
      let writer := writer.ue (max layout.maxNumRefFrames 1) -- max_dec_frame_buffering
      some (header :: escape writer.finish)

/-- `stream[at] == 0 && stream[at + 1] == 0 && stream[at + 2] == 1`. -/
def startCodeAt (stream : List UInt8) (index : Nat) : Option Bool := do
  if (← stream[index]?) ≠ 0 then some false
  else if (← stream[index + 1]?) ≠ 0 then some false
  else some ((← stream[index + 2]?) == 1)

/-- The first loop of `nal_units` (`h264_sps.rs:59-68`). -/
def startCodes (stream : List UInt8) (index : Nat) : Option (List (Nat × Nat)) :=
  if index + 3 ≤ stream.length then do
    if ← startCodeAt stream index then
      let more ← startCodes stream (index + 3)
      some ((index, index + 3) :: more)
    else startCodes stream (index + 1)
  else some []
  termination_by stream.length - index

/-- The inner loop of `nal_units` (`h264_sps.rs:74-76`); `more` is `i + 1 < starts.len()`. -/
def trimZeros (stream : List UInt8) (payload : Nat) (more : Bool) : Nat → Option Nat
  | 0 => some 0
  | last + 1 =>
      if last + 1 > payload then do
        let byte ← stream[last]?
        if byte = 0 ∧ more then trimZeros stream payload more last else some (last + 1)
      else some (last + 1)

/-- One turn of the second loop of `nal_units` (`h264_sps.rs:70-78`). -/
def nalUnit (stream : List UInt8) (starts : List (Nat × Nat)) :
    (Nat × Nat) × Nat → Option (Nat × Nat)
  | ((_, payload), i) => do
      let upTo := (starts[i + 1]?).elim stream.length Prod.fst
      let upTo ← trimZeros stream payload (i + 1 < starts.length) upTo
      some (payload, upTo)

/-- `nal_units` (`h264_sps.rs:58-80`). -/
def nalUnits (stream : List UInt8) : Option (List (Nat × Nat)) := do
  let starts ← startCodes stream 0
  starts.zipIdx.mapM (nalUnit stream starts)

/-- What `without_reordering` makes of one unit, `none` to leave it. -/
def rewriteUnit (nal : List UInt8) : Option (List UInt8) :=
  (nal.head?.filter fun header => header &&& 0x1f = nalSps).bind fun _ => spsWithoutReordering nal

/-- The variables of `without_reordering`. -/
structure Rewriting where
  out : List UInt8 := []
  changed : Bool := false
  copied : Nat := 0

/-- One turn of the loop of `without_reordering` (`h264_sps.rs:34-47`). -/
def Rewriting.turn (annexb : List UInt8) (state : Rewriting) : Nat × Nat → Option Rewriting
  | (start, last) => do
      let nal ← getRange annexb start last
      match rewriteUnit nal with
      | none => some state
      | some rewritten => do
          let between ← getRange annexb state.copied start
          some { out := state.out ++ between ++ rewritten, changed := true, copied := last }

/-- `without_reordering` (`h264_sps.rs:30-53`). -/
def withoutReordering (annexb : List UInt8) : Option (Option (List UInt8)) := do
  let units ← nalUnits annexb
  let state ← units.foldlM (Rewriting.turn annexb) {}
  if !state.changed then some none
  else do
    let rest ← getRange annexb state.copied annexb.length
    some (some (state.out ++ rest))

end Lumepeer.Media.H264Sps
