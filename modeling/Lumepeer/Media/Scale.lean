import Lumepeer.Core.Message
import Lumepeer.Lib.Chunks
import Lumepeer.Lib.Saturating

/-!
# The box filter

The downscaler of `crates/media/src/scale.rs` and the per-pixel loop its tests
hold it to. `none` is a panic: an index outside a slice, or a `u32` sum that
overflows. A `usize` is a `Nat`: no product of these functions reaches `2 ^ 64`
for the sizes of a picture. Threads share no memory they write, so a part of
the picture is what `box_rows` makes of it whenever its thread runs.
-/

namespace Lumepeer.Media
open Lumepeer.Lib Lumepeer.Core

/-- `PARALLEL_MIN_PIXELS` (`scale.rs:38`). -/
def parallelMinPixels : Nat := 64 * 1024

/-- `MAX_SCALE_THREADS` (`scale.rs:40`). -/
def maxScaleThreads : Nat := 4

/-- `MAGIC_MAX_COUNT` (`scale.rs:43`). -/
abbrev magicMaxCount : UInt32 := 257

/-- The `i`-th span of an axis. -/
def span (source target i : Nat) : Nat × Nat :=
  let first := i * source / target
  (first, max ((i + 1) * source / target) (first + 1))

/-- `spans` (`scale.rs:332-339`). -/
def spans (source target : Nat) : List (Nat × Nat) := (List.range target).map (span source target)

/-- `workers` (`scale.rs:343-352`); `cores` is what `available_parallelism` reports. -/
def workers (cores pixels : Nat) : Nat :=
  if pixels < parallelMinPixels then 1 else max 1 (min cores maxScaleThreads)

/-- `Divisor` (`scale.rs:432-438`). -/
inductive Divisor where
  | magic (reciprocal : UInt64)
  | plain (count : UInt32)
  deriving DecidableEq, Repr

namespace Divisor

/-- `Divisor::new` (`scale.rs:441-448`). -/
def new (count : UInt32) : Divisor :=
  let count := max count 1
  if count ≤ magicMaxCount then
    .magic (UInt64.ofNat ((2 ^ 32 + count.toNat - 1) / count.toNat))
  else .plain count

/-- `Divisor::divide` (`scale.rs:450-456`). -/
def divide (divisor : Divisor) (sum : UInt32) : UInt8 :=
  let mean := match divisor with
    | .magic reciprocal => (sum.toUInt64 * reciprocal) >>> 32
    | .plain count => (sum / count).toUInt64
  if mean < 256 then mean.toUInt8 else 255

end Divisor

/-- `Divisors` (`scale.rs:462-465`). -/
structure Divisors where
  columns : List (Nat × Nat)
  byHeight : List (Nat × List Divisor)

namespace Divisors

/-- `Divisors::new` (`scale.rs:468-473`). -/
def new (columns : List (Nat × Nat)) : Divisors := { columns, byHeight := [] }

/-- `Divisors::for_rows` (`scale.rs:475-490`). -/
def forRows (divisors : Divisors) (height : Nat) : List Divisor × Divisors :=
  match divisors.byHeight.find? fun entry => entry.1 = height with
  | some entry => (entry.2, divisors)
  | none =>
      let fresh := divisors.columns.map fun (first, last) =>
        Divisor.new ((tryFrom32 ((last - first) * height)).getD 0xffffffff)
      (fresh, { divisors with byHeight := divisors.byHeight ++ [(height, fresh)] })

end Divisors

/-- `for (total, &byte) in sum.iter_mut().zip(sample)` (`scale.rs:411-413`, `scale.rs:577-579`). -/
def addSample : List UInt32 → List UInt8 → Option (List UInt32)
  | total :: sums, byte :: sample => do
      let total ← checkedAdd32 total byte.toUInt32
      let sums ← addSample sums sample
      return total :: sums
  | sums, _ => some sums

/-- One source row of `box_rows` (`scale.rs:408-415`): its samples are added to the sums of their
columns. -/
def addLine (C : Nat) (src : List UInt8) (sourceWidth : Nat) (columns : List (Nat × Nat))
    (sums : List UInt32) (row : Nat) : Option (List UInt32) := do
  let lineBytes := sourceWidth * C
  let line ← getRange src (row * lineBytes) (row * lineBytes + lineBytes)
  overChunks C (fun sum (first, last) => do
    let part ← getRange line (first * C) (last * C)
    (chunksExact C part).foldlM addSample sum) sums columns

/-- The sums of a row of boxes in `box_rows` (`scale.rs:406-416`). -/
def rowSums (C : Nat) (src : List UInt8) (sourceWidth : Nat) (columns : List (Nat × Nat))
    (row : Nat × Nat) : Option (List UInt32) :=
  (List.range' row.1 (row.2 - row.1)).foldlM (addLine C src sourceWidth columns)
    (List.replicate (columns.length * C) 0)

/-- `for (byte, &total) in out.iter_mut().zip(sum)` (`scale.rs:423-425`). -/
def writeMeans (divisor : Divisor) : List UInt8 → List UInt32 → List UInt8
  | _ :: out, total :: sum => divisor.divide total :: writeMeans divisor out sum
  | out, _ => out

/-- The rows of `box_rows` (`scale.rs:405-427`), with the divisors found so far. -/
def boxRowsFrom (C : Nat) (src : List UInt8) (sourceWidth : Nat) (columns : List (Nat × Nat)) :
    Divisors → List (Nat × Nat) → List UInt8 → Option (List UInt8)
  | _, [], dst => some dst
  | divisors, row :: rows, dst =>
      if dst.length < columns.length * C then some dst
      else do
        let sums ← rowSums C src sourceWidth columns row
        let (means, divisors) := divisors.forRows (row.2 - row.1)
        let out ← overChunks C (fun out (sum, divisor) => some (writeMeans divisor out sum))
          (dst.take (columns.length * C)) ((chunksExact C sums).zip means)
        let rest ← boxRowsFrom C src sourceWidth columns divisors rows
          (dst.drop (columns.length * C))
        return out ++ rest

/-- `box_rows` (`scale.rs:395-428`). -/
def boxRows (C : Nat) (src : List UInt8) (sourceWidth : Nat) (columns rows : List (Nat × Nat))
    (dst : List UInt8) : Option (List UInt8) :=
  -- `chunks_exact_mut` has no pieces of no bytes
  if columns.length * C = 0 then none
  else boxRowsFrom C src sourceWidth columns (Divisors.new columns) rows dst

/-- `box_plane` (`scale.rs:360-392`), on a machine of `cores` cores: what `dst` holds after it. -/
def boxPlane (cores C : Nat) (src : List UInt8) (source : Nat × Nat) (dst : List UInt8)
    (target : Nat × Nat) : Option (List UInt8) :=
  let columns := spans source.1 target.1
  let rows := spans source.2 target.2
  let rowBytes := target.1 * C
  if rowBytes = 0 || rows.isEmpty then some dst
  else
    let threads := workers cores (target.1 * target.2)
    if threads ≤ 1 then boxRows C src source.1 columns rows dst
    else do
      let perThread := (rows.length + threads - 1) / threads
      let pieces := chunks (perThread * rowBytes) dst
      let parts := (chunks perThread rows).zip pieces
      let written ← parts.mapM fun (rows, dst) => boxRows C src source.1 columns rows dst
      return written.flatten ++ (pieces.drop parts.length).flatten

/-- One pixel of `reference_downscale` (`scale.rs:573-586`): the sums over its box, divided. -/
def referencePixel (src : List UInt8) (channels sourceWidth : Nat) (row column : Nat × Nat) :
    Option (List UInt8) := do
  let sums ← (List.range' row.1 (row.2 - row.1)).foldlM (fun sums row =>
    (List.range' column.1 (column.2 - column.1)).foldlM (fun sums column => do
      let base := (row * sourceWidth + column) * channels
      let sample ← getRange src base (base + channels)
      addSample sums sample) sums) (List.replicate channels 0)
  let count ← tryFrom32 ((row.2 - row.1) * (column.2 - column.1))
  sums.mapM fun sum => if sum / count < 256 then some (sum / count).toUInt8 else none

/-- `reference_downscale` (`scale.rs:560-590`); its writes go from the first byte to the last. -/
def referenceDownscale (src : List UInt8) (channels : Nat) (source target : Nat × Nat) :
    Option (List UInt8) := do
  let rows ← (List.range target.2).mapM fun y => do
    let pixels ← (List.range target.1).mapM fun x =>
      referencePixel src channels source.1 (span source.2 target.2 y) (span source.1 target.1 x)
    return pixels.flatten
  return rows.flatten

/-!
## The cursor at the scale of the picture

`cursor_for_picture` and `box_downscale` of `crates/media/src/scale.rs:234-298`.
-/

/-- `BGRA_BYTES` (`scale.rs:33`). -/
def bgraBytes : Nat := 4

/-- `box_downscale` (`scale.rs:282-298`), on a machine of `cores` cores. -/
def boxDownscale (cores : Nat) (src : List UInt8) (srcWidth srcHeight dstWidth dstHeight : UInt32) :
    Option (List UInt8) :=
  let width := dstWidth.toNat
  let height := dstHeight.toNat
  let out := List.replicate (width * height * bgraBytes) 0
  boxPlane cores bgraBytes src (srcWidth.toNat, srcHeight.toNat) out (width, height)

/-- `across` of `cursor_for_picture` (`scale.rs:259-262`). The product of two `u32`s fits a `u64`. -/
def across (value to_ from_ : UInt32) : UInt16 :=
  let scaled := value.toNat * (min to_ from_).toNat / (max from_ 1).toNat
  if scaled < 2 ^ 16 then UInt16.ofNat scaled else 0xffff

/-- `cursor_for_picture` (`scale.rs:246-278`). -/
def cursorForPicture (cores : Nat) (shape : CursorShapeData) (captured picture : UInt32 × UInt32) :
    Option CursorShapeData :=
  let width := shape.width.toUInt32
  let height := shape.height.toUInt32
  let reduced := picture.1 < captured.1 || picture.2 < captured.2
  let whole := width.toNat * height.toNat * bgraBytes
  if !reduced || shape.rgba.length < whole then some shape
  else do
    let targetWidth := max (across width picture.1 captured.1) 1
    let targetHeight := max (across height picture.2 captured.2) 1
    let rgba ← boxDownscale cores shape.rgba width height targetWidth.toUInt32 targetHeight.toUInt32
    return {
      width := targetWidth
      height := targetHeight
      hotspotX := min (across shape.hotspotX.toUInt32 picture.1 captured.1) (targetWidth - 1)
      hotspotY := min (across shape.hotspotY.toUInt32 picture.2 captured.2) (targetHeight - 1)
      rgba }

end Lumepeer.Media
