import Lumepeer.Media.Scale

/-!
# Frames as NV12 and as I420

The conversion of `crates/media/src/encode/nv12.rs`. `none` is a panic: an index or a range outside
a slice, an allocation that no address space holds, or an `i32` that overflows. A `usize` wraps, as
in a release build, where a size of the caller is multiplied; no other product of these functions
reaches `2 ^ 64`. Threads share no memory they write, so a part of the picture is what
`convert_rows` makes of it whenever its thread runs.
-/

namespace Lumepeer.Media.Nv12
open Lumepeer.Lib Lumepeer.Media

/-- `PixelFormat` (`capture/mod.rs:315-320`). -/
inductive PixelFormat where
  | bgra8
  | nv12
  deriving DecidableEq

/-- The bytes of a `Vec`, which `isize::MAX` bounds. -/
abbrev Buffer := { bytes : List UInt8 // bytes.length < 2 ^ 63 }

/-- `Frame` (`capture/mod.rs:324-361`), with what `as_cpu` answers for it. -/
structure Frame where
  width : UInt32
  height : UInt32
  format : PixelFormat
  cpu : Except String Buffer

/-- A `usize`. -/
def usize (n : Nat) : Nat := n % 2 ^ 64

/-- An `i32`, if it is one. -/
def i32 (n : Int) : Option Int := if -2 ^ 31 ≤ n ∧ n < 2 ^ 31 then some n else none

/-- `frame.width & !1`. -/
def even (size : UInt32) : UInt32 := size &&& ~~~1

/-! ## The arithmetic -/

/-- `clamp_u8` (`nv12.rs:184-189`). -/
def clampU8 (v : Int) : UInt8 :=
  let clamped := max 0 (min v 255)
  if 0 ≤ clamped ∧ clamped < 256 then UInt8.ofNat clamped.toNat else 0

/-- `bt601_y` (`nv12.rs:193-195`). -/
def bt601Y (r g b : Int) : Option UInt8 := do
  let red ← i32 (66 * r)
  let green ← i32 (129 * g)
  let sum ← i32 (red + green)
  let blue ← i32 (25 * b)
  let sum ← i32 (sum + blue)
  let sum ← i32 (sum + 128)
  let value ← i32 ((sum >>> (8 : Nat)) + 16)
  return clampU8 value

/-- `bt601_u` (`nv12.rs:196-198`). -/
def bt601U (r g b : Int) : Option UInt8 := do
  let red ← i32 (-38 * r)
  let green ← i32 (74 * g)
  let sum ← i32 (red - green)
  let blue ← i32 (112 * b)
  let sum ← i32 (sum + blue)
  let sum ← i32 (sum + 128)
  let value ← i32 ((sum >>> (8 : Nat)) + 128)
  return clampU8 value

/-- `bt601_v` (`nv12.rs:199-201`). -/
def bt601V (r g b : Int) : Option UInt8 := do
  let red ← i32 (112 * r)
  let green ← i32 (94 * g)
  let sum ← i32 (red - green)
  let blue ← i32 (18 * b)
  let sum ← i32 (sum - blue)
  let sum ← i32 (sum + 128)
  let value ← i32 ((sum >>> (8 : Nat)) + 128)
  return clampU8 value

/-- The average of four `i32`s (`nv12.rs:174-176`). -/
def average (a b c d : Int) : Option Int := do
  let sum ← i32 (a + b)
  let sum ← i32 (sum + c)
  let sum ← i32 (sum + d)
  return sum.tdiv 4

/-! ## Blocks and rows -/

/-- `i32::from`. -/
def wide (byte : UInt8) : Int := byte.toNat

/-- The loop over the 2x2 blocks of two rows (`nv12.rs:152-180`), over what is left of the two
source rows, of the two rows of luma and of the row of chroma. -/
def convertBlocks : List UInt8 → List UInt8 → List UInt8 → List UInt8 → List UInt8 →
    Option (List UInt8 × List UInt8 × List UInt8)
  | b0 :: g0 :: r0 :: _ :: b1 :: g1 :: r1 :: _ :: top,
    b2 :: g2 :: r2 :: _ :: b3 :: g3 :: r3 :: _ :: bottom,
    _ :: _ :: yTop, _ :: _ :: yBottom, _ :: _ :: uv => do
      let y0 ← bt601Y (wide r0) (wide g0) (wide b0)
      let y1 ← bt601Y (wide r1) (wide g1) (wide b1)
      let y2 ← bt601Y (wide r2) (wide g2) (wide b2)
      let y3 ← bt601Y (wide r3) (wide g3) (wide b3)
      let r ← average (wide r0) (wide r1) (wide r2) (wide r3)
      let g ← average (wide g0) (wide g1) (wide g2) (wide g3)
      let b ← average (wide b0) (wide b1) (wide b2) (wide b3)
      let u ← bt601U r g b
      let v ← bt601V r g b
      let (yTop, yBottom, uv) ← convertBlocks top bottom yTop yBottom uv
      return (y0 :: y1 :: yTop, y2 :: y3 :: yBottom, u :: v :: uv)
  | _, _, yTop, yBottom, uv => some (yTop, yBottom, uv)

/-- The rows of `convert_rows` (`nv12.rs:134-181`) from a block row on, over what is left of the
planes. -/
def convertRowsFrom (pixels : List UInt8) (srcStride width : Nat) :
    Nat → Nat → List UInt8 → List UInt8 → Option (List UInt8 × List UInt8)
  | 0, _, yPlane, uvPlane => some (yPlane, uvPlane)
  | rows + 1, blockRow, yPlane, uvPlane => do
      let top := blockRow * 2
      let yRows ← getRange yPlane 0 (width * 2)
      let start := usize (top * srcStride)
      let srcTop ← getRange pixels start (start + width * 4)
      let start := usize ((top + 1) * srcStride)
      let srcBottom ← getRange pixels start (start + width * 4)
      let (yTop, yBottom, uvRow) ←
        convertBlocks srcTop srcBottom (yRows.take width) (yRows.drop width) (uvPlane.take width)
      let (yRest, uvRest) ← convertRowsFrom pixels srcStride width rows (blockRow + 1)
        (yPlane.drop (width * 2)) (uvPlane.drop width)
      return (yTop ++ yBottom ++ yRest, uvRow ++ uvRest)

/-- `convert_rows` (`nv12.rs:126-182`). -/
def convertRows (pixels : List UInt8) (srcStride width firstBlockRow : Nat)
    (yPlane uvPlane : List UInt8) : Option (List UInt8 × List UInt8) :=
  -- `chunks_exact_mut` has no pieces of no bytes
  if width = 0 then none
  else convertRowsFrom pixels srcStride width (uvPlane.length / width) firstBlockRow yPlane uvPlane

/-! ## Pictures -/

/-- A picture and its size, or the error of the encoder; `none` is a panic. -/
abbrev Converted := Option (Except String (List UInt8 × UInt32 × UInt32))

/-- `nv12_size` (`nv12.rs:42-46`). -/
def nv12Size (width height : UInt32) : Nat :=
  let w := width.toNat
  let h := height.toNat
  usize (w * h + usize (2 * ((w + 1) / 2) * ((h + 1) / 2)))

/-- `nv12_passthrough` (`nv12.rs:48-67`). -/
def nv12Passthrough (frame : Frame) : Converted :=
  let width := even frame.width
  let height := even frame.height
  if width = 0 ∨ height = 0 then some (.error "frame is smaller than 2x2")
  else if width ≠ frame.width ∨ height ≠ frame.height then
    some (.error "odd-dimension NV12 input is not supported")
  else
    match frame.cpu with
    | .error error => some (.error error)
    | .ok pixels =>
        if pixels.1.length < nv12Size width height then some (.error "NV12 frame buffer is short")
        else some (.ok (pixels.1, width, height))

/-- The conversion of `bgra8_to_nv12` over its two planes (`nv12.rs:99-121`), on a machine of
`cores` cores: what they hold after it. -/
def convertPlanes (cores : Nat) (pixels : List UInt8) (srcStride width height : Nat)
    (yPlane uvPlane : List UInt8) : Option (List UInt8) := do
  let blockRows := height / 2
  let threads := workers cores (width * height)
  let perPart := (blockRows + threads - 1) / threads
  let yParts := chunks (perPart * 2 * width) yPlane
  let uvParts := chunks (perPart * width) uvPlane
  let parts := (yParts.zip uvParts).zipIdx
  let converted ← parts.mapM fun ((yPart, uvPart), part) =>
    convertRows pixels srcStride width (part * perPart) yPart uvPart
  return (converted.map Prod.fst).flatten ++ (yParts.drop parts.length).flatten
    ++ (converted.map Prod.snd).flatten ++ (uvParts.drop parts.length).flatten

/-- `bgra8_to_nv12` (`nv12.rs:69-124`), on a machine of `cores` cores. -/
def bgra8ToNv12 (cores : Nat) (frame : Frame) : Converted :=
  let widthU32 := even frame.width
  let heightU32 := even frame.height
  let width := widthU32.toNat
  let height := heightU32.toNat
  if width = 0 ∨ height = 0 then some (.error "frame is smaller than 2x2")
  else
    let srcStride := frame.width.toNat * 4
    match frame.cpu with
    | .error error => some (.error error)
    | .ok pixels =>
        if pixels.1.length < usize (srcStride * height) then some (.error "frame buffer is short")
        else
          let yLen := width * height
          let outLen := usize (yLen + width * (height / 2))
          -- a capacity overflow, and `split_at_mut` past the end
          if outLen ≥ 2 ^ 63 ∨ outLen < yLen then none
          else do
            let out := List.replicate outLen 0
            let picture ← convertPlanes cores pixels.1 srcStride width height (out.take yLen)
              (out.drop yLen)
            return .ok (picture, widthU32, heightU32)

/-- `bgra_to_nv12` (`nv12.rs:23-28`). -/
def bgraToNv12 (cores : Nat) (frame : Frame) : Converted :=
  match frame.format with
  | .nv12 => nv12Passthrough frame
  | .bgra8 => bgra8ToNv12 cores frame

/-- `step_by(2)`. -/
def everySecond : List UInt8 → List UInt8
  | first :: _ :: rest => first :: everySecond rest
  | rest => rest

/-- `to_i420` (`nv12.rs:33-40`). -/
def toI420 (cores : Nat) (frame : Frame) : Converted := do
  match ← bgraToNv12 cores frame with
  | .error error => return .error error
  | .ok (picture, width, height) =>
      let luma := width.toNat * height.toNat
      -- `split_off` past the end
      if picture.length < luma then none
      else
        let chroma := picture.drop luma
        return .ok (picture.take luma ++ everySecond chroma ++ everySecond (chroma.drop 1),
          width, height)

end Lumepeer.Media.Nv12
