import Lumepeer.Media.Scale
import Lumepeer.Media.Scale.Proofs.Filter

/-!
# A cursor stays legal when it is scaled

`across` never leads past the value it scales, so that a legal shape is reduced
to sides of at least a pixel and at most what they were. A legal shape is small
enough that none of its boxes overflows a sum: the filter writes every byte of
the reduced one.
-/

namespace Lumepeer.Media
open Lumepeer.Lib Lumepeer.Core

/-- The limits of a `CursorShape` on the wire, in numbers. -/
structure Limits (shape : CursorShapeData) : Prop where
  width : 1 ≤ shape.width.toNat
  height : 1 ≤ shape.height.toNat
  pixels : shape.width.toNat * shape.height.toNat ≤ 128 * 128
  rgba : shape.rgba.length = shape.width.toNat * shape.height.toNat * 4
  hotspotX : shape.hotspotX.toNat < shape.width.toNat
  hotspotY : shape.hotspotY.toNat < shape.height.toNat

theorem malformedIf_eq_ok_iff {bad : Bool} : malformedIf bad = .ok () ↔ bad = false := by
  cases bad with
  | false => exact iff_of_true rfl rfl
  | true => exact iff_of_false (fun ok => by cases ok) (fun passed => by cases passed)

theorem checkLimits_cursorShape_iff (envelope : MessageEnvelope) {shape : CursorShapeData} :
    { envelope with kind := .cursorShape shape }.checkLimits = .ok () ↔ Limits shape := by
  have both : { envelope with kind := .cursorShape shape }.checkLimits = .ok () ↔
      malformedIf (shape.width.toNat * shape.height.toNat == 0 ||
        shape.width.toNat * shape.height.toNat > maxCursorShapePixels ||
        shape.rgba.length != shape.width.toNat * shape.height.toNat * 4) = .ok () ∧
      malformedIf (shape.hotspotX ≥ shape.width || shape.hotspotY ≥ shape.height) = .ok () := by
    unfold MessageEnvelope.checkLimits
    simp only
    cases malformedIf (shape.width.toNat * shape.height.toNat == 0 ||
        shape.width.toNat * shape.height.toNat > maxCursorShapePixels ||
        shape.rgba.length != shape.width.toNat * shape.height.toNat * 4) with
    | error refusal => exact iff_of_false (fun ok => by cases ok) (fun ok => by cases ok.1)
    | ok _ => exact ⟨fun ok => ⟨rfl, ok⟩, fun ok => ok.2⟩
  have most : maxCursorShapePixels = 128 * 128 := rfl
  rw [both, malformedIf_eq_ok_iff, malformedIf_eq_ok_iff]
  simp only [Bool.or_eq_false_iff, beq_eq_false_iff_ne, bne_eq_false_iff_eq,
    decide_eq_false_iff_not, gt_iff_lt, ge_iff_le, Nat.not_lt, UInt16.not_le, UInt16.lt_iff_toNat_lt, most]
  constructor
  · rintro ⟨⟨⟨some, pixels⟩, rgba⟩, hotspotX, hotspotY⟩
    obtain ⟨wide, high⟩ := Nat.mul_ne_zero_iff.mp some
    exact ⟨Nat.pos_of_ne_zero wide, Nat.pos_of_ne_zero high, pixels, rgba, hotspotX, hotspotY⟩
  · intro limits
    have some : shape.width.toNat * shape.height.toNat ≠ 0 :=
      Nat.mul_ne_zero_iff.mpr ⟨Nat.ne_of_gt limits.width, Nat.ne_of_gt limits.height⟩
    exact ⟨⟨⟨some, limits.pixels⟩, limits.rgba⟩, limits.hotspotX, limits.hotspotY⟩

theorem toNat_across_le {value : UInt32} (to_ from_ : UInt32) (short : value.toNat < 2 ^ 16) :
    (across value to_ from_).toNat ≤ value.toNat := by
  have one : (1 : UInt32).toNat = 1 := rfl
  have below : value.toNat * (min to_ from_).toNat / (max from_ 1).toNat ≤ value.toNat := by
    apply Nat.div_le_of_le_mul
    rw [toNat_min32, toNat_max32, one, Nat.mul_comm]
    exact Nat.mul_le_mul_right _ (by omega)
  unfold across
  simp only
  rw [if_pos (by omega), UInt16.toNat_ofNat_of_lt' (Nat.lt_of_le_of_lt below short)]
  exact below

theorem toNat_max16 (a b : UInt16) : (max a b).toNat = max a.toNat b.toNat := by
  show (if a ≤ b then b else a).toNat = _
  by_cases below : a ≤ b
  · rw [if_pos below]
    exact (Nat.max_eq_right (UInt16.le_iff_toNat_le.mp below)).symm
  · rw [if_neg below]
    have above : b ≤ a := UInt16.le_of_lt (UInt16.not_le.mp below)
    exact (Nat.max_eq_left (UInt16.le_iff_toNat_le.mp above)).symm

theorem toNat_min16 (a b : UInt16) : (min a b).toNat = min a.toNat b.toNat := by
  show (if a ≤ b then a else b).toNat = _
  by_cases below : a ≤ b
  · rw [if_pos below]
    exact (Nat.min_eq_left (UInt16.le_iff_toNat_le.mp below)).symm
  · rw [if_neg below]
    have above : b ≤ a := UInt16.le_of_lt (UInt16.not_le.mp below)
    exact (Nat.min_eq_right (UInt16.le_iff_toNat_le.mp above)).symm

/-- A side of a legal shape at the scale of the picture. -/
theorem side_bounds {side : UInt16} (present : 1 ≤ side.toNat) (to_ from_ : UInt32) :
    1 ≤ (max (across side.toUInt32 to_ from_) 1).toNat ∧
    (max (across side.toUInt32 to_ from_) 1).toNat ≤ side.toNat := by
  have one : (1 : UInt16).toNat = 1 := rfl
  have same : side.toUInt32.toNat = side.toNat := UInt16.toNat_toUInt32 side
  have below := toNat_across_le to_ from_ (same ▸ side.toNat_lt)
  rw [toNat_max16, one]
  omega

/-- A coordinate of the hotspot stays on its side. -/
theorem hotspot_bound {target : UInt16} (present : 1 ≤ target.toNat) (scaled : UInt16) :
    (min scaled (target - 1)).toNat < target.toNat := by
  have one : (1 : UInt16).toNat = 1 := rfl
  have less : (target - 1).toNat = target.toNat - 1 :=
    UInt16.toNat_sub_of_le _ _ (UInt16.le_iff_toNat_le.mpr (one ▸ present))
  rw [toNat_min16, less]
  omega

theorem longest_le {source target : Nat} (pos : 0 < target) (reduced : target ≤ source) :
    longest source target ≤ source := by
  apply Nat.div_le_of_le_mul
  obtain ⟨k, rfl⟩ := Nat.exists_eq_add_of_le' pos
  obtain ⟨m, rfl⟩ := Nat.exists_eq_add_of_le' reduced
  ring_nf
  omega

/-- A legal shape is reduced without a panic, to as many bytes as its pixels have. -/
theorem boxDownscale_of_limits (cores : Nat) {shape : CursorShapeData} (limits : Limits shape)
    {width height : UInt32} (wide : 1 ≤ width.toNat ∧ width.toNat ≤ shape.width.toNat)
    (high : 1 ≤ height.toNat ∧ height.toNat ≤ shape.height.toNat) :
    ∃ rgba, boxDownscale cores shape.rgba shape.width.toUInt32 shape.height.toUInt32 width height =
        some rgba ∧ rgba.length = width.toNat * height.toNat * 4 := by
  have small : longest shape.width.toNat width.toNat * longest shape.height.toNat height.toNat ≤
      maxBoxSamples := by
    calc longest shape.width.toNat width.toNat * longest shape.height.toNat height.toNat
        ≤ shape.width.toNat * shape.height.toNat :=
          Nat.mul_le_mul (longest_le wide.1 wide.2) (longest_le high.1 high.2)
      _ ≤ 128 * 128 := limits.pixels
      _ ≤ maxBoxSamples := by decide
  refine ⟨meanBytes shape.rgba 4 (shape.width.toNat, shape.height.toNat)
    (width.toNat, height.toNat), ?_, ?_⟩
  · exact boxPlane_of_small cores (by decide) wide high small limits.rgba List.length_replicate
  · have row (y : Nat) : ((List.range width.toNat).flatMap fun x => (List.range 4).map
        (meanByte shape.rgba 4 shape.width.toNat (span shape.height.toNat height.toNat y)
          (span shape.width.toNat width.toNat x))).length = width.toNat * 4 := by
      rw [length_flatMap_of_length fun x => by rw [List.length_map, List.length_range],
        List.length_range]
    rw [meanBytes, length_flatMap_of_length row, List.length_range]
    ring

/-- For every captured size and every size of the picture, a cursor that a message may carry is
scaled to one that a message may carry, no larger than it was. -/
theorem cursorForPicture_legal (cores : Nat) (envelope : MessageEnvelope) (shape : CursorShapeData)
    (captured picture : UInt32 × UInt32)
    (legal : { envelope with kind := .cursorShape shape }.checkLimits = .ok ()) :
    ∃ scaled, cursorForPicture cores shape captured picture = some scaled ∧
      { envelope with kind := .cursorShape scaled }.checkLimits = .ok () ∧
      (1 ≤ scaled.width ∧ scaled.width ≤ shape.width) ∧
      (1 ≤ scaled.height ∧ scaled.height ≤ shape.height) ∧
      scaled.hotspotX < scaled.width ∧ scaled.hotspotY < scaled.height ∧
      scaled.rgba.length = scaled.width.toNat * scaled.height.toNat * 4 := by
  have limits := (checkLimits_cursorShape_iff envelope).mp legal
  suffices ∃ scaled, cursorForPicture cores shape captured picture = some scaled ∧ Limits scaled ∧
      scaled.width.toNat ≤ shape.width.toNat ∧ scaled.height.toNat ≤ shape.height.toNat by
    obtain ⟨scaled, isScaled, within, narrower, lower⟩ := this
    refine ⟨scaled, isScaled, (checkLimits_cursorShape_iff envelope).mpr within, ?_, ?_, ?_⟩
    · exact ⟨UInt16.le_iff_toNat_le.mpr within.width, UInt16.le_iff_toNat_le.mpr narrower⟩
    · exact ⟨UInt16.le_iff_toNat_le.mpr within.height, UInt16.le_iff_toNat_le.mpr lower⟩
    · exact ⟨UInt16.lt_iff_toNat_lt.mpr within.hotspotX, UInt16.lt_iff_toNat_lt.mpr within.hotspotY,
        within.rgba⟩
  unfold cursorForPicture
  simp only
  split
  · exact ⟨shape, rfl, limits, Nat.le_refl _, Nat.le_refl _⟩
  · obtain ⟨wide, narrower⟩ := side_bounds limits.width picture.1 captured.1
    obtain ⟨high, lower⟩ := side_bounds limits.height picture.2 captured.2
    generalize max (across shape.width.toUInt32 picture.1 captured.1) 1 = targetWidth
      at wide narrower
    generalize max (across shape.height.toUInt32 picture.2 captured.2) 1 = targetHeight
      at high lower
    have sameWidth : targetWidth.toUInt32.toNat = targetWidth.toNat := UInt16.toNat_toUInt32 _
    have sameHeight : targetHeight.toUInt32.toNat = targetHeight.toNat := UInt16.toNat_toUInt32 _
    have written := boxDownscale_of_limits cores limits
      (sameWidth.symm ▸ ⟨wide, narrower⟩ : _ ∧ targetWidth.toUInt32.toNat ≤ _)
      (sameHeight.symm ▸ ⟨high, lower⟩ : _ ∧ targetHeight.toUInt32.toNat ≤ _)
    obtain ⟨rgba, isRgba, length⟩ := written
    rw [sameWidth, sameHeight] at length
    rw [isRgba]
    refine ⟨_, rfl, ⟨wide, high, ?_, length, ?_, ?_⟩, narrower, lower⟩
    · exact Nat.le_trans (Nat.mul_le_mul narrower lower) limits.pixels
    · exact hotspot_bound wide _
    · exact hotspot_bound high _

/-- An arrow of three by five pixels in a picture of half the width. -/
def arrow : CursorShapeData :=
  { width := 3, height := 5, hotspotX := 2, hotspotY := 4, rgba := List.replicate 60 0 }

theorem cursorForPicture_legal_of_arrow :
    ∃ scaled, cursorForPicture 1 arrow (3840, 2160) (1920, 2160) = some scaled ∧
      scaled.width ≤ 3 ∧ scaled.hotspotX < scaled.width := by
  let envelope : MessageEnvelope :=
    { sessionId := List.Vector.replicate 16 0, direction := .hostToGuest, seq := 0
      kind := .cursorShape arrow, body := [] }
  obtain ⟨scaled, isScaled, -, width, -, hotspot, -⟩ :=
    cursorForPicture_legal 1 envelope arrow (3840, 2160) (1920, 2160) (by rfl)
  exact ⟨scaled, isScaled, width.2, hotspot⟩

end Lumepeer.Media
