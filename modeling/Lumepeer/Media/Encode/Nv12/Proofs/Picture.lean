import Lumepeer.Media.Encode.Nv12.Proofs.Reference

/-!
# Converted pictures

Every BGRA frame that is accepted becomes the reference's picture of it. The planes of an I420
picture are right just where the NV12 it is made of has no bytes behind its chroma, which only a
capturer's own NV12 can have.
-/

namespace Lumepeer.Media.Nv12
open Lumepeer.Lib Lumepeer.Media

/-! ## Sizes -/

theorem toNat_even (size : UInt32) : (even size).toNat = 2 * (size.toNat / 2) := by
  have shifted : even size = size >>> 1 <<< 1 := by
    have cut := @BitVec.shiftLeft_ushiftRight 32 size.toBitVec 1
    have mask : BitVec.allOnes 32 <<< 1 = (~~~1 : UInt32).toBitVec := by decide
    rw [mask] at cut
    exact UInt32.toBitVec_inj.mp cut.symm
  have bound := size.toNat_lt
  rw [shifted, UInt32.toNat_shiftLeft, UInt32.toNat_shiftRight]
  have one : (1 : UInt32).toNat % 32 = 1 := rfl
  rw [one, Nat.shiftRight_eq_div_pow, Nat.shiftLeft_eq]
  omega

/-- The bytes of a picture of this even size. -/
def pictureSize (w h : Nat) : Nat := w * h + 2 * (w / 2) * (h / 2)

theorem nv12Size_eq {width height : UInt32} {w h : Nat} (isWidth : width.toNat = 2 * w)
    (isHeight : height.toNat = 2 * h)
    (small : pictureSize width.toNat height.toNat < 2 ^ 64) :
    nv12Size width height = pictureSize width.toNat height.toNat := by
  have halves : (2 * w + 1) / 2 = w ∧ (2 * h + 1) / 2 = h ∧ 2 * w / 2 = w ∧ 2 * h / 2 = h := by omega
  obtain ⟨roundedW, roundedH, halfW, halfH⟩ := halves
  unfold pictureSize at small ⊢
  unfold nv12Size usize
  rw [isWidth, isHeight, halfW, halfH] at small
  rw [isWidth, isHeight, halfW, halfH]
  dsimp only
  rw [roundedW, roundedH]
  generalize 2 * w * h = chroma at small ⊢
  generalize 2 * w * (2 * h) = luma at small ⊢
  rw [Nat.mod_eq_of_lt (show chroma < 2 ^ 64 by omega), Nat.mod_eq_of_lt small]

/-! ## A frame of BGRA -/

section
variable (pixels : List UInt8) (srcStride : Nat)

/-- A channel of a pixel of the source. -/
def channelAt (x y channel : Nat) : Int := byteOf pixels (y * srcStride + 4 * x + channel)

/-- The average of a channel over a block of the source. -/
def meanAt (i j channel : Nat) : Int :=
  mean (channelAt pixels srcStride (2 * i) (2 * j) channel)
    (channelAt pixels srcStride (2 * i + 1) (2 * j) channel)
    (channelAt pixels srcStride (2 * i) (2 * j + 1) channel)
    (channelAt pixels srcStride (2 * i + 1) (2 * j + 1) channel)

/-- The picture of the source: each byte of it is a formula of the source's pixels, as an integer.
-/
structure IsNv12Of (w h : Nat) (out : List UInt8) : Prop where
  length : out.length = pictureSize w h
  inside : ∀ x y, x < w → y < h → y * srcStride + 4 * x + 4 ≤ pixels.length
  luma : ∀ x y, x < w → y < h → ∃ byte, out[y * w + x]? = some byte ∧
    (byte.toNat : Int) = luma (channelAt pixels srcStride x y 2) (channelAt pixels srcStride x y 1)
      (channelAt pixels srcStride x y 0)
  chroma : ∀ i j, i < w / 2 → j < h / 2 → ∃ u v,
    out[w * h + j * w + 2 * i]? = some u ∧ out[w * h + j * w + 2 * i + 1]? = some v ∧
      (u.toNat : Int) = chromaU (meanAt pixels srcStride i j 2) (meanAt pixels srcStride i j 1)
        (meanAt pixels srcStride i j 0) ∧
      (v.toNat : Int) = chromaV (meanAt pixels srcStride i j 2) (meanAt pixels srcStride i j 1)
        (meanAt pixels srcStride i j 0)

end

section
variable {pixels : List UInt8} {srcStride w h : Nat}

theorem byteOf_sourceRow {y i : Nat} (small : y * srcStride < 2 ^ 64) (inRow : i < w * 4) :
    byteOf (sourceRow pixels srcStride w y) i = byteOf pixels (y * srcStride + i) := by
  have start : usize (y * srcStride) = y * srcStride := Nat.mod_eq_of_lt small
  unfold byteOf sourceRow
  rw [start, List.getD_eq_getElem?_getD, List.getD_eq_getElem?_getD, List.getElem?_take_of_lt inRow,
    List.getElem?_drop]

/-- Rows that the source has start where they are reckoned to: a start beyond `2 ^ 64` would come
after one beyond the source. -/
theorem fits_no_wrap (short : pixels.length < 2 ^ 63) (narrow : srcStride < 2 ^ 63)
    (has : fits pixels srcStride w 0 h = true) {y : Nat} (inside : y < h) :
    y * srcStride + w * 4 ≤ pixels.length := by
  have each : ∀ y < h, usize (y * srcStride) + w * 4 ≤ pixels.length := by
    intro y below
    have one := List.all_eq_true.mp has y (List.mem_range'_1.mpr ⟨Nat.zero_le _, by omega⟩)
    simpa using one
  induction y with
  | zero =>
      have first := each 0 inside
      rw [Nat.zero_mul] at first ⊢
      exact first
  | succ y ih =>
      have before := ih (by omega)
      have own := each (y + 1) inside
      have start : usize ((y + 1) * srcStride) = (y + 1) * srcStride := by
        apply Nat.mod_eq_of_lt
        rw [Nat.succ_mul]
        omega
      rwa [start] at own

theorem length_lumaRow (y : Nat) : (lumaRow pixels srcStride w y).length = w := by simp [lumaRow]

theorem length_chromaBytes (top bottom : List UInt8) (i : Nat) :
    (chromaBytes top bottom i).length = 2 := rfl

theorem length_chromaRow {k : Nat} (isEven : w = 2 * k) (j : Nat) :
    (chromaRow pixels srcStride w j).length = w := by
  have pairs := length_flatMap_of_length (length_chromaBytes (sourceRow pixels srcStride w (2 * j))
    (sourceRow pixels srcStride w (2 * j + 1))) (List.range (w / 2))
  rw [List.length_range] at pairs
  unfold chromaRow
  omega

theorem isNv12Of_planes {k l : Nat} (isWidth : w = 2 * k) (isHeight : h = 2 * l)
    (inside : ∀ y < h, y * srcStride + w * 4 ≤ pixels.length) (short : pixels.length < 2 ^ 63) :
    IsNv12Of pixels srcStride w h ((planesOf pixels srcStride w 0 (h / 2)).1 ++
      (planesOf pixels srcStride w 0 (h / 2)).2) := by
  have half : h / 2 = l := by omega
  have small (y : Nat) (below : y < h) : y * srcStride < 2 ^ 64 := by
    have row := inside y below
    omega
  have isLuma : (planesOf pixels srcStride w 0 (h / 2)).1 =
      (List.range h).flatMap (lumaRow pixels srcStride w) := by
    rw [planesOf, half, ← isHeight, Nat.mul_zero, List.range_eq_range']
  have isChroma : (planesOf pixels srcStride w 0 (h / 2)).2 =
      (List.range l).flatMap (chromaRow pixels srcStride w) := by
    rw [planesOf, half, List.range_eq_range']
  have lumaLength : ((List.range h).flatMap (lumaRow pixels srcStride w)).length = _ :=
    length_flatMap_of_length length_lumaRow _
  have chromaLength : ((List.range l).flatMap (chromaRow pixels srcStride w)).length = _ :=
    length_flatMap_of_length (length_chromaRow isWidth) _
  rw [List.length_range] at lumaLength chromaLength
  rw [isLuma, isChroma]
  -- where the bytes of a row, and of a block, are found
  have lumaAt (x y : Nat) (inWidth : x < w) (inHeight : y < h) :
      ((List.range h).flatMap (lumaRow pixels srcStride w))[y * w + x]? =
        some (lumaByte (sourceRow pixels srcStride w y) x) := by
    rw [getElem?_flatMap_of_length length_lumaRow _ y inWidth, List.getElem?_range inHeight,
      Option.bind_some, lumaRow, List.getElem?_map, List.getElem?_range inWidth]
    rfl
  have chromaAt (i j c : Nat) (inWidth : i < w / 2) (inHeight : j < h / 2) (pair : c < 2) :
      ((List.range l).flatMap (chromaRow pixels srcStride w))[j * w + (2 * i + c)]? =
        (chromaBytes (sourceRow pixels srcStride w (2 * j))
          (sourceRow pixels srcStride w (2 * j + 1)) i)[c]? := by
    rw [getElem?_flatMap_of_length (length_chromaRow isWidth) _ j (by omega),
      List.getElem?_range (by omega), Option.bind_some, chromaRow, Nat.mul_comm 2 i,
      getElem?_flatMap_of_length (length_chromaBytes _ _) _ i pair, List.getElem?_range inWidth,
      Option.bind_some]
  have behind (n : Nat) : ((List.range h).flatMap (lumaRow pixels srcStride w) ++
      (List.range l).flatMap (chromaRow pixels srcStride w))[w * h + n]? =
        ((List.range l).flatMap (chromaRow pixels srcStride w))[n]? := by
    rw [List.getElem?_append_right (by rw [lumaLength, Nat.mul_comm]; omega), lumaLength,
      Nat.mul_comm h w, Nat.add_sub_cancel_left]
  constructor
  · rw [List.length_append, lumaLength, chromaLength, pictureSize, half, Nat.mul_comm h w]
    have whole : 2 * (w / 2) = w := by omega
    rw [whole, Nat.mul_comm l w]
  · intro x y inWidth inHeight
    have row := inside y inHeight
    omega
  · intro x y inWidth inHeight
    have within : y * w + x < h * w := by
      have rows : (y + 1) * w ≤ h * w := Nat.mul_le_mul_right w inHeight
      rw [Nat.succ_mul] at rows
      omega
    refine ⟨_, ?_, toNat_ofNat_toNat (channel_luma (channel_byteOf _ _) (channel_byteOf _ _)
      (channel_byteOf _ _))⟩
    have start := small y inHeight
    unfold channelAt
    rw [List.getElem?_append_left (by rw [lumaLength]; exact within), lumaAt x y inWidth inHeight,
      lumaByte, byteOf_sourceRow start (by omega), byteOf_sourceRow start (by omega),
      byteOf_sourceRow start (by omega)]
    rfl
  · intro i j inWidth inHeight
    have upper := small (2 * j) (by omega)
    have lower := small (2 * j + 1) (by omega)
    have means (channel : Nat) (isChannel : channel < 4) :
        blockMean (sourceRow pixels srcStride w (2 * j)) (sourceRow pixels srcStride w (2 * j + 1))
          i channel = meanAt pixels srcStride i j channel := by
      unfold blockMean meanAt channelAt
      rw [byteOf_sourceRow upper (by omega), byteOf_sourceRow upper (by omega),
        byteOf_sourceRow lower (by omega), byteOf_sourceRow lower (by omega)]
      congr 2 <;> omega
    have u := chromaAt i j 0 inWidth inHeight (by decide)
    have v := chromaAt i j 1 inWidth inHeight (by decide)
    rw [chromaBytes, means 2 (by decide), means 1 (by decide), means 0 (by decide)] at u v
    have channel (channel : Nat) : Channel (meanAt pixels srcStride i j channel) :=
      channel_mean (channel_byteOf _ _) (channel_byteOf _ _) (channel_byteOf _ _)
        (channel_byteOf _ _)
    refine ⟨_, _, ?_, ?_, toNat_ofNat_toNat (channel_chromaU (channel 2) (channel 1) (channel 0)),
      toNat_ofNat_toNat (channel_chromaV (channel 2) (channel 1) (channel 0))⟩
    · rw [Nat.add_assoc, behind]
      exact u
    · rw [Nat.add_assoc, Nat.add_assoc, behind]
      exact v

end

/-- A frame of BGRA that is accepted becomes the picture of its pixels. -/
theorem bgra8ToNv12_accepted {cores : Nat} {frame : Frame} {out : List UInt8}
    {width height : UInt32} (accepted : bgra8ToNv12 cores frame = some (.ok (out, width, height))) :
    width = even frame.width ∧ height = even frame.height ∧
      out.length = nv12Size width height ∧ ∃ pixels, frame.cpu = .ok pixels ∧
        IsNv12Of pixels.1 (frame.width.toNat * 4) width.toNat height.toNat out := by
  have isWidth := toNat_even frame.width
  have isHeight := toNat_even frame.height
  unfold bgra8ToNv12 at accepted
  dsimp only at accepted
  split at accepted
  · cases accepted
  · rename_i large
    cases cpu : frame.cpu with
    | error error =>
        rw [cpu] at accepted
        cases accepted
    | ok pixels =>
        rw [cpu] at accepted
        dsimp only at accepted
        split at accepted
        · cases accepted
        · split at accepted
          · cases accepted
          · rename_i fitting
            obtain ⟨picture, converted, isOut⟩ := Option.bind_eq_some_iff.mp accepted
            simp only [Option.pure_def, Option.some.injEq, Except.ok.injEq, Prod.mk.injEq] at isOut
            obtain ⟨rfl, rfl, rfl⟩ := isOut
            have wide := frame.width.toNat_lt
            have tall := frame.height.toNat_lt
            have luma := Nat.mul_lt_mul'' (UInt32.toNat_lt (even frame.width))
              (UInt32.toNat_lt (even frame.height))
            have chroma : (even frame.width).toNat * ((even frame.height).toNat / 2) ≤
                (even frame.width).toNat * (even frame.height).toNat :=
              Nat.mul_le_mul_left _ (Nat.div_le_self _ _)
            have size := @nv12Size_eq (even frame.width) (even frame.height) _ _ isWidth isHeight
            generalize (even frame.width).toNat = w at *
            generalize (even frame.height).toNat = h at *
            have whole : usize (w * h + w * (h / 2)) = w * h + w * (h / 2) := by
              unfold usize at fitting ⊢
              omega
            rw [whole] at fitting converted
            have rows : 2 * (h / 2) = h := by omega
            have lumaRows : w * h = h / 2 * (w * 2) := by
              calc w * h = w * (2 * (h / 2)) := by rw [rows]
                _ = h / 2 * (w * 2) := by ring
            rw [convertPlanes_eq isWidth (by omega)
              (by rw [List.length_take, List.length_replicate, ← lumaRows]; omega)
              (by rw [List.length_drop, List.length_replicate, Nat.mul_comm (h / 2)]; omega)
              (by omega)] at converted
            rw [rows] at converted
            split at converted
            · rename_i has
              cases converted
              have inside := @fits_no_wrap pixels.1 (frame.width.toNat * 4) w h pixels.2 (by omega) has
              have isPicture := isNv12Of_planes isWidth isHeight (fun y => inside) pixels.2
              have pairs : 2 * (w / 2) = w := by omega
              have small : pictureSize w h < 2 ^ 64 := by
                rw [pictureSize, pairs]
                omega
              exact ⟨rfl, rfl, isPicture.length.trans (size small).symm, pixels, rfl, isPicture⟩
            · cases converted

/-- Rows that the source has are found where they are reckoned to start. -/
theorem fits_of_length {pixels : List UInt8} {srcStride w h : Nat} (short : pixels.length < 2 ^ 63)
    (narrow : w * 4 ≤ srcStride) (enough : srcStride * h ≤ pixels.length) :
    fits pixels srcStride w 0 h = true := by
  apply List.all_eq_true.mpr
  intro y member
  obtain ⟨-, below⟩ := List.mem_range'_1.mp member
  have upTo : (y + 1) * srcStride ≤ srcStride * h := by
    rw [Nat.mul_comm srcStride h]
    exact Nat.mul_le_mul_right _ (by omega)
  rw [Nat.succ_mul] at upTo
  have start : usize (y * srcStride) = y * srcStride := Nat.mod_eq_of_lt (by omega)
  rw [start]
  exact decide_eq_true (by omega)

/-- A frame of BGRA with all its pixels is accepted: nothing overflows and no range is outside. -/
theorem bgra8ToNv12_accepts {frame : Frame} {pixels : Buffer} (cores : Nat)
    (cpu : frame.cpu = .ok pixels) (wide : even frame.width ≠ 0) (tall : even frame.height ≠ 0)
    (enough : frame.width.toNat * 4 * (even frame.height).toNat ≤ pixels.1.length) :
    ∃ out, bgra8ToNv12 cores frame = some (.ok (out, even frame.width, even frame.height)) := by
  have isWidth := toNat_even frame.width
  have isHeight := toNat_even frame.height
  have wide' : (even frame.width).toNat ≠ 0 := fun none => wide (UInt32.toNat_inj.mp none)
  have tall' : (even frame.height).toNat ≠ 0 := fun none => tall (UInt32.toNat_inj.mp none)
  unfold bgra8ToNv12
  dsimp only
  rw [if_neg (by simp [wide', tall']), cpu]
  dsimp only
  have long : ¬ pixels.1.length < usize (frame.width.toNat * 4 * (even frame.height).toNat) :=
    Nat.not_lt.mpr ((Nat.mod_le _ _).trans enough)
  rw [if_neg long]
  have short := pixels.2
  generalize (even frame.width).toNat = w at *
  generalize (even frame.height).toNat = h at *
  have narrow : w * 4 ≤ frame.width.toNat * 4 := by omega
  have area := Nat.mul_le_mul_right h narrow
  rw [Nat.mul_right_comm] at area
  have chroma : w * (h / 2) ≤ w * h := Nat.mul_le_mul_left _ (Nat.div_le_self _ _)
  have whole : usize (w * h + w * (h / 2)) = w * h + w * (h / 2) := Nat.mod_eq_of_lt (by omega)
  have rows : 2 * (h / 2) = h := by omega
  have lumaRows : w * h = h / 2 * (w * 2) := by
    calc w * h = w * (2 * (h / 2)) := by rw [rows]
      _ = h / 2 * (w * 2) := by ring
  rw [whole, if_neg (by omega), convertPlanes_eq isWidth (by omega)
    (by rw [List.length_take, List.length_replicate, ← lumaRows]; omega)
    (by rw [List.length_drop, List.length_replicate, Nat.mul_comm (h / 2)]; omega)
    (by omega), rows, if_pos (fits_of_length short narrow enough)]
  exact ⟨_, rfl⟩

/-! ## Planes -/

/-- The three planes, of the bytes of an NV12 picture. -/
def IsI420Of (nv12 : List UInt8) (w h : Nat) (picture : List UInt8) : Prop :=
  ∃ y u v, picture = y ++ u ++ v ∧ y.length = w * h ∧ u.length = w / 2 * (h / 2) ∧
    v.length = w / 2 * (h / 2) ∧ (∀ i < w * h, y[i]? = nv12[i]?) ∧
    (∀ i < w / 2 * (h / 2), u[i]? = nv12[w * h + 2 * i]?) ∧
    ∀ i < w / 2 * (h / 2), v[i]? = nv12[w * h + 2 * i + 1]?

theorem getElem?_everySecond (bytes : List UInt8) (i : Nat) :
    (everySecond bytes)[i]? = bytes[2 * i]? := by
  fun_induction everySecond bytes generalizing i with
  | case1 first second rest ih =>
      cases i with
      | zero => rfl
      | succ i =>
          rw [List.getElem?_cons_succ, ih]
          rfl
  | case2 rest short =>
      cases rest with
      | nil => rfl
      | cons first rest =>
          cases rest with
          | cons second rest => exact absurd rfl (short first second rest)
          | nil =>
              cases i with
              | zero => rfl
              | succ i => rfl

theorem length_everySecond (bytes : List UInt8) :
    (everySecond bytes).length = (bytes.length + 1) / 2 := by
  fun_induction everySecond bytes with
  | case1 first second rest ih =>
      simp only [List.length_cons, ih]
      omega
  | case2 rest short =>
      cases rest with
      | nil => rfl
      | cons first rest =>
          cases rest with
          | cons second rest => exact absurd rfl (short first second rest)
          | nil => simp

theorem toI420_accepted {cores : Nat} {frame : Frame} {out : List UInt8} {width height : UInt32}
    (accepted : bgraToNv12 cores frame = some (.ok (out, width, height))) :
    toI420 cores frame =
      if out.length < width.toNat * height.toNat then none
      else some (.ok (out.take (width.toNat * height.toNat) ++
        everySecond (out.drop (width.toNat * height.toNat)) ++
          everySecond ((out.drop (width.toNat * height.toNat)).drop 1), width, height)) := by
  unfold toI420
  rw [accepted]
  rfl

/-- An NV12 picture of the right length is pulled apart into the three planes. -/
theorem isI420Of_of_length {out : List UInt8} {w h : Nat} (whole : out.length = pictureSize w h) :
    IsI420Of out w h (out.take (w * h) ++ everySecond (out.drop (w * h)) ++
      everySecond ((out.drop (w * h)).drop 1)) := by
  have size : out.length = w * h + 2 * (w / 2 * (h / 2)) := by
    rw [whole, pictureSize, Nat.mul_assoc]
  refine ⟨_, _, _, rfl, ?_, ?_, ?_, ?_, ?_, ?_⟩
  · rw [List.length_take]
    omega
  · rw [length_everySecond, List.length_drop]
    omega
  · rw [length_everySecond, List.length_drop, List.length_drop]
    omega
  · intro i inside
    exact List.getElem?_take_of_lt inside
  · intro i _
    rw [getElem?_everySecond, List.getElem?_drop]
  · intro i _
    rw [getElem?_everySecond, List.getElem?_drop, List.getElem?_drop]
    congr 1
    omega

/-- Planes of the right lengths are made of no more bytes than an NV12 picture has. -/
theorem length_of_isI420Of {out picture : List UInt8} {w h : Nat} (isPlanes : IsI420Of out w h picture)
    (isPicture : picture = out.take (w * h) ++ everySecond (out.drop (w * h)) ++
      everySecond ((out.drop (w * h)).drop 1)) (long : ¬out.length < w * h) :
    out.length = pictureSize w h := by
  obtain ⟨y, u, v, planes, isY, isU, isV, -⟩ := isPlanes
  have lengths := congrArg List.length (planes.symm.trans isPicture)
  simp only [List.length_append, List.length_take, length_everySecond, List.length_drop] at lengths
  rw [pictureSize, Nat.mul_assoc]
  omega

/-! ## The reference is met -/

/-- A frame of BGRA with all its pixels is accepted, the conversion of a frame that is accepted is the
reference's, and its planes are those of its NV12. -/
structure MeetsReference (cores : Nat) (frame : Frame) : Prop where
  accepts : ∀ pixels, frame.format = .bgra8 → frame.cpu = .ok pixels → even frame.width ≠ 0 →
    even frame.height ≠ 0 →
    frame.width.toNat * 4 * (even frame.height).toNat ≤ pixels.1.length →
    ∃ out, bgraToNv12 cores frame = some (.ok (out, even frame.width, even frame.height))
  converts : ∀ out width height, frame.format = .bgra8 →
    bgraToNv12 cores frame = some (.ok (out, width, height)) →
    width = even frame.width ∧ height = even frame.height ∧ out.length = nv12Size width height ∧
      ∃ pixels, frame.cpu = .ok pixels ∧
        IsNv12Of pixels.1 (frame.width.toNat * 4) width.toNat height.toNat out
  planes : ∀ out width height, bgraToNv12 cores frame = some (.ok (out, width, height)) →
    ∃ picture, toI420 cores frame = some (.ok (picture, width, height)) ∧
      IsI420Of out width.toNat height.toNat picture

/-- A frame that is NV12 already, of a size and length that is accepted, has no bytes but those of
its picture. -/
def Exact (frame : Frame) : Prop :=
  ∀ pixels, frame.format = .nv12 → frame.cpu = .ok pixels → frame.width ≠ 0 → frame.height ≠ 0 →
    frame.width.toNat % 2 = 0 → frame.height.toNat % 2 = 0 →
    nv12Size frame.width frame.height ≤ pixels.1.length →
    pixels.1.length = pictureSize frame.width.toNat frame.height.toNat

theorem even_eq_self {size : UInt32} (isEven : size.toNat % 2 = 0) : even size = size := by
  rw [← UInt32.toNat_inj, toNat_even]
  omega

theorem toNat_mod_of_even_eq {size : UInt32} (same : even size = size) : size.toNat % 2 = 0 := by
  have double := toNat_even size
  rw [same] at double
  omega

/-- What a pass-through accepts. -/
theorem nv12Passthrough_accepted_iff {frame : Frame} {out : List UInt8} {width height : UInt32} :
    nv12Passthrough frame = some (.ok (out, width, height)) ↔
      width = frame.width ∧ height = frame.height ∧ ∃ pixels, frame.cpu = .ok pixels ∧
        out = pixels.1 ∧ frame.width ≠ 0 ∧ frame.height ≠ 0 ∧ frame.width.toNat % 2 = 0 ∧
        frame.height.toNat % 2 = 0 ∧ nv12Size frame.width frame.height ≤ pixels.1.length := by
  unfold nv12Passthrough
  dsimp only
  constructor
  · intro accepted
    split at accepted
    · cases accepted
    · rename_i large
      split at accepted
      · cases accepted
      · rename_i whole
        simp only [ne_eq, not_or, not_not] at large whole
        cases cpu : frame.cpu with
        | error error =>
            rw [cpu] at accepted
            cases accepted
        | ok pixels =>
            rw [cpu] at accepted
            dsimp only at accepted
            split at accepted
            · cases accepted
            · rename_i long
              cases accepted
              refine ⟨whole.1, whole.2, pixels, rfl, rfl, ?_, ?_, toNat_mod_of_even_eq whole.1,
                toNat_mod_of_even_eq whole.2, ?_⟩
              · rw [← whole.1]
                exact large.1
              · rw [← whole.2]
                exact large.2
              · rw [whole.1, whole.2] at long
                omega
  · rintro ⟨rfl, rfl, pixels, cpu, rfl, wide, tall, evenWidth, evenHeight, long⟩
    rw [even_eq_self evenWidth, even_eq_self evenHeight, cpu]
    simp only [wide, tall, or_self, if_false, ne_eq, not_true_eq_false]
    rw [if_neg (by omega)]

/-- The conversion meets its reference but where the frame is NV12 with bytes behind its picture. -/
theorem meetsReference_iff (cores : Nat) (frame : Frame) :
    MeetsReference cores frame ↔ Exact frame := by
  constructor
  · intro meets pixels isNv12 cpu wide tall evenWidth evenHeight long
    have accepted : bgraToNv12 cores frame = some (.ok (pixels.1, frame.width, frame.height)) := by
      unfold bgraToNv12
      rw [isNv12]
      exact nv12Passthrough_accepted_iff.mpr
        ⟨rfl, rfl, pixels, cpu, rfl, wide, tall, evenWidth, evenHeight, long⟩
    obtain ⟨picture, converted, isPlanes⟩ := meets.planes _ _ _ accepted
    rw [toI420_accepted accepted] at converted
    split at converted
    · cases converted
    · rename_i enough
      cases converted
      exact length_of_isI420Of isPlanes rfl enough
  · intro whole
    have lengths (out : List UInt8) (width height : UInt32)
        (accepted : bgraToNv12 cores frame = some (.ok (out, width, height))) :
        out.length = pictureSize width.toNat height.toNat := by
      unfold bgraToNv12 at accepted
      cases format : frame.format with
      | bgra8 =>
          rw [format] at accepted
          obtain ⟨-, -, -, pixels, -, isPicture⟩ := bgra8ToNv12_accepted accepted
          exact isPicture.length
      | nv12 =>
          rw [format] at accepted
          obtain ⟨rfl, rfl, pixels, cpu, rfl, wide, tall, evenWidth, evenHeight, long⟩ :=
            nv12Passthrough_accepted_iff.mp accepted
          exact whole pixels format cpu wide tall evenWidth evenHeight long
    constructor
    · intro pixels format cpu wide tall enough
      unfold bgraToNv12
      rw [format]
      exact bgra8ToNv12_accepts cores cpu wide tall enough
    · intro out width height format accepted
      unfold bgraToNv12 at accepted
      rw [format] at accepted
      exact bgra8ToNv12_accepted accepted
    · intro out width height accepted
      have size := lengths out width height accepted
      have enough : ¬out.length < width.toNat * height.toNat := by
        rw [size, pictureSize]
        omega
      refine ⟨_, ?_, isI420Of_of_length size⟩
      rw [toI420_accepted accepted, if_neg enough]

/-- A 2x2 frame of NV12 with one byte behind its picture. -/
def overLong : Frame where
  width := 2
  height := 2
  format := .nv12
  cpu := .ok ⟨[1, 2, 3, 4, 10, 20, 99], by decide⟩

/-- The byte behind the picture becomes a sample of the first chroma plane, and the second plane
starts one byte late. -/
theorem overLong_has_wrong_planes :
    toI420 1 overLong = some (.ok ([1, 2, 3, 4, 10, 99, 20], 2, 2)) ∧
      ¬MeetsReference 1 overLong := by
  have converted : toI420 1 overLong = some (.ok ([1, 2, 3, 4, 10, 99, 20], 2, 2)) := by
    rfl
  refine ⟨converted, ?_⟩
  intro meets
  have accepted : bgraToNv12 1 overLong = some (.ok ([1, 2, 3, 4, 10, 20, 99], 2, 2)) := by
    rfl
  obtain ⟨picture, isPicture, y, u, v, planes, isY, isU, isV, -⟩ := meets.planes _ _ _ accepted
  rw [converted] at isPicture
  cases isPicture
  have lengths := congrArg List.length planes
  rw [List.length_append, List.length_append, isY, isU, isV] at lengths
  cases lengths

end Lumepeer.Media.Nv12
