import Lumepeer.Media.Encode.Nv12
import Mathlib.Tactic.Ring

/-!
# The reference of the conversion

The three formulas on unbounded integers, the picture they make of the pixels of a frame, and the
conversion of rows of blocks as that picture, however the rows are split.
-/

namespace Lumepeer.Media.Nv12
open Lumepeer.Lib Lumepeer.Media

/-! ## The formulas -/

/-- Luma of BT.601 in the studio range. -/
def luma (r g b : Int) : Int := (66 * r + 129 * g + 25 * b + 128) / 256 + 16

/-- The first chroma sample of BT.601. -/
def chromaU (r g b : Int) : Int := (-38 * r - 74 * g + 112 * b + 128) / 256 + 128

/-- The second chroma sample of BT.601. -/
def chromaV (r g b : Int) : Int := (112 * r - 94 * g - 18 * b + 128) / 256 + 128

/-- A channel of a pixel. -/
def Channel (c : Int) : Prop := 0 ≤ c ∧ c ≤ 255

theorem channel_wide (byte : UInt8) : Channel (wide byte) := by
  have bound := byte.toNat_lt
  unfold Channel wide
  omega

theorem bind_i32 {α : Type} {n : Int} (fits : -2 ^ 31 ≤ n ∧ n < 2 ^ 31) (f : Int → Option α) :
    (i32 n).bind f = f n := by
  rw [i32, if_pos fits, Option.bind_some]

theorem shiftRight_eight (n : Int) : n >>> (8 : Nat) = n / 256 := Int.shiftRight_eq_div_pow n 8

theorem clampU8_eq {n : Int} (fits : Channel n) : clampU8 n = UInt8.ofNat n.toNat := by
  obtain ⟨low, high⟩ := fits
  have inside : max 0 (min n 255) = n := by omega
  unfold clampU8
  rw [inside]
  exact if_pos ⟨low, by omega⟩

theorem toNat_ofNat_toNat {n : Int} (fits : Channel n) : ((UInt8.ofNat n.toNat).toNat : Int) = n := by
  obtain ⟨low, high⟩ := fits
  rw [UInt8.toNat_ofNat_of_lt' (by show n.toNat < 256; omega)]
  omega

section
variable {r g b : Int} (red : Channel r) (green : Channel g) (blue : Channel b)
include red green blue

theorem channel_luma : Channel (luma r g b) := by
  unfold Channel luma at *
  omega

theorem channel_chromaU : Channel (chromaU r g b) := by
  unfold Channel chromaU at *
  omega

theorem channel_chromaV : Channel (chromaV r g b) := by
  unfold Channel chromaV at *
  omega

/-- No step of the luma leaves an `i32`, and the clamp does nothing. -/
theorem bt601Y_eq : bt601Y r g b = some (UInt8.ofNat (luma r g b).toNat) := by
  have inside := channel_luma red green blue
  unfold Channel at red green blue
  simp only [bt601Y, Option.bind_eq_bind, shiftRight_eight]
  rw [bind_i32 (by omega), bind_i32 (by omega), bind_i32 (by omega), bind_i32 (by omega),
    bind_i32 (by omega), bind_i32 (by omega), bind_i32 (by omega)]
  exact congrArg some (clampU8_eq inside)

theorem bt601U_eq : bt601U r g b = some (UInt8.ofNat (chromaU r g b).toNat) := by
  have inside := channel_chromaU red green blue
  unfold Channel at red green blue
  simp only [bt601U, Option.bind_eq_bind, shiftRight_eight]
  rw [bind_i32 (by omega), bind_i32 (by omega), bind_i32 (by omega), bind_i32 (by omega),
    bind_i32 (by omega), bind_i32 (by omega), bind_i32 (by omega)]
  exact congrArg some (clampU8_eq inside)

theorem bt601V_eq : bt601V r g b = some (UInt8.ofNat (chromaV r g b).toNat) := by
  have inside := channel_chromaV red green blue
  unfold Channel at red green blue
  simp only [bt601V, Option.bind_eq_bind, shiftRight_eight]
  rw [bind_i32 (by omega), bind_i32 (by omega), bind_i32 (by omega), bind_i32 (by omega),
    bind_i32 (by omega), bind_i32 (by omega), bind_i32 (by omega)]
  exact congrArg some (clampU8_eq inside)

end

/-- The average of four channels. -/
def mean (a b c d : Int) : Int := (a + b + c + d) / 4

section
variable {a b c d : Int} (first : Channel a) (second : Channel b) (third : Channel c)
  (fourth : Channel d)
include first second third fourth

theorem channel_mean : Channel (mean a b c d) := by
  unfold Channel mean at *
  omega

theorem average_eq : average a b c d = some (mean a b c d) := by
  unfold Channel at first second third fourth
  simp only [average, Option.bind_eq_bind]
  rw [bind_i32 (by omega), bind_i32 (by omega), bind_i32 (by omega),
    Int.tdiv_eq_ediv_of_nonneg (by omega)]
  rfl

end

/-! ## Rows -/

/-- A byte of a row, and zero behind its end. -/
def byteOf (row : List UInt8) (i : Nat) : Int := wide (row.getD i 0)

theorem channel_byteOf (row : List UInt8) (i : Nat) : Channel (byteOf row i) := channel_wide _

/-- The luma byte of a pixel of a row. -/
def lumaByte (row : List UInt8) (x : Nat) : UInt8 :=
  UInt8.ofNat (luma (byteOf row (4 * x + 2)) (byteOf row (4 * x + 1)) (byteOf row (4 * x))).toNat

/-- The average of a channel over a block of two rows. -/
def blockMean (top bottom : List UInt8) (i channel : Nat) : Int :=
  mean (byteOf top (8 * i + channel)) (byteOf top (8 * i + 4 + channel))
    (byteOf bottom (8 * i + channel)) (byteOf bottom (8 * i + 4 + channel))

/-- The chroma bytes of a block of two rows. -/
def chromaBytes (top bottom : List UInt8) (i : Nat) : List UInt8 :=
  let r := blockMean top bottom i 2
  let g := blockMean top bottom i 1
  let b := blockMean top bottom i 0
  [UInt8.ofNat (chromaU r g b).toNat, UInt8.ofNat (chromaV r g b).toNat]

theorem exists_two {xs : List UInt8} {n : Nat} (length : xs.length = n + 2) :
    ∃ a b rest, xs = a :: b :: rest ∧ rest.length = n := by
  obtain ⟨a, tail, rfl⟩ := List.exists_cons_of_length_eq_add_one length
  rw [List.length_cons, Nat.add_right_cancel_iff] at length
  obtain ⟨b, rest, rfl⟩ := List.exists_cons_of_length_eq_add_one length
  exact ⟨a, b, rest, rfl, by simpa using length⟩

theorem exists_eight {xs : List UInt8} {n : Nat} (length : xs.length = n + 8) :
    ∃ a b c d e f g h rest, xs = a :: b :: c :: d :: e :: f :: g :: h :: rest ∧
      rest.length = n := by
  obtain ⟨a, b, _, rfl, six⟩ := @exists_two _ (n + 6) length
  obtain ⟨c, d, _, rfl, four⟩ := @exists_two _ (n + 4) six
  obtain ⟨e, f, _, rfl, two⟩ := @exists_two _ (n + 2) four
  obtain ⟨g, h, rest, rfl, none⟩ := @exists_two _ n two
  exact ⟨a, b, c, d, e, f, g, h, rest, rfl, none⟩

theorem map_range_double {α : Type} (f : Nat → α) (k : Nat) :
    (List.range (2 * (k + 1))).map f =
      f 0 :: f 1 :: (List.range (2 * k)).map fun x => f (x + 2) := by
  rw [Nat.mul_succ, List.range_succ_eq_map, List.range_succ_eq_map]
  simp [Function.comp_def]

/-- Two rows of `k` blocks become two rows of luma and one of chroma. -/
theorem convertBlocks_eq {k : Nat} {top bottom yTop yBottom uv : List UInt8}
    (isTop : top.length = 8 * k) (isBottom : bottom.length = 8 * k)
    (isYTop : yTop.length = 2 * k) (isYBottom : yBottom.length = 2 * k)
    (isUv : uv.length = 2 * k) :
    convertBlocks top bottom yTop yBottom uv =
      some ((List.range (2 * k)).map (lumaByte top), (List.range (2 * k)).map (lumaByte bottom),
        (List.range k).flatMap (chromaBytes top bottom)) := by
  induction k generalizing top bottom yTop yBottom uv with
  | zero =>
      rw [List.length_eq_zero_iff.mp isTop, List.length_eq_zero_iff.mp isYTop,
        List.length_eq_zero_iff.mp isYBottom, List.length_eq_zero_iff.mp isUv]
      rfl
  | succ k ih =>
      obtain ⟨b0, g0, r0, _, b1, g1, r1, _, top, rfl, shortTop⟩ := exists_eight isTop
      obtain ⟨b2, g2, r2, _, b3, g3, r3, _, bottom, rfl, shortBottom⟩ := exists_eight isBottom
      obtain ⟨_, _, yTop, rfl, shortYTop⟩ := exists_two isYTop
      obtain ⟨_, _, yBottom, rfl, shortYBottom⟩ := exists_two isYBottom
      obtain ⟨_, _, uv, rfl, shortUv⟩ := exists_two isUv
      have rest := ih shortTop shortBottom shortYTop shortYBottom shortUv
      have channel := channel_wide
      simp only [convertBlocks, rest, Option.bind_eq_bind, Option.bind_some,
        bt601Y_eq (channel _) (channel _) (channel _),
        average_eq (channel _) (channel _) (channel _) (channel _),
        bt601U_eq (channel_mean (channel _) (channel _) (channel _) (channel _))
          (channel_mean (channel _) (channel _) (channel _) (channel _))
          (channel_mean (channel _) (channel _) (channel _) (channel _)),
        bt601V_eq (channel_mean (channel _) (channel _) (channel _) (channel _))
          (channel_mean (channel _) (channel _) (channel _) (channel _))
          (channel_mean (channel _) (channel _) (channel _) (channel _))]
      rw [map_range_double, map_range_double, List.range_succ_eq_map, List.flatMap_cons,
        List.flatMap_map]
      rfl

/-! ## Rows of blocks -/

section
variable (pixels : List UInt8) (srcStride width : Nat)

/-- The pixels of a row of the source. -/
def sourceRow (y : Nat) : List UInt8 :=
  (pixels.drop (usize (y * srcStride))).take (width * 4)

/-- The source has all pixels of these rows. -/
def fits (first count : Nat) : Bool :=
  (List.range' first count).all fun y => usize (y * srcStride) + width * 4 ≤ pixels.length

/-- A row of luma. -/
def lumaRow (y : Nat) : List UInt8 :=
  (List.range width).map (lumaByte (sourceRow pixels srcStride width y))

/-- A row of chroma. -/
def chromaRow (j : Nat) : List UInt8 :=
  (List.range (width / 2)).flatMap (chromaBytes (sourceRow pixels srcStride width (2 * j))
    (sourceRow pixels srcStride width (2 * j + 1)))

/-- The luma of some rows, and the chroma of their blocks. -/
def planesOf (first rows : Nat) : List UInt8 × List UInt8 :=
  ((List.range' (2 * first) (2 * rows)).flatMap (lumaRow pixels srcStride width),
    (List.range' first rows).flatMap (chromaRow pixels srcStride width))

end

section
variable {pixels : List UInt8} {srcStride width : Nat}

theorem getRange_row (start length : Nat) : getRange pixels start (start + length) =
    if start + length ≤ pixels.length then some ((pixels.drop start).take length) else none := by
  unfold getRange
  rw [Nat.add_sub_cancel_left]
  by_cases inside : start + length ≤ pixels.length
  · rw [if_pos inside, if_pos ⟨Nat.le_add_right _ _, inside⟩]
  · rw [if_neg inside, if_neg fun both => inside both.2]

theorem fits_add (first some more : Nat) : fits pixels srcStride width first (some + more) =
    (fits pixels srcStride width first some && fits pixels srcStride width (first + some) more) := by
  unfold fits
  rw [← List.all_append, List.range'_append_1]

theorem planesOf_add (first some more : Nat) :
    planesOf pixels srcStride width first (some + more) =
      ((planesOf pixels srcStride width first some).1 ++
          (planesOf pixels srcStride width (first + some) more).1,
        (planesOf pixels srcStride width first some).2 ++
          (planesOf pixels srcStride width (first + some) more).2) := by
  unfold planesOf
  rw [← List.flatMap_append, ← List.flatMap_append, Nat.mul_add, Nat.mul_add, List.range'_append_1,
    List.range'_append_1]

theorem length_sourceRow {y : Nat}
    (inside : usize (y * srcStride) + width * 4 ≤ pixels.length) :
    (sourceRow pixels srcStride width y).length = width * 4 := by
  unfold sourceRow
  rw [List.length_take, List.length_drop]
  omega

/-- The rows of blocks are converted if the source has them. -/
theorem convertRowsFrom_eq {k : Nat} (isEven : width = 2 * k) {rows blockRow : Nat}
    {yPlane uvPlane : List UInt8} (isY : yPlane.length = rows * (width * 2))
    (isUv : uvPlane.length = rows * width) :
    convertRowsFrom pixels srcStride width rows blockRow yPlane uvPlane =
      if fits pixels srcStride width (2 * blockRow) (2 * rows) then
        some (planesOf pixels srcStride width blockRow rows)
      else none := by
  induction rows generalizing blockRow yPlane uvPlane with
  | zero =>
      rw [Nat.zero_mul, List.length_eq_zero_iff] at isY isUv
      rw [isY, isUv]
      rfl
  | succ rows ih =>
      rw [Nat.succ_mul] at isY isUv
      have rest := @ih (blockRow + 1) (yPlane.drop (width * 2)) (uvPlane.drop width)
        (by rw [List.length_drop]; omega) (by rw [List.length_drop]; omega)
      have yRows : getRange yPlane 0 (width * 2) = some (yPlane.take (width * 2)) := by
        rw [getRange_of_le (Nat.zero_le _) (by omega)]
        rfl
      have top : blockRow * 2 = 2 * blockRow := Nat.mul_comm _ _
      have firstFits : fits pixels srcStride width (2 * blockRow) 2 =
          (decide (usize (2 * blockRow * srcStride) + width * 4 ≤ pixels.length) &&
            decide (usize ((2 * blockRow + 1) * srcStride) + width * 4 ≤ pixels.length)) := by
        simp [fits, List.range']
      have split : fits pixels srcStride width (2 * blockRow) (2 * (rows + 1)) =
          (fits pixels srcStride width (2 * blockRow) 2 &&
            fits pixels srcStride width (2 * (blockRow + 1)) (2 * rows)) := by
        rw [Nat.mul_succ 2 blockRow, ← fits_add, Nat.mul_succ, Nat.add_comm 2]
      rw [convertRowsFrom, split, firstFits, yRows, top]
      simp only [Option.bind_eq_bind, Option.bind_some, getRange_row, rest]
      by_cases hasTop : usize (2 * blockRow * srcStride) + width * 4 ≤ pixels.length
      · by_cases hasBottom :
          usize ((2 * blockRow + 1) * srcStride) + width * 4 ≤ pixels.length
        · have blocks := @convertBlocks_eq k
            (sourceRow pixels srcStride width (2 * blockRow))
            (sourceRow pixels srcStride width (2 * blockRow + 1))
            ((yPlane.take (width * 2)).take width) ((yPlane.take (width * 2)).drop width)
            (uvPlane.take width) (by rw [length_sourceRow hasTop]; omega)
            (by rw [length_sourceRow hasBottom]; omega)
            (by rw [List.length_take, List.length_take]; omega)
            (by rw [List.length_drop, List.length_take]; omega)
            (by rw [List.length_take]; omega)
          unfold sourceRow at blocks
          simp only [hasTop, hasBottom, if_true, decide_true, Bool.true_and, Option.bind_some]
          rw [blocks]
          simp only [Option.bind_some]
          cases fits pixels srcStride width (2 * (blockRow + 1)) (2 * rows) with
          | false => rfl
          | true =>
              have one : planesOf pixels srcStride width blockRow 1 =
                  (lumaRow pixels srcStride width (2 * blockRow) ++
                      lumaRow pixels srcStride width (2 * blockRow + 1),
                    chromaRow pixels srcStride width blockRow) := by
                simp [planesOf, List.range']
              have half : width / 2 = k := by omega
              rw [Nat.add_comm rows, planesOf_add, one]
              simp only [if_true, Option.bind_some]
              unfold lumaRow chromaRow sourceRow
              rw [half, ← isEven]
              rfl
        · simp [hasTop, hasBottom]
      · simp [hasTop]

theorem convertRows_eq {k : Nat} (isEven : width = 2 * k) (pos : 0 < width) {rows blockRow : Nat}
    {yPlane uvPlane : List UInt8} (isY : yPlane.length = rows * (width * 2))
    (isUv : uvPlane.length = rows * width) :
    convertRows pixels srcStride width blockRow yPlane uvPlane =
      if fits pixels srcStride width (2 * blockRow) (2 * rows) then
        some (planesOf pixels srcStride width blockRow rows)
      else none := by
  rw [convertRows, if_neg (by omega), isUv, Nat.mul_div_cancel _ pos]
  exact convertRowsFrom_eq isEven isY isUv

/-! ## Parts -/

/-- A picture that is split into parts of `p` rows of blocks is converted as a whole. -/
theorem convertParts_eq {k p : Nat} (isEven : width = 2 * k) (pos : 0 < width) {n first rows : Nat}
    {yPlane uvPlane : List UInt8} (isY : yPlane.length = rows * (width * 2))
    (isUv : uvPlane.length = rows * width) (enough : rows ≤ n * p) :
    ((((groups (p * (width * 2)) n yPlane).zip (groups (p * width) n uvPlane)).zipIdx first).mapM
        fun part => convertRows pixels srcStride width (part.2 * p) part.1.1 part.1.2).map
        (fun done => ((done.map Prod.fst).flatten, (done.map Prod.snd).flatten)) =
      if fits pixels srcStride width (2 * (first * p)) (2 * rows) then
        some (planesOf pixels srcStride width (first * p) rows)
      else none := by
  induction n generalizing first rows yPlane uvPlane with
  | zero =>
      have none : rows = 0 := by omega
      subst none
      rfl
  | succ n ih =>
      rw [Nat.succ_mul] at enough
      -- the rows of this part, and those of the later ones
      have own := @convertRows_eq pixels srcStride width k isEven pos (min p rows) (first * p)
        (yPlane.take (p * (width * 2))) (uvPlane.take (p * width))
        (by rw [List.length_take, isY, Nat.mul_min_mul_right])
        (by rw [List.length_take, isUv, Nat.mul_min_mul_right])
      have rest := @ih (first + 1) (rows - p) (yPlane.drop (p * (width * 2)))
        (uvPlane.drop (p * width)) (by rw [List.length_drop, isY, Nat.sub_mul])
        (by rw [List.length_drop, isUv, Nat.sub_mul]) (by omega)
      rw [groups, groups, List.zip_cons_cons, List.zipIdx_cons, List.mapM_cons, own]
      have split : (fits pixels srcStride width (2 * (first * p)) (2 * rows) =
          (fits pixels srcStride width (2 * (first * p)) (2 * min p rows) &&
            fits pixels srcStride width (2 * ((first + 1) * p)) (2 * (rows - p)))) ∧
          planesOf pixels srcStride width (first * p) rows =
            ((planesOf pixels srcStride width (first * p) (min p rows)).1 ++
                (planesOf pixels srcStride width ((first + 1) * p) (rows - p)).1,
              (planesOf pixels srcStride width (first * p) (min p rows)).2 ++
                (planesOf pixels srcStride width ((first + 1) * p) (rows - p)).2) := by
        rcases Nat.le_total p rows with whole | last
        · obtain ⟨more, rfl⟩ := Nat.exists_eq_add_of_le whole
          have next : (first + 1) * p = first * p + p := Nat.succ_mul first p
          rw [Nat.min_eq_left whole, Nat.add_sub_cancel_left, next, Nat.mul_add 2 p,
            Nat.mul_add 2 (first * p), fits_add]
          exact ⟨rfl, planesOf_add _ _ _⟩
        · rw [Nat.min_eq_right last, Nat.sub_eq_zero_of_le last]
          constructor
          · simp [fits]
          · simp [planesOf]
      rw [split.1, split.2]
      cases fits pixels srcStride width (2 * (first * p)) (2 * min p rows) with
      | false => rfl
      | true =>
          cases later : fits pixels srcStride width (2 * ((first + 1) * p)) (2 * (rows - p)) with
          | false =>
              rw [later, if_neg (by decide), Option.map_eq_none_iff] at rest
              simp [rest]
          | true =>
              rw [later, if_pos rfl, Option.map_eq_some_iff] at rest
              obtain ⟨done, isDone, planes⟩ := rest
              simp [isDone, ← planes]

/-- Split or not, the planes are those of the reference. -/
theorem convertPlanes_eq {k : Nat} (isEven : width = 2 * k) (pos : 0 < width) {cores height : Nat}
    {yPlane uvPlane : List UInt8} (isY : yPlane.length = height / 2 * (width * 2))
    (isUv : uvPlane.length = height / 2 * width) (tall : 0 < height / 2) :
    convertPlanes cores pixels srcStride width height yPlane uvPlane =
      if fits pixels srcStride width 0 (2 * (height / 2)) then
        some ((planesOf pixels srcStride width 0 (height / 2)).1 ++
          (planesOf pixels srcStride width 0 (height / 2)).2)
      else none := by
  unfold convertPlanes
  dsimp only
  have several : 0 < workers cores (width * height) := by
    unfold workers
    split <;> omega
  generalize workers cores (width * height) = threads at several ⊢
  have share : 0 < (height / 2 + threads - 1) / threads := Nat.div_pos (by omega) several
  generalize (height / 2 + threads - 1) / threads = p at share ⊢
  have pieces : chunks (p * 2 * width) yPlane =
      groups (p * (width * 2)) ((height / 2 + p - 1) / p) yPlane := by
    rw [Nat.mul_assoc p, Nat.mul_comm 2 width, chunks, isY, ceilDiv_mul_right (by omega)]
  have pieces' : chunks (p * width) uvPlane =
      groups (p * width) ((height / 2 + p - 1) / p) uvPlane := by
    rw [chunks, isUv, ceilDiv_mul_right pos]
  have done := @convertParts_eq pixels srcStride width k p isEven pos ((height / 2 + p - 1) / p) 0
    (height / 2) yPlane uvPlane isY isUv (le_ceilDiv_mul share)
  rw [pieces, pieces']
  rw [Nat.zero_mul, Nat.mul_zero] at done
  have many : (((groups (p * (width * 2)) ((height / 2 + p - 1) / p) yPlane).zip
      (groups (p * width) ((height / 2 + p - 1) / p) uvPlane)).zipIdx).length =
        (height / 2 + p - 1) / p := by
    simp
  have noneLeft : (groups (p * (width * 2)) ((height / 2 + p - 1) / p) yPlane).drop
      ((height / 2 + p - 1) / p) = [] := by
    simp
  have noneLeft' : (groups (p * width) ((height / 2 + p - 1) / p) uvPlane).drop
      ((height / 2 + p - 1) / p) = [] := by
    simp
  rw [many, noneLeft, noneLeft']
  cases all : fits pixels srcStride width 0 (2 * (height / 2)) with
  | false =>
      rw [all, if_neg (by decide), Option.map_eq_none_iff] at done
      simp [done]
  | true =>
      rw [all, if_pos rfl, Option.map_eq_some_iff] at done
      obtain ⟨converted, isConverted, planes⟩ := done
      simp [isConverted, ← planes]

end

end Lumepeer.Media.Nv12
