import Lumepeer.Lib.Totals
import Lumepeer.Media.Scale.Proofs.Spans
import Mathlib.Algebra.Order.BigOperators.Group.List

/-!
# The fast filter and the reference

Both filters add up the samples of a box, the fast one a source row at a time
for all columns at once. Passed through `words32` either is the same list of
exact sums, `none` if one of them is no `u32`; so they differ from the means of
the boxes only where a box is too large for its sum, and `boxPlane_eq` says so
for every division of the rows among threads.
-/

namespace Lumepeer.Media
open Lumepeer.Lib

/-- The byte at `i`. -/
def byteAt (src : List UInt8) (i : Nat) : Nat := (src.getD i 0).toNat

/-- The bytes of the `k`-th sample. -/
def sampleAt (src : List UInt8) (C k : Nat) : List UInt8 :=
  (List.range C).map fun c => src.getD (k * C + c) 0

/-- What a source row adds to channel `c` of the box of `column`. -/
def lineSum (src : List UInt8) (C sourceWidth row : Nat) (column : Nat × Nat) (c : Nat) : Nat :=
  ((List.range' column.1 (column.2 - column.1)).map fun x =>
    byteAt src ((row * sourceWidth + x) * C + c)).sum

/-- The sum of channel `c` over a box. -/
def boxSum (src : List UInt8) (C sourceWidth : Nat) (row column : Nat × Nat) (c : Nat) : Nat :=
  ((List.range' row.1 (row.2 - row.1)).map fun y => lineSum src C sourceWidth y column c).sum

/-- The number of samples of a box. -/
def boxCount (row column : Nat × Nat) : Nat := (row.2 - row.1) * (column.2 - column.1)

/-- The truncated mean of every box, row by row, sample by sample. -/
def boxMeans (src : List UInt8) (C : Nat) (source target : Nat × Nat) : List Nat :=
  (List.range target.2).flatMap fun y => (List.range target.1).flatMap fun x =>
    let row := span source.2 target.2 y
    let column := span source.1 target.1 x
    (List.range C).map fun c => boxSum src C source.1 row column c / boxCount row column

/-! ## Samples -/

section
variable {src : List UInt8} {C : Nat}

@[simp] theorem length_sampleAt (k : Nat) : (sampleAt src C k).length = C := by simp [sampleAt]

theorem take_eq_sampleAt {k : Nat} (inside : (k + 1) * C ≤ src.length) :
    (src.drop (k * C)).take C = sampleAt src C k := by
  rw [Nat.succ_mul] at inside
  apply List.ext_getElem
  · simp
    omega
  · intro c short _
    have within : k * C + c < src.length := by
      simp at short
      omega
    simp [sampleAt, List.getD_eq_getElem?_getD, within]

theorem take_eq_samples {a n : Nat} (inside : (a + n) * C ≤ src.length) :
    (src.drop (a * C)).take (n * C) = (List.range' a n).flatMap (sampleAt src C) := by
  induction n generalizing a with
  | zero => simp
  | succ n ih =>
      have first : (a + 1) * C ≤ src.length :=
        Nat.le_trans (Nat.mul_le_mul_right C (by omega)) inside
      have rest := @ih (a + 1) (by rw [Nat.add_right_comm, Nat.add_assoc]; exact inside)
      rw [Nat.succ_mul, Nat.add_comm (n * C), List.take_add, take_eq_sampleAt first, List.drop_drop,
        ← Nat.succ_mul, rest, List.range'_succ, List.flatMap_cons]

/-! ## Sums -/

theorem addSample_words (totals : List Nat) (sample : List UInt8)
    (length : totals.length = sample.length) :
    ((words32 totals).bind fun sums => addSample sums sample) =
      words32 (List.zipWith (fun total byte => total + byte.toNat) totals sample) := by
  induction totals generalizing sample with
  | nil =>
      cases sample with
      | nil => rfl
      | cons byte sample => cases length
  | cons total totals ih =>
      cases sample with
      | nil => cases length
      | cons byte sample =>
          have rest := ih sample (Nat.succ.inj length)
          have first := checkedAdd32_tryFrom32 total byte.toUInt32
          rw [List.zipWith_cons_cons, words32_cons, words32_cons, ← rest,
            show byte.toNat = byte.toUInt32.toNat from (UInt8.toNat_toUInt32 byte).symm, ← first]
          cases tryFrom32 total with
          | none => rfl
          | some word =>
              cases words32 totals with
              | none => simp
              | some words =>
                  simp only [Option.bind_some, Option.map_some, addSample]
                  cases checkedAdd32 word byte.toUInt32 <;> cases addSample words sample <;> rfl

/-- Adding the `k`-th sample. -/
theorem addSample_totals (totals : Nat → Nat) (k : Nat) :
    ((words32 ((List.range C).map totals)).bind fun sums => addSample sums (sampleAt src C k)) =
      words32 ((List.range C).map fun c => totals c + byteAt src (k * C + c)) := by
  rw [addSample_words _ _ (by simp [sampleAt]), sampleAt, List.zipWith_map, List.zipWith_self]
  rfl

/-- The samples of one source row that lie in a column. -/
theorem column_samples {sourceWidth row : Nat} {column : Nat × Nat} {line : List UInt8} (pos : 0 < C)
    (inside : (row + 1) * (sourceWidth * C) ≤ src.length) (ordered : column.1 ≤ column.2)
    (within : column.2 ≤ sourceWidth)
    (isLine : line = (src.drop (row * (sourceWidth * C))).take (sourceWidth * C)) :
    ((getRange line (column.1 * C) (column.2 * C)).map fun part => chunksExact C part) =
      some ((List.range' column.1 (column.2 - column.1)).map fun x =>
        sampleAt src C (row * sourceWidth + x)) := by
  have width : column.2 * C ≤ sourceWidth * C := Nat.mul_le_mul_right C within
  have start : column.1 * C ≤ column.2 * C := Nat.mul_le_mul_right C ordered
  have long : line.length = sourceWidth * C := by
    rw [isLine, List.length_take, List.length_drop, Nat.succ_mul] at *
    omega
  have samples : (line.drop (column.1 * C)).take (column.2 * C - column.1 * C) =
      (List.range' (row * sourceWidth + column.1) (column.2 - column.1)).flatMap
        (sampleAt src C) := by
    have isLength : min (column.2 * C - column.1 * C) (sourceWidth * C - column.1 * C) =
        (column.2 - column.1) * C := by
      rw [Nat.sub_mul]
      omega
    have isStart : row * (sourceWidth * C) + column.1 * C = (row * sourceWidth + column.1) * C := by
      ring
    rw [isLine, List.drop_take, List.drop_drop, List.take_take, isLength, isStart]
    apply take_eq_samples
    calc (row * sourceWidth + column.1 + (column.2 - column.1)) * C
        = row * (sourceWidth * C) + column.2 * C := by
          rw [Nat.add_assoc, Nat.add_sub_cancel' ordered]
          ring
      _ ≤ (row + 1) * (sourceWidth * C) := by
          rw [Nat.succ_mul]
          omega
      _ ≤ src.length := inside
  rw [getRange_of_le start (by omega), Option.map_some, samples,
    chunksExact_flatMap pos length_sampleAt, ← List.map_add_range', List.map_map]
  rfl

/-- One source row adds its samples to the sums of one column. -/
theorem column_totals {sourceWidth row : Nat} {column : Nat × Nat} {line : List UInt8}
    (pos : 0 < C) (inside : (row + 1) * (sourceWidth * C) ≤ src.length)
    (ordered : column.1 ≤ column.2) (within : column.2 ≤ sourceWidth)
    (isLine : line = (src.drop (row * (sourceWidth * C))).take (sourceWidth * C))
    (totals : Nat → Nat) :
    ((words32 ((List.range C).map totals)).bind fun sum =>
        (getRange line (column.1 * C) (column.2 * C)).bind fun part =>
          (chunksExact C part).foldlM addSample sum) =
      words32 ((List.range C).map fun c => totals c + lineSum src C sourceWidth row column c) := by
  have samples := column_samples pos inside ordered within isLine
  cases cut : getRange line (column.1 * C) (column.2 * C) with
  | none => simp [cut] at samples
  | some part =>
      rw [cut, Option.map_some, Option.some.injEq] at samples
      simp only [Option.bind_some, samples, List.foldlM_map]
      exact foldlM_totals (fun totals x _ => addSample_totals totals _) totals

/-- One source row adds its samples to the sums of all columns. -/
theorem addLine_totals {sourceWidth row : Nat} {columns : List (Nat × Nat)} (pos : 0 < C)
    (inside : (row + 1) * (sourceWidth * C) ≤ src.length)
    (within : ∀ column ∈ columns, column.1 ≤ column.2 ∧ column.2 ≤ sourceWidth)
    (totals : (Nat × Nat) × Nat → Nat) :
    ((words32 (columns.flatMap fun column => (List.range C).map fun c => totals (column, c))).bind
        fun sums => addLine C src sourceWidth columns sums row) =
      words32 (columns.flatMap fun column => (List.range C).map fun c =>
        totals (column, c) + lineSum src C sourceWidth row column c) := by
  have line : getRange src (row * (sourceWidth * C)) (row * (sourceWidth * C) + sourceWidth * C) =
      some ((src.drop (row * (sourceWidth * C))).take (sourceWidth * C)) := by
    rw [getRange_of_le (by omega) (by rw [← Nat.succ_mul]; exact inside), Nat.add_sub_cancel_left]
  simp only [addLine, line, Option.bind_eq_bind, Option.bind_some]
  apply overChunks_totals
  · simp
  · intro column member
    obtain ⟨ordered, width⟩ := within column member
    exact column_totals pos inside ordered width rfl fun c => totals (column, c)

/-- The sums of a row of boxes. -/
theorem rowSums_eq {sourceWidth : Nat} {columns : List (Nat × Nat)} {row : Nat × Nat}
    (pos : 0 < C) (inside : row.2 * (sourceWidth * C) ≤ src.length)
    (within : ∀ column ∈ columns, column.1 ≤ column.2 ∧ column.2 ≤ sourceWidth) :
    rowSums C src sourceWidth columns row =
      words32 (columns.flatMap fun column =>
        (List.range C).map fun c => boxSum src C sourceWidth row column c) := by
  have start : words32 (columns.flatMap fun _ => (List.range C).map fun _ => 0) =
      some (List.replicate (columns.length * C) 0) := by
    have zeros : (columns.flatMap fun _ => (List.range C).map fun _ => 0) =
        List.replicate (columns.length * C) 0 := by
      rw [List.eq_replicate_iff]
      refine ⟨length_flatMap_of_length (by simp) columns, ?_⟩
      simp
    rw [zeros, words32_of_lt fun total member => by simp [List.eq_of_mem_replicate member],
      List.map_replicate]
    rfl
  have rows := @foldlM_totals (List UInt32) Nat ((Nat × Nat) × Nat)
    (fun totals => words32 (columns.flatMap fun column =>
      (List.range C).map fun c => totals (column, c)))
    (addLine C src sourceWidth columns) (fun y i => lineSum src C sourceWidth y i.1 i.2)
    (List.range' row.1 (row.2 - row.1)) ?_ fun _ => 0
  · simp only [start, Option.bind_some, Nat.zero_add] at rows
    exact rows
  · intro totals y member
    rw [List.mem_range'_1] at member
    apply addLine_totals pos _ within
    exact Nat.le_trans (Nat.mul_le_mul_right _ (by omega)) inside

/-! ## Means -/

/-- The divisor of a column in a row of boxes. -/
def divisorOf (height : Nat) (column : Nat × Nat) : Divisor :=
  Divisor.new ((tryFrom32 ((column.2 - column.1) * height)).getD 0xffffffff)

/-- Every entry holds the divisors of its height. -/
def Divisors.Right (divisors : Divisors) : Prop :=
  ∀ entry ∈ divisors.byHeight, entry.2 = divisors.columns.map (divisorOf entry.1)

theorem Divisors.forRows_right {divisors : Divisors} (right : divisors.Right) (height : Nat) :
    (divisors.forRows height).1 = divisors.columns.map (divisorOf height) ∧
      (divisors.forRows height).2.columns = divisors.columns ∧
      (divisors.forRows height).2.Right := by
  unfold forRows
  cases found : divisors.byHeight.find? fun entry => entry.1 = height with
  | some entry =>
      have same : entry.1 = height := by simpa using List.find?_some found
      refine ⟨?_, rfl, right⟩
      rw [← same]
      exact right entry (List.mem_of_find?_eq_some found)
  | none =>
      refine ⟨rfl, rfl, ?_⟩
      intro entry member
      rcases List.mem_append.mp member with old | new
      · exact right entry old
      · rw [List.mem_singleton.mp new]
        rfl

theorem writeMeans_eq (divisor : Divisor) {out : List UInt8} {sum : List UInt32}
    (length : out.length = sum.length) :
    writeMeans divisor out sum = sum.map divisor.divide := by
  induction sum generalizing out with
  | nil =>
      rw [List.length_eq_zero_iff.mp length]
      rfl
  | cons total sum ih =>
      cases out with
      | nil => cases length
      | cons byte out => rw [writeMeans, ih (Nat.succ.inj length), List.map_cons]

/-- Every piece of `out` becomes the means of its sums. -/
theorem overChunks_writeMeans {out : List UInt8} {items : List (List UInt32 × Divisor)}
    (length : out.length = items.length * C) (sums : ∀ item ∈ items, item.1.length = C) :
    overChunks C (fun out (sum, divisor) => some (writeMeans divisor out sum)) out items =
      some (items.flatMap fun item => item.1.map item.2.divide) := by
  induction items generalizing out with
  | nil =>
      rw [List.length_nil, Nat.zero_mul] at length
      rw [List.length_eq_zero_iff.mp length]
      rfl
  | cons item items ih =>
      obtain ⟨sum, divisor⟩ := item
      rw [List.length_cons, Nat.succ_mul] at length
      have isSum : sum.length = C := sums (sum, divisor) (by simp)
      have front : (out.take C).length = C := by
        rw [List.length_take]
        omega
      have rest := @ih (out.drop C) (by rw [List.length_drop]; omega)
        fun other member => sums other (by simp [member])
      rw [← List.take_append_drop C out, overChunks_append front, rest]
      simp only [writeMeans_eq divisor (front.trans isSum.symm)]
      rfl

/-- The bytes of a row of boxes. -/
def meanRow (C : Nat) (src : List UInt8) (sourceWidth : Nat) (columns : List (Nat × Nat))
    (row : Nat × Nat) : Option (List UInt8) :=
  (words32 (columns.flatMap fun column =>
    (List.range C).map fun c => boxSum src C sourceWidth row column c)).map fun sums =>
      ((chunksExact C sums).zip (columns.map (divisorOf (row.2 - row.1)))).flatMap fun item =>
        item.1.map item.2.divide

/-- `box_rows` writes the means of every row, whatever divisors are at hand. -/
theorem boxRowsFrom_eq {sourceWidth : Nat} {columns rows : List (Nat × Nat)} {divisors : Divisors}
    {dst : List UInt8} (pos : 0 < C)
    (within : ∀ column ∈ columns, column.1 ≤ column.2 ∧ column.2 ≤ sourceWidth)
    (inside : ∀ row ∈ rows, row.2 * (sourceWidth * C) ≤ src.length)
    (right : divisors.Right) (same : divisors.columns = columns)
    (length : dst.length = rows.length * (columns.length * C)) :
    boxRowsFrom C src sourceWidth columns divisors rows dst =
      (rows.mapM (meanRow C src sourceWidth columns)).map List.flatten := by
  induction rows generalizing divisors dst with
  | nil =>
      rw [List.length_nil, Nat.zero_mul] at length
      rw [List.length_eq_zero_iff.mp length]
      rfl
  | cons row rows ih =>
      rw [List.length_cons, Nat.succ_mul] at length
      obtain ⟨isMeans, sameColumns, stillRight⟩ := divisors.forRows_right right (row.2 - row.1)
      have rest := @ih (divisors.forRows (row.2 - row.1)).2 (dst.drop (columns.length * C))
        (fun other member => inside other (by simp [member])) stillRight (sameColumns.trans same)
        (by rw [List.length_drop]; omega)
      have sums := rowSums_eq pos (inside row (by simp)) within
      rw [boxRowsFrom, if_neg (by omega), sums, List.mapM_cons, meanRow]
      cases fit : words32 (columns.flatMap fun column =>
          (List.range C).map fun c => boxSum src C sourceWidth row column c) with
      | none => rfl
      | some words =>
          have many : words.length = columns.length * C := by
            rw [length_of_words32 fit]
            exact length_flatMap_of_length (by simp) columns
          have means := @overChunks_writeMeans C (dst.take (columns.length * C))
            ((chunksExact C words).zip (columns.map (divisorOf (row.2 - row.1)))) (by
              rw [List.length_take, List.length_zip, chunksExact, length_groups, many,
                Nat.mul_div_cancel _ pos, List.length_map, Nat.min_self]
              omega) (by
              intro item member
              exact length_of_mem_chunksExact pos many (List.of_mem_zip member).1)
          simp only [Option.bind_eq_bind, Option.bind_some, Option.map_some, isMeans, same, means,
            rest]
          cases rows.mapM (meanRow C src sourceWidth columns) <;> rfl

theorem boxRows_eq {sourceWidth : Nat} {columns rows : List (Nat × Nat)} {dst : List UInt8}
    (pos : 0 < C) (nonempty : columns ≠ [])
    (within : ∀ column ∈ columns, column.1 ≤ column.2 ∧ column.2 ≤ sourceWidth)
    (inside : ∀ row ∈ rows, row.2 * (sourceWidth * C) ≤ src.length)
    (length : dst.length = rows.length * (columns.length * C)) :
    boxRows C src sourceWidth columns rows dst =
      (rows.mapM (meanRow C src sourceWidth columns)).map List.flatten := by
  have rowBytes : columns.length * C ≠ 0 :=
    Nat.mul_ne_zero (mt List.length_eq_zero_iff.mp nonempty) (by omega)
  rw [boxRows, if_neg rowBytes]
  exact boxRowsFrom_eq pos within inside (by simp [Divisors.Right, Divisors.new]) rfl length

/-- However the rows are shared out, `box_plane` writes the means of every row. -/
theorem boxPlane_eq (cores : Nat) {source target : Nat × Nat} {dst : List UInt8} (pos : 0 < C)
    (width : 0 < target.1 ∧ target.1 ≤ source.1) (height : 0 < target.2 ∧ target.2 ≤ source.2)
    (plane : src.length = source.1 * source.2 * C)
    (length : dst.length = target.1 * target.2 * C) :
    boxPlane cores C src source dst target =
      ((spans source.2 target.2).mapM (meanRow C src source.1 (spans source.1 target.1))).map
        List.flatten := by
  have many : (spans source.2 target.2).length = target.2 := by simp [spans]
  have wide : (spans source.1 target.1).length = target.1 := by simp [spans]
  have within : ∀ column ∈ spans source.1 target.1,
      column.1 ≤ column.2 ∧ column.2 ≤ source.1 := by
    intro column member
    obtain ⟨ordered, below⟩ := within_of_mem_spans width.1 width.2 member
    exact ⟨ordered.le, below⟩
  have inside : ∀ row ∈ spans source.2 target.2, row.2 * (source.1 * C) ≤ src.length := by
    intro row member
    have below := (within_of_mem_spans height.1 height.2 member).2
    calc row.2 * (source.1 * C)
        ≤ source.2 * (source.1 * C) := Nat.mul_le_mul_right _ below
      _ = src.length := by rw [plane]; ring
  have rows (part : List (Nat × Nat)) (piece : List UInt8)
      (members : ∀ row ∈ part, row ∈ spans source.2 target.2)
      (fits : piece.length = part.length * (target.1 * C)) :
      boxRows C src source.1 (spans source.1 target.1) part piece =
        (part.mapM (meanRow C src source.1 (spans source.1 target.1))).map List.flatten := by
    apply boxRows_eq pos _ within (fun row member => inside row (members row member))
    · rw [wide]
      exact fits
    · rw [← List.length_pos_iff, wide]
      exact width.1
  have total : dst.length = (spans source.2 target.2).length * (target.1 * C) := by
    rw [length, many]
    ring
  have rowBytes : 0 < target.1 * C := Nat.mul_pos width.1 pos
  have nonempty : ¬ (target.1 * C = 0 || (spans source.2 target.2).isEmpty) = true := by
    rw [Bool.or_eq_true, decide_eq_true_eq, List.isEmpty_iff_length_eq_zero, many]
    omega
  unfold boxPlane
  simp only [if_neg nonempty]
  split
  · exact rows _ _ (fun _ member => member) total
  · rename_i several
    generalize workers cores (target.1 * target.2) = threads at several
    have share : 0 < ((spans source.2 target.2).length + threads - 1) / threads :=
      Nat.div_pos (by omega) (by omega)
    generalize ((spans source.2 target.2).length + threads - 1) / threads = perThread at share
    have pieces : chunks (perThread * (target.1 * C)) dst = groups (perThread * (target.1 * C))
        (((spans source.2 target.2).length + perThread - 1) / perThread) dst := by
      rw [chunks, total, ceilDiv_mul_right rowBytes]
    have done := mapM_zip_groups rows total (le_ceilDiv_mul share)
    have nothingLeft : (groups (perThread * (target.1 * C))
        (((spans source.2 target.2).length + perThread - 1) / perThread) dst).drop
          ((chunks perThread (spans source.2 target.2)).zip (groups (perThread * (target.1 * C))
            (((spans source.2 target.2).length + perThread - 1) / perThread) dst)).length = [] := by
      rw [List.drop_eq_nil_iff, List.length_zip, chunks, length_groups, length_groups, Nat.min_self]
    rw [pieces]
    simp only [nothingLeft, List.flatten_nil, List.append_nil]
    rw [← done, Option.map_eq_bind]
    rfl

/-! ## Boxes whose sums fit -/

theorem byteAt_le (i : Nat) : byteAt src i ≤ 255 := by
  unfold byteAt
  have := (src.getD i 0).toNat_lt
  omega

theorem boxSum_le (sourceWidth : Nat) (row column : Nat × Nat) (c : Nat) :
    boxSum src C sourceWidth row column c ≤ 255 * boxCount row column := by
  have line (y : Nat) : lineSum src C sourceWidth y column c ≤ (column.2 - column.1) * 255 := by
    have bound := List.sum_le_card_nsmul ((List.range' column.1 (column.2 - column.1)).map fun x =>
      byteAt src ((y * sourceWidth + x) * C + c)) 255 (by
        intro byte member
        obtain ⟨x, -, rfl⟩ := List.mem_map.mp member
        exact byteAt_le _)
    simpa [lineSum] using bound
  have bound := List.sum_le_card_nsmul ((List.range' row.1 (row.2 - row.1)).map fun y =>
    lineSum src C sourceWidth y column c) ((column.2 - column.1) * 255) (by
      intro sum member
      obtain ⟨y, -, rfl⟩ := List.mem_map.mp member
      exact line y)
  calc boxSum src C sourceWidth row column c
      ≤ (row.2 - row.1) * ((column.2 - column.1) * 255) := by simpa [boxSum] using bound
    _ = 255 * boxCount row column := by
        unfold boxCount
        ring

/-- The mean of a box as a byte. -/
def meanByte (src : List UInt8) (C sourceWidth : Nat) (row column : Nat × Nat) (c : Nat) : UInt8 :=
  UInt8.ofNat (boxSum src C sourceWidth row column c / boxCount row column)

theorem toNat_meanByte {sourceWidth : Nat} {row column : Nat × Nat}
    (pos : 0 < boxCount row column) (c : Nat) :
    (meanByte src C sourceWidth row column c).toNat =
      boxSum src C sourceWidth row column c / boxCount row column := by
  unfold meanByte
  apply UInt8.toNat_ofNat_of_lt'
  rw [Nat.div_lt_iff_lt_mul pos]
  have bound := @boxSum_le src C sourceWidth row column c
  show _ < 256 * boxCount row column
  omega

/-- The divisor of a box divides its sum. -/
theorem divide_divisorOf {sourceWidth : Nat} {row column : Nat × Nat}
    (pos : 0 < boxCount row column) (small : 255 * boxCount row column < 2 ^ 32) (c : Nat) :
    (divisorOf (row.2 - row.1) column).divide
        (UInt32.ofNat (boxSum src C sourceWidth row column c)) =
      meanByte src C sourceWidth row column c := by
  have isCount : (column.2 - column.1) * (row.2 - row.1) = boxCount row column :=
    Nat.mul_comm _ _
  rw [← UInt8.toNat_inj, toNat_meanByte pos, divisorOf, isCount, tryFrom32, if_pos (by omega),
    Option.getD_some]
  exact divide_new pos (boxSum_le _ _ _ _) small

/-- A row of boxes whose sums fit becomes their means. -/
theorem meanRow_eq {sourceWidth : Nat} {columns : List (Nat × Nat)} {row : Nat × Nat}
    (samples : 0 < C) (pos : ∀ column ∈ columns, 0 < boxCount row column)
    (small : ∀ column ∈ columns, 255 * boxCount row column < 2 ^ 32) :
    meanRow C src sourceWidth columns row =
      some (columns.flatMap fun column =>
        (List.range C).map (meanByte src C sourceWidth row column)) := by
  have fit : words32 (columns.flatMap fun column =>
      (List.range C).map fun c => boxSum src C sourceWidth row column c) =
        some (columns.flatMap fun column =>
          (List.range C).map fun c => UInt32.ofNat (boxSum src C sourceWidth row column c)) := by
    rw [words32_of_lt]
    · simp only [List.map_flatMap, List.map_map, Function.comp_def]
    · intro total member
      obtain ⟨column, isColumn, inColumn⟩ := List.mem_flatMap.mp member
      obtain ⟨c, -, rfl⟩ := List.mem_map.mp inColumn
      exact Nat.lt_of_le_of_lt (boxSum_le _ _ _ _) (small column isColumn)
  rw [meanRow, fit, Option.map_some, chunksExact_flatMap samples (by simp), List.zip_map',
    List.flatMap_map]
  congr 1
  apply List.flatMap_congr
  intro column member
  rw [List.map_map]
  apply List.map_congr_left
  intro c _
  exact divide_divisorOf (pos column member) (small column member) c

/-! ## The reference -/

theorem reference_sample {k : Nat} (inside : (k + 1) * C ≤ src.length) (totals : Nat → Nat) :
    ((words32 ((List.range C).map totals)).bind fun sums =>
        (getRange src (k * C) (k * C + C)).bind fun sample => addSample sums sample) =
      words32 ((List.range C).map fun c => totals c + byteAt src (k * C + c)) := by
  have cut : getRange src (k * C) (k * C + C) = some (sampleAt src C k) := by
    rw [getRange_of_le (by omega) (by rw [← Nat.succ_mul]; exact inside), Nat.add_sub_cancel_left,
      take_eq_sampleAt inside]
  simp only [cut, Option.bind_some]
  exact addSample_totals totals k

/-- One source row in the loop of a pixel. -/
theorem reference_line {sourceWidth row : Nat} {column : Nat × Nat}
    (inside : (row + 1) * (sourceWidth * C) ≤ src.length) (within : column.2 ≤ sourceWidth)
    (totals : Nat → Nat) :
    ((words32 ((List.range C).map totals)).bind fun sums =>
        (List.range' column.1 (column.2 - column.1)).foldlM (fun sums x =>
          (getRange src ((row * sourceWidth + x) * C) ((row * sourceWidth + x) * C + C)).bind
            fun sample => addSample sums sample) sums) =
      words32 ((List.range C).map fun c => totals c + lineSum src C sourceWidth row column c) := by
  have sample (totals : Nat → Nat) (x : Nat)
      (member : x ∈ List.range' column.1 (column.2 - column.1)) := by
    refine @reference_sample src C (row * sourceWidth + x) ?_ totals
    rw [List.mem_range'_1] at member
    calc (row * sourceWidth + x + 1) * C
        ≤ (row * sourceWidth + sourceWidth) * C := Nat.mul_le_mul_right C (by omega)
      _ = (row + 1) * (sourceWidth * C) := by ring
      _ ≤ src.length := inside
  exact foldlM_totals sample totals

theorem referencePixel_eq {sourceWidth : Nat} {row column : Nat × Nat}
    (inside : row.2 * (sourceWidth * C) ≤ src.length) (within : column.2 ≤ sourceWidth)
    (pos : 0 < boxCount row column) (small : 255 * boxCount row column < 2 ^ 32) :
    referencePixel src C sourceWidth row column =
      some ((List.range C).map (meanByte src C sourceWidth row column)) := by
  have start : words32 ((List.range C).map fun _ => 0) = some (List.replicate C 0) := by
    rw [words32_of_lt (by simp)]
    simp
  have line (totals : Nat → Nat) (y : Nat) (member : y ∈ List.range' row.1 (row.2 - row.1)) := by
    refine @reference_line src C sourceWidth y column ?_ within totals
    rw [List.mem_range'_1] at member
    exact Nat.le_trans (Nat.mul_le_mul_right _ (by omega)) inside
  have sums := foldlM_totals line fun _ => 0
  have fit : words32 ((List.range C).map fun c => boxSum src C sourceWidth row column c) =
      some ((List.range C).map fun c => UInt32.ofNat (boxSum src C sourceWidth row column c)) := by
    rw [words32_of_lt, List.map_map]
    · rfl
    · intro total member
      obtain ⟨c, -, rfl⟩ := List.mem_map.mp member
      exact Nat.lt_of_le_of_lt (boxSum_le _ _ _ _) small
  have isCount : tryFrom32 ((row.2 - row.1) * (column.2 - column.1)) =
      some (UInt32.ofNat (boxCount row column)) :=
    if_pos (by unfold boxCount at small; omega)
  have quotient (c : Nat) : (UInt32.ofNat (boxSum src C sourceWidth row column c) /
      UInt32.ofNat (boxCount row column)).toNat =
        (meanByte src C sourceWidth row column c).toNat := by
    have bound := @boxSum_le src C sourceWidth row column c
    rw [toNat_meanByte pos, UInt32.toNat_div, UInt32.toNat_ofNat_of_lt' (by show _ < 2 ^ 32; omega),
      UInt32.toNat_ofNat_of_lt' (by show _ < 2 ^ 32; omega)]
  simp only [start, Option.bind_some, Nat.zero_add] at sums
  unfold referencePixel
  simp only [Option.bind_eq_bind, sums, isCount]
  show (words32 ((List.range C).map fun c => boxSum src C sourceWidth row column c)).bind _ = _
  rw [fit, Option.bind_some, Option.bind_some, List.mapM_map]
  apply mapM_eq_some
  intro c _
  have byte := (meanByte src C sourceWidth row column c).toNat_lt
  rw [← quotient] at byte
  have below : UInt32.ofNat (boxSum src C sourceWidth row column c) /
      UInt32.ofNat (boxCount row column) < 256 := UInt32.lt_iff_toNat_lt.mpr byte
  rw [Function.comp_apply, if_pos below, Option.some.injEq, ← UInt8.toNat_inj,
    UInt32.toNat_toUInt8, Nat.mod_eq_of_lt byte, quotient]

end

/-! ## Pictures -/

/-- The largest box whose samples all fit a `u32` sum. -/
def maxBoxSamples : Nat := (2 ^ 32 - 1) / 255

section
variable {src : List UInt8} {C : Nat} {source target : Nat × Nat}

theorem boxCount_pos (x y : Nat) :
    0 < boxCount (span source.2 target.2 y) (span source.1 target.1 x) :=
  Nat.mul_pos (Nat.sub_pos_of_lt (span_lt y)) (Nat.sub_pos_of_lt (span_lt x))

theorem boxCount_small (width : 0 < target.1 ∧ target.1 ≤ source.1)
    (height : 0 < target.2 ∧ target.2 ≤ source.2)
    (small : longest source.1 target.1 * longest source.2 target.2 ≤ maxBoxSamples) (x y : Nat) :
    255 * boxCount (span source.2 target.2 y) (span source.1 target.1 x) < 2 ^ 32 := by
  have bound : boxCount (span source.2 target.2 y) (span source.1 target.1 x) ≤ maxBoxSamples := by
    refine Nat.le_trans ?_ small
    rw [Nat.mul_comm (longest source.1 target.1)]
    exact Nat.mul_le_mul (length_span_le height.1 height.2 y) (length_span_le width.1 width.2 x)
  unfold maxBoxSamples at bound
  omega

/-- The bytes of the means of all boxes. -/
def meanBytes (src : List UInt8) (C : Nat) (source target : Nat × Nat) : List UInt8 :=
  (List.range target.2).flatMap fun y => (List.range target.1).flatMap fun x =>
    (List.range C).map (meanByte src C source.1 (span source.2 target.2 y) (span source.1 target.1 x))

theorem meanBytes_toNat : (meanBytes src C source target).map UInt8.toNat =
    boxMeans src C source target := by
  unfold meanBytes boxMeans
  simp only [List.map_flatMap, List.map_map, Function.comp_def, toNat_meanByte (boxCount_pos _ _)]

theorem boxPlane_of_small (cores : Nat) {dst : List UInt8} (pos : 0 < C)
    (width : 0 < target.1 ∧ target.1 ≤ source.1) (height : 0 < target.2 ∧ target.2 ≤ source.2)
    (small : longest source.1 target.1 * longest source.2 target.2 ≤ maxBoxSamples)
    (plane : src.length = source.1 * source.2 * C)
    (length : dst.length = target.1 * target.2 * C) :
    boxPlane cores C src source dst target = some (meanBytes src C source target) := by
  have row (y : Nat) : meanRow C src source.1 (spans source.1 target.1) (span source.2 target.2 y) =
      some ((List.range target.1).flatMap fun x => (List.range C).map
        (meanByte src C source.1 (span source.2 target.2 y) (span source.1 target.1 x))) := by
    rw [meanRow_eq pos, spans, List.flatMap_map]
    · intro column member
      obtain ⟨x, -, rfl⟩ := List.mem_map.mp member
      exact boxCount_pos x y
    · intro column member
      obtain ⟨x, -, rfl⟩ := List.mem_map.mp member
      exact boxCount_small width height small x y
  have rows : (spans source.2 target.2).mapM (meanRow C src source.1 (spans source.1 target.1)) =
      some ((List.range target.2).map fun y => (List.range target.1).flatMap fun x =>
        (List.range C).map
          (meanByte src C source.1 (span source.2 target.2 y) (span source.1 target.1 x))) := by
    show ((List.range target.2).map (span source.2 target.2)).mapM _ = _
    rw [List.mapM_map]
    exact mapM_eq_some fun y _ => row y
  rw [boxPlane_eq cores pos width height plane length, rows, Option.map_some]
  rfl

theorem referenceDownscale_of_small (width : 0 < target.1 ∧ target.1 ≤ source.1)
    (height : 0 < target.2 ∧ target.2 ≤ source.2)
    (small : longest source.1 target.1 * longest source.2 target.2 ≤ maxBoxSamples)
    (plane : src.length = source.1 * source.2 * C) :
    referenceDownscale src C source target = some (meanBytes src C source target) := by
  have pixel (y : Nat) (isRow : y ∈ List.range target.2) (x : Nat)
      (isColumn : x ∈ List.range target.1) :
      referencePixel src C source.1 (span source.2 target.2 y) (span source.1 target.1 x) =
        some ((List.range C).map
          (meanByte src C source.1 (span source.2 target.2 y) (span source.1 target.1 x))) := by
    apply referencePixel_eq _ (span_le width.1 width.2 (List.mem_range.mp isColumn))
      (boxCount_pos x y) (boxCount_small width height small x y)
    have below := span_le height.1 height.2 (List.mem_range.mp isRow)
    calc (span source.2 target.2 y).2 * (source.1 * C)
        ≤ source.2 * (source.1 * C) := Nat.mul_le_mul_right _ below
      _ = src.length := by rw [plane]; ring
  unfold referenceDownscale
  rw [mapM_eq_some fun y isRow => by rw [mapM_eq_some (pixel y isRow)]; rfl]
  rfl

/-- In a white picture the sum of a box is as large as it can be. -/
theorem boxSum_white {sourceWidth sourceHeight : Nat} {row column : Nat × Nat} {c : Nat}
    (rows : row.2 ≤ sourceHeight) (columns : column.2 ≤ sourceWidth) (channel : c < C) :
    boxSum (List.replicate (sourceWidth * sourceHeight * C) 255) C sourceWidth row column c =
      255 * boxCount row column := by
  have byte (y x : Nat) (isRow : y < sourceHeight) (isColumn : x < sourceWidth) :
      byteAt (List.replicate (sourceWidth * sourceHeight * C) 255)
        ((y * sourceWidth + x) * C + c) = 255 := by
    have inside : (y * sourceWidth + x) * C + c < sourceWidth * sourceHeight * C := by
      calc (y * sourceWidth + x) * C + c
          < (y * sourceWidth + x + 1) * C := by
            rw [Nat.succ_mul]
            omega
        _ ≤ (y * sourceWidth + sourceWidth) * C := Nat.mul_le_mul_right C (by omega)
        _ = (y + 1) * (sourceWidth * C) := by ring
        _ ≤ sourceHeight * (sourceWidth * C) := Nat.mul_le_mul_right _ isRow
        _ = sourceWidth * sourceHeight * C := by ring
    rw [byteAt, List.getD_eq_getElem?_getD, List.getElem?_replicate, if_pos inside]
    rfl
  have line (y : Nat) (member : y ∈ List.range' row.1 (row.2 - row.1)) :
      lineSum (List.replicate (sourceWidth * sourceHeight * C) 255) C sourceWidth y column c =
        (column.2 - column.1) * 255 := by
    rw [List.mem_range'_1] at member
    rw [lineSum, List.map_congr_left fun x isColumn => byte y x (by omega) (by
      rw [List.mem_range'_1] at isColumn
      omega)]
    simp
  rw [boxSum, List.map_congr_left line, boxCount]
  simp
  ring

/-- A white picture with a box too large panics. -/
theorem boxPlane_of_large (cores : Nat) {dst : List UInt8} (pos : 0 < C)
    (width : 0 < target.1 ∧ target.1 ≤ source.1) (height : 0 < target.2 ∧ target.2 ≤ source.2)
    (large : maxBoxSamples < longest source.1 target.1 * longest source.2 target.2)
    (length : dst.length = target.1 * target.2 * C) :
    boxPlane cores C (List.replicate (source.1 * source.2 * C) 255) source dst target = none := by
  have isLast : span source.2 target.2 (target.2 - 1) ∈ spans source.2 target.2 :=
    List.mem_map.mpr ⟨target.2 - 1, List.mem_range.mpr (by omega), rfl⟩
  rw [boxPlane_eq cores pos width height (by simp) length, mapM_eq_none isLast, Option.map_none]
  rw [meanRow, words32_eq_none, Option.map_none]
  · exact List.mem_flatMap.mpr ⟨span source.1 target.1 (target.1 - 1),
      List.mem_map.mpr ⟨target.1 - 1, List.mem_range.mpr (by omega), rfl⟩,
      List.mem_map.mpr ⟨0, List.mem_range.mpr pos, rfl⟩⟩
  · rw [boxSum_white (span_le height.1 height.2 (by omega)) (span_le width.1 width.2 (by omega)) pos,
      boxCount, length_last_span width.1 width.2, length_last_span height.1 height.2,
      Nat.mul_comm (longest source.2 target.2)]
    unfold maxBoxSamples at large
    omega

end

/-- `box_plane` reduces every plane of these sizes to the bytes of the reference, the truncated
means of its boxes, on any number of cores, and the boxes cut up both axes. -/
structure Averages (C : Nat) (source target : Nat × Nat) : Prop where
  exact : ∀ cores src dst, src.length = source.1 * source.2 * C →
    dst.length = target.1 * target.2 * C → ∃ out,
      boxPlane cores C src source dst target = some out ∧
      referenceDownscale src C source target = some out ∧
      out.map UInt8.toNat = boxMeans src C source target
  columns : Partition source.1 target.1
  rows : Partition source.2 target.2

/-- `box_plane` is exact for all planes of given sizes, and no sum overflows, if and only if the
largest box of the reduction has at most `maxBoxSamples` samples. -/
theorem box_plane_exact_iff (C : Nat) (sample : C = 1 ∨ C = 2 ∨ C = 4)
    (sourceWidth sourceHeight targetWidth targetHeight : UInt32)
    (width : 1 ≤ targetWidth ∧ targetWidth ≤ sourceWidth)
    (height : 1 ≤ targetHeight ∧ targetHeight ≤ sourceHeight) :
    Averages C (sourceWidth.toNat, sourceHeight.toNat) (targetWidth.toNat, targetHeight.toNat) ↔
      longest sourceWidth.toNat targetWidth.toNat * longest sourceHeight.toNat targetHeight.toNat ≤
        maxBoxSamples := by
  have pos : 0 < C := by omega
  obtain ⟨wide, narrower⟩ := width
  obtain ⟨high, lower⟩ := height
  rw [UInt32.le_iff_toNat_le] at wide narrower high lower
  constructor
  · intro averages
    by_contra large
    have panics := @boxPlane_of_large C (sourceWidth.toNat, sourceHeight.toNat)
      (targetWidth.toNat, targetHeight.toNat) 1
      (List.replicate (targetWidth.toNat * targetHeight.toNat * C) 0) pos ⟨wide, narrower⟩
      ⟨high, lower⟩ (Nat.lt_of_not_le large) (by simp)
    obtain ⟨out, writes, -⟩ := averages.exact 1
      (List.replicate (sourceWidth.toNat * sourceHeight.toNat * C) 255)
      (List.replicate (targetWidth.toNat * targetHeight.toNat * C) 0) (by simp) (by simp)
    rw [panics] at writes
    cases writes
  · intro small
    refine ⟨?_, spans_partition wide narrower sourceWidth.toNat_lt,
      spans_partition high lower sourceHeight.toNat_lt⟩
    intro cores src dst plane length
    exact ⟨meanBytes src C _ _,
      boxPlane_of_small cores pos ⟨wide, narrower⟩ ⟨high, lower⟩ small plane length,
      referenceDownscale_of_small ⟨wide, narrower⟩ ⟨high, lower⟩ small plane, meanBytes_toNat⟩

theorem full_hd_from_4k_exact : Averages 4 (3840, 2160) (1920, 1080) :=
  (box_plane_exact_iff 4 (by omega) 3840 2160 1920 1080 (by decide) (by decide)).mpr (by decide)

/-- A white picture of 8210 by 8210 pixels is not reduced to 2 by 2. -/
theorem large_white_picture_overflows : ¬ Averages 4 (8210, 8210) (2, 2) := by
  intro averages
  have white : (List.replicate (8210 * 8210 * 4) (255 : UInt8)).length = 8210 * 8210 * 4 :=
    List.length_replicate
  obtain ⟨out, writes, -⟩ := averages.exact 1 _ (List.replicate 16 0) white rfl
  have panics := @boxPlane_of_large 4 (8210, 8210) (2, 2) 1 (List.replicate 16 0) (by omega)
    ⟨by omega, by omega⟩ ⟨by omega, by omega⟩ (by decide) rfl
  rw [panics] at writes
  cases writes

end Lumepeer.Media
