import Mathlib.Data.List.Basic

/-!
# Slices cut into pieces

`groups` cuts pieces of one length off a list. Rust's `chunks_exact` and
`chunks` are two numbers of such pieces, and a loop over `chunks_exact_mut`
zipped with other items is `overChunks`: each item rewrites its own piece, and
what lies behind the last of them stays as it was.
-/

namespace Lumepeer.Lib

universe u v
variable {α : Type u} {β : Type v}

/-- The first `k` pieces of `n` elements. -/
def groups (n : Nat) : Nat → List α → List (List α)
  | 0, _ => []
  | k + 1, xs => xs.take n :: groups n k (xs.drop n)

@[simp] theorem length_groups (n k : Nat) (xs : List α) : (groups n k xs).length = k := by
  induction k generalizing xs with
  | zero => rfl
  | succ k ih => rw [groups, List.length_cons, ih]

/-- Pieces put one behind the other are found again. -/
theorem groups_flatMap {n : Nat} {f : β → List α} (length : ∀ b, (f b).length = n) (bs : List β)
    (rest : List α) : groups n bs.length (bs.flatMap f ++ rest) = bs.map f := by
  induction bs with
  | nil => rfl
  | cons b bs ih =>
      rw [List.length_cons, groups, List.flatMap_cons, List.append_assoc,
        List.take_left' (length b), List.drop_left' (length b), ih, List.map_cons]

/-- A list that the pieces use up is their concatenation. -/
theorem flatten_groups {n k : Nat} {xs : List α} (length : xs.length = n * k) :
    (groups n k xs).flatten = xs := by
  induction k generalizing xs with
  | zero =>
      rw [Nat.mul_zero] at length
      rw [List.length_eq_zero_iff.mp length]
      rfl
  | succ k ih =>
      rw [groups, List.flatten_cons, ih, List.take_append_drop]
      rw [List.length_drop, length, Nat.mul_succ]
      omega

theorem length_of_mem_groups {n k : Nat} {xs group : List α} (length : xs.length = n * k)
    (member : group ∈ groups n k xs) : group.length = n := by
  induction k generalizing xs with
  | zero => cases member
  | succ k ih =>
      rw [Nat.mul_succ] at length
      rcases List.mem_cons.mp member with rfl | inRest
      · rw [List.length_take]
        omega
      · exact ih (by rw [List.length_drop]; omega) inRest

/-- `[T]::chunks_exact`. -/
def chunksExact (n : Nat) (xs : List α) : List (List α) := groups n (xs.length / n) xs

/-- `[T]::chunks`: the last piece may be shorter. -/
def chunks (n : Nat) (xs : List α) : List (List α) := groups n ((xs.length + n - 1) / n) xs

theorem length_of_mem_chunksExact {n k : Nat} {xs piece : List α} (pos : 0 < n)
    (length : xs.length = k * n) (member : piece ∈ chunksExact n xs) : piece.length = n := by
  rw [chunksExact, length, Nat.mul_div_cancel _ pos] at member
  exact length_of_mem_groups (by rw [length, Nat.mul_comm]) member

theorem length_flatMap_of_length {n : Nat} {f : β → List α} (length : ∀ b, (f b).length = n)
    (bs : List β) : (bs.flatMap f).length = bs.length * n := by
  induction bs with
  | nil => simp
  | cons b bs ih => simp [length, ih, Nat.succ_mul, Nat.add_comm]

/-- An element of pieces of one length is found by the piece and the place in it. -/
theorem getElem?_flatMap_of_length {n : Nat} {f : β → List α} (length : ∀ b, (f b).length = n)
    (bs : List β) (j : Nat) {i : Nat} (inside : i < n) :
    (bs.flatMap f)[j * n + i]? = bs[j]?.bind fun b => (f b)[i]? := by
  induction bs generalizing j with
  | nil => simp
  | cons b bs ih =>
      rw [List.flatMap_cons]
      cases j with
      | zero =>
          rw [Nat.zero_mul, Nat.zero_add, List.getElem?_append_left (by rw [length]; exact inside)]
          rfl
      | succ j =>
          rw [List.getElem?_append_right (by rw [length, Nat.succ_mul]; omega), length,
            Nat.succ_mul, Nat.add_right_comm, Nat.add_sub_cancel, ih]
          rfl

theorem chunksExact_flatMap {n : Nat} (pos : 0 < n) {f : β → List α}
    (length : ∀ b, (f b).length = n) (bs : List β) : chunksExact n (bs.flatMap f) = bs.map f := by
  have cut := groups_flatMap length bs []
  rw [List.append_nil] at cut
  rw [chunksExact, length_flatMap_of_length length, Nat.mul_div_cancel _ pos, cut]

theorem mapM_eq_some {f : β → Option α} {g : β → α} {items : List β}
    (done : ∀ item ∈ items, f item = some (g item)) : items.mapM f = some (items.map g) := by
  induction items with
  | nil => rfl
  | cons item items ih =>
      rw [List.mapM_cons, done item (by simp), ih fun other member => done other (by simp [member])]
      rfl

theorem mapM_eq_none {f : β → Option α} {items : List β} {item : β} (member : item ∈ items)
    (failed : f item = none) : items.mapM f = none := by
  induction items with
  | nil => cases member
  | cons other items ih =>
      rw [List.mapM_cons]
      rcases List.mem_cons.mp member with rfl | behind
      · rw [failed]
        rfl
      · rw [ih behind]
        cases f other <;> rfl

/-- Items cut into parts of `n` and a slice that holds `w` elements for each of them cut alike: what
is done part by part is done item by item. -/
theorem mapM_zip_groups {n w k : Nat} {items : List β} {xs : List α}
    {work : List β → List α → Option (List α)} {each : β → Option (List α)}
    (works : ∀ part piece, (∀ item ∈ part, item ∈ items) → piece.length = part.length * w →
      work part piece = (part.mapM each).map List.flatten)
    (length : xs.length = items.length * w) (enough : items.length ≤ k * n) :
    (((groups n k items).zip (groups (n * w) k xs)).mapM fun part => work part.1 part.2).map
      List.flatten = (items.mapM each).map List.flatten := by
  induction k generalizing items xs with
  | zero =>
      rw [Nat.zero_mul, Nat.le_zero, List.length_eq_zero_iff] at enough
      subst enough
      rfl
  | succ k ih =>
      rw [Nat.succ_mul] at enough
      have front := works (items.take n) (xs.take (n * w))
        (fun item member => List.mem_of_mem_take member)
        (by rw [List.length_take, List.length_take, length, Nat.mul_min_mul_right])
      have back := @ih (items.drop n) (xs.drop (n * w))
        (fun part piece members => works part piece fun item member =>
          List.mem_of_mem_drop (members item member))
        (by rw [List.length_drop, List.length_drop, length, Nat.sub_mul])
        (by rw [List.length_drop]; omega)
      have whole : items.mapM each = (items.take n ++ items.drop n).mapM each := by
        rw [List.take_append_drop]
      rw [groups, groups, List.zip_cons_cons, List.mapM_cons, whole, List.mapM_append, front]
      cases (items.take n).mapM each with
      | none => rfl
      | some done =>
          cases rest : (items.drop n).mapM each with
          | none =>
              rw [rest, Option.map_none, Option.map_eq_none_iff] at back
              simp [back]
          | some more =>
              rw [rest, Option.map_some, Option.map_eq_some_iff] at back
              obtain ⟨parts, worked, flat⟩ := back
              simp [worked, flat]

/-- The pieces of `n` are enough for the whole list. -/
theorem le_ceilDiv_mul {length n : Nat} (pos : 0 < n) : length ≤ (length + n - 1) / n * n := by
  have split := Nat.div_add_mod (length + n - 1) n
  have small := Nat.mod_lt (length + n - 1) pos
  rw [Nat.mul_comm]
  omega

/-- The number of pieces does not change when every element is made of `w`. -/
theorem ceilDiv_mul_right {length n w : Nat} (pos : 0 < w) :
    (length * w + n * w - 1) / (n * w) = (length + n - 1) / n := by
  rw [Nat.mul_comm n w, ← Nat.div_div_eq_div_mul, Nat.mul_comm w n, ← Nat.add_mul]
  congr 1
  rcases Nat.eq_zero_or_pos (length + n) with none | some
  · rw [none, Nat.zero_mul]
    exact Nat.zero_div w
  · have below := Nat.mul_sub_div 0 w (length + n) (Nat.mul_pos pos some)
    rwa [Nat.mul_comm w, Nat.zero_div] at below

/-- A loop over `items.zip(xs.chunks_exact_mut(n))` in which each item rewrites its piece of
`xs`. -/
def overChunks (n : Nat) (f : List α → β → Option (List α)) : List α → List β → Option (List α)
  | xs, [] => some xs
  | xs, item :: items =>
      if xs.length < n then some xs
      else do
        let piece ← f (xs.take n) item
        let rest ← overChunks n f (xs.drop n) items
        return piece ++ rest

/-- Pieces put one behind the other are rewritten one by one. -/
theorem overChunks_append {n : Nat} {f : List α → β → Option (List α)} {piece : List α}
    (length : piece.length = n) (rest : List α) (item : β) (items : List β) :
    overChunks n f (piece ++ rest) (item :: items) =
      (f piece item).bind fun done => (overChunks n f rest items).map fun more => done ++ more := by
  have long : ¬ (piece ++ rest).length < n := by
    rw [List.length_append, length]
    omega
  rw [overChunks, if_neg long, List.take_left' length, List.drop_left' length]
  cases f piece item <;> cases overChunks n f rest items <;> rfl

/-!
## Checked ranges

`getRange xs first last` is the half-open range `first..last` of `xs`, `none`
where an index of it lies outside. `getRange_eq_some_iff` reads a range as a
cut of the slice into three pieces; everything else follows from it.
-/

/-- The elements `first..last` of `xs`, if the range lies in it. -/
def getRange (xs : List α) (first last : Nat) : Option (List α) :=
  if first ≤ last ∧ last ≤ xs.length then some ((xs.drop first).take (last - first)) else none

theorem getRange_of_le {xs : List α} {first last : Nat} (ordered : first ≤ last)
    (inside : last ≤ xs.length) :
    getRange xs first last = some ((xs.drop first).take (last - first)) :=
  if_pos ⟨ordered, inside⟩

theorem getRange_eq_some_iff {xs part : List α} {first last : Nat} :
    getRange xs first last = some part ↔
      ∃ before after, xs = before ++ part ++ after ∧ before.length = first ∧
        first + part.length = last := by
  constructor
  · intro cut
    unfold getRange at cut
    split at cut
    · rename_i fits
      obtain ⟨ordered, inside⟩ := fits
      cases cut
      refine ⟨xs.take first, xs.drop last, ?_, by simp; omega, by simp; omega⟩
      have upTo : xs.take first ++ (xs.drop first).take (last - first) = xs.take last := by
        rw [← List.take_add, Nat.add_sub_cancel' ordered]
      rw [upTo, List.take_append_drop]
    · cases cut
  · rintro ⟨before, after, rfl, rfl, rfl⟩
    rw [getRange_of_le (by omega) (by simp), List.append_assoc, List.drop_left' rfl,
      Nat.add_sub_cancel_left, List.take_left' rfl]

/-- A piece of a slice between two others. -/
theorem getRange_append (before part after : List α) :
    getRange (before ++ part ++ after) before.length (before.length + part.length) = some part :=
  getRange_eq_some_iff.mpr ⟨before, after, rfl, rfl, rfl⟩

/-- The front of a slice and the rest of it. -/
theorem eq_append_of_getRange {xs front back : List α} {n : Nat}
    (isFront : getRange xs 0 n = some front) (isBack : getRange xs n xs.length = some back) :
    xs = front ++ back ∧ front.length = n := by
  obtain ⟨before, after, isXs, empty, length⟩ := getRange_eq_some_iff.mp isFront
  obtain ⟨before', after', isXs', length', toEnd⟩ := getRange_eq_some_iff.mp isBack
  have nothing : after' = [] := by
    rw [isXs', List.length_append, List.length_append] at toEnd
    exact List.length_eq_zero_iff.mp (by omega)
  rw [nothing, List.append_nil] at isXs'
  rw [List.length_eq_zero_iff.mp empty, List.nil_append] at isXs
  have same : before' = front := List.append_inj_left (isXs'.symm.trans isXs) (by omega)
  rw [← same]
  exact ⟨isXs', length'⟩

end Lumepeer.Lib
