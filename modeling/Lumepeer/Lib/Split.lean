import Mathlib.Data.List.Chain

/-!
# Lists joined by separators

`Separated sep pieces xs` says that `xs` is the separator-free pieces in order,
with one separator between each and the next: splitting at every separator gives
them back. `Joined sep Piece xs` says that each of them satisfies `Piece`. It is
the grammar that splitting at every separator and testing every piece decides.
-/

namespace Lumepeer.Lib

universe u
variable {α : Type u} {sep : α → Bool} {Piece : List α → Prop} {xs : List α}
  {pieces : List (List α)}

/-- `xs` is the pieces with a separator between each and the next. -/
inductive Separated (sep : α → Bool) : List (List α) → List α → Prop
  | last (piece : List α) (plain : ∀ x ∈ piece, sep x = false) : Separated sep [piece] piece
  | next (piece : List α) (x : α) (pieces : List (List α)) (rest : List α)
      (plain : ∀ x ∈ piece, sep x = false) (cut : sep x = true)
      (tail : Separated sep pieces rest) : Separated sep (piece :: pieces) (piece ++ x :: rest)

/-- `piece sep piece … sep piece`. -/
inductive Joined (sep : α → Bool) (Piece : List α → Prop) : List α → Prop
  | last (piece : List α) (plain : ∀ x ∈ piece, sep x = false) (good : Piece piece) :
      Joined sep Piece piece
  | next (piece : List α) (x : α) (rest : List α) (plain : ∀ x ∈ piece, sep x = false)
      (good : Piece piece) (cut : sep x = true) (tail : Joined sep Piece rest) :
      Joined sep Piece (piece ++ x :: rest)

/-- A list is free of separators or falls apart at its first one. -/
theorem plain_or_first_cut (sep : α → Bool) (xs : List α) :
    (∀ x ∈ xs, sep x = false) ∨
      ∃ piece x rest, xs = piece ++ x :: rest ∧ (∀ y ∈ piece, sep y = false) ∧ sep x = true := by
  induction xs with
  | nil => exact .inl (by simp)
  | cons head tail ih =>
      by_cases cut : sep head = true
      · exact .inr ⟨[], head, tail, rfl, by simp, cut⟩
      · have plainHead : sep head = false := by simpa using cut
        rcases ih with plain | ⟨piece, x, rest, rfl, plain, isCut⟩
        · exact .inl (by simpa [plainHead] using plain)
        · exact .inr ⟨head :: piece, x, rest, rfl, by simpa [plainHead] using plain, isCut⟩

theorem separated_splitOnP (xs : List α) : Separated sep (xs.splitOnP sep) xs := by
  induction size : xs.length using Nat.strong_induction_on generalizing xs with
  | _ n ih =>
      rcases plain_or_first_cut sep xs with plain | ⟨piece, x, rest, rfl, plain, cut⟩
      · rw [List.splitOnP_eq_singleton plain]
        exact .last xs plain
      · have shorter : rest.length < n := by
          rw [← size, List.length_append, List.length_cons]
          omega
        rw [List.splitOnP_append_cons_of_forall_mem plain x cut]
        exact .next piece x _ rest plain cut (ih rest.length shorter rest rfl)

/-- Splitting at the separators gives the pieces back. -/
theorem splitOnP_eq_iff_separated : xs.splitOnP sep = pieces ↔ Separated sep pieces xs := by
  constructor
  · rintro rfl
    exact separated_splitOnP xs
  · intro separated
    induction separated with
    | last piece plain => exact List.splitOnP_eq_singleton plain
    | next piece x pieces rest plain cut _ ih =>
        rw [List.splitOnP_append_cons_of_forall_mem plain x cut, ih]

theorem Separated.plain (separated : Separated sep pieces xs) :
    ∀ piece ∈ pieces, ∀ x ∈ piece, sep x = false := by
  induction separated with
  | last piece plain =>
      intro any member
      rwa [List.mem_singleton.mp member]
  | next piece x pieces rest plain cut _ ih =>
      intro any member
      rcases List.mem_cons.mp member with rfl | later
      · exact plain
      · exact ih any later

theorem Separated.ne_nil (separated : Separated sep pieces xs) : pieces ≠ [] := by
  cases separated <;> exact List.cons_ne_nil _ _

/-- Pieces that a separator was put between. -/
theorem separated_intercalate {x : α} (cut : sep x = true) (nonempty : pieces ≠ [])
    (plain : ∀ piece ∈ pieces, ∀ y ∈ piece, sep y = false) :
    Separated sep pieces ([x].intercalate pieces) := by
  induction pieces with
  | nil => exact absurd rfl nonempty
  | cons piece rest ih =>
      have own := plain piece List.mem_cons_self
      cases rest with
      | nil =>
          rw [List.intercalate_singleton]
          exact .last piece own
      | cons next rest =>
          rw [List.intercalate_cons_cons, List.append_assoc]
          apply Separated.next piece x _ _ own cut
          apply ih (List.cons_ne_nil _ _)
          intro later member
          exact plain later (List.mem_cons_of_mem _ member)

theorem Separated.joined (separated : Separated sep pieces xs)
    (good : ∀ piece ∈ pieces, Piece piece) : Joined sep Piece xs := by
  induction separated with
  | last piece plain => exact .last piece plain (good piece List.mem_cons_self)
  | next piece x pieces rest plain cut _ ih =>
      refine .next piece x rest plain (good piece List.mem_cons_self) cut ?_
      exact ih fun later member => good later (List.mem_cons_of_mem _ member)

/-- Splitting at the separators decides the grammar. -/
theorem joined_iff_forall_splitOnP (xs : List α) :
    Joined sep Piece xs ↔ ∀ piece ∈ xs.splitOnP sep, Piece piece := by
  constructor
  · intro joined
    induction joined with
    | last piece plain good => simpa [List.splitOnP_eq_singleton plain] using good
    | next piece x rest plain good cut _ ih =>
        rw [List.splitOnP_append_cons_of_forall_mem plain x cut]
        simpa [good] using ih
  · exact (separated_splitOnP xs).joined

/-- What holds of every separator and every element of a good piece holds throughout. -/
theorem Joined.forall_mem {Good : α → Prop} (joined : Joined sep Piece xs)
    (cuts : ∀ x, sep x = true → Good x) (pieces : ∀ piece, Piece piece → ∀ x ∈ piece, Good x) :
    ∀ x ∈ xs, Good x := by
  induction joined with
  | last piece _ good => exact pieces piece good
  | next piece x rest _ good cut _ ih =>
      intro y member
      rcases List.mem_append.mp member with inPiece | later
      · exact pieces piece good y inPiece
      · rcases List.mem_cons.mp later with rfl | inRest
        · exact cuts y cut
        · exact ih y inRest

theorem Joined.ne_nil (joined : Joined sep Piece xs) (nonempty : ∀ piece, Piece piece → piece ≠ []) :
    xs ≠ [] := by
  cases joined with
  | last _ _ good => exact nonempty xs good
  | next piece x rest _ good _ _ => simp

/-- The first element is no separator. -/
theorem Joined.head_plain (joined : Joined sep Piece xs)
    (nonempty : ∀ piece, Piece piece → piece ≠ []) : ∀ x ∈ xs.head?, sep x = false := by
  intro x isHead
  cases joined with
  | last _ plain good => exact plain x (List.mem_of_mem_head? isHead)
  | next piece y rest plain good _ _ =>
      rw [List.head?_append_of_ne_nil _ (nonempty piece good)] at isHead
      exact plain x (List.mem_of_mem_head? isHead)

/-- The last element is no separator. -/
theorem Joined.getLast_plain (joined : Joined sep Piece xs)
    (nonempty : ∀ piece, Piece piece → piece ≠ []) : ∀ x ∈ xs.getLast?, sep x = false := by
  induction joined with
  | last piece plain _ =>
      intro x isLast
      exact plain x (List.mem_of_getLast? isLast)
  | next piece y rest _ _ _ tail ih =>
      intro x isLast
      rw [List.getLast?_append_of_ne_nil _ (by simp),
        List.getLast?_cons_of_ne_nil (tail.ne_nil nonempty)] at isLast
      exact ih x isLast

/-- The last piece, and the joined pieces before it if there are any. -/
theorem Joined.last_piece (joined : Joined sep Piece xs) :
    ∃ piece, (∀ x ∈ piece, sep x = false) ∧ Piece piece ∧
      (xs = piece ∨
        ∃ front x, xs = front ++ x :: piece ∧ sep x = true ∧ Joined sep Piece front) := by
  induction joined with
  | last piece plain good => exact ⟨piece, plain, good, .inl rfl⟩
  | next piece x rest plain good cut tail ih =>
      obtain ⟨last, plainLast, goodLast, only | ⟨front, y, isRest, cutAt, joined⟩⟩ := ih
      · refine ⟨last, plainLast, goodLast, .inr ⟨piece, x, ?_, cut, .last piece plain good⟩⟩
        rw [only]
      · refine ⟨last, plainLast, goodLast, .inr ⟨piece ++ x :: front, y, ?_, cutAt, ?_⟩⟩
        · rw [isRest, List.append_assoc, List.cons_append]
        · exact .next piece x front plain good cut joined

theorem isChain_of_plain (plain : ∀ x ∈ xs, sep x = false) :
    xs.IsChain fun x y => ¬ (sep x = true ∧ sep y = true) := by
  rw [List.isChain_iff_forall_rel_of_append_cons_cons]
  rintro x y before after rfl ⟨isCut, -⟩
  simp [plain x (by simp)] at isCut

/-- No two separators are adjacent. -/
theorem Joined.isChain (joined : Joined sep Piece xs)
    (nonempty : ∀ piece, Piece piece → piece ≠ []) :
    xs.IsChain fun x y => ¬ (sep x = true ∧ sep y = true) := by
  induction joined with
  | last piece plain _ => exact isChain_of_plain plain
  | next piece x rest plain _ _ tail ih =>
      rw [List.isChain_append]
      refine ⟨isChain_of_plain plain, ?_, ?_⟩
      · rw [List.isChain_cons]
        refine ⟨?_, ih⟩
        rintro y isHead ⟨-, isCut⟩
        simp [tail.head_plain nonempty y isHead] at isCut
      · rintro y isLast z - ⟨isCut, -⟩
        simp [plain y (List.mem_of_getLast? isLast)] at isCut

end Lumepeer.Lib
