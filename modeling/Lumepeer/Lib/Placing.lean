import Mathlib.Data.List.Flatten

/-!
# Items put into places in order

`place fits room` hands items to the places `out`, `out + 1`, … as they come: it
stops at the first item behind the last of `room` places, and an item that does
not fit the next place is passed over. The items that could be wanted anywhere
all find a place exactly if each of them fits the place of its own number.
-/

namespace Lumepeer.Lib

universe u v
variable {α : Type u} {β : Type v}

/-- The items that find a place. -/
def place (fits : Nat → α → Bool) (room : Nat) : (out : Nat) → List α → List α
  | _, [] => []
  | out, item :: items =>
      if room ≤ out then []
      else if fits out item then item :: place fits room (out + 1) items
      else place fits room out items

variable {fits : Nat → α → Bool} {room : Nat} {wanted : α → Bool}

theorem place_of_full {out : Nat} (full : room ≤ out) (items : List α) :
    place fits room out items = [] := by
  cases items with
  | nil => rfl
  | cons item items => exact if_pos full

/-- What finds a place was wanted, and keeps its order. -/
theorem place_sublist (fitting : ∀ i item, fits i item = true → wanted item = true) (room out : Nat)
    (items : List α) : (place fits room out items).Sublist (items.filter wanted) := by
  induction items generalizing out with
  | nil => exact .slnil
  | cons item items ih =>
      rw [place, List.filter_cons]
      by_cases full : room ≤ out
      · rw [if_pos full]
        exact List.nil_sublist _
      · rw [if_neg full]
        by_cases here : fits out item = true
        · rw [if_pos here, if_pos (fitting out item here)]
          exact (ih (out + 1)).cons_cons item
        · rw [if_neg here]
          split
          · exact (ih out).cons item
          · exact ih out

/-- All wanted items find a place exactly if each fits the place of its number. -/
theorem place_eq_iff (fitting : ∀ i item, fits i item = true → wanted item = true) (out : Nat)
    (items : List α) :
    place fits room out items = items.filter wanted ↔
      ∀ i item, (items.filter wanted)[i]? = some item →
        out + i < room ∧ fits (out + i) item = true := by
  induction items generalizing out with
  | nil => simp [place]
  | cons item items ih =>
      by_cases full : room ≤ out
      · rw [place_of_full full]
        constructor
        · intro nothing i other isItem
          rw [← nothing] at isItem
          cases isItem
        · intro places
          cases isFirst : List.filter wanted (item :: items) with
          | nil => rfl
          | cons first rest =>
              have inRoom := (places 0 first (by rw [isFirst]; rfl)).1
              omega
      · rw [place, if_neg full]
        by_cases here : fits out item = true
        · rw [if_pos here, List.filter_cons, if_pos (fitting out item here), List.cons.injEq,
            ih (out + 1)]
          constructor
          · rintro ⟨-, rest⟩ i other isItem
            cases i with
            | zero =>
                cases isItem
                exact ⟨by omega, here⟩
            | succ i =>
                have later := rest i other isItem
                rwa [Nat.add_assoc, Nat.add_comm 1 i] at later
          · intro places
            refine ⟨rfl, ?_⟩
            intro i other isItem
            have later := places (i + 1) other isItem
            rwa [← Nat.add_assoc, Nat.add_right_comm] at later
        · rw [if_neg here, List.filter_cons]
          split
          · constructor
            · intro same
              have shorter := (place_sublist fitting room out items).length_le
              rw [same, List.length_cons] at shorter
              omega
            · intro places
              exact absurd (places 0 item rfl).2 here
          · exact ih out

/-- Parts that are kept in order make the whole exactly if every part is kept whole. -/
theorem flatMap_eq_iff_of_sublist {kept all : β → List α} {parts : List β}
    (inside : ∀ part ∈ parts, (kept part).Sublist (all part)) :
    parts.flatMap kept = parts.flatMap all ↔ ∀ part ∈ parts, kept part = all part := by
  constructor
  · intro same
    induction parts with
    | nil => simp
    | cons part parts ih =>
        rw [List.forall_mem_cons] at inside ⊢
        have sub : (parts.flatMap kept).Sublist (parts.flatMap all) :=
          List.Sublist.flatMap_right _ inside.2
        have first := inside.1.length_le
        have rest := sub.length_le
        have total := congrArg List.length same
        rw [List.flatMap_cons, List.flatMap_cons, List.length_append, List.length_append] at total
        have isFirst : kept part = all part := inside.1.eq_of_length (by omega)
        rw [List.flatMap_cons, List.flatMap_cons, isFirst] at same
        exact ⟨isFirst, ih inside.2 (List.append_cancel_left same)⟩
  · intro whole
    rw [List.flatMap_def, List.flatMap_def, List.map_congr_left whole]

end Lumepeer.Lib
