import Mathlib.Data.List.Basic

/-!
# What comes next in a sequence

`NextMeets trigger stop P` says of a sequence that behind every item that
triggers, the first one that stops has the property `P`. Such laws are read off
a sequence from the front (`nextMeets_cons`), compose (`NextMeets.trans`), and
pass from the parts a sequence is made of to the sequence (`nextMeets_flatMap`).
-/

namespace Lumepeer.Lib

universe u v
variable {α : Type u} {β : Type v} {trigger stop P : α → Prop}

/-- The first item that stops, if there is one, has the property. -/
def FirstMeets (stop P : α → Prop) (items : List α) : Prop :=
  ∀ between next after, items = between ++ next :: after → (∀ item ∈ between, ¬stop item) →
    stop next → P next

/-- Behind every item that triggers, the first one that stops has the property. -/
def NextMeets (trigger stop P : α → Prop) (items : List α) : Prop :=
  ∀ before item behind, items = before ++ item :: behind → trigger item → FirstMeets stop P behind

@[simp] theorem firstMeets_nil : FirstMeets stop P ([] : List α) := by
  intro between next after split
  cases between <;> cases split

@[simp] theorem nextMeets_nil : NextMeets trigger stop P ([] : List α) := by
  intro before item behind split
  cases before <;> cases split

theorem firstMeets_cons {item : α} {items : List α} : FirstMeets stop P (item :: items) ↔
    (stop item → P item) ∧ (¬stop item → FirstMeets stop P items) := by
  constructor
  · intro first
    refine ⟨fun stops => first [] item items rfl (by simp) stops, ?_⟩
    intro passes between next after split clear stops
    refine first (item :: between) next after (by rw [split, List.cons_append]) ?_ stops
    intro other member
    rcases List.mem_cons.mp member with rfl | later
    · exact passes
    · exact clear other later
  · rintro ⟨here, later⟩ between next after split clear stops
    cases between with
    | nil =>
        obtain ⟨rfl, rfl⟩ := List.cons.inj split
        exact here stops
    | cons head between =>
        obtain ⟨rfl, rest⟩ := List.cons.inj split
        have passes := clear item (List.mem_cons_self ..)
        exact later passes between next after rest
          (fun other member => clear other (List.mem_cons_of_mem _ member)) stops

theorem nextMeets_cons {item : α} {items : List α} : NextMeets trigger stop P (item :: items) ↔
    (trigger item → FirstMeets stop P items) ∧ NextMeets trigger stop P items := by
  constructor
  · intro meets
    refine ⟨fun triggers => meets [] item items rfl triggers, ?_⟩
    intro before other behind split triggers
    exact meets (item :: before) other behind (by rw [split, List.cons_append]) triggers
  · rintro ⟨here, later⟩ before other behind split triggers
    cases before with
    | nil =>
        obtain ⟨rfl, rfl⟩ := List.cons.inj split
        exact here triggers
    | cons head before =>
        obtain ⟨rfl, rest⟩ := List.cons.inj split
        exact later before other behind rest triggers

/-- If between every `a` and the next `b` there is a `c`, and the first `a` or `b` behind every `c`
has the property, then so has the first `b` behind every `a`. -/
theorem NextMeets.trans {a b c : α → Prop} {items : List α} (apart : ∀ item, b item → ¬c item)
    (between : NextMeets a (fun item => b item ∨ c item) c items)
    (meets : NextMeets c (fun item => a item ∨ b item) P items) : NextMeets a b P items := by
  -- behind an `a` a `c` is due, and behind a `c` the property
  have front : ∀ items, NextMeets a (fun item => b item ∨ c item) c items →
      NextMeets c (fun item => a item ∨ b item) P items →
      FirstMeets (fun item => b item ∨ c item) c items ∨
        FirstMeets (fun item => a item ∨ b item) P items → FirstMeets b P items := by
    intro items
    induction items with
    | nil =>
        intros
        exact firstMeets_nil
    | cons item items ih =>
        intro between meets due
        obtain ⟨isA, between⟩ := nextMeets_cons.mp between
        obtain ⟨isC, meets⟩ := nextMeets_cons.mp meets
        rw [firstMeets_cons, firstMeets_cons] at due
        refine firstMeets_cons.mpr ⟨?_, ?_⟩
        · intro isB
          rcases due with dueC | dueP
          · exact absurd (dueC.1 (.inl isB)) (apart item isB)
          · exact dueP.1 (.inr isB)
        · intro notB
          apply ih between meets
          by_cases c item
          · rename_i here
            exact .inr (isC here)
          · rename_i notC
            by_cases a item
            · rename_i here
              exact .inl (isA here)
            · rename_i notA
              rcases due with dueC | dueP
              · exact .inl (dueC.2 fun stops => stops.elim notB notC)
              · exact .inr (dueP.2 fun stops => stops.elim notA notB)
  induction items with
  | nil => exact nextMeets_nil
  | cons item items ih =>
      obtain ⟨isA, between⟩ := nextMeets_cons.mp between
      have behind := (nextMeets_cons.mp meets).2
      exact nextMeets_cons.mpr
        ⟨fun here => front items between behind (.inl (isA here)), ih between behind⟩

/-- Items that do not stop may stand in front. -/
theorem firstMeets_append {quiet items : List α} (clear : ∀ item ∈ quiet, ¬stop item) :
    FirstMeets stop P (quiet ++ items) ↔ FirstMeets stop P items := by
  induction quiet with
  | nil => rfl
  | cons item quiet ih =>
      have passes := clear item (List.mem_cons_self ..)
      rw [List.cons_append, firstMeets_cons,
        ih fun other member => clear other (List.mem_cons_of_mem _ member)]
      exact ⟨fun both => both.2 passes,
        fun behind => ⟨fun stops => absurd stops passes, fun _ => behind⟩⟩

/-- Items that do not trigger may stand in front. -/
theorem nextMeets_append {quiet items : List α} (clear : ∀ item ∈ quiet, ¬trigger item) :
    NextMeets trigger stop P (quiet ++ items) ↔ NextMeets trigger stop P items := by
  induction quiet with
  | nil => rfl
  | cons item quiet ih =>
      have passes := clear item (List.mem_cons_self ..)
      rw [List.cons_append, nextMeets_cons,
        ih fun other member => clear other (List.mem_cons_of_mem _ member)]
      exact ⟨fun both => both.2, fun behind => ⟨fun triggers => absurd triggers passes, behind⟩⟩

/-- What holds between parts holds between the items they consist of. -/
theorem nextMeets_flatMap {f : β → List α} {trigger' stop' P' : β → Prop} {parts : List β}
    (first : ∀ part ∈ parts, ∀ behind, FirstMeets stop P (f part ++ behind) ↔
      (stop' part → P' part) ∧ (¬stop' part → FirstMeets stop P behind))
    (next : ∀ part ∈ parts, ∀ behind, NextMeets trigger stop P (f part ++ behind) ↔
      (trigger' part → FirstMeets stop P behind) ∧ NextMeets trigger stop P behind) :
    NextMeets trigger stop P (parts.flatMap f) ↔ NextMeets trigger' stop' P' parts := by
  have firstMeets : ∀ parts : List β, (∀ part ∈ parts, ∀ behind,
      FirstMeets stop P (f part ++ behind) ↔
        (stop' part → P' part) ∧ (¬stop' part → FirstMeets stop P behind)) →
      (FirstMeets stop P (parts.flatMap f) ↔ FirstMeets stop' P' parts) := by
    intro parts
    induction parts with
    | nil => exact fun _ => iff_of_true firstMeets_nil firstMeets_nil
    | cons part parts ih =>
        intro first
        rw [List.flatMap_cons, first part (List.mem_cons_self ..), firstMeets_cons,
          ih fun part member => first part (List.mem_cons_of_mem _ member)]
  induction parts with
  | nil => exact iff_of_true nextMeets_nil nextMeets_nil
  | cons part parts ih =>
      have rest : ∀ part ∈ parts, ∀ behind, FirstMeets stop P (f part ++ behind) ↔
          (stop' part → P' part) ∧ (¬stop' part → FirstMeets stop P behind) :=
        fun part member => first part (List.mem_cons_of_mem _ member)
      have behind : NextMeets trigger stop P (parts.flatMap f) ↔ NextMeets trigger' stop' P' parts :=
        ih rest fun part member => next part (List.mem_cons_of_mem _ member)
      rw [List.flatMap_cons, next part (List.mem_cons_self ..), nextMeets_cons,
        firstMeets parts rest, behind]

end Lumepeer.Lib
