import Lumepeer.Core.RemotePath
import Lumepeer.Lib.Split

/-!
# Path components

What `is_safe_component` accepts, and what follows for texts made of components
it accepts with single separators between them.
-/

namespace Lumepeer.Core.RemotePath
open Lumepeer.Lib

/-- Safe components joined by single separators. -/
abbrev Components : List Char → Prop := Joined isSeparator fun part => isSafeComponent part = true

theorem isSeparator_iff {c : Char} : isSeparator c = true ↔ c = '/' ∨ c = '\\' := by
  simp [isSeparator]

theorem not_isControl_of_isSeparator {c : Char} (separates : isSeparator c = true) :
    isControl c = false := by
  rcases isSeparator_iff.mp separates with rfl | rfl <;> rfl

/-- The refusals of `is_safe_component`, one by one. -/
theorem isSafeComponent_iff (part : List Char) :
    isSafeComponent part = true ↔
      (part ≠ [] ∧ utf8Len part ≤ fileNameMaxBytes) ∧ (part ≠ ['.'] ∧ part ≠ ['.', '.']) ∧
        (∀ c ∈ part, isControl c = false) ∧ ':' ∉ part ∧
          (part.getLast? ≠ some '.' ∧ part.getLast? ≠ some ' ') ∧
            stem part ∉ windowsDeviceNames := by
  have refusal : ∀ refused rest : Bool,
      (if refused then false else rest) = true ↔ refused = false ∧ rest = true := by
    decide
  unfold isSafeComponent
  simp only [refusal, Bool.or_eq_false_iff, decide_eq_false_iff_not, List.isEmpty_eq_false_iff,
    Nat.not_lt, List.any_eq_false, List.contains_eq_mem, Bool.not_eq_true', Bool.not_eq_true, ne_eq]

theorem safe_ne_nil (part : List Char) (safe : isSafeComponent part = true) : part ≠ [] :=
  ((isSafeComponent_iff part).mp safe).1.1

theorem not_isControl_of_safe (part : List Char) (safe : isSafeComponent part = true) :
    ∀ c ∈ part, isControl c = false :=
  ((isSafeComponent_iff part).mp safe).2.2.1

/-!
## Manifest entries stay under their directory

`relative_components` accepts the texts that are safe components with a
separator between each and the next, and returns those components. Each of them
is a name in either dialect of paths, so that appending them to a directory
leads down from it, whatever the directory is.
-/

/-- The empty text, control characters and a leading separator need no refusal of their own: no
safe components make up such a text. -/
theorem safeRelativePath_eq_some_iff {path accepted : List Char} :
    safeRelativePath path = some accepted ↔
      accepted = path ∧ utf8Len path ≤ manifestPathMaxBytes ∧ Components path := by
  have split : Components path ↔ (path.splitOnP isSeparator).all isSafeComponent = true :=
    (joined_iff_forall_splitOnP path).trans List.all_eq_true.symm
  constructor
  · intro safe
    unfold safeRelativePath at safe
    split at safe
    · cases safe
    · rename_i admitted
      simp only [Bool.or_eq_true, decide_eq_true_eq, not_or, Nat.not_lt] at admitted
      split at safe
      · cases safe
      · split at safe
        · cases safe
        · split at safe
          · rename_i pieces
            exact ⟨(Option.some.inj safe).symm, admitted.2, split.mpr pieces⟩
          · cases safe
  · rintro ⟨rfl, short, named⟩
    have nonempty := named.ne_nil safe_ne_nil
    have plain := named.forall_mem (fun _ => not_isControl_of_isSeparator) not_isControl_of_safe
    have relative := named.head_plain safe_ne_nil
    have admitted : ¬ (accepted.isEmpty || utf8Len accepted > manifestPathMaxBytes) = true := by
      simp only [Bool.or_eq_true, List.isEmpty_iff, decide_eq_true_eq, not_or, Nat.not_lt]
      exact ⟨nonempty, short⟩
    have noControl : ¬ accepted.any isControl = true := by
      simpa using plain
    have noRoot : ¬ accepted.head?.any isSeparator = true := by
      rw [Bool.not_eq_true]
      cases first : accepted.head? with
      | none => rfl
      | some c => exact relative c first
    rw [safeRelativePath, if_neg admitted, if_neg noControl, if_neg noRoot,
      if_pos (split.mp named)]

/-- The components are the pieces between the separators, all of them safe. -/
theorem relativeComponents_eq_some_iff {path : List Char} {components : List (List Char)} :
    relativeComponents path = some components ↔
      Separated isSeparator components path ∧
        (∀ component ∈ components, isSafeComponent component = true) ∧
          utf8Len path ≤ manifestPathMaxBytes := by
  rw [relativeComponents, Option.map_eq_some_iff]
  constructor
  · rintro ⟨accepted, safe, pieces⟩
    obtain ⟨rfl, short, named⟩ := safeRelativePath_eq_some_iff.mp safe
    have each := (joined_iff_forall_splitOnP accepted).mp named
    rw [pieces] at each
    exact ⟨splitOnP_eq_iff_separated.mp pieces, each, short⟩
  · rintro ⟨separated, safe, short⟩
    exact ⟨path, safeRelativePath_eq_some_iff.mpr ⟨rfl, short, separated.joined safe⟩,
      splitOnP_eq_iff_separated.mpr separated⟩

/-- A safe component without separators is a name in both dialects. -/
theorem isName_of_safe {component : List Char} (safe : isSafeComponent component = true)
    (plain : ∀ c ∈ component, isSeparator c = false) (dialect : Dialect) :
    dialect.IsName component := by
  obtain ⟨⟨nonempty, -⟩, ⟨notDot, notDots⟩, -, colonless, -, -⟩ :=
    (isSafeComponent_iff component).mp safe
  refine ⟨nonempty, notDot, notDots, ?_, colonless⟩
  intro c member
  have neither := plain c member
  cases dialect with
  | unix =>
      simp only [isSeparator, Bool.or_eq_false_iff] at neither
      exact neither.1
  | windows => exact neither

/-- Components appended to a directory lead to a place under it. -/
theorem below_of_relativeComponents {path : List Char} {components : List (List Char)}
    (accepted : relativeComponents path = some components) (dialect : Dialect)
    (base : List Char) :
    (dialect.resolve base).Below (dialect.resolve (components.foldl dialect.append base)) := by
  obtain ⟨separated, safe, -⟩ := relativeComponents_eq_some_iff.mp accepted
  have names : ∀ component ∈ components, dialect.IsName component := fun component member =>
    isName_of_safe (safe component member) (separated.plain component member) dialect
  rw [Dialect.resolve_foldl_append names]
  exact Location.below_down _ separated.ne_nil

/-- `relative_components` returns exactly the safe components a path of admissible length is made
of. None of them can leave a directory, and appended to any directory they lead to a place under
it, on Unix and on Windows. -/
theorem relative_components_stay_below (path : List Char) (components : List (List Char)) :
    (relativeComponents path = some components ↔
      components ≠ [] ∧ Separated isSeparator components path ∧
        (∀ component ∈ components, isSafeComponent component = true) ∧
          utf8Len path ≤ manifestPathMaxBytes) ∧
    (relativeComponents path = some components →
      (∀ component ∈ components, '/' ∉ component ∧ '\\' ∉ component ∧ ':' ∉ component ∧
        (∀ c ∈ component, isControl c = false) ∧ component ≠ ['.'] ∧ component ≠ ['.', '.']) ∧
      ∀ (dialect : Dialect) (base : List Char),
        (dialect.resolve base).Below
          (dialect.resolve (components.foldl dialect.append base))) := by
  constructor
  · rw [relativeComponents_eq_some_iff]
    exact ⟨fun made => ⟨made.1.ne_nil, made⟩, fun made => made.2⟩
  · intro accepted
    refine ⟨?_, below_of_relativeComponents accepted⟩
    obtain ⟨separated, safe, -⟩ := relativeComponents_eq_some_iff.mp accepted
    intro component member
    have plain := separated.plain component member
    obtain ⟨-, ⟨notDot, notDots⟩, noControl, colonless, -, -⟩ :=
      (isSafeComponent_iff component).mp (safe component member)
    refine ⟨?_, ?_, colonless, noControl, notDot, notDots⟩
    · exact fun slash => absurd (plain '/' slash) (by decide)
    · exact fun backslash => absurd (plain '\\' backslash) (by decide)

theorem notes_stay_below : relativeComponents "docs\\notes.txt".toList =
      some ["docs".toList, "notes.txt".toList] ∧
    (Dialect.windows.resolve "C:\\in".toList).Below
      (Dialect.windows.resolve "C:\\in\\docs\\notes.txt".toList) := by
  have accepted : relativeComponents "docs\\notes.txt".toList =
      some ["docs".toList, "notes.txt".toList] := by decide
  exact ⟨accepted, ((relative_components_stay_below _ _).2 accepted).2 .windows "C:\\in".toList⟩

end Lumepeer.Core.RemotePath
