import Lumepeer.Core.RemotePath.Proofs.Component
import Lumepeer.Net.FileTransfer

/-!
# Two checks of one name

`safe_file_name` judges the name of an offered file and `is_safe_component` a
component of a path. They make the same refusals but one: a separator is refused
by the first only.
-/

namespace Lumepeer.Net
open Lumepeer.Lib Lumepeer.Core Lumepeer.Core.RemotePath

/-- The refusals the two checks share, for a name that is not a dot name. -/
structure Ordinary (name : List Char) : Prop where
  ne_nil : name ≠ []
  short : utf8Len name ≤ fileNameMaxBytes
  printable : ∀ c ∈ name, isControl c = false
  colonless : ':' ∉ name
  ending : name.getLast? ≠ some '.' ∧ name.getLast? ≠ some ' '
  noDevice : stem name ∉ windowsDeviceNames

/-- The two checks say the same of a name. -/
def OneVerdict (dialect : Dialect) (name : List Char) : Prop :=
  isSafeComponent name = true ↔ (safeFileName dialect name).isSome

/-- A dot name ends with a dot, so the check for it adds nothing. -/
theorem isSafeComponent_iff_ordinary (name : List Char) :
    isSafeComponent name = true ↔ Ordinary name := by
  rw [isSafeComponent_iff]
  constructor
  · rintro ⟨⟨nonempty, short⟩, -, printable, colonless, ending, noDevice⟩
    exact ⟨nonempty, short, printable, colonless, ending, noDevice⟩
  · intro ordinary
    refine ⟨⟨ordinary.ne_nil, ordinary.short⟩, ⟨?_, ?_⟩, ordinary.printable, ordinary.colonless,
      ordinary.ending, ordinary.noDevice⟩
    · rintro rfl
      exact ordinary.ending.1 rfl
    · rintro rfl
      exact ordinary.ending.1 rfl

/-- An ordinary name without separators is one normal component. -/
theorem components_of_ordinary {dialect : Dialect} {name : List Char} (ordinary : Ordinary name)
    (plain : ∀ c ∈ name, isSeparator c = false) : dialect.components name = [.normal name] := by
  have noSep : ∀ c ∈ name, dialect.isSep c = false := by
    intro c member
    have neither := plain c member
    cases dialect with
    | unix =>
        simp only [isSeparator, Bool.or_eq_false_iff] at neither
        exact neither.1
    | windows => exact neither
  have ne_dot : name ≠ ['.'] := by
    rintro rfl
    exact ordinary.ending.1 rfl
  have ne_dots : name ≠ ['.', '.'] := by
    rintro rfl
    exact ordinary.ending.1 rfl
  rw [Dialect.components_of_plain noSep ordinary.colonless, if_neg ordinary.ne_nil, if_neg ne_dot,
    if_neg ne_dots]

/-- What `safe_file_name` accepts is returned as it is. -/
theorem safeFileName_eq_some_iff {dialect : Dialect} {name accepted : List Char} :
    safeFileName dialect name = some accepted ↔
      accepted = name ∧ Ordinary name ∧ ∀ c ∈ name, isSeparator c = false := by
  constructor
  · intro accepts
    unfold safeFileName at accepts
    split at accepts
    · cases accepts
    · rename_i size
      split at accepts
      · cases accepts
      · rename_i printable
        split at accepts
        · cases accepts
        · rename_i separators
          split at accepts
          · rename_i only _
            simp only [Bool.or_eq_true, List.isEmpty_iff, decide_eq_true_eq, not_or, Nat.not_lt,
              List.any_eq_true, not_exists, not_and, Bool.not_eq_true, List.contains_eq_mem]
              at size printable separators
            split at accepts
            · cases accepts
            · rename_i whole
              rw [ne_eq, not_not] at whole
              subst whole
              split at accepts
              · cases accepts
              · rename_i ending
                split at accepts
                · cases accepts
                · rename_i noDevice
                  simp only [Bool.or_eq_true, decide_eq_true_eq, not_or, List.contains_eq_mem]
                    at ending noDevice
                  cases accepts
                  refine ⟨rfl, ⟨size.1, size.2, printable, separators.1.1, ending, noDevice⟩, ?_⟩
                  intro c member
                  have notSlash : c ≠ '/' := fun slash => separators.1.2 (slash ▸ member)
                  have notBackslash : c ≠ '\\' := fun slash => separators.2 (slash ▸ member)
                  simp [isSeparator, notSlash, notBackslash]
          · cases accepts
  · rintro ⟨rfl, ordinary, plain⟩
    have noSlash : '/' ∉ accepted := fun member => by simpa [isSeparator] using plain _ member
    have noBackslash : '\\' ∉ accepted := fun member => by simpa [isSeparator] using plain _ member
    have printable : accepted.any isControl = false := by
      simpa using ordinary.printable
    unfold safeFileName
    simp [components_of_ordinary ordinary plain, ordinary.ne_nil, ordinary.short, printable,
      ordinary.colonless, noSlash, noBackslash, ordinary.ending, ordinary.noDevice]

/-- The two checks agree on a name exactly if it has no separator or is refused by both. -/
theorem oneVerdict_iff (dialect : Dialect) (name : List Char) :
    OneVerdict dialect name ↔ (∀ c ∈ name, isSeparator c = false) ∨ ¬Ordinary name := by
  have accepted : (safeFileName dialect name).isSome ↔
      Ordinary name ∧ ∀ c ∈ name, isSeparator c = false := by
    rw [Option.isSome_iff_exists]
    constructor
    · rintro ⟨kept, accepts⟩
      exact (safeFileName_eq_some_iff.mp accepts).2
    · intro accepts
      exact ⟨name, safeFileName_eq_some_iff.mpr ⟨rfl, accepts⟩⟩
  unfold OneVerdict
  rw [isSafeComponent_iff_ordinary, accepted]
  constructor
  · intro same
    by_cases ordinary : Ordinary name
    · exact .inl (same.mp ordinary).2
    · exact .inr ordinary
  · rintro (plain | refused)
    · exact ⟨fun ordinary => ⟨ordinary, plain⟩, fun both => both.1⟩
    · exact ⟨fun ordinary => absurd ordinary refused, fun both => both.1⟩

/-- `a/b` is refused as a file name and accepted as a component. -/
theorem not_oneVerdict_slash :
    ¬∀ (dialect : Dialect) (name : List Char), OneVerdict dialect name := by
  intro always
  have accepted : isSafeComponent "a/b".toList = true := by decide
  have refused : safeFileName .unix "a/b".toList = none := by decide
  have same := (always .unix "a/b".toList).mp accepted
  rw [refused] at same
  cases same

end Lumepeer.Net
