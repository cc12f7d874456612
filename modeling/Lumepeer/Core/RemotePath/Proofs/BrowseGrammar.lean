import Lumepeer.Core.RemotePath.Proofs.Component

/-!
# The grammar of browse paths

`BrowsePath` writes down the paths `safe_browse_path` documents: a root, or a
root and safe components joined by single separators with at most one separator
at the end. The code strips one separator after the root before it looks for
components, so it also accepts a root followed by one more separator; apart from
these it accepts the grammar and nothing else.
-/

namespace Lumepeer.Core.RemotePath
open Lumepeer.Lib

/-- `/`, or a drive letter, a colon and a separator. -/
inductive Root : List Char → Prop
  | unix : Root ['/']
  | drive (letter sep : Char) (alphabetic : letter.isAlpha = true)
      (separates : isSeparator sep = true) : Root [letter, ':', sep]

/-- Nothing, or one separator. -/
inductive OptionalSeparator : List Char → Prop
  | absent : OptionalSeparator []
  | present (sep : Char) (separates : isSeparator sep = true) : OptionalSeparator [sep]

/-- The documented paths. -/
inductive BrowsePath : List Char → Prop
  | root (r : List Char) (isRoot : Root r) : BrowsePath r
  | components (r body tail : List Char) (isRoot : Root r) (named : Components body)
      (ending : OptionalSeparator tail) : BrowsePath (r ++ (body ++ tail))

/-- The documented paths of admissible length. -/
def Grammar (path : List Char) : Prop := utf8Len path ≤ dirPathMaxBytes ∧ BrowsePath path

/-- `safe_browse_path` decides the grammar at `path`, and refuses it if it has two adjacent
separators. -/
def MeetsGrammar (path : List Char) : Prop :=
  (safeBrowsePath path = some path ↔ Grammar path) ∧
    ∀ before x y after, path = before ++ x :: y :: after → isSeparator x = true →
      isSeparator y = true → safeBrowsePath path = none

/-- A root and one more separator, other than `//`. -/
def RootThenSeparator (path : List Char) : Prop :=
  path ≠ ['/', '/'] ∧ ∃ r sep, Root r ∧ isSeparator sep = true ∧ path = r ++ [sep]

theorem utf8Len_le (text : List Char) : utf8Len text ≤ 4 * text.length := by
  induction text with
  | nil => exact Nat.le_refl 0
  | cons c text ih =>
      have small := c.utf8Size_le_four
      simp only [utf8Len, List.map_cons, List.sum_cons, List.length_cons] at ih ⊢
      omega

/-- What `stripRoot` takes off is a root, and what it leaves does not make it `//`. -/
theorem root_of_stripRoot {path rest : List Char} (stripped : stripRoot path = some rest) :
    ∃ r, Root r ∧ path = r ++ rest ∧ ¬ (r = ['/'] ∧ rest.head? = some '/') := by
  unfold stripRoot at stripped
  split at stripped
  · rename_i tail
    split at stripped
    · cases stripped
    · rename_i single
      cases stripped
      exact ⟨['/'], .unix, rfl, fun both => single both.2⟩
  · rename_i drive colon afterDrive _
    split at stripped
    · cases stripped
    · rename_i isDrive
      simp only [Bool.or_eq_true, Bool.not_eq_true', decide_eq_true_eq, not_or, ne_eq, not_not,
        Bool.not_eq_false] at isDrive
      obtain ⟨alphabetic, rfl⟩ := isDrive
      split at stripped
      · cases stripped
        exact ⟨[drive, ':', '\\'], .drive drive '\\' alphabetic rfl, rfl, by simp⟩
      · cases stripped
        exact ⟨[drive, ':', '/'], .drive drive '/' alphabetic rfl, rfl, by simp⟩
      · cases stripped
  · cases stripped

theorem stripRoot_append {r rest : List Char} (isRoot : Root r)
    (single : ¬ (r = ['/'] ∧ rest.head? = some '/')) : stripRoot (r ++ rest) = some rest := by
  cases isRoot with
  | unix =>
      have notSlash : rest.head? ≠ some '/' := fun slash => single ⟨rfl, slash⟩
      simp [stripRoot, notSlash]
  | drive letter sep alphabetic separates =>
      have notSlash : letter ≠ '/' := by
        rintro rfl
        exact absurd alphabetic (by decide)
      rcases isSeparator_iff.mp separates with rfl | rfl
      · simp [stripRoot, alphabetic]
      · simp [stripRoot, alphabetic]

theorem toNat_of_isAlpha {c : Char} (alphabetic : c.isAlpha = true) :
    65 ≤ c.toNat ∧ c.toNat ≤ 122 := by
  rcases Bool.or_eq_true_iff.mp alphabetic with upper | lower
  · obtain ⟨low, high⟩ : 'A'.val ≤ c.val ∧ c.val ≤ 'Z'.val := of_decide_eq_true upper
    exact ⟨UInt32.le_iff_toNat_le.mp low, (UInt32.le_iff_toNat_le.mp high).trans (by decide)⟩
  · obtain ⟨low, high⟩ := Bool.and_eq_true_iff.mp lower
    exact ⟨le_trans (by decide) (UInt32.le_iff_toNat_le.mp (of_decide_eq_true low)),
      UInt32.le_iff_toNat_le.mp (of_decide_eq_true high)⟩

theorem not_isControl_of_isAlpha {c : Char} (alphabetic : c.isAlpha = true) :
    isControl c = false := by
  have range := toNat_of_isAlpha alphabetic
  simp only [isControl, Bool.or_eq_false_iff, Bool.and_eq_false_imp, decide_eq_false_iff_not,
    decide_eq_true_eq]
  omega

theorem not_isControl_of_root {r : List Char} (isRoot : Root r) : ∀ c ∈ r, isControl c = false := by
  cases isRoot with
  | unix => simp [isControl]
  | drive letter sep alphabetic separates =>
      intro c member
      simp only [List.mem_cons, List.not_mem_nil, or_false] at member
      rcases member with rfl | rfl | rfl
      · exact not_isControl_of_isAlpha alphabetic
      · rfl
      · exact not_isControl_of_isSeparator separates

theorem root_isChain {r : List Char} (isRoot : Root r) :
    r.IsChain fun x y => ¬ (isSeparator x = true ∧ isSeparator y = true) := by
  cases isRoot with
  | unix => exact .singleton _
  | drive letter sep alphabetic separates =>
      have colon : isSeparator ':' = false := rfl
      simp [colon]

theorem trimSeparator_append {body tail : List Char} (named : Components body)
    (ending : OptionalSeparator tail) : trimSeparator (body ++ tail) = body := by
  cases ending with
  | absent =>
      have plain := named.getLast_plain safe_ne_nil
      rw [List.append_nil, trimSeparator]
      cases isLast : body.getLast? with
      | none => simp
      | some c => simp [plain c isLast]
  | present sep separates => simp [trimSeparator, separates]

/-- The trimmed path lacks at most one separator at its end. -/
theorem trimSeparator_cases (rest : List Char) :
    ∃ tail, OptionalSeparator tail ∧ rest = trimSeparator rest ++ tail := by
  unfold trimSeparator
  split
  · rename_i separates
    cases isLast : rest.getLast? with
    | none => simp [isLast] at separates
    | some c =>
        rw [isLast, Option.any_some] at separates
        obtain ⟨front, rfl⟩ := List.getLast?_eq_some_iff.mp isLast
        exact ⟨[c], .present c separates, by simp⟩
  · exact ⟨[], .absent, by simp⟩

theorem not_isControl_of_browsePath {path : List Char} (browse : BrowsePath path) :
    ∀ c ∈ path, isControl c = false := by
  cases browse with
  | root _ isRoot => exact not_isControl_of_root isRoot
  | components r body tail isRoot named ending =>
      intro c member
      simp only [List.mem_append] at member
      rcases member with inRoot | inBody | inTail
      · exact not_isControl_of_root isRoot c inRoot
      · exact named.forall_mem (fun _ => not_isControl_of_isSeparator) not_isControl_of_safe c inBody
      · cases ending with
        | absent => cases inTail
        | present sep separates =>
            rw [List.mem_singleton.mp inTail]
            exact not_isControl_of_isSeparator separates

/-- No documented path has two adjacent separators. -/
theorem isChain_of_browsePath {path : List Char} (browse : BrowsePath path) :
    path.IsChain fun x y => ¬ (isSeparator x = true ∧ isSeparator y = true) := by
  cases browse with
  | root _ isRoot => exact root_isChain isRoot
  | components r body tail isRoot named ending =>
      have first := named.head_plain safe_ne_nil
      have last := named.getLast_plain safe_ne_nil
      have nonempty := named.ne_nil safe_ne_nil
      rw [List.isChain_append, List.isChain_append]
      refine ⟨root_isChain isRoot, ⟨named.isChain safe_ne_nil, ?_, ?_⟩, ?_⟩
      · cases ending with
        | absent => exact .nil
        | present sep _ => exact .singleton sep
      · rintro x isLast y - ⟨separates, -⟩
        simp [last x isLast] at separates
      · rintro x - y isFirst ⟨-, separates⟩
        rw [List.head?_append_of_ne_nil _ nonempty] at isFirst
        simp [first y isFirst] at separates

theorem ne_nil_of_browsePath {path : List Char} (browse : BrowsePath path) : path ≠ [] := by
  have root_ne_nil {r : List Char} (isRoot : Root r) : r ≠ [] := by
    cases isRoot <;> simp
  cases browse with
  | root _ isRoot => exact root_ne_nil isRoot
  | components r body tail isRoot _ _ => simp [root_ne_nil isRoot]

/-- What `safe_browse_path` asks of a path. -/
theorem safeBrowsePath_eq_some_iff (path : List Char) :
    safeBrowsePath path = some path ↔
      path ≠ [] ∧ utf8Len path ≤ dirPathMaxBytes ∧ (∀ c ∈ path, isControl c = false) ∧
        ∃ rest, stripRoot path = some rest ∧
          (trimSeparator rest = [] ∨ Components (trimSeparator rest)) := by
  unfold safeBrowsePath
  split
  · rename_i refused
    simp only [Bool.or_eq_true, List.isEmpty_iff, decide_eq_true_eq] at refused
    constructor
    · intro accepted
      cases accepted
    · rintro ⟨nonempty, short, -⟩
      rcases refused with empty | long
      · exact absurd empty nonempty
      · omega
  · rename_i admitted
    simp only [Bool.or_eq_true, List.isEmpty_iff, decide_eq_true_eq, not_or, Nat.not_lt] at admitted
    split
    · rename_i controls
      obtain ⟨c, member, control⟩ := List.any_eq_true.mp controls
      constructor
      · intro accepted
        cases accepted
      · rintro ⟨-, -, plain, -⟩
        simp [plain c member] at control
    · rename_i plain
      simp only [Bool.not_eq_true, List.any_eq_false] at plain
      cases stripped : stripRoot path with
      | none => simp
      | some rest =>
          have components : Components (trimSeparator rest) ↔
              ((trimSeparator rest).splitOnP isSeparator).all isSafeComponent = true :=
            (joined_iff_forall_splitOnP _).trans List.all_eq_true.symm
          by_cases empty : trimSeparator rest = []
          · simpa [empty, admitted] using plain
          · by_cases safe : ((trimSeparator rest).splitOnP isSeparator).all isSafeComponent = true
            · simpa [empty, safe, components, admitted] using plain
            · simp [empty, safe, components]

/-- An accepted path is returned as it is. -/
theorem safeBrowsePath_eq_self {path accepted : List Char}
    (accepts : safeBrowsePath path = some accepted) : accepted = path := by
  unfold safeBrowsePath at accepts
  grind

/-- A root and one more separator is accepted, unless it is `//`. -/
theorem safeBrowsePath_of_rootThenSeparator {path : List Char} (extra : RootThenSeparator path) :
    safeBrowsePath path = some path := by
  obtain ⟨notDouble, r, sep, isRoot, separates, rfl⟩ := extra
  have single : ¬ (r = ['/'] ∧ [sep].head? = some '/') := by
    rintro ⟨rfl, slash⟩
    apply notDouble
    simpa using slash
  have plain (c) (member : c ∈ r ++ [sep]) : isControl c = false := by
    rcases List.mem_append.mp member with inRoot | inTail
    · exact not_isControl_of_root isRoot c inRoot
    · rw [List.mem_singleton.mp inTail]
      exact not_isControl_of_isSeparator separates
  have short : utf8Len (r ++ [sep]) ≤ dirPathMaxBytes := by
    have bound := utf8Len_le (r ++ [sep])
    have size : (r ++ [sep]).length ≤ 4 := by
      cases isRoot <;> simp
    unfold dirPathMaxBytes
    omega
  rw [safeBrowsePath_eq_some_iff]
  refine ⟨by simp, short, plain, [sep], stripRoot_append isRoot single, .inl ?_⟩
  simp [trimSeparator, separates]

/-- Where no separator follows the root on its own, the code decides the grammar. -/
theorem safeBrowsePath_iff_grammar {path : List Char} (plain : ¬ RootThenSeparator path) :
    safeBrowsePath path = some path ↔ Grammar path := by
  rw [safeBrowsePath_eq_some_iff]
  constructor
  · rintro ⟨-, short, -, rest, stripped, named⟩
    refine ⟨short, ?_⟩
    obtain ⟨r, isRoot, rfl, single⟩ := root_of_stripRoot stripped
    obtain ⟨tail, ending, split⟩ := trimSeparator_cases rest
    rcases named with empty | named
    · rw [empty, List.nil_append] at split
      subst split
      cases ending with
      | absent =>
          rw [List.append_nil]
          exact .root r isRoot
      | present sep separates =>
          refine absurd ⟨?_, r, sep, isRoot, separates, rfl⟩ plain
          intro isDouble
          apply single
          cases isRoot with
          | unix => simpa using isDouble
          | drive letter _ _ _ => simp at isDouble
    · rw [split]
      exact .components r _ tail isRoot named ending
  · rintro ⟨short, browse⟩
    refine ⟨ne_nil_of_browsePath browse, short, not_isControl_of_browsePath browse, ?_⟩
    cases browse with
    | root _ isRoot =>
        have stripped := @stripRoot_append path [] isRoot (by simp)
        rw [List.append_nil] at stripped
        exact ⟨[], stripped, .inl rfl⟩
    | components r body tail isRoot named ending =>
        refine ⟨body ++ tail, stripRoot_append isRoot ?_, .inr ?_⟩
        · rintro ⟨-, slash⟩
          rw [List.head?_append_of_ne_nil _ (named.ne_nil safe_ne_nil)] at slash
          exact absurd (named.head_plain safe_ne_nil '/' slash) (by decide)
        · rw [trimSeparator_append named ending]
          exact named

/-- `safe_browse_path` meets its grammar at every path but a root followed by one more
separator (other than `//`). -/
theorem meetsGrammar_iff (path : List Char) : MeetsGrammar path ↔ ¬ RootThenSeparator path := by
  constructor
  · rintro ⟨-, noAdjacent⟩ extra
    have accepted := safeBrowsePath_of_rootThenSeparator extra
    obtain ⟨-, r, sep, isRoot, separates, rfl⟩ := extra
    have refused : safeBrowsePath (r ++ [sep]) = none := by
      cases isRoot with
      | unix => exact noAdjacent [] '/' sep [] rfl rfl separates
      | drive letter first _ isSep => exact noAdjacent [letter, ':'] first sep [] rfl isSep separates
    rw [refused] at accepted
    cases accepted
  · intro plain
    have decides := safeBrowsePath_iff_grammar plain
    refine ⟨decides, ?_⟩
    intro before x y after isPath separatesX separatesY
    cases accepts : safeBrowsePath path with
    | none => rfl
    | some accepted =>
        rw [safeBrowsePath_eq_self accepts] at accepts
        have chain := isChain_of_browsePath (decides.mp accepts).2
        rw [isPath, List.isChain_append_cons_cons] at chain
        exact absurd ⟨separatesX, separatesY⟩ chain.2.1

/-- The path `/\` is accepted, though it starts with two separators. -/
theorem slash_backslash_accepted : ¬ ∀ path, MeetsGrammar path := by
  intro claimed
  have refused := (claimed ['/', '\\']).2 [] '/' '\\' [] rfl rfl rfl
  exact absurd refused (by decide)

end Lumepeer.Core.RemotePath
