import Lumepeer.Core.RemotePath.Proofs.BrowseGrammar

/-!
# The directory and the name of an entry

`split_entry_path` cuts at byte offsets: at the last separator, and one byte
behind it. A separator is one byte, so neither cut falls inside a character.
What is left of the cut is a root, which keeps its separator, or a root and
further components; what is right of it is the last component.
-/

namespace Lumepeer.Core.RemotePath
open Lumepeer.Lib

/-- What stands between the separators of a text. -/
def piecesOf (text : List Char) : List (List Char) :=
  (text.splitOnP isSeparator).filter (· ≠ [])

/-- The components of a path after its root. -/
def componentsOf (path : List Char) : List (List Char) :=
  match stripRoot path with
  | none => []
  | some rest => piecesOf rest

theorem piecesOf_of_plain {text : List Char} (plain : ∀ c ∈ text, isSeparator c = false)
    (nonempty : text ≠ []) : piecesOf text = [text] := by
  simp [piecesOf, List.splitOnP_eq_singleton plain, nonempty]

@[simp] theorem piecesOf_nil : piecesOf [] = [] := rfl

theorem piecesOf_append_cons {sep : Char} (separates : isSeparator sep = true)
    (front back : List Char) :
    piecesOf (front ++ sep :: back) = piecesOf front ++ piecesOf back := by
  unfold piecesOf
  rw [List.splitOnP_append_cons _ _ separates, List.filter_append]

/-- A separator at the end makes no component. -/
theorem piecesOf_append_optional {tail : List Char} (ending : OptionalSeparator tail)
    (text : List Char) : piecesOf (text ++ tail) = piecesOf text := by
  cases ending with
  | absent => rw [List.append_nil]
  | present sep separates =>
      rw [piecesOf_append_cons separates, piecesOf_nil, List.append_nil]

theorem utf8Len_eq_byteLen (text : List Char) : utf8Len text = byteLen text := by
  induction text with
  | nil => rfl
  | cons c text ih =>
      rw [byteLen_cons, ← ih]
      rfl

theorem utf8Size_of_isSeparator {c : Char} (separates : isSeparator c = true) :
    c.utf8Size = 1 := by
  rcases isSeparator_iff.mp separates with rfl | rfl <;> rfl

theorem utf8Size_of_isAlpha {c : Char} (alphabetic : c.isAlpha = true) : c.utf8Size = 1 := by
  have range : c.val.toNat ≤ 122 := (toNat_of_isAlpha alphabetic).2
  have ascii : c.val ≤ 127 := by
    rw [UInt32.le_iff_toNat_le]
    exact range.trans (by decide)
  unfold Char.utf8Size
  exact if_pos ascii

/-- A root is one byte of separator behind nothing or behind a drive. -/
theorem Root.split {r : List Char} (isRoot : Root r) :
    ∃ stem sep, r = stem ++ [sep] ∧ isSeparator sep = true ∧
      (∀ c ∈ stem, isSeparator c = false) ∧
      (stem = [] ∨ utf8Len stem = 2 ∧ stem.getLast? = some ':') := by
  cases isRoot with
  | unix => exact ⟨[], '/', rfl, rfl, by simp, .inl rfl⟩
  | drive letter sep alphabetic separates =>
      refine ⟨[letter, ':'], sep, rfl, separates, ?_, .inr ⟨?_, rfl⟩⟩
      · intro c member
        simp only [List.mem_cons, List.not_mem_nil, or_false] at member
        rcases member with rfl | rfl
        · by_contra separates
          rcases isSeparator_iff.mp (Bool.of_not_eq_false separates) with rfl | rfl
          · exact absurd alphabetic (by decide)
          · exact absurd alphabetic (by decide)
        · rfl
      · rw [utf8Len_eq_byteLen, byteLen_cons, utf8Size_of_isAlpha alphabetic]
        rfl

theorem trimSeparator_concat {sep : Char} (separates : isSeparator sep = true)
    (text : List Char) : trimSeparator (text ++ [sep]) = text := by
  simp [trimSeparator, separates]

/-- Behind whatever stands before them, components lose a separator at their end. -/
theorem trimSeparator_components {front body tail : List Char} (named : Components body)
    (ending : OptionalSeparator tail) :
    trimSeparator (front ++ (body ++ tail)) = front ++ body := by
  cases ending with
  | absent =>
      have plain := named.getLast_plain safe_ne_nil
      have nonempty := named.ne_nil safe_ne_nil
      rw [List.append_nil, trimSeparator, List.getLast?_append_of_ne_nil _ nonempty]
      cases isLast : body.getLast? with
      | none => simp
      | some c => simp [plain c isLast]
  | present sep separates =>
      rw [← List.append_assoc]
      exact trimSeparator_concat separates _

/-- The two forms of an accepted path: a root with at most one separator more, and a root with
components. -/
theorem accepted_cases {path : List Char} (accepts : safeBrowsePath path = some path) :
    ∃ r rest tail, Root r ∧ path = r ++ rest ∧ stripRoot path = some rest ∧
      OptionalSeparator tail ∧
      (rest = tail ∨ ∃ body, Components body ∧ rest = body ++ tail) := by
  obtain ⟨-, -, -, rest, stripped, form⟩ := (safeBrowsePath_eq_some_iff path).mp accepts
  obtain ⟨r, isRoot, isPath, -⟩ := root_of_stripRoot stripped
  obtain ⟨tail, ending, isRest⟩ := trimSeparator_cases rest
  refine ⟨r, rest, tail, isRoot, isPath, stripped, ending, ?_⟩
  rcases form with empty | named
  · rw [empty, List.nil_append] at isRest
    exact .inl isRest
  · exact .inr ⟨trimSeparator rest, named, isRest⟩

/-- A cut at the last separator of the trimmed path, and the one a byte further. -/
theorem splitEntryPath_of_trimmed {path front name : List Char} {sep : Char}
    (accepts : safeBrowsePath path = some path)
    (isTrimmed : trimSeparator path = front ++ sep :: name) (separates : isSeparator sep = true)
    (plain : ∀ c ∈ name, isSeparator c = false) :
    splitEntryPath path = some (if name = [] then none
      else if front = [] ∨ utf8Len front = 2 ∧ front.getLast? = some ':' then
        some (front ++ [sep], name)
      else some (front, name)) := by
  have behind : splitAtByte (front ++ sep :: name) (byteLen front + 1) =
      some (front ++ [sep], name) := by
    have width : byteLen (front ++ [sep]) = byteLen front + 1 := by
      simp [utf8Size_of_isSeparator separates]
    rw [← width, ← List.singleton_append, ← List.append_assoc]
    exact splitAtByte_append _ _
  unfold splitEntryPath
  simp only [accepts, isTrimmed, rfind_append_cons separates plain, behind,
    splitAtByte_append front (sep :: name), Option.bind_eq_bind, Option.bind_some]
  by_cases empty : name = []
  · simp [empty]
  · by_cases stem : front = [] ∨ utf8Len front = 2 ∧ front.getLast? = some ':'
    · simp [empty, stem]
    · simp [empty, stem]

/-- A root is no entry. -/
theorem splitEntryPath_root {r tail : List Char} (isRoot : Root r) (ending : OptionalSeparator tail)
    (accepts : safeBrowsePath (r ++ tail) = some (r ++ tail)) :
    splitEntryPath (r ++ tail) = some none := by
  obtain ⟨stem, sep, rfl, separates, plain, -⟩ := isRoot.split
  cases ending with
  | absent =>
      rw [List.append_nil] at accepts ⊢
      unfold splitEntryPath
      simp only [accepts, trimSeparator_concat separates, rfind_of_plain plain]
  | present extra separatesExtra =>
      have isTrimmed := trimSeparator_concat separatesExtra (stem ++ [sep])
      rw [splitEntryPath_of_trimmed accepts isTrimmed separates (by simp), if_pos rfl]

/-- A root and components without a separator at their end are accepted if a longer path with
them is. -/
theorem safeBrowsePath_front {path r : List Char} (body after : List Char) (isRoot : Root r)
    (isPath : path = r ++ (body ++ after)) (accepts : safeBrowsePath path = some path)
    (named : body = [] ∨ Components body) :
    safeBrowsePath (r ++ body) = some (r ++ body) ∧ stripRoot (r ++ body) = some body := by
  obtain ⟨-, short, printable, -⟩ := (safeBrowsePath_eq_some_iff path).mp accepts
  have single : ¬(r = ['/'] ∧ body.head? = some '/') := by
    rintro ⟨-, slash⟩
    rcases named with rfl | named
    · cases slash
    · have plain := named.head_plain safe_ne_nil '/' slash
      cases plain
  have stripped := stripRoot_append isRoot single
  have isTrimmed : trimSeparator body = body := by
    rcases named with rfl | named
    · rfl
    · have kept := trimSeparator_append named .absent
      rwa [List.append_nil] at kept
  refine ⟨(safeBrowsePath_eq_some_iff _).mpr ⟨?_, ?_, ?_, body, stripped, ?_⟩, stripped⟩
  · intro empty
    obtain ⟨stem, sep, rfl, -⟩ := isRoot.split
    simp at empty
  · rw [utf8Len_eq_byteLen] at short ⊢
    rw [isPath] at short
    simp only [byteLen_append] at short ⊢
    omega
  · intro c member
    apply printable
    rw [isPath, ← List.append_assoc]
    exact List.mem_append_left _ member
  · rw [isTrimmed]
    exact named

/-- What is asked of the directory and the name of an entry. -/
structure IsEntry (path directory name : List Char) : Prop where
  accepted : safeBrowsePath directory = some directory
  absolute : ∃ r rest, Root r ∧ directory = r ++ rest
  nonempty : name ≠ []
  plain : ∀ c ∈ name, isSeparator c = false
  safe : isSafeComponent name = true
  components : componentsOf path = componentsOf directory ++ [name]

/-- A path with components is cut before the last of them. -/
theorem splitEntryPath_components {path r body tail : List Char} (isRoot : Root r)
    (isPath : path = r ++ (body ++ tail)) (accepts : safeBrowsePath path = some path)
    (stripped : stripRoot path = some (body ++ tail)) (named : Components body)
    (ending : OptionalSeparator tail) :
    ∃ directory name, splitEntryPath path = some (some (directory, name)) ∧
      IsEntry path directory name := by
  have isTrimmed : trimSeparator path = r ++ body := by
    rw [isPath]
    exact trimSeparator_components named ending
  have isComponents : componentsOf path = piecesOf body := by
    rw [componentsOf, stripped]
    exact piecesOf_append_optional ending body
  obtain ⟨name, plain, safe, only | ⟨front, sep, isBody, separates, joined⟩⟩ := named.last_piece
  · -- one component: the directory is the root, with its separator
    subst only
    obtain ⟨stem, sep, rfl, separates, -, isStem⟩ := isRoot.split
    have nonempty := safe_ne_nil body safe
    obtain ⟨accepted, isRest⟩ := safeBrowsePath_front [] (body ++ tail) isRoot isPath accepts
      (.inl rfl)
    rw [List.append_nil] at accepted isRest
    rw [List.append_assoc, List.singleton_append] at isTrimmed
    refine ⟨stem ++ [sep], body, ?_, accepted, ⟨_, [], isRoot, (List.append_nil _).symm⟩, nonempty,
      plain, safe, ?_⟩
    · rw [splitEntryPath_of_trimmed accepts isTrimmed separates plain, if_neg nonempty,
        if_pos isStem]
    · rw [isComponents, piecesOf_of_plain plain nonempty, componentsOf, isRest]
      rfl
  · -- further components before it: they end without a colon, so they are kept as they are
    subst isBody
    have nonempty := safe_ne_nil name safe
    have frontNonempty := joined.ne_nil safe_ne_nil
    obtain ⟨accepted, isRest⟩ := safeBrowsePath_front front (sep :: name ++ tail) isRoot
      (by rw [isPath]; simp) accepts (.inr joined)
    have inCut : ∀ c, isSeparator c = true → c ≠ ':' := by
      rintro c isSep rfl
      cases isSep
    have inPart : ∀ part, isSafeComponent part = true → ∀ c ∈ part, c ≠ ':' := by
      rintro part isSafe c member rfl
      exact ((isSafeComponent_iff part).mp isSafe).2.2.2.1 member
    have colonless : ∀ c ∈ front, c ≠ ':' := joined.forall_mem inCut inPart
    have notStem : ¬(r ++ front = [] ∨ utf8Len (r ++ front) = 2 ∧
        (r ++ front).getLast? = some ':') := by
      rintro (empty | ⟨-, isColon⟩)
      · exact frontNonempty (List.append_eq_nil_iff.mp empty).2
      · rw [List.getLast?_append_of_ne_nil _ frontNonempty] at isColon
        exact colonless ':' (List.mem_of_getLast? isColon) rfl
    rw [← List.append_assoc] at isTrimmed
    refine ⟨r ++ front, name, ?_, accepted, ⟨r, front, isRoot, rfl⟩, nonempty, plain, safe, ?_⟩
    · rw [splitEntryPath_of_trimmed accepts isTrimmed separates plain, if_neg nonempty,
        if_neg notStem]
    · rw [isComponents, piecesOf_append_cons separates, piecesOf_of_plain plain nonempty,
        componentsOf, isRest]

/-- `safe_browse_path` slices behind a drive letter and a colon, which are a byte each. -/
theorem splitAtByte_drive {letter : Char} (alphabetic : letter.isAlpha = true)
    (afterDrive : List Char) :
    splitAtByte (letter :: ':' :: afterDrive) 2 = some ([letter, ':'], afterDrive) := by
  have width : byteLen [letter, ':'] = 2 := by
    rw [byteLen_cons, utf8Size_of_isAlpha alphabetic]
    rfl
  rw [← width]
  exact splitAtByte_append [letter, ':'] afterDrive

/-- No slice of the two functions falls inside a character. An entry is found exactly in an
accepted path with a component, and then it is the last one of them under the directory the
others name. -/
theorem splitEntryPath_spec (path : List Char) :
    (∀ letter afterDrive, letter.isAlpha = true → path = letter :: ':' :: afterDrive →
      splitAtByte path 2 = some ([letter, ':'], afterDrive)) ∧
    ∃ entry, splitEntryPath path = some entry ∧
      (entry.isSome ↔ (safeBrowsePath path).isSome ∧ componentsOf path ≠ []) ∧
      ∀ directory name, entry = some (directory, name) → IsEntry path directory name := by
  refine ⟨?_, ?_⟩
  · rintro letter afterDrive alphabetic rfl
    exact splitAtByte_drive alphabetic afterDrive
  · cases browsed : safeBrowsePath path with
    | none =>
        refine ⟨none, ?_, by simp, by simp⟩
        rw [splitEntryPath, browsed]
    | some accepted =>
        obtain rfl := safeBrowsePath_eq_self browsed
        obtain ⟨r, rest, tail, isRoot, isPath, stripped, ending, bare | ⟨body, named, isRest⟩⟩ :=
          accepted_cases browsed
        · subst bare
          have isNone : splitEntryPath accepted = some none := by
            rw [isPath] at browsed ⊢
            exact splitEntryPath_root isRoot ending browsed
          have noComponents : componentsOf accepted = [] := by
            rw [componentsOf, stripped]
            exact piecesOf_append_optional ending []
          exact ⟨none, isNone, by simp [noComponents], by simp⟩
        · subst isRest
          obtain ⟨directory, name, isEntry, entry⟩ :=
            splitEntryPath_components isRoot isPath browsed stripped named ending
          refine ⟨some (directory, name), isEntry, ?_, ?_⟩
          · simp [entry.components]
          · intro _ _ same
            cases same
            exact entry

example : splitEntryPath "C:\\Größe\\".toList =
    some (some ("C:\\".toList, "Größe".toList)) := by decide

end Lumepeer.Core.RemotePath
