import Mathlib.Data.List.Basic

/-!
# Paths read without a file system

A path is a list of characters, cut at the separators of a dialect; on Windows a
drive may stand in front of it. `resolve` follows its pieces one by one: an empty
piece and `.` stay, `..` goes back, and any other piece is a name and goes one
directory down. Appending a name to a path leads one directory down from where
the path leads.
-/

namespace Lumepeer.Lib

/-- The two dialects of paths. -/
inductive Dialect where
  | unix
  | windows
  deriving DecidableEq

/-- Where a path leads: through `names`, from a root or from `ups` directories above the current
one, on a drive or not. -/
@[ext]
structure Location where
  drive : List Char
  rooted : Bool
  ups : Nat
  names : List (List Char)
  deriving DecidableEq

namespace Location

/-- One piece of a path. Above a root there is nothing. -/
def enter (place : Location) (piece : List Char) : Location :=
  if piece = [] ∨ piece = ['.'] then place
  else if piece = ['.', '.'] then
    if place.names ≠ [] then { place with names := place.names.dropLast }
    else if place.rooted then place
    else { place with ups := place.ups + 1 }
  else { place with names := place.names ++ [piece] }

/-- The second location is in a directory that lies under the first one. -/
def Below (base place : Location) : Prop :=
  place.drive = base.drive ∧ place.rooted = base.rooted ∧ place.ups = base.ups ∧
    ∃ names, names ≠ [] ∧ place.names = base.names ++ names

/-- The location some names further down. -/
def down (place : Location) (names : List (List Char)) : Location :=
  { place with names := place.names ++ names }

theorem down_down (place : Location) (names more : List (List Char)) :
    (place.down names).down more = place.down (names ++ more) := by
  simp only [down, List.append_assoc]

theorem below_down (place : Location) {names : List (List Char)} (further : names ≠ []) :
    Below place (place.down names) :=
  ⟨rfl, rfl, rfl, names, further, rfl⟩

@[simp] theorem enter_nil (place : Location) : place.enter [] = place := rfl

end Location

namespace Dialect

def isSep : Dialect → Char → Bool
  | unix, c => c = '/'
  | windows, c => c = '/' || c = '\\'

def mainSep : Dialect → Char
  | unix => '/'
  | windows => '\\'

/-- The drive at the front of a path: a letter and a colon. -/
def drive : Dialect → List Char → List Char
  | windows, letter :: ':' :: _ => if letter.isAlpha then [letter, ':'] else []
  | _, _ => []

/-- What follows the drive. -/
def afterDrive (dialect : Dialect) (path : List Char) : List Char :=
  path.drop (dialect.drive path).length

/-- One component of a path. -/
inductive Component where
  | drive (drive : List Char)
  | root
  | current
  | parent
  | normal (name : List Char)
  deriving DecidableEq

/-- The components of a path, as an iterator over them yields them: nothing for an empty piece,
nor for `.` anywhere but at the front of a path without a root. Shares and devices, which begin
with two separators on Windows, are outside of it. -/
def components (dialect : Dialect) (path : List Char) : List Component :=
  let drive := dialect.drive path
  let pieces := (dialect.afterDrive path).splitOnP dialect.isSep
  (if drive = [] then [] else [.drive drive]) ++
    (if (dialect.afterDrive path).head?.any dialect.isSep then [.root]
      else if pieces.head? = some ['.'] then [.current] else []) ++
    pieces.filterMap fun piece =>
      if piece = [] ∨ piece = ['.'] then none
      else if piece = ['.', '.'] then some .parent
      else some (.normal piece)

/-- Where the path leads. -/
def resolve (dialect : Dialect) (path : List Char) : Location :=
  ((dialect.afterDrive path).splitOnP dialect.isSep).foldl Location.enter
    { drive := dialect.drive path
      rooted := (dialect.afterDrive path).head?.any dialect.isSep
      ups := 0
      names := [] }

/-- Appends a piece to a path. One that names a drive takes its place, one that begins with a
separator takes the place of all but its drive; any other follows a separator, unless the path is
empty, ends with a separator or is no more than a drive. -/
def append (dialect : Dialect) (path piece : List Char) : List Char :=
  if dialect.drive piece ≠ [] then piece
  else if piece.head?.any dialect.isSep then dialect.drive path ++ piece
  else if path = dialect.drive path ∨ path.getLast?.any dialect.isSep then path ++ piece
  else path ++ dialect.mainSep :: piece

/-- A piece that is a name whatever stands before it. -/
structure IsName (dialect : Dialect) (piece : List Char) : Prop where
  ne_nil : piece ≠ []
  ne_dot : piece ≠ ['.']
  ne_dots : piece ≠ ['.', '.']
  plain : ∀ c ∈ piece, dialect.isSep c = false
  colonless : ':' ∉ piece

variable {dialect : Dialect} {path name : List Char}

theorem isSep_mainSep (dialect : Dialect) : dialect.isSep dialect.mainSep = true := by
  cases dialect <;> rfl

theorem mainSep_ne_colon (dialect : Dialect) : dialect.mainSep ≠ ':' := by
  cases dialect <;> decide

theorem drive_append_afterDrive (dialect : Dialect) (path : List Char) :
    dialect.drive path ++ dialect.afterDrive path = path := by
  unfold afterDrive drive
  split
  · split <;> rfl
  · rfl

/-- What holds no colon adds no drive. -/
theorem drive_append (dialect : Dialect) (path : List Char) {more : List Char} (colonless : ':' ∉ more) :
    dialect.drive (path ++ more) = dialect.drive path := by
  cases dialect with
  | unix => rfl
  | windows =>
      match path with
      | [] =>
          rw [List.nil_append]
          unfold drive
          split
          · simp at colonless
          · rfl
      | [letter] =>
          cases more with
          | nil => rfl
          | cons c more =>
              have other : c ≠ ':' := fun colon => colonless (by simp [colon])
              simp [drive, other]
      | letter :: c :: rest =>
          by_cases colon : c = ':'
          · subst colon
            rfl
          · simp [drive, colon]

theorem drive_of_colonless (colonless : ':' ∉ name) : dialect.drive name = [] := by
  have none := dialect.drive_append [] colonless
  rw [List.nil_append] at none
  rw [none]
  cases dialect <;> rfl

theorem afterDrive_append (dialect : Dialect) (path : List Char) {more : List Char}
    (colonless : ':' ∉ more) :
    dialect.afterDrive (path ++ more) = dialect.afterDrive path ++ more := by
  have whole := dialect.drive_append_afterDrive path
  rw [afterDrive, dialect.drive_append path colonless]
  nth_rewrite 2 [← whole]
  rw [List.append_assoc, List.drop_left]

theorem afterDrive_eq_nil_iff : dialect.afterDrive path = [] ↔ path = dialect.drive path := by
  have whole := dialect.drive_append_afterDrive path
  constructor
  · intro empty
    rw [empty, List.append_nil] at whole
    exact whole.symm
  · intro bare
    rw [afterDrive, ← bare, List.drop_length]

theorem head?_of_isName (isName : dialect.IsName name) :
    name.head?.any dialect.isSep = false := by
  cases name with
  | nil => rfl
  | cons c rest => exact isName.plain c List.mem_cons_self

theorem enter_of_isName (isName : dialect.IsName name) (place : Location) :
    place.enter name = place.down [name] := by
  have neither : ¬ (name = [] ∨ name = ['.']) := not_or.mpr ⟨isName.ne_nil, isName.ne_dot⟩
  rw [Location.enter, if_neg neither, if_neg isName.ne_dots]
  rfl

/-- A text without separators and colons is one component, or none. -/
theorem components_of_plain (plain : ∀ c ∈ name, dialect.isSep c = false)
    (colonless : ':' ∉ name) :
    dialect.components name =
      if name = [] then [] else if name = ['.'] then [.current]
      else if name = ['.', '.'] then [.parent] else [.normal name] := by
  have noDrive := dialect.drive_of_colonless colonless
  have alone : name.splitOnP dialect.isSep = [name] := List.splitOnP_eq_singleton plain
  have unrooted : name.head?.any dialect.isSep = false := by
    cases name with
    | nil => rfl
    | cons c rest => exact plain c List.mem_cons_self
  unfold components
  rw [afterDrive, noDrive, List.length_nil, List.drop_zero, alone, unrooted]
  by_cases empty : name = []
  · simp [empty]
  · by_cases dot : name = ['.']
    · simp [dot]
    · by_cases dots : name = ['.', '.']
      · simp [dots]
      · simp [empty, dot, dots]

theorem head?_append_cons (front : List Char) (sep : Char) (more : List Char) :
    (front ++ sep :: more).head? = (front ++ [sep]).head? := by
  cases front <;> rfl

/-- Appending a name to a path leads one directory down. -/
theorem resolve_append (isName : dialect.IsName name) (path : List Char) :
    dialect.resolve (dialect.append path name) = (dialect.resolve path).down [name] := by
  have alone : name.splitOnP dialect.isSep = [name] := List.splitOnP_eq_singleton isName.plain
  rw [append, if_neg (not_not_intro (drive_of_colonless isName.colonless)),
    if_neg (by rw [head?_of_isName isName]; exact Bool.false_ne_true)]
  by_cases bare : path = dialect.drive path
  · -- nothing but a drive: the name is the first piece
    have empty := afterDrive_eq_nil_iff.mpr bare
    rw [if_pos (.inl bare), resolve, resolve, dialect.afterDrive_append path isName.colonless,
      dialect.drive_append path isName.colonless, empty, List.nil_append, alone,
      head?_of_isName isName]
    exact enter_of_isName isName _
  have further : dialect.afterDrive path ≠ [] := fun empty => bare (afterDrive_eq_nil_iff.mp empty)
  by_cases closed : path.getLast?.any dialect.isSep = true
  · -- the separator at the end is followed by the name where an empty piece was
    obtain ⟨front, sep, split⟩ : ∃ front sep, dialect.afterDrive path = front ++ [sep] :=
      ⟨_, _, (List.dropLast_append_getLast further).symm⟩
    have cut : dialect.isSep sep = true := by
      rw [← dialect.drive_append_afterDrive path, split, ← List.append_assoc,
        List.getLast?_concat] at closed
      exact closed
    rw [if_pos (.inr closed), resolve, resolve, dialect.afterDrive_append path isName.colonless,
      dialect.drive_append path isName.colonless, split, List.append_assoc, List.singleton_append,
      List.splitOnP_append_cons _ _ cut, List.splitOnP_append_cons _ _ cut, alone,
      List.splitOnP_nil, List.foldl_append, List.foldl_append, head?_append_cons front]
    exact enter_of_isName isName _
  · -- a separator more, and then the name
    have colonless : ':' ∉ dialect.mainSep :: name := by
      rw [List.mem_cons, not_or]
      exact ⟨fun colon => dialect.mainSep_ne_colon colon.symm, isName.colonless⟩
    rw [if_neg (not_or.mpr ⟨bare, closed⟩), resolve, resolve,
      dialect.afterDrive_append path colonless, dialect.drive_append path colonless,
      List.splitOnP_append_cons _ _ dialect.isSep_mainSep, alone, List.foldl_append,
      List.head?_append_of_ne_nil _ further]
    exact enter_of_isName isName _

/-- Appending names one after the other leads down through them. -/
theorem resolve_foldl_append {names : List (List Char)}
    (isNames : ∀ name ∈ names, dialect.IsName name) (path : List Char) :
    dialect.resolve (names.foldl dialect.append path) = (dialect.resolve path).down names := by
  induction names generalizing path with
  | nil => simp [Location.down]
  | cons name names ih =>
      have first := isNames name List.mem_cons_self
      have rest := ih fun later member => isNames later (List.mem_cons_of_mem _ member)
      rw [List.foldl_cons, rest, resolve_append first, Location.down_down, List.singleton_append]

end Dialect

end Lumepeer.Lib
