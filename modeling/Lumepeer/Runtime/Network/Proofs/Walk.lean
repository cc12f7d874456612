import Lumepeer.Core.RemotePath.Proofs.Component
import Lumepeer.Runtime.Network.Fetches
import Lumepeer.Runtime.Network.Walk

/-!
# A manifest describes the tree

A walk that succeeds lists the same entries as a descent that takes up a directory where it stands,
in another order. What the descent lists is read off the tree: its safe files, and each of its safe
directories that holds none of what is listed. Laying the entries out makes the safe part of the tree
again, as long as no name of it has a backslash, which the receiver takes for a separator.
-/

namespace Lumepeer.Runtime
open Lumepeer.Lib Lumepeer.Core Lumepeer.Core.RemotePath Lumepeer.Net

/-! ## Paths -/

/-- The text of a path. -/
def joinPath (path : List (List Char)) : List Char := ['/'].intercalate path

/-- Safe components that make up a text which the receiver admits. -/
structure Admissible (path : List (List Char)) : Prop where
  safe : ∀ component ∈ path, isSafeComponent component = true
  admitted : (safeRelativePath (joinPath path)).isSome

theorem joinPath_append {path : List (List Char)} (nonempty : path ≠ []) {more : List (List Char)}
    (further : more ≠ []) : joinPath (path ++ more) = joinPath path ++ '/' :: joinPath more := by
  unfold joinPath
  induction path with
  | nil => exact absurd rfl nonempty
  | cons first path ih =>
      cases path with
      | nil =>
          rw [List.singleton_append, List.intercalate_cons_of_ne_nil further,
            List.intercalate_singleton, List.append_assoc]
          rfl
      | cons second path =>
          have rest := ih (List.cons_ne_nil _ _)
          rw [List.cons_append] at rest ⊢
          rw [List.cons_append, List.intercalate_cons_cons, rest, List.intercalate_cons_cons,
            List.append_assoc, List.append_assoc, List.append_assoc]

theorem Admissible.ne_nil {path : List (List Char)} (admissible : Admissible path) : path ≠ [] := by
  rintro rfl
  exact absurd admissible.admitted (by decide)

theorem Admissible.front {path more : List (List Char)} (admissible : Admissible (path ++ more))
    (nonempty : path ≠ []) : Admissible path where
  safe component member := admissible.safe component (List.mem_append_left _ member)
  admitted := by
    by_cases further : more = []
    · subst further
      simpa using admissible.admitted
    · obtain ⟨accepted, safe⟩ := Option.isSome_iff_exists.mp admissible.admitted
      obtain ⟨-, short, named⟩ := safeRelativePath_eq_some_iff.mp safe
      rw [joinPath_append nonempty further] at short named
      apply Option.isSome_iff_exists.mpr
      refine ⟨joinPath path, safeRelativePath_eq_some_iff.mpr ⟨rfl, ?_, ?_⟩⟩
      · have less : utf8Len (joinPath path) ≤
            utf8Len (joinPath path ++ '/' :: joinPath more) := by
          simp [utf8Len]
        omega
      · have pieces := (joined_iff_forall_splitOnP _).mp named
        apply (joined_iff_forall_splitOnP _).mpr
        intro piece member
        apply pieces
        rw [List.splitOnP_append_cons (joinPath path) (joinPath more) rfl]
        exact List.mem_append_left _ member

/-- The safe prefix of a path is where a walk keeps an entry. -/
theorem admissible_concat {path : List (List Char)} (above : path = [] ∨ Admissible path)
    (name : List Char) : Admissible (path ++ [name]) ↔
      isSafeComponent name = true ∧ (safeRelativePath (joinPath (path ++ [name]))).isSome := by
  constructor
  · intro admissible
    exact ⟨admissible.safe name (by simp), admissible.admitted⟩
  · rintro ⟨safe, admitted⟩
    refine ⟨?_, admitted⟩
    intro component member
    rcases List.mem_append.mp member with before | last
    · rcases above with rfl | above
      · cases before
      · exact above.safe component before
    · rwa [List.mem_singleton.mp last]

theorem isEmpty_joinPath {path : List (List Char)} (above : path = [] ∨ Admissible path) :
    (joinPath path).isEmpty = decide (path = []) := by
  rcases above with rfl | above
  · rfl
  · rw [decide_eq_false above.ne_nil]
    cases empty : joinPath path with
    | nil =>
        have admitted := above.admitted
        rw [empty] at admitted
        cases admitted
    | cons c cs => rfl

theorem relative_joinPath {path : List (List Char)} (above : path = [] ∨ Admissible path)
    (name : List Char) : WalkedTree.relative (joinPath path) name = joinPath (path ++ [name]) := by
  have alone : joinPath [name] = name := List.intercalate_singleton
  unfold WalkedTree.relative
  rcases above with rfl | above
  · rw [List.nil_append, alone]
    rfl
  · have text := isEmpty_joinPath (.inr above)
    rw [decide_eq_false above.ne_nil] at text
    rw [text, joinPath_append above.ne_nil (List.cons_ne_nil _ _), alone]
    rfl

/-- Names without slashes can be read off the text. -/
theorem joinPath_injective {path other : List (List Char)} (nonempty : path ≠ [])
    (nonempty' : other ≠ []) (plain : ∀ name ∈ path, '/' ∉ name)
    (plain' : ∀ name ∈ other, '/' ∉ name) (same : joinPath path = joinPath other) :
    path = other := by
  have first : (joinPath path).splitOn '/' = path := List.splitOn_intercalate '/' plain nonempty
  have second : (joinPath other).splitOn '/' = other :=
    List.splitOn_intercalate '/' plain' nonempty'
  rw [← first, same, second]

/-! ## The descent -/

/-- The manifest entry of what lies at a path. -/
def entryOf (item : List (List Char) × Kind) : ManifestEntry :=
  match item with
  | (path, .file size) => ⟨String.ofList (joinPath path), size, false⟩
  | (path, _) => ⟨String.ofList (joinPath path), 0, true⟩

@[simp] theorem path_entryOf (item : List (List Char) × Kind) :
    (entryOf item).path = String.ofList (joinPath item.1) := by
  obtain ⟨path, kind⟩ := item
  cases kind <;> rfl

namespace Listing

/-- What the walk asks of a name in a directory. -/
def keeps (dir : List (List Char)) (name : List Char) : Bool :=
  isSafeComponent name && (safeRelativePath (joinPath (dir ++ [name]))).isSome

theorem keeps_iff {dir : List (List Char)} (above : dir = [] ∨ Admissible dir) (name : List Char) :
    keeps dir name = true ↔ Admissible (dir ++ [name]) := by
  rw [admissible_concat above, keeps, Bool.and_eq_true]

/-- Something in the directory is listed, or walked into. -/
def hasKept (dir : List (List Char)) : Listing → Bool
  | nil => false
  | cons none _ _ rest => rest.hasKept dir
  | cons (some name) kind _ rest => kind != .link && keeps dir name || rest.hasKept dir

/-- The listed files and empty directories, by descent. -/
def items (dir : List (List Char)) : Listing → List (List (List Char) × Kind)
  | nil => []
  | cons none _ _ rest => rest.items dir
  | cons (some name) kind inside rest =>
      if keeps dir name then
        match kind with
        | .link => rest.items dir
        | .file size => (dir ++ [name], .file size) :: rest.items dir
        | .dir =>
            (if inside.hasKept (dir ++ [name]) then inside.items (dir ++ [name])
              else [(dir ++ [name], .dir)]) ++ rest.items dir
      else rest.items dir

/-- The files of one directory. -/
def files (dir : List (List Char)) : Listing → List (List (List Char) × Kind)
  | nil => []
  | cons none _ _ rest => rest.files dir
  | cons (some name) kind _ rest =>
      match kind with
      | .file size =>
          if keeps dir name then (dir ++ [name], .file size) :: rest.files dir else rest.files dir
      | _ => rest.files dir

/-- The directories of one directory. -/
def subdirs (dir : List (List Char)) : Listing → List (Listing × List (List Char))
  | nil => []
  | cons none _ _ rest => rest.subdirs dir
  | cons (some name) kind inside rest =>
      match kind with
      | .dir =>
          if keeps dir name then (inside, dir ++ [name]) :: rest.subdirs dir else rest.subdirs dir
      | _ => rest.subdirs dir

/-- What the walk makes of a directory in its queue. -/
def itemsOf (dir : Listing × List (List Char)) : List (List (List Char) × Kind) :=
  if dir.1.hasKept dir.2 then dir.1.items dir.2
  else if dir.2 = [] then [] else [(dir.2, .dir)]

theorem items_of_not_hasKept {dir : List (List Char)} {listing : Listing}
    (nothing : listing.hasKept dir = false) : listing.items dir = [] := by
  induction listing with
  | nil => rfl
  | cons name kind inside rest _ ih =>
      cases name with
      | none => exact ih nothing
      | some name =>
          simp only [hasKept, Bool.or_eq_false_iff, Bool.and_eq_false_iff, bne_eq_false_iff_eq] at nothing
          unfold items
          rw [ih nothing.2]
          rcases nothing.1 with rfl | refused
          · split <;> rfl
          · rw [refused]
            rfl

/-- The descent finds the files of a directory, and what its directories make. -/
theorem perm_items (dir : List (List Char)) (listing : Listing) :
    (listing.items dir).Perm (listing.files dir ++ (listing.subdirs dir).flatMap itemsOf) := by
  induction listing with
  | nil => exact .nil
  | cons name kind inside rest _ ih =>
      cases name with
      | none => exact ih
      | some name =>
          unfold items files subdirs
          cases kept : keeps dir name with
          | false => cases kind <;> exact ih
          | true =>
              cases kind with
              | link => exact ih
              | file size => exact ih.cons _
              | dir =>
                  have own : itemsOf (inside, dir ++ [name]) =
                      if inside.hasKept (dir ++ [name]) then inside.items (dir ++ [name])
                        else [(dir ++ [name], .dir)] := by
                    simp [itemsOf]
                  simp only [if_true, List.flatMap_cons]
                  rw [own]
                  refine (ih.append_left _).trans ?_
                  rw [← List.append_assoc, ← List.append_assoc]
                  exact List.perm_append_comm.append_right _

end Listing

/-! ## The walk lists what the descent lists -/

namespace WalkedTree

/-- A directory of the queue, and the text of its path. -/
def queued (dir : Listing × List (List Char)) : Listing × List Char := (dir.1, joinPath dir.2)

/-- What reading one directory does. -/
theorem readDir_spec {dir : List (List Char)} (above : dir = [] ∨ Admissible dir)
    {listing : Listing} {out out' : WalkedTree} {queue queue' : List (Listing × List Char)}
    {empty empty' : Bool}
    (read : readDir (joinPath dir) listing out queue empty = .ok (out', queue', empty')) :
    out'.entries = out.entries ++ (listing.files dir).map entryOf ∧
      queue' = queue ++ (listing.subdirs dir).map queued ∧
      empty' = (empty && !listing.hasKept dir) ∧
      (out.entries.length ≤ maxDirManifestEntries →
        out'.entries.length ≤ maxDirManifestEntries) := by
  induction listing generalizing out queue empty with
  | nil =>
      cases read
      simp [Listing.files, Listing.subdirs, Listing.hasKept]
  | cons name kind inside rest _ ih =>
      cases name with
      | none => exact ih read
      | some name =>
          have unkept (refused : Listing.keeps dir name = false) :
              (Listing.cons (some name) kind inside rest).files dir = rest.files dir ∧
                (Listing.cons (some name) kind inside rest).subdirs dir = rest.subdirs dir ∧
                (Listing.cons (some name) kind inside rest).hasKept dir = rest.hasKept dir := by
            cases kind <;> simp [Listing.files, Listing.subdirs, Listing.hasKept, refused]
          unfold readDir at read
          rw [relative_joinPath above] at read
          split at read
          · rename_i unsafeName
            obtain ⟨sameFiles, sameDirs, sameKept⟩ :=
              unkept (by simp [Listing.keeps, Bool.not_eq_true' _ ▸ unsafeName])
            rw [sameFiles, sameDirs, sameKept]
            exact ih read
          · rename_i safe
            split at read
            · rename_i refused
              obtain ⟨sameFiles, sameDirs, sameKept⟩ :=
                unkept (by simp [Listing.keeps, Option.isNone_iff_eq_none.mp refused])
              rw [sameFiles, sameDirs, sameKept]
              exact ih read
            · rename_i admitted
              have kept : Listing.keeps dir name = true := by
                simp only [Bool.not_eq_true', Bool.not_eq_false] at safe
                simp only [Option.isNone_iff_eq_none] at admitted
                simp [Listing.keeps, safe, Option.isSome_iff_ne_none, admitted]
              cases kind with
              | link =>
                  have same := ih read
                  simpa [Listing.files, Listing.subdirs, Listing.hasKept] using same
              | dir =>
                  dsimp only at read
                  split at read
                  · cases read
                  · obtain ⟨isOut, isQueue, isEmpty, few⟩ := ih read
                    refine ⟨?_, ?_, ?_, few⟩
                    · exact isOut
                    · rw [isQueue]
                      simp [Listing.subdirs, kept, queued]
                    · rw [isEmpty]
                      simp [Listing.hasKept, kept]
              | file size =>
                  dsimp only at read
                  split at read
                  · cases read
                  · rename_i fewer
                    obtain ⟨isOut, isQueue, isEmpty, few⟩ := ih read
                    refine ⟨?_, ?_, ?_, ?_⟩
                    · rw [isOut]
                      simp [Listing.files, kept, entryOf]
                    · exact isQueue
                    · rw [isEmpty]
                      simp [Listing.hasKept, kept]
                    · intro _
                      apply few
                      rw [List.length_append, List.length_singleton]
                      omega

theorem admissible_subdirs {dir : List (List Char)} (above : dir = [] ∨ Admissible dir)
    {listing : Listing} : ∀ sub ∈ listing.subdirs dir, Admissible sub.2 := by
  induction listing with
  | nil =>
      intro sub member
      cases member
  | cons name kind inside rest _ ih =>
      cases name with
      | none => exact ih
      | some name =>
          unfold Listing.subdirs
          cases kind with
          | link => exact ih
          | file size => exact ih
          | dir =>
              dsimp only
              split
              · rename_i kept
                intro sub member
                rcases List.mem_cons.mp member with rfl | later
                · exact (Listing.keeps_iff above name).mp kept
                · exact ih sub later
              · exact ih

/-- What a walk adds to what it had, up to the order. -/
theorem walkQueue_spec (queue : List (Listing × List (List Char)))
    (above : ∀ dir ∈ queue, dir.2 = [] ∨ Admissible dir.2) {out out' : WalkedTree}
    (walked : walkQueue (queue.map queued) out = .ok out') :
    out'.entries.Perm (out.entries ++ (queue.flatMap Listing.itemsOf).map entryOf) ∧
      (out.entries.length ≤ maxDirManifestEntries →
        out'.entries.length ≤ maxDirManifestEntries) := by
  induction size : weight (queue.map queued) using Nat.strong_induction_on
    generalizing queue out with
  | _ n ih =>
      cases queue with
      | nil =>
          rw [List.map_nil, walkQueue] at walked
          cases walked
          simp
      | cons dir queue =>
          obtain ⟨listing, dir⟩ := dir
          have aboveDir := above (listing, dir) List.mem_cons_self
          rw [List.map_cons, queued, walkQueue] at walked
          split at walked
          · cases walked
          · rename_i out₁ queue₁ empty₁ read
            obtain ⟨isOut, isQueue, isEmpty, few⟩ := readDir_spec aboveDir read
            rw [← List.map_append] at isQueue
            have smaller := weight_readDir read
            have aboveNext : ∀ next ∈ queue ++ listing.subdirs dir,
                next.2 = [] ∨ Admissible next.2 := by
              intro next member
              rcases List.mem_append.mp member with before | new
              · exact above next (List.mem_cons_of_mem _ before)
              · exact .inr (admissible_subdirs aboveDir next new)
            have less : weight ((queue ++ listing.subdirs dir).map queued) < n := by
              rw [← size, ← isQueue, List.map_cons, queued, weight_cons]
              omega
            have next {out₂ : WalkedTree} (walked : walkQueue queue₁ out₂ = .ok out') :=
              ih _ less _ aboveNext (isQueue ▸ walked) rfl
            have parted := Listing.perm_items dir listing
            split at walked
            · rename_i bare
              rw [isEmpty, Bool.true_and, Bool.and_eq_true, Bool.not_eq_true',
                isEmpty_joinPath aboveDir, Bool.not_eq_true', decide_eq_false_iff_not] at bare
              obtain ⟨nothing, further⟩ := bare
              rw [Listing.items_of_not_hasKept nothing] at parted
              obtain ⟨noFiles, noDirs⟩ := List.append_eq_nil_iff.mp parted.nil_eq.symm
              have own : Listing.itemsOf (listing, dir) = [(dir, .dir)] := by
                simp [Listing.itemsOf, nothing, further]
              split at walked
              · cases walked
              · rename_i fewer
                obtain ⟨isPerm, few'⟩ := next walked
                constructor
                · rw [isOut, noFiles, List.flatMap_append, noDirs] at isPerm
                  rw [List.flatMap_cons, own]
                  simpa [entryOf] using isPerm
                · intro _
                  apply few'
                  rw [List.length_append, List.length_singleton]
                  omega
            · rename_i notBare
              obtain ⟨isPerm, few'⟩ := next walked
              have own : Listing.itemsOf (listing, dir) = listing.items dir := by
                rw [isEmpty, Bool.true_and, Bool.and_eq_true, Bool.not_eq_true',
                  isEmpty_joinPath aboveDir, Bool.not_eq_true', decide_eq_false_iff_not] at notBare
                unfold Listing.itemsOf
                split
                · rfl
                · rename_i nothing
                  have nothing : listing.hasKept dir = false := by simpa using nothing
                  have isRoot : dir = [] := by
                    by_contra further
                    exact notBare ⟨nothing, further⟩
                  rw [if_pos isRoot, Listing.items_of_not_hasKept nothing]
              constructor
              · rw [List.flatMap_cons, own]
                refine isPerm.trans ?_
                rw [isOut, List.append_assoc, ← List.map_append]
                apply List.Perm.append_left
                apply List.Perm.map
                rw [List.flatMap_append]
                refine List.Perm.trans ?_ (parted.symm.append_right _)
                rw [List.append_assoc]
                exact List.perm_append_comm.append_left _
              · exact fun fewer => few' (few fewer)

end WalkedTree

/-- A walk that succeeds lists what the descent lists. -/
theorem walk_perm {root : Tree} {out : WalkedTree}
    (walked : WalkedTree.walkDirectoryBlocking root = .ok out) :
    out.entries.Perm ((root.1.items []).map entryOf) ∧
      out.entries.length ≤ maxDirManifestEntries := by
  have walked : WalkedTree.walkQueue ([(root.1, [])].map WalkedTree.queued) {} = .ok out := walked
  have above : ∀ dir ∈ [(root.1, ([] : List (List Char)))], dir.2 = [] ∨ Admissible dir.2 := by
    intro dir member
    rw [List.mem_singleton.mp member]
    exact .inl rfl
  obtain ⟨isPerm, few⟩ := WalkedTree.walkQueue_spec _ above walked
  have own : Listing.itemsOf (root.1, []) = root.1.items [] := by
    unfold Listing.itemsOf
    split
    · rfl
    · rename_i nothing
      rw [if_pos rfl, Listing.items_of_not_hasKept (by simpa using nothing)]
  rw [List.flatMap_singleton, own] at isPerm
  exact ⟨isPerm, few (Nat.zero_le _)⟩

/-! ## What the descent lists -/

namespace Listing

theorem Holds.exists_cons {listing : Listing} {path : List (List Char)} {kind : Kind}
    (held : listing.Holds path kind) : ∃ name more, path = name :: more ∧ name ∈ listing.names := by
  induction listing with
  | nil => exact held.elim
  | cons name own inside rest _ ih =>
      rcases held with ⟨first, more, isName, isPath, -⟩ | later
      · exact ⟨first, more, isPath, by simp [names, isName]⟩
      · obtain ⟨first, more, isPath, member⟩ := ih later
        exact ⟨first, more, isPath, List.mem_append_right _ member⟩

/-- Everything on the way to an entry is a directory. -/
theorem Holds.front {listing : Listing} {path more : List (List Char)} {kind : Kind}
    (held : listing.Holds (path ++ more) kind) (nonempty : path ≠ []) (further : more ≠ []) :
    listing.Holds path .dir := by
  induction listing generalizing path with
  | nil => exact held.elim
  | cons name own inside rest inner ih =>
      rcases held with ⟨first, after, isName, isPath, found⟩ | later
      · obtain ⟨first', path, rfl⟩ := List.exists_cons_of_ne_nil nonempty
        obtain ⟨rfl, rfl⟩ := List.cons.inj isPath
        rcases found with ⟨empty, -⟩ | ⟨isDir, found⟩
        · exact absurd (List.append_eq_nil_iff.mp empty).2 further
        · by_cases last : path = []
          · exact .inl ⟨first', path, isName, rfl, .inl ⟨last, isDir.symm⟩⟩
          · exact .inl ⟨first', path, isName, rfl, .inr ⟨isDir, inner found last⟩⟩
      · exact .inr (ih later nonempty)

/-- A path leads to one thing. -/
theorem Holds.unique {listing : Listing} (wellFormed : listing.WellFormed)
    {path : List (List Char)} {kind kind' : Kind} (held : listing.Holds path kind)
    (held' : listing.Holds path kind') : kind = kind' := by
  induction listing generalizing path with
  | nil => exact held.elim
  | cons name own inside rest inner ih =>
      obtain ⟨alone, wellInside, wellRest⟩ := wellFormed
      have apart {first : List Char} {more : List (List Char)} {any : Kind}
          (isName : name = some first) (later : rest.Holds (first :: more) any) : False := by
        obtain ⟨first', more', isPath, member⟩ := later.exists_cons
        obtain ⟨rfl, rfl⟩ := List.cons.inj isPath
        exact (alone first isName).1 member
      rcases held with ⟨first, more, isName, rfl, found⟩ | later
      · rcases held' with ⟨first', more', isName', isPath, found'⟩ | later'
        · obtain ⟨rfl, rfl⟩ := List.cons.inj isPath
          rcases found with ⟨last, isOwn⟩ | ⟨-, found⟩
          · rcases found' with ⟨-, isOwn'⟩ | ⟨-, found'⟩
            · rw [isOwn, isOwn']
            · obtain ⟨_, _, isPath, -⟩ := found'.exists_cons
              rw [last] at isPath
              cases isPath
          · rcases found' with ⟨last, -⟩ | ⟨-, found'⟩
            · obtain ⟨_, _, isPath, -⟩ := found.exists_cons
              rw [last] at isPath
              cases isPath
            · exact inner wellInside found found'
        · exact (apart isName later').elim
      · rcases held' with ⟨first, more, isName, rfl, -⟩ | later'
        · exact (apart isName later).elim
        · exact ih wellRest later later'

theorem Holds.plain {listing : Listing} (wellFormed : listing.WellFormed)
    {path : List (List Char)} {kind : Kind} (held : listing.Holds path kind) :
    ∀ name ∈ path, '/' ∉ name := by
  induction listing generalizing path with
  | nil => exact held.elim
  | cons name own inside rest inner ih =>
      obtain ⟨alone, wellInside, wellRest⟩ := wellFormed
      rcases held with ⟨first, more, isName, rfl, found⟩ | later
      · intro any member
        rcases List.mem_cons.mp member with rfl | inMore
        · exact (alone any isName).2
        · rcases found with ⟨rfl, -⟩ | ⟨-, found⟩
          · cases inMore
          · exact inner wellInside found any inMore
      · exact ih wellRest later

/-- What is listed is there, and admissible. -/
theorem sound_of_mem_items {dir : List (List Char)} (above : dir = [] ∨ Admissible dir)
    {listing : Listing} : ∀ item ∈ listing.items dir, ∃ path, item.1 = dir ++ path ∧
      listing.Holds path item.2 ∧ Admissible item.1 ∧ item.2 ≠ .link := by
  induction listing generalizing dir with
  | nil =>
      intro item member
      cases member
  | cons name kind inside rest inner ih =>
      cases name with
      | none =>
          intro item member
          obtain ⟨path, isPath, held, good⟩ := ih above item member
          exact ⟨path, isPath, .inr held, good⟩
      | some name =>
          have later : ∀ item ∈ rest.items dir, ∃ path, item.1 = dir ++ path ∧
              (cons (some name) kind inside rest).Holds path item.2 ∧ Admissible item.1 ∧
                item.2 ≠ .link := by
            intro item member
            obtain ⟨path, isPath, held, good⟩ := ih above item member
            exact ⟨path, isPath, .inr held, good⟩
          unfold items
          cases kept : keeps dir name with
          | false => exact later
          | true =>
              have admissible := (keeps_iff above name).mp kept
              rw [if_pos rfl]
              cases kind with
              | link => exact later
              | file size =>
                  intro item member
                  rcases List.mem_cons.mp member with rfl | inRest
                  · exact ⟨[name], rfl, .inl ⟨name, [], rfl, rfl, .inl ⟨rfl, rfl⟩⟩, admissible,
                      Kind.noConfusion⟩
                  · exact later item inRest
              | dir =>
                  intro item member
                  rcases List.mem_append.mp member with own | inRest
                  · split at own
                    · obtain ⟨path, isPath, held, good⟩ := inner (.inr admissible) item own
                      refine ⟨name :: path, ?_, ?_, good⟩
                      · rw [isPath, List.append_assoc, List.singleton_append]
                      · exact .inl ⟨name, path, rfl, rfl, .inr ⟨rfl, held⟩⟩
                    · obtain rfl := List.mem_singleton.mp own
                      exact ⟨[name], rfl, .inl ⟨name, [], rfl, rfl, .inl ⟨rfl, rfl⟩⟩, admissible,
                        Kind.noConfusion⟩
                  · exact later item inRest

/-- Where anything is kept, something is listed. -/
theorem items_ne_nil {dir : List (List Char)} {listing : Listing}
    (kept : listing.hasKept dir = true) : listing.items dir ≠ [] := by
  induction listing generalizing dir with
  | nil => cases kept
  | cons name kind inside rest inner ih =>
      cases name with
      | none => exact ih kept
      | some name =>
          unfold items
          cases keep : keeps dir name with
          | false =>
              simp only [hasKept, keep, Bool.and_false, Bool.false_or] at kept
              exact ih kept
          | true =>
              rw [if_pos rfl]
              cases kind with
              | link =>
                  simp only [hasKept, bne_self_eq_false, Bool.false_and, Bool.false_or] at kept
                  exact ih kept
              | file size => exact List.cons_ne_nil _ _
              | dir =>
                  apply List.append_ne_nil_of_left_ne_nil
                  split
                  · rename_i insideKept
                    exact inner insideKept
                  · exact List.cons_ne_nil _ _

/-- The part of what is listed that stands in one directory. -/
theorem mem_items_cons {dir : List (List Char)} {name : List Char} {inside rest : Listing}
    (kept : keeps dir name = true) {item : List (List Char) × Kind}
    (member : item ∈ inside.items (dir ++ [name])) :
    item ∈ (cons (some name) .dir inside rest).items dir := by
  have anything : inside.hasKept (dir ++ [name]) = true := by
    cases nothing : inside.hasKept (dir ++ [name]) with
    | true => rfl
    | false =>
        rw [items_of_not_hasKept nothing] at member
        cases member
  unfold items
  rw [if_pos kept]
  dsimp only
  rw [if_pos anything]
  exact List.mem_append_left _ member

theorem mem_items_of_rest {dir : List (List Char)} {name : Option (List Char)} {kind : Kind}
    {inside rest : Listing} {item : List (List Char) × Kind} (member : item ∈ rest.items dir) :
    item ∈ (cons name kind inside rest).items dir := by
  cases name with
  | none => exact member
  | some name =>
      unfold items
      split
      · cases kind with
        | link => exact member
        | file size => exact List.mem_cons_of_mem _ member
        | dir => exact List.mem_append_right _ member
      · exact member

/-- Every admissible file is listed, and every admissible directory is, or something in it. -/
theorem complete_items {dir : List (List Char)} (above : dir = [] ∨ Admissible dir)
    {listing : Listing} {path : List (List Char)} {kind : Kind} (held : listing.Holds path kind)
    (admissible : Admissible (dir ++ path)) :
    (∀ size, kind = .file size → (dir ++ path, kind) ∈ listing.items dir) ∧
      (kind = .dir → (dir ++ path, kind) ∈ listing.items dir ∨
        ∃ more, more ≠ [] ∧ ∃ own, (dir ++ path ++ more, own) ∈ listing.items dir) := by
  induction listing generalizing dir path with
  | nil => exact held.elim
  | cons name own inside rest inner ih =>
      rcases held with ⟨first, after, rfl, rfl, found⟩ | later
      · have regroup : dir ++ first :: after = dir ++ [first] ++ after := by simp
        have admissibleFirst : Admissible (dir ++ [first]) :=
          Admissible.front (regroup ▸ admissible) (by simp)
        have kept := (keeps_iff above first).mpr admissibleFirst
        rcases found with ⟨rfl, rfl⟩ | ⟨rfl, found⟩
        · constructor
          · rintro size rfl
            unfold items
            rw [if_pos kept]
            exact List.mem_cons_self
          · rintro rfl
            cases anything : inside.hasKept (dir ++ [first]) with
            | false =>
                left
                unfold items
                rw [if_pos kept]
                dsimp only
                rw [anything]
                exact List.mem_append_left _ List.mem_cons_self
            | true =>
                right
                obtain ⟨item, member⟩ := List.exists_mem_of_ne_nil _ (items_ne_nil anything)
                obtain ⟨more, isPath, held, -, -⟩ :=
                  sound_of_mem_items (.inr admissibleFirst) item member
                obtain ⟨next, after, rfl, -⟩ := held.exists_cons
                refine ⟨next :: after, List.cons_ne_nil _ _, item.2, ?_⟩
                rw [← isPath]
                exact mem_items_cons kept member
        · rw [regroup] at admissible ⊢
          obtain ⟨isFile, isDir⟩ := inner (.inr admissibleFirst) found admissible
          constructor
          · intro size isSize
            exact mem_items_cons kept (isFile size isSize)
          · intro dirKind
            rcases isDir dirKind with listed | ⟨more, further, own, below⟩
            · exact .inl (mem_items_cons kept listed)
            · exact .inr ⟨more, further, own, mem_items_cons kept below⟩
      · obtain ⟨isFile, isDir⟩ := ih above later admissible
        constructor
        · intro size isSize
          exact mem_items_of_rest (isFile size isSize)
        · intro dirKind
          rcases isDir dirKind with listed | ⟨more, further, own, below⟩
          · exact .inl (mem_items_of_rest listed)
          · exact .inr ⟨more, further, own, mem_items_of_rest below⟩

/-- No path is listed twice. -/
theorem nodup_items {dir : List (List Char)} (above : dir = [] ∨ Admissible dir)
    {listing : Listing} (wellFormed : listing.WellFormed) :
    ((listing.items dir).map Prod.fst).Nodup := by
  induction listing generalizing dir with
  | nil => exact List.nodup_nil
  | cons name kind inside rest inner ih =>
      obtain ⟨alone, wellInside, wellRest⟩ := wellFormed
      have distinct := ih above wellRest
      cases name with
      | none => exact distinct
      | some name =>
          have apart : ∀ item ∈ rest.items dir, ∀ more, item.1 ≠ dir ++ name :: more := by
            intro item member more same
            obtain ⟨path, isPath, held, -, -⟩ := sound_of_mem_items above item member
            obtain ⟨first, after, rfl, isName⟩ := held.exists_cons
            obtain ⟨rfl, -⟩ := List.cons.inj (List.append_cancel_left (same.symm.trans isPath))
            exact (alone name rfl).1 isName
          unfold items
          split
          · rename_i kept
            have admissible := (keeps_iff above name).mp kept
            cases kind with
            | link => exact distinct
            | file size =>
                rw [List.map_cons, List.nodup_cons]
                refine ⟨?_, distinct⟩
                rw [List.mem_map]
                rintro ⟨item, member, same⟩
                exact apart item member [] same
            | dir =>
                rw [List.map_append, List.nodup_append']
                refine ⟨?_, distinct, ?_⟩
                · split
                  · exact inner (.inr admissible) wellInside
                  · exact List.nodup_singleton _
                · intro path own later
                  obtain ⟨item, member, rfl⟩ := List.mem_map.mp later
                  split at own
                  · obtain ⟨other, member', same⟩ := List.mem_map.mp own
                    obtain ⟨more, isPath, -⟩ :=
                      sound_of_mem_items (.inr admissible) other member'
                    apply apart item member more
                    rw [← same, isPath, List.append_assoc, List.singleton_append]
                  · exact apart item member [] (List.mem_singleton.mp own)
          · exact distinct

end Listing

/-! ## What is laid out -/

/-- There are only directories on the disk. -/
def FileFree (disk : Disk) : Prop := ∀ path, disk.lookup path ≠ some .file

theorem createDirs_spec {disk : Disk} (free : FileFree disk) (dirs : List DiskPath) :
    (Disk.createDirs (fun _ => true) dirs disk).1 = true ∧
      FileFree (Disk.createDirs (fun _ => true) dirs disk).2 ∧
      ∀ path, (Disk.createDirs (fun _ => true) dirs disk).2.lookup path = some .dir ↔
        disk.lookup path = some .dir ∨ path ∈ dirs := by
  induction dirs generalizing disk with
  | nil => exact ⟨rfl, free, fun path => by simp [Disk.createDirs]⟩
  | cons dir dirs ih =>
      unfold Disk.createDirs
      cases found : disk.lookup dir with
      | some entry =>
          cases entry with
          | file => exact absurd found (free dir)
          | dir =>
              obtain ⟨made, stillFree, isDir⟩ := ih free
              refine ⟨made, stillFree, fun path => (isDir path).trans ?_⟩
              rw [List.mem_cons]
              constructor
              · rintro (old | new)
                · exact .inl old
                · exact .inr (.inr new)
              · rintro (old | rfl | new)
                · exact .inl old
                · exact .inl found
                · exact .inr new
      | none =>
          have freeNext : FileFree (disk.insert dir .dir) := by
            intro path
            rw [HashMap.lookup_insert_eq]
            split
            · simp
            · exact free path
          obtain ⟨made, stillFree, isDir⟩ := ih freeNext
          refine ⟨made, stillFree, fun path => (isDir path).trans ?_⟩
          rw [List.mem_cons, HashMap.lookup_insert_eq]
          by_cases same : path = dir <;> simp [same]

theorem createDirAll_spec {disk : Disk} (free : FileFree disk) (dir : DiskPath) :
    (disk.createDirAll (fun _ => true) dir).1 = true ∧
      FileFree (disk.createDirAll (fun _ => true) dir).2 ∧
      ∀ path, (disk.createDirAll (fun _ => true) dir).2.lookup path = some .dir ↔
        disk.lookup path = some .dir ∨ path <+: dir := by
  have made := createDirs_spec free dir.inits
  simp only [List.mem_inits] at made
  exact made

/-- The directory that laying out an entry makes, with those above it. -/
def laidDir (root : DiskPath) (entry : ManifestEntry) : Option DiskPath :=
  (manifestDestination root entry.path).map fun path =>
    if entry.isDir then path else path.dropLast

/-- The file that is to come for an entry. -/
def laidFile (root : DiskPath) (entry : ManifestEntry) : Option (DiskPath × UInt64) :=
  if entry.isDir then none
  else (manifestDestination root entry.path).map fun path => (path, entry.size)

theorem layOut_spec (root : DiskPath) (entries : List ManifestEntry) {disk : Disk}
    (free : FileFree disk) :
    (layOut (fun _ => true) root entries disk).1 = entries.filterMap (laidFile root) ∧
      FileFree (layOut (fun _ => true) root entries disk).2 ∧
      ∀ path, (layOut (fun _ => true) root entries disk).2.lookup path = some .dir ↔
        disk.lookup path = some .dir ∨ ∃ entry ∈ entries, ∃ dir, laidDir root entry = some dir ∧
          path <+: dir := by
  induction entries generalizing disk with
  | nil => exact ⟨rfl, free, fun path => by simp [layOut]⟩
  | cons entry entries ih =>
      unfold layOut
      have split (path : DiskPath) : (∃ entry' ∈ entry :: entries, ∃ dir,
          laidDir root entry' = some dir ∧ path <+: dir) ↔
            (∃ dir, laidDir root entry = some dir ∧ path <+: dir) ∨
              ∃ entry' ∈ entries, ∃ dir, laidDir root entry' = some dir ∧ path <+: dir := by
        simp
      cases destination : manifestDestination root entry.path with
      | none =>
          obtain ⟨isFiles, stillFree, isDir⟩ := ih free
          have noFile : laidFile root entry = none := by simp [laidFile, destination]
          have noDir : laidDir root entry = none := by simp [laidDir, destination]
          refine ⟨?_, stillFree, fun path => (isDir path).trans ?_⟩
          · rw [List.filterMap_cons_none noFile]
            exact isFiles
          · rw [split, noDir]
            simp
      | some path =>
          dsimp only
          cases kind : entry.isDir with
          | true =>
              obtain ⟨-, madeFree, made⟩ := createDirAll_spec free path
              obtain ⟨isFiles, stillFree, isDir⟩ := ih madeFree
              have noFile : laidFile root entry = none := by simp [laidFile, kind]
              have isLaid : laidDir root entry = some path := by simp [laidDir, destination, kind]
              refine ⟨?_, stillFree, fun other => (isDir other).trans ?_⟩
              · rw [List.filterMap_cons_none noFile]
                exact isFiles
              · rw [split, made, isLaid, or_assoc]
                simp
          | false =>
              obtain ⟨succeeds, madeFree, made⟩ := createDirAll_spec free path.dropLast
              obtain ⟨isFiles, stillFree, isDir⟩ := ih madeFree
              have isFile : laidFile root entry = some (path, entry.size) := by
                simp [laidFile, destination, kind]
              have isLaid : laidDir root entry = some path.dropLast := by
                simp [laidDir, destination, kind]
              generalize disk.createDirAll (fun _ => true) path.dropLast = result at *
              obtain ⟨done, disk'⟩ := result
              have succeeds : done = true := succeeds
              subst succeeds
              rw [if_neg (by decide)]
              dsimp only at isFiles stillFree isDir made ⊢
              refine ⟨?_, stillFree, fun other => (isDir other).trans ?_⟩
              · rw [List.filterMap_cons_some isFile, isFiles]
              · rw [split, made, isLaid, or_assoc]
                simp

theorem emptyRoot_spec (root : DiskPath) : FileFree (emptyRoot root) ∧
    ∀ path, (emptyRoot root).lookup path = some .dir ↔ path <+: root := by
  have nothing : FileFree ∅ := by
    intro path found
    cases found
  obtain ⟨-, free, made⟩ := createDirAll_spec nothing root
  refine ⟨free, fun path => (made path).trans ?_⟩
  simp

/-- The place of a path under a directory. -/
def place (target : DiskPath) (path : List (List Char)) : DiskPath :=
  target ++ path.map String.ofList

theorem ofList_injective : Function.Injective String.ofList :=
  fun _ _ same => String.ofList_injective same

theorem place_prefix_iff {target : DiskPath} {path other : List (List Char)} :
    place target path <+: place target other ↔ path <+: other := by
  unfold place
  rw [List.prefix_append_right_inj]
  exact List.prefix_map_iff_of_injective ofList_injective

theorem place_injective {target : DiskPath} {path other : List (List Char)}
    (same : place target path = place target other) : path = other :=
  List.map_injective_iff.mpr ofList_injective (List.append_cancel_left same)

/-- A receiver takes the components of a path from its text, where no name has a separator. -/
theorem manifestDestination_joinPath (target : DiskPath) {path : List (List Char)}
    (admissible : Admissible path) (plain : ∀ name ∈ path, '/' ∉ name ∧ '\\' ∉ name) :
    manifestDestination target (String.ofList (joinPath path)) =
      some (place target path) := by
  obtain ⟨accepted, safe⟩ := Option.isSome_iff_exists.mp admissible.admitted
  obtain ⟨-, short, -⟩ := safeRelativePath_eq_some_iff.mp safe
  have separated : Separated isSeparator path (joinPath path) := by
    apply separated_intercalate rfl admissible.ne_nil
    intro name member c inName
    obtain ⟨noSlash, noBackslash⟩ := plain name member
    cases isSep : isSeparator c with
    | false => rfl
    | true =>
        rcases isSeparator_iff.mp isSep with rfl | rfl
        · exact absurd inName noSlash
        · exact absurd inName noBackslash
  have components : relativeComponents (joinPath path) = some path :=
    relativeComponents_eq_some_iff.mpr ⟨separated, admissible.safe, short⟩
  unfold manifestDestination
  rw [String.toList_ofList, components]
  rfl

section
variable {root : Tree} {entries : List ManifestEntry}

/-- No name that is kept has a backslash. -/
def Unambiguous (root : Tree) : Prop :=
  ∀ path kind, root.1.Holds path kind → Admissible path → kind ≠ .link → ∀ name ∈ path, '\\' ∉ name

theorem mem_items_root {item : List (List Char) × Kind} (member : item ∈ root.1.items []) :
    root.1.Holds item.1 item.2 ∧ Admissible item.1 ∧ item.2 ≠ .link := by
  obtain ⟨path, isPath, held, admissible, real⟩ :=
    Listing.sound_of_mem_items (.inl rfl) item member
  rw [List.nil_append] at isPath
  exact ⟨isPath ▸ held, admissible, real⟩

theorem destination_entryOf (unambiguous : Unambiguous root) (target : DiskPath)
    {item : List (List Char) × Kind} (member : item ∈ root.1.items []) :
    manifestDestination target (entryOf item).path = some (place target item.1) := by
  obtain ⟨held, admissible, real⟩ := mem_items_root member
  rw [path_entryOf]
  apply manifestDestination_joinPath target admissible
  intro name inPath
  exact ⟨held.plain root.2 name inPath, unambiguous _ _ held admissible real name inPath⟩

theorem laidFile_eq_some_iff (unambiguous : Unambiguous root) {target : DiskPath}
    {item : List (List Char) × Kind} (member : item ∈ root.1.items []) {file : DiskPath × UInt64} :
    laidFile target (entryOf item) = some file ↔
      item.2 = .file file.2 ∧ file.1 = place target item.1 := by
  have destination := destination_entryOf unambiguous target member
  have real := (mem_items_root member).2.2
  obtain ⟨path, kind⟩ := item
  obtain ⟨file, size⟩ := file
  unfold laidFile
  rw [destination]
  cases kind with
  | link => exact absurd rfl real
  | dir => simp [entryOf]
  | file size' =>
      simp only [entryOf, Bool.false_eq_true, if_false, Option.map_some, Option.some.injEq,
        Prod.mk.injEq, Kind.file.injEq]
      constructor
      · rintro ⟨rfl, rfl⟩
        exact ⟨rfl, rfl⟩
      · rintro ⟨rfl, rfl⟩
        exact ⟨rfl, rfl⟩

/-- The directories that an entry makes are those on the way to it, and itself if it is one. -/
theorem laidDir_prefix_iff (unambiguous : Unambiguous root) {target : DiskPath}
    {item : List (List Char) × Kind} (member : item ∈ root.1.items []) {path : List (List Char)} :
    (∃ dir, laidDir target (entryOf item) = some dir ∧ place target path <+: dir) ↔
      ∃ more, item.1 = path ++ more ∧ (more = [] → item.2 = .dir) := by
  have destination := destination_entryOf unambiguous target member
  have real := (mem_items_root member).2.2
  obtain ⟨own, kind⟩ := item
  unfold laidDir
  rw [destination]
  simp only [Option.map_some, Option.some.injEq, exists_eq_left']
  cases kind with
  | link => exact absurd rfl real
  | dir =>
      simp only [entryOf, if_true, place_prefix_iff]
      constructor
      · rintro ⟨more, rfl⟩
        exact ⟨more, rfl, fun _ => trivial⟩
      · rintro ⟨more, rfl, -⟩
        exact List.prefix_append _ _
  | file size =>
      have drops : (place target own).dropLast = place target own.dropLast ∨ own = [] := by
        by_cases empty : own = []
        · exact .inr empty
        · left
          unfold place
          rw [List.dropLast_append_of_ne_nil (by simpa using empty), List.map_dropLast]
      have ownNonempty : own ≠ [] := (mem_items_root member).2.1.ne_nil
      simp only [entryOf, Bool.false_eq_true, if_false, drops.resolve_right ownNonempty,
        place_prefix_iff]
      constructor
      · rintro ⟨more, isMore⟩
        refine ⟨more ++ [own.getLast ownNonempty], ?_, by simp⟩
        rw [← List.append_assoc, isMore, List.dropLast_append_getLast]
      · rintro ⟨more, rfl, further⟩
        have further : more ≠ [] := fun empty => by cases further empty
        rw [List.dropLast_append_of_ne_nil further]
        exact List.prefix_append _ _

/-- The directories that are laid out are the safe ones of the tree. -/
theorem laid_dir_iff (unambiguous : Unambiguous root)
    (listed : entries.Perm ((root.1.items []).map entryOf)) (target : DiskPath)
    {path : List (List Char)} (nonempty : path ≠ []) :
    (layOut (fun _ => true) target entries (emptyRoot target)).2.lookup
        (place target path) = some .dir ↔ root.1.Holds path .dir ∧ Admissible path := by
  obtain ⟨free, above⟩ := emptyRoot_spec target
  obtain ⟨-, -, laid⟩ := layOut_spec target entries free
  rw [laid, above]
  have below : ¬place target path <+: target := by
    intro shorter
    have lengths := shorter.length_le
    have positive := List.length_pos_iff.mpr nonempty
    simp only [place, List.length_append, List.length_map] at lengths
    omega
  have toItems : (∃ entry ∈ entries, ∃ dir, laidDir target entry = some dir ∧
      place target path <+: dir) ↔
        ∃ item ∈ root.1.items [], ∃ more, item.1 = path ++ more ∧ (more = [] → item.2 = .dir) := by
    constructor
    · rintro ⟨entry, listedEntry, laid⟩
      obtain ⟨item, member, rfl⟩ := List.mem_map.mp (listed.mem_iff.mp listedEntry)
      exact ⟨item, member, (laidDir_prefix_iff unambiguous member).mp laid⟩
    · rintro ⟨item, member, laid⟩
      exact ⟨entryOf item, listed.mem_iff.mpr (List.mem_map_of_mem member),
        (laidDir_prefix_iff unambiguous member).mpr laid⟩
  rw [toItems, or_iff_right below]
  constructor
  · rintro ⟨item, member, more, isPath, isDir⟩
    obtain ⟨held, admissible, -⟩ := mem_items_root member
    rw [isPath] at held admissible
    refine ⟨?_, admissible.front nonempty⟩
    by_cases last : more = []
    · rw [last, List.append_nil, isDir last] at held
      exact held
    · exact held.front nonempty last
  · rintro ⟨held, admissible⟩
    obtain ⟨-, isDir⟩ := Listing.complete_items (.inl rfl) held admissible
    rcases isDir rfl with own | ⟨more, further, kind, below⟩
    · exact ⟨_, own, [], by simp, fun _ => rfl⟩
    · exact ⟨_, below, more, by simp, fun empty => absurd empty further⟩

/-- The files that are to come are the safe ones of the tree. -/
theorem laid_file_iff (unambiguous : Unambiguous root)
    (listed : entries.Perm ((root.1.items []).map entryOf)) (target : DiskPath)
    {path : List (List Char)} {size : UInt64} :
    (place target path, size) ∈
        (layOut (fun _ => true) target entries (emptyRoot target)).1 ↔
      root.1.Holds path (.file size) ∧ Admissible path := by
  obtain ⟨free, -⟩ := emptyRoot_spec target
  obtain ⟨isFiles, -, -⟩ := layOut_spec target entries free
  rw [isFiles, List.mem_filterMap]
  constructor
  · rintro ⟨entry, listedEntry, isFile⟩
    obtain ⟨item, member, rfl⟩ := List.mem_map.mp (listed.mem_iff.mp listedEntry)
    obtain ⟨isKind, isPlace⟩ := (laidFile_eq_some_iff unambiguous member).mp isFile
    obtain ⟨held, admissible, -⟩ := mem_items_root member
    rw [place_injective isPlace]
    exact ⟨isKind ▸ held, admissible⟩
  · rintro ⟨held, admissible⟩
    obtain ⟨isFile, -⟩ := Listing.complete_items (.inl rfl) held admissible
    have member := isFile size rfl
    refine ⟨_, listed.mem_iff.mpr (List.mem_map_of_mem member), ?_⟩
    exact (laidFile_eq_some_iff unambiguous member).mpr ⟨rfl, by simp⟩

end

/-- Laying the entries out under any directory makes the safe part of the tree there. -/
def Recreates (root : Tree) (entries : List ManifestEntry) : Prop :=
  ∀ target path kind, path ≠ [] → (recreate target entries (place target path) = some kind ↔
    root.1.Holds path kind ∧ Admissible path ∧ kind ≠ .link)

theorem recreates_of_perm {root : Tree} {entries : List ManifestEntry}
    (unambiguous : Unambiguous root) (listed : entries.Perm ((root.1.items []).map entryOf)) :
    Recreates root entries := by
  intro target path kind nonempty
  have isDir := laid_dir_iff unambiguous listed target nonempty
  have isFile (size : UInt64) := @laid_file_iff root entries unambiguous listed target path size
  obtain ⟨free, -⟩ := emptyRoot_spec target
  obtain ⟨-, stillFree, -⟩ := layOut_spec target entries free
  unfold recreate
  generalize layOut (fun _ => true) target entries (emptyRoot target) = laid at *
  obtain ⟨files, disk⟩ := laid
  dsimp only at isDir isFile stillFree ⊢
  cases found : disk.lookup (place target path) with
  | some entry =>
      cases entry with
      | file => exact absurd found (stillFree _)
      | dir =>
          obtain ⟨held, admissible⟩ := isDir.mp found
          dsimp only
          constructor
          · intro isKind
            cases isKind
            exact ⟨held, admissible, Kind.noConfusion⟩
          · rintro ⟨held', -, -⟩
            rw [held.unique root.2 held']
  | none =>
      have noDir : ¬(root.1.Holds path .dir ∧ Admissible path) := by
        rw [← isDir, found]
        exact nofun
      dsimp only
      constructor
      · intro isKind
        obtain ⟨file, isFirst, rfl⟩ := Option.map_eq_some_iff.mp isKind
        have isPlace : file.1 = place target path := by
          simpa using List.find?_some isFirst
        have member := List.mem_of_find?_eq_some isFirst
        obtain ⟨file, size⟩ := file
        dsimp only at isPlace
        rw [isPlace] at member
        obtain ⟨held, admissible⟩ := (isFile size).mp member
        exact ⟨held, admissible, Kind.noConfusion⟩
      · rintro ⟨held, admissible, real⟩
        cases kind with
        | link => exact absurd rfl real
        | dir => exact absurd ⟨held, admissible⟩ noDir
        | file size =>
            have member := (isFile size).mpr ⟨held, admissible⟩
            cases first : files.find? fun file => file.1 = place target path with
            | none =>
                have notPlace := List.find?_eq_none.mp first _ member
                simp at notPlace
            | some file =>
                obtain ⟨file, size'⟩ := file
                have isPlace : file = place target path := by
                  simpa using List.find?_some first
                have member' := List.mem_of_find?_eq_some first
                rw [isPlace] at member'
                have same := held.unique root.2 ((isFile size').mp member').1
                rw [same]
                rfl

/-! ## The manifest -/

/-- What a manifest says of a tree; `wanted` are the directories that it owes an entry where they
hold nothing that is listed. -/
structure Describes (wanted : List (List Char) → Prop) (root : Tree)
    (entries : List ManifestEntry) : Prop where
  distinct : (entries.map ManifestEntry.path).Nodup
  few : entries.length ≤ maxDirManifestEntries
  accepted : ∀ entry ∈ entries, (relativeComponents entry.path.toList).isSome
  files : ∀ path size, root.1.Holds path (.file size) → Admissible path →
    entries.count ⟨String.ofList (joinPath path), size, false⟩ = 1
  directories : ∀ path, root.1.Holds path .dir → wanted path →
    (∀ more, more ≠ [] → ∀ entry ∈ entries,
      entry.path ≠ String.ofList (joinPath (path ++ more))) →
    entries.count ⟨String.ofList (joinPath path), 0, true⟩ = 1
  real : ∀ entry ∈ entries, ∃ path kind, root.1.Holds path kind ∧ Admissible path ∧
    kind ≠ .link ∧ entry = entryOf (path, kind)
  links : ∀ path more, root.1.Holds path .link → ∀ entry ∈ entries,
    entry.path ≠ String.ofList (joinPath (path ++ more))

/-- A path whose text starts with that of an entry leads to the entry or through it. -/
theorem not_joinPath_below_link {root : Tree} {path link more : List (List Char)} {kind : Kind}
    (held : root.1.Holds path kind) (real : kind ≠ .link) (isLink : root.1.Holds link .link) :
    joinPath path ≠ joinPath (link ++ more) := by
  intro same
  have nonempty : path ≠ [] := by
    obtain ⟨_, _, rfl, -⟩ := held.exists_cons
    exact List.cons_ne_nil _ _
  have linkNonempty : link ≠ [] := by
    obtain ⟨_, _, rfl, -⟩ := isLink.exists_cons
    exact List.cons_ne_nil _ _
  have pieces : (joinPath path).splitOn '/' = path :=
    List.splitOn_intercalate '/' (held.plain root.2) nonempty
  have linkPieces : (joinPath link).splitOn '/' = link :=
    List.splitOn_intercalate '/' (isLink.plain root.2) linkNonempty
  by_cases last : more = []
  · rw [last, List.append_nil] at same
    rw [same, linkPieces] at pieces
    rw [← pieces] at held
    exact real (held.unique root.2 isLink)
  · rw [same, joinPath_append linkNonempty last, List.splitOn_append_cons_self, linkPieces] at pieces
    rw [← pieces] at held
    have isDir := held.front linkNonempty (List.splitOn_ne_nil _ _)
    cases isDir.unique root.2 isLink

theorem describes_of_perm {root : Tree} {entries : List ManifestEntry}
    (listed : entries.Perm ((root.1.items []).map entryOf))
    (few : entries.length ≤ maxDirManifestEntries) : Describes Admissible root entries := by
  have member {entry : ManifestEntry} :
      entry ∈ entries ↔ ∃ item ∈ root.1.items [], entryOf item = entry := by
    rw [listed.mem_iff, List.mem_map]
  have distinct : (entries.map ManifestEntry.path).Nodup := by
    rw [(listed.map ManifestEntry.path).nodup_iff, List.map_map]
    have paths := Listing.nodup_items (.inl rfl) root.2
    rw [List.nodup_map_iff_inj_on (List.Nodup.of_map _ paths)]
    intro item inItems other inItems' same
    obtain ⟨held, -, -⟩ := mem_items_root inItems
    obtain ⟨held', -, -⟩ := mem_items_root inItems'
    obtain ⟨_, _, isPath, -⟩ := held.exists_cons
    obtain ⟨_, _, isPath', -⟩ := held'.exists_cons
    have same : String.ofList (joinPath item.1) = String.ofList (joinPath other.1) := by
      simpa using same
    have samePath := joinPath_injective (isPath ▸ List.cons_ne_nil _ _)
      (isPath' ▸ List.cons_ne_nil _ _) (held.plain root.2) (held'.plain root.2)
      (ofList_injective same)
    exact List.inj_on_of_nodup_map paths inItems inItems' samePath
  have once : entries.Nodup := List.Nodup.of_map _ distinct
  constructor
  · exact distinct
  · exact few
  · intro entry inEntries
    obtain ⟨item, inItems, rfl⟩ := member.mp inEntries
    obtain ⟨-, admissible, -⟩ := mem_items_root inItems
    rw [path_entryOf, String.toList_ofList, relativeComponents, Option.isSome_map]
    exact admissible.admitted
  · intro path size held admissible
    obtain ⟨isFile, -⟩ := Listing.complete_items (.inl rfl) held admissible
    exact List.count_eq_one_of_mem once (member.mpr ⟨_, isFile size rfl, rfl⟩)
  · intro path held admissible bare
    obtain ⟨-, isDir⟩ := Listing.complete_items (.inl rfl) held admissible
    rcases isDir rfl with own | ⟨more, further, kind, below⟩
    · exact List.count_eq_one_of_mem once (member.mpr ⟨_, own, rfl⟩)
    · have inEntries := member.mpr ⟨_, below, rfl⟩
      exact absurd (path_entryOf _) (bare more further _ inEntries)
  · intro entry inEntries
    obtain ⟨⟨path, kind⟩, inItems, rfl⟩ := member.mp inEntries
    obtain ⟨held, admissible, real⟩ := mem_items_root inItems
    exact ⟨path, kind, held, admissible, real, rfl⟩
  · intro link more isLink entry inEntries same
    obtain ⟨item, inItems, rfl⟩ := member.mp inEntries
    obtain ⟨held, -, real⟩ := mem_items_root inItems
    rw [path_entryOf] at same
    exact not_joinPath_below_link held real isLink (ofList_injective same)

/-- A walked manifest describes the safe part of the tree, and where no name of that has a
backslash, laying it out makes that part again. -/
theorem walked_manifest (root : Tree) (out : WalkedTree)
    (walked : WalkedTree.walkDirectoryBlocking root = .ok out) :
    Describes Admissible root out.entries ∧ (Unambiguous root → Recreates root out.entries) := by
  obtain ⟨listed, few⟩ := walk_perm walked
  exact ⟨describes_of_perm listed few, fun unambiguous => recreates_of_perm unambiguous listed⟩

/-- The names of the entries, with those inside. -/
def Listing.allNames : Listing → List (List Char)
  | .nil => []
  | .cons name _ inside rest => name.toList ++ inside.allNames ++ rest.allNames

theorem Listing.Holds.mem_allNames {dir : Listing} {path : List (List Char)} {kind : Kind}
    (held : dir.Holds path kind) : ∀ name ∈ path, name ∈ dir.allNames := by
  induction dir generalizing path with
  | nil => exact held.elim
  | cons first own inside rest insideIh restIh =>
      intro name member
      rw [allNames, List.append_assoc]
      rcases held with ⟨name', more, rfl, rfl, ⟨rfl, -⟩ | ⟨-, below⟩⟩ | later
      · exact List.mem_append_left _ member
      · rcases List.mem_cons.mp member with rfl | further
        · exact List.mem_append_left _ (List.mem_singleton_self _)
        · exact List.mem_append_right _ (List.mem_append_left _ (insideIh below name further))
      · exact List.mem_append_right _ (List.mem_append_right _ (restIh later name member))

/-- A directory with a file and an empty directory, beside a link to a file and a directory whose name
is that of a device. -/
def sampleTree : Tree :=
  ⟨.cons (some "a".toList) .dir
      (.cons (some "b".toList) (.file 3) .nil (.cons (some "c".toList) .dir .nil .nil))
      (.cons (some "d".toList) .link .nil
        (.cons (some "con".toList) .dir (.cons (some "e".toList) (.file 1) .nil .nil) .nil)), by
    simp [Listing.WellFormed, Listing.names]⟩

theorem walked_manifest_sample :
    Describes Admissible sampleTree [⟨"a/b", 3, false⟩, ⟨"a/c", 0, true⟩] ∧
      Recreates sampleTree [⟨"a/b", 3, false⟩, ⟨"a/c", 0, true⟩] := by
  have walked : WalkedTree.walkDirectoryBlocking sampleTree =
      .ok ⟨[⟨"a/b", 3, false⟩, ⟨"a/c", 0, true⟩], 1⟩ := by
    decide +kernel
  have unambiguous : Unambiguous sampleTree := by
    intro path kind held _ _ name member
    have isName := held.mem_allNames name member
    simp [sampleTree, Listing.allNames] at isName
    rcases isName with rfl | rfl | rfl | rfl | rfl | rfl <;> decide
  obtain ⟨describes, recreates⟩ := walked_manifest sampleTree _ walked
  exact ⟨describes, recreates unambiguous⟩

/-- An empty directory under the name of a device. -/
def deviceTree : Tree :=
  ⟨.cons (some "con".toList) .dir .nil .nil, by simp [Listing.WellFormed, Listing.names]⟩

/-- A file whose name has a backslash. -/
def backslashTree : Tree :=
  ⟨.cons (some "a\\b".toList) (.file 1) .nil .nil, by simp [Listing.WellFormed, Listing.names]⟩

/-- A directory with an unsafe name is left out though it holds nothing that is listed, and a name
with a backslash is laid out as a directory and a file in it. -/
theorem manifest_is_not_the_tree :
    (WalkedTree.walkDirectoryBlocking deviceTree = .ok {} ∧
        ¬Describes (fun _ => True) deviceTree []) ∧
      WalkedTree.walkDirectoryBlocking backslashTree = .ok ⟨[⟨"a\\b", 1, false⟩], 0⟩ ∧
        ¬Recreates backslashTree [⟨"a\\b", 1, false⟩] := by
  refine ⟨⟨by decide +kernel, ?_⟩, by decide +kernel, ?_⟩
  · intro describes
    have held : deviceTree.1.Holds ["con".toList] .dir :=
      .inl ⟨_, [], rfl, rfl, .inl ⟨rfl, rfl⟩⟩
    have listed := describes.directories _ held trivial fun _ _ _ member => nomatch member
    cases listed
  · intro recreates
    have held : backslashTree.1.Holds ["a\\b".toList] (.file 1) :=
      .inl ⟨_, [], rfl, rfl, .inl ⟨rfl, rfl⟩⟩
    have admissible : Admissible ["a\\b".toList] :=
      ⟨by decide +kernel, by decide +kernel⟩
    have made := (recreates [] _ _ (List.cons_ne_nil _ _)).mpr ⟨held, admissible, nofun⟩
    have missing : recreate [] [⟨"a\\b", 1, false⟩] (place [] ["a\\b".toList]) = none := by
      decide +kernel
    rw [missing] at made
    cases made

end Lumepeer.Runtime
