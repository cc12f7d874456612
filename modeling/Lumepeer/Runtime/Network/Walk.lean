import Lumepeer.Core.RemotePath
import Lumepeer.Net.Disk
import Lumepeer.Runtime.Network.FileOffers

/-!
# The manifest of a directory

The walk of `crates/runtime/src/network.rs` that turns a directory into the entries of a
`DirOffer`, on what the operating system finds there, and the tree that the other side lays
out from the entries. Every read succeeds.
-/

namespace Lumepeer.Runtime
open Lumepeer.Lib Lumepeer.Core Lumepeer.Core.RemotePath Lumepeer.Net

/-- What `file_type` says of an entry, and the size that `metadata` has for a file. -/
inductive Kind where
  | file (size : UInt64)
  | dir
  | link
  deriving DecidableEq

/-- The entries of a directory in the order they are read. A name that is not UTF-8 is `none`, and
`inside` is what stands behind the entry: what a directory holds, or what a link leads to. -/
inductive Listing where
  | nil
  | cons (name : Option (List Char)) (kind : Kind) (inside rest : Listing)

namespace Listing

/-- How many entries there are, with everything inside. -/
def size : Listing → Nat
  | nil => 1
  | cons _ _ inside rest => 1 + inside.size + rest.size

/-- The names of the entries. -/
def names : Listing → List (List Char)
  | nil => []
  | cons name _ _ rest => name.toList ++ rest.names

/-- No two entries of a directory have the same name, and a name has no slash. -/
def WellFormed : Listing → Prop
  | nil => True
  | cons name _ inside rest =>
      (∀ own, name = some own → own ∉ rest.names ∧ '/' ∉ own) ∧ inside.WellFormed ∧ rest.WellFormed

/-- There is such an entry at the end of a path, and only directories before it. -/
def Holds : Listing → List (List Char) → Kind → Prop
  | nil, _, _ => False
  | cons name own inside rest, path, kind =>
      (∃ first more, name = some first ∧ path = first :: more ∧
        (more = [] ∧ kind = own ∨ own = .dir ∧ inside.Holds more kind)) ∨ rest.Holds path kind

end Listing

/-- What a directory holds, as a file system has it. -/
abbrev Tree := { listing : Listing // listing.WellFormed }

/-- `WalkedTree` (`network.rs:4178-4188`). -/
structure WalkedTree where
  entries : List ManifestEntry := []
  skippedLinks : Nat := 0
  deriving DecidableEq

namespace WalkedTree

/-- The error of a walk that finds too much. -/
def tooMany : String := "the directory holds too many files"

/-- The path of an entry (`network.rs:18401-18405`). -/
def relative (pathPrefix name : List Char) : List Char :=
  if pathPrefix.isEmpty then name else pathPrefix ++ '/' :: name

/-- The loop over one directory (`network.rs:18389-18434`): what is found, what is still to be read,
and whether nothing was listed. -/
def readDir (pathPrefix : List Char) : Listing → WalkedTree → List (Listing × List Char) → Bool →
    Except String (WalkedTree × List (Listing × List Char) × Bool)
  | .nil, out, queue, empty => .ok (out, queue, empty)
  | .cons none _ _ rest, out, queue, empty => readDir pathPrefix rest out queue empty
  | .cons (some name) kind inside rest, out, queue, empty =>
      if !isSafeComponent name then readDir pathPrefix rest out queue empty
      else if (safeRelativePath (relative pathPrefix name)).isNone then
        readDir pathPrefix rest out queue empty
      else
        match kind with
        | .link =>
            readDir pathPrefix rest { out with skippedLinks := out.skippedLinks + 1 } queue empty
        | .dir =>
            if out.entries.length ≥ maxDirManifestEntries then .error tooMany
            else readDir pathPrefix rest out (queue ++ [(inside, relative pathPrefix name)]) false
        | .file size =>
            if out.entries.length ≥ maxDirManifestEntries then .error tooMany
            else
              let entry : ManifestEntry :=
                ⟨String.ofList (relative pathPrefix name), size, false⟩
              readDir pathPrefix rest { out with entries := out.entries ++ [entry] } queue false

/-- How much there is to read. -/
def weight (queue : List (Listing × List Char)) : Nat := (queue.map fun dir => dir.1.size).sum

@[simp] theorem weight_cons (dir : Listing) (path : List Char)
    (queue : List (Listing × List Char)) :
    weight ((dir, path) :: queue) = dir.size + weight queue := rfl

@[simp] theorem weight_concat (dir : Listing) (path : List Char)
    (queue : List (Listing × List Char)) :
    weight (queue ++ [(dir, path)]) = weight queue + dir.size := by
  simp [weight]

/-- A directory is larger than what it puts into the queue. -/
theorem weight_readDir {pathPrefix : List Char} {dir : Listing} {out out' : WalkedTree}
    {queue queue' : List (Listing × List Char)} {empty empty' : Bool}
    (read : readDir pathPrefix dir out queue empty = .ok (out', queue', empty')) :
    weight queue' + 1 ≤ weight queue + dir.size := by
  induction dir generalizing out queue empty with
  | nil =>
      cases read
      exact Nat.le_refl _
  | cons name kind inside rest _ ih =>
      have skipped {out : WalkedTree} {empty : Bool}
          (read : readDir pathPrefix rest out queue empty = .ok (out', queue', empty')) :
          weight queue' + 1 ≤ weight queue + (1 + inside.size + rest.size) := by
        have grown := ih read
        omega
      cases name with
      | none => exact skipped read
      | some name =>
          unfold readDir at read
          split at read
          · exact skipped read
          · split at read
            · exact skipped read
            · cases kind with
              | link => exact skipped read
              | dir =>
                  dsimp only at read
                  split at read
                  · cases read
                  · have grown := ih read
                    rw [weight_concat] at grown
                    show _ ≤ _ + (1 + inside.size + rest.size)
                    omega
              | file size =>
                  dsimp only at read
                  split at read
                  · cases read
                  · exact skipped read

/-- The loop over the queue (`network.rs:18386-18449`). -/
def walkQueue : List (Listing × List Char) → WalkedTree → Except String WalkedTree
  | [], out => .ok out
  | (dir, pathPrefix) :: queue, out =>
      match _read : readDir pathPrefix dir out queue true with
      | .error error => .error error
      | .ok (out, queue, empty) =>
          -- an empty directory is the one thing no file's path implies
          if empty && !pathPrefix.isEmpty then
            if out.entries.length ≥ maxDirManifestEntries then .error tooMany
            else
              let entry : ManifestEntry := ⟨String.ofList pathPrefix, 0, true⟩
              walkQueue queue { out with entries := out.entries ++ [entry] }
          else walkQueue queue out
  termination_by queue => weight queue
  decreasing_by
    all_goals
      have smaller := weight_readDir _read
      rw [weight_cons]
      omega

/-- `walk_directory_blocking` (`network.rs:18383-18451`). -/
def walkDirectoryBlocking (root : Tree) : Except String WalkedTree := walkQueue [(root.1, [])] {}

end WalkedTree

/-! ## What is laid out -/

/-- `manifest_destination` (`network.rs:18344-18353`). -/
def manifestDestination (root : DiskPath) (path : String) : Option DiskPath :=
  (relativeComponents path.toList).map fun components =>
    root ++ components.map String.ofList

/-- The loop of `accept_dir_offer` (`network.rs:8047-8064`): makes the directories, and says which
files are to come. -/
def layOut (makes : DiskPath → Bool) (root : DiskPath) :
    List ManifestEntry → Disk → List (DiskPath × UInt64) × Disk
  | [], disk => ([], disk)
  | entry :: entries, disk =>
      match manifestDestination root entry.path with
      | none => layOut makes root entries disk
      | some path =>
          if entry.isDir then layOut makes root entries (disk.createDirAll makes path).2
          else
            match disk.createDirAll makes path.dropLast with
            | (false, disk) => layOut makes root entries disk
            | (true, disk) =>
                let (files, disk) := layOut makes root entries disk
                ((path, entry.size) :: files, disk)

/-- A disk with one empty directory, and what is above it. -/
def emptyRoot (root : DiskPath) : Disk := (Disk.createDirAll ∅ (fun _ => true) root).2

/-- What comes to lie at a path when the entries are laid out in an empty directory and then each
file is put where it is to go. No file replaces a directory. -/
def recreate (root : DiskPath) (entries : List ManifestEntry) (path : DiskPath) : Option Kind :=
  let (files, disk) := layOut (fun _ => true) root entries (emptyRoot root)
  match disk.lookup path with
  | some .dir => some .dir
  | _ => (files.find? fun file => file.1 = path).map fun file => .file file.2

end Lumepeer.Runtime
