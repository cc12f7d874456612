import Lumepeer.Lib.HashMap
import Mathlib.Data.List.Infix

/-!
# Directories on a disk

What `std::fs::create_dir_all` makes on a disk, which is a map from paths to what
lies there. A path is the list of its components. Whether the operating system does
what it is asked is an argument.
-/

namespace Lumepeer.Net
open Lumepeer.Lib

/-- `std::path::PathBuf`, as its components. -/
abbrev DiskPath := List String

/-- What lies at a path. -/
inductive DiskEntry where
  | dir
  | file
  deriving DecidableEq

abbrev Disk := HashMap DiskPath DiskEntry

namespace Disk

/-- Makes these directories, one after the other, where there is nothing yet. -/
def createDirs (makes : DiskPath → Bool) : List DiskPath → Disk → Bool × Disk
  | [], disk => (true, disk)
  | dir :: dirs, disk =>
      match disk.lookup dir with
      | some .dir => createDirs makes dirs disk
      | some .file => (false, disk)
      | none =>
          if makes dir then createDirs makes dirs (disk.insert dir .dir) else (false, disk)

/-- `std::fs::create_dir_all`. -/
def createDirAll (disk : Disk) (makes : DiskPath → Bool) (dir : DiskPath) : Bool × Disk :=
  createDirs makes dir.inits disk

end Disk

end Lumepeer.Net
