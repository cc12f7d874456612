import Lumepeer.Core.Constants
import Lumepeer.Lib.Utf8
import Lumepeer.Lib.LexicalPath
import Mathlib.Algebra.Ring.Nat
import Mathlib.Data.List.Chain

/-!
# Paths a peer names

`crates/core/src/remote_path.rs`, and the join of a manifest entry's components
in `crates/runtime/src/network.rs`. A string is the list of its characters, as
`str::chars` yields them; its length in bytes is that of its UTF-8 encoding.
-/

namespace Lumepeer.Core
open Lumepeer.Lib

/-- `str::len`: bytes of the UTF-8 encoding. -/
def utf8Len (text : List Char) : Nat := (text.map Char.utf8Size).sum

/-- `char::is_control`: the general category Cc. -/
def isControl (c : Char) : Bool := c.toNat < 0x20 || (0x7F ≤ c.toNat && c.toNat < 0xA0)

namespace RemotePath

/-- `WINDOWS_DEVICE_NAMES` (`remote_path.rs:26-29`). -/
def windowsDeviceNames : List (List Char) :=
  ["CON", "PRN", "AUX", "NUL", "COM1", "COM2", "COM3", "COM4", "COM5", "COM6", "COM7", "COM8",
    "COM9", "LPT1", "LPT2", "LPT3", "LPT4", "LPT5", "LPT6", "LPT7", "LPT8", "LPT9"].map
      String.toList

/-- The part of a component before its first dot, in ASCII upper case
(`remote_path.rs:60-64`). -/
def stem (component : List Char) : List Char :=
  (component.takeWhile (· ≠ '.')).map Char.toUpper

/-- `is_safe_component` (`remote_path.rs:38-66`). -/
def isSafeComponent (component : List Char) : Bool :=
  if component.isEmpty || utf8Len component > fileNameMaxBytes then false
  else if component = ['.'] || component = ['.', '.'] then false
  else if component.any isControl then false
  else if component.contains ':' then false
  else if component.getLast? = some '.' || component.getLast? = some ' ' then false
  else !windowsDeviceNames.contains (stem component)

/-- The pattern `['/', '\\']`. -/
def isSeparator (c : Char) : Bool := c = '/' || c = '\\'

/-- The root of a path taken off (`remote_path.rs:104-126`). -/
def stripRoot (path : List Char) : Option (List Char) :=
  match path with
  | '/' :: rest => if rest.head? = some '/' then none else some rest
  | drive :: colon :: afterDrive =>
      if !drive.isAlpha || colon ≠ ':' then none
      else
        match afterDrive with
        | '\\' :: rest => some rest
        | '/' :: rest => some rest
        | _ => none
  | _ => none

/-- `rest.strip_suffix(['/', '\\']).unwrap_or(rest)` (`remote_path.rs:131`). -/
def trimSeparator (rest : List Char) : List Char :=
  if rest.getLast?.any isSeparator then rest.dropLast else rest

/-- `safe_browse_path` (`remote_path.rs:93-136`). -/
def safeBrowsePath (path : List Char) : Option (List Char) :=
  if path.isEmpty || utf8Len path > dirPathMaxBytes then none
  else if path.any isControl then none
  else
    match stripRoot path with
    | none => none
    | some rest =>
        let trimmed := trimSeparator rest
        if trimmed.isEmpty then some path
        else if (trimmed.splitOnP isSeparator).all isSafeComponent then some path
        else none

/-- `safe_relative_path` (`remote_path.rs:162-180`). -/
def safeRelativePath (path : List Char) : Option (List Char) :=
  if path.isEmpty || utf8Len path > manifestPathMaxBytes then none
  else if path.any isControl then none
  else if path.head?.any isSeparator then none
  else if (path.splitOnP isSeparator).all isSafeComponent then some path
  else none

/-- `relative_components` (`remote_path.rs:189-191`). -/
def relativeComponents (path : List Char) : Option (List (List Char)) :=
  (safeRelativePath path).map fun path => path.splitOnP isSeparator

/-- `split_entry_path` (`remote_path.rs:203-219`): `none` where a slice falls inside a character
and the code panics. -/
def splitEntryPath (path : List Char) : Option (Option (List Char × List Char)) :=
  match safeBrowsePath path with
  | none => some none
  | some path =>
      let trimmed := trimSeparator path
      match rfind isSeparator trimmed with
      | none => some none
      | some cut => do
          let (upToCut, name) ← splitAtByte trimmed (cut + 1)
          if name.isEmpty then return none
          let (directory, _) ← splitAtByte trimmed cut
          if directory.isEmpty || (utf8Len directory = 2 && directory.getLast? = some ':') then
            return some (upToCut, name)
          return some (directory, name)

end RemotePath

end Lumepeer.Core
