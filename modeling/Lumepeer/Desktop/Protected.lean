import Lumepeer.Desktop.GuestStores
import Lumepeer.Lib.Bytes

/-!
# The profile's stores moved where only administrators can write

`protected` of `apps/desktop/src-tauri/src/placement.rs`: the first elevated
runs move the files and keystore entries of the profile into the directory of
the account, and a marker there says that it was done. The client then goes on
with its endpoint identity, minted if there is none (`keystore::load_or_create`).

`step` is one call of a run on a file or a keystore, with what the call answers
as its input; a run that is killed is one that another `start` follows.
-/

namespace Lumepeer.Desktop
open Lumepeer.Lib Lumepeer.Net

/-- `IDENTITY_ENTRY` (`keystore.rs:37`). -/
def identityEntry : String := "lumepeer.endpoint.identity"

/-- `UNATTENDED_PASSWORD_ENTRY` (`keystore.rs:44`). -/
def unattendedPasswordEntry : String := "lumepeer.unattended.password"

/-- `UNATTENDED_ROLE_ENTRY` (`keystore.rs:53`). -/
def unattendedRoleEntry : String := "lumepeer.unattended.role"

/-- `UNATTENDED_TOTP_ENTRY` (`keystore.rs:60`). -/
def unattendedTotpEntry : String := "lumepeer.unattended.totp"

/-- `AUDIT_SALT_ENTRY` (`keystore.rs:73`). -/
def auditSaltEntry : String := "lumepeer.audit.salt"

namespace Protected

/-- A file of the profile. -/
structure Path where
  dir : String
  name : String
  deriving DecidableEq, Repr

/-- `Profile` (`placement.rs:73-94`), each location by its directory: the names of the files are
fixed (`bootstrap.rs:225-237`). -/
structure Profile where
  addressBook : Option String
  inviteDir : Option String
  history : Option String
  audit : Option String
  deriving DecidableEq, Repr

/-- How `fs::copy` ends: a copy that fails or is killed may leave the first bytes. -/
inductive CopyOutcome where
  | copied
  | refused
  | torn (length : Nat)
  deriving DecidableEq, Repr

/-- `name.starts_with("invite") && name.ends_with(".json")`. -/
def isInvite (name : String) : Bool :=
  "invite".toList.isPrefixOf name.toList && ".json".toList.isSuffixOf name.toList

/-- A file in a directory, if there is one, and the name it is moved to. -/
def located (dir : Option String) (name : String) : List (Path × String) :=
  match dir with
  | none => []
  | some dir => [({ dir, name }, name)]

/-- The files `move_from_profile` tries, each with the name it is moved to, `invites` being what the
listing of the invites' directory yields (`placement.rs:768-789`). -/
def movedFiles (profile : Profile) (invites : List Path) : List (Path × String) :=
  located profile.addressBook "address_book.json" ++
    located profile.history "connection_history.json" ++
    (["", "-wal", "-shm"].flatMap fun suffix => located profile.audit ("audit.db" ++ suffix)) ++
    invites.map fun path => (path, path.name)

/-- The entries `move_from_profile` moves whatever the list holds (`placement.rs:800-808`). -/
def fixedEntries : List String :=
  [identityEntry, unattendedPasswordEntry, unattendedRoleEntry, unattendedTotpEntry, auditSaltEntry]

/-- Where a run of the client stands. -/
inductive Client where
  | idle
  | files (rest : List (Path × String))
  | removing (source : Path) (rest : List (Path × String))
  | entries (rest : List String) (complete : Bool)
  | deleting (entry : String) (rest : List String) (complete : Bool)
  | minting
  deriving DecidableEq, Repr

/-- The profile, the protected directory and the client. -/
structure State where
  profileFiles : HashMap Path (List UInt8)
  profileKeys : Keystore
  directory : HashMap String (List UInt8)
  keys : Keystore
  marker : Bool := false
  client : Client := .idle
  deriving DecidableEq

/-- One call of a run, with its answer. -/
inductive Op where
  /-- `open`: whether the marker is seen if it is there, and the names the listing of the invites
  does not yield. -/
  | start (markerSeen : Bool) (hidden : List String)
  /-- `move_file` for the next file: whether the two tests see what is there, and how the copy
  ends. -/
  | copy (targetSeen sourceSeen : Bool) (outcome : CopyOutcome)
  /-- The copied file is removed. -/
  | unlink (fails : Bool)
  /-- The profile's keystore is opened and the list read; `marked` is whether the marker that a
  keystore which does not open is taken for gets written. -/
  | openKeystore (opens listReads marked : Bool)
  /-- The next entry is loaded from both keystores, and stored. -/
  | entry (newFails oldFails : Bool) (outcome : StoreOutcome)
  /-- An entry that is in the protected store is deleted from the profile. -/
  | delete (fails : Bool)
  /-- The marker, once every entry was tried. -/
  | finish (marked : Bool)
  /-- `load_or_create` on the protected store. -/
  | mint (loadFails : Bool) (fresh : Bytes 32) (outcome : StoreOutcome)

section
variable (profile : Profile) (hostsOf : List UInt8 → List String)

/-- The invites that `read_dir` yields (`placement.rs:779-789`). -/
def invites (s : State) (hidden : List String) : List Path :=
  s.profileFiles.keys.filter fun path =>
    decide (profile.inviteDir = some path.dir) && isInvite path.name && !hidden.contains path.name

/-- The hosts of the protected list, `hostsOf` being what its JSON parses to. -/
def listedHosts (s : State) (listReads : Bool) : List String :=
  match s.directory.lookup "connection_history.json" with
  | none => []
  | some bytes => if listReads then hostsOf bytes else []

namespace State

/-- `protected::open` up to the first file (`placement.rs:723-734`). -/
def onStart (s : State) (markerSeen : Bool) (hidden : List String) : State :=
  if s.marker && markerSeen then { s with client := .minting }
  else { s with client := .files (movedFiles profile (invites profile s hidden)) }

/-- `move_file` (`placement.rs:845-857`). -/
def onCopy (s : State) (targetSeen sourceSeen : Bool) (outcome : CopyOutcome) : State :=
  match s.client with
  | .files ((source, target) :: rest) =>
      let skipped := { s with client := .files rest }
      if (s.directory.lookup target).isSome && targetSeen then skipped
      else
        match s.profileFiles.lookup source with
        | none => skipped
        | some bytes =>
            if !sourceSeen then skipped
            else
              match outcome with
              | .refused => skipped
              | .torn length =>
                  { skipped with directory := s.directory.insert target (bytes.take length) }
              | .copied =>
                  { s with
                    directory := s.directory.insert target bytes
                    client := .removing source rest }
  | _ => s

/-- `let _ = fs::remove_file(from)`. -/
def onUnlink (s : State) (fails : Bool) : State :=
  match s.client with
  | .removing source rest =>
      { s with
        profileFiles := if fails then s.profileFiles else s.profileFiles.erase source
        client := .files rest }
  | _ => s

/-- `move_from_profile` between the files and the entries (`placement.rs:796-816`). -/
def onOpenKeystore (s : State) (opens listReads marked : Bool) : State :=
  match s.client with
  | .files [] =>
      if opens then
        { s with
          client := .entries
            (fixedEntries ++ (listedHosts hostsOf s listReads).map entryName) true }
      else { s with marker := s.marker || marked, client := .minting }
  | _ => s

/-- One turn of the loop over the entries (`placement.rs:818-837`). -/
def onEntry (s : State) (newFails oldFails : Bool) (outcome : StoreOutcome) : State :=
  match s.client with
  | .entries (entry :: rest) complete =>
      match s.keys.loadSecret entry newFails, s.profileKeys.loadSecret entry oldFails with
      | some none, some (some bytes) =>
          match s.keys.storeSecret entry bytes outcome with
          | (true, keys) => { s with keys, client := .deleting entry rest complete }
          | (false, keys) => { s with keys, client := .entries rest false }
      -- Moved by an earlier run that stopped before deleting it.
      | some (some _), some (some _) => { s with client := .deleting entry rest complete }
      | some _, some none => { s with client := .entries rest complete }
      | _, _ => { s with client := .entries rest false }
  | _ => s

/-- `let _ = old.delete_secret(&entry)`. -/
def onDelete (s : State) (fails : Bool) : State :=
  match s.client with
  | .deleting entry rest complete =>
      { s with
        profileKeys := (s.profileKeys.deleteSecret entry fails).2
        client := .entries rest complete }
  | _ => s

/-- `move_from_profile` after the loop (`placement.rs:838-841`). -/
def onFinish (s : State) (marked : Bool) : State :=
  match s.client with
  | .entries [] complete =>
      { s with marker := s.marker || (complete && marked), client := .minting }
  | _ => s

/-- `load_or_create` (`keystore.rs:143-150`): the identity the client goes on with. -/
def onMint (s : State) (loadFails : Bool) (fresh : Bytes 32) (outcome : StoreOutcome) :
    Option (List UInt8) × State :=
  match s.client with
  | .minting =>
      match s.keys.loadSecret identityEntry loadFails with
      | none => (none, { s with client := .idle })
      | some (some bytes) =>
          (if bytes.length = 32 then some bytes else none, { s with client := .idle })
      | some none =>
          match s.keys.storeSecret identityEntry fresh.toList outcome with
          | (true, keys) => (some fresh.toList, { s with keys, client := .idle })
          | (false, keys) => (none, { s with keys, client := .idle })
  | _ => (none, s)

/-- One call of a run. -/
def step (s : State) : Op → Option (List UInt8) × State
  | .start markerSeen hidden => (none, s.onStart profile markerSeen hidden)
  | .copy targetSeen sourceSeen outcome => (none, s.onCopy targetSeen sourceSeen outcome)
  | .unlink fails => (none, s.onUnlink fails)
  | .openKeystore opens listReads marked => (none, s.onOpenKeystore hostsOf opens listReads marked)
  | .entry newFails oldFails outcome => (none, s.onEntry newFails oldFails outcome)
  | .delete fails => (none, s.onDelete fails)
  | .finish marked => (none, s.onFinish marked)
  | .mint loadFails fresh outcome => s.onMint loadFails fresh outcome

end State

end

end Protected

end Lumepeer.Desktop
