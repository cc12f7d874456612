import Lumepeer.Core.Session
import Lumepeer.Lib.CutOff
import Lumepeer.Lib.Run
import Lumepeer.Service.LogonEnroll
import Mathlib.Logic.Function.Basic

/-!
# The sign-in screen's supervisor

The owner policy and the two files of `crates/service/src/logon_supervisor.rs`. Reads
succeed; every other operation on a file may fail, and the process may be killed before
any of them, after which the next request is served by the process that is started in
its place.
-/

namespace Lumepeer.Service.LogonSupervisor
open Lumepeer.Lib Lumepeer.Service.LogonEnroll
open Lumepeer.Core (isWhitespace)

/-- `OWNER_FILE` and `SECRETS_FILE` (`logon_enroll.rs:30-33`). -/
inductive StateFile where
  | owner
  | secrets
  deriving DecidableEq

/-- A file of the state directory, or the one with the extension `new` that is to replace it. -/
inductive StatePath where
  | file (file : StateFile)
  | temporary (file : StateFile)
  deriving DecidableEq

/-- The state directory: what lies where. -/
abbrev State := StatePath → Option (List UInt8)

/-- What happens to an operation; a write that fails has written some bytes before it does. -/
structure Fault where
  fails : Bool := false
  written : Nat := 0
  deriving DecidableEq

/-- An operation that is not a read. -/
inductive FileOp where
  | removeFile (path : StatePath)
  | createNew (path : StatePath)
  | writeAll (path : StatePath) (bytes : List UInt8)
  | syncAll (path : StatePath)
  | rename (source target : StatePath)
  deriving DecidableEq

/-- `Ok(())`, an error of the kind `NotFound`, or another one. -/
inductive Done where
  | ok
  | notFound
  | failed
  deriving DecidableEq

/-- One operation. -/
def perform (op : FileOp) (fault : Fault) (state : State) : Done × State :=
  match op with
  | .removeFile path =>
      if fault.fails then (.failed, state)
      else if (state path).isSome then (.ok, Function.update state path none)
      else (.notFound, state)
  | .createNew path =>
      if fault.fails || (state path).isSome then (.failed, state)
      else (.ok, Function.update state path (some []))
  | .writeAll path bytes =>
      if fault.fails then
        (.failed, Function.update state path (some (bytes.take fault.written)))
      else (.ok, Function.update state path (some bytes))
  | .syncAll _ => (if fault.fails then .failed else .ok, state)
  | .rename source target =>
      if fault.fails then (.failed, state)
      else
        match state source with
        | none => (.notFound, state)
        | some bytes =>
            (.ok, Function.update (Function.update state target (some bytes)) source none)

/-- What does the rest unless this operation fails: `?`. -/
def attempt (op : FileOp) (rest : Calls FileOp Done Bool) : Calls FileOp Done Bool :=
  .call op fun answer => if answer = .ok then rest else .done false

/-- `str::trim`. -/
def trim (text : List Char) : List Char :=
  ((text.dropWhile isWhitespace).reverse.dropWhile isWhitespace).reverse

/-- A number without its sign. -/
def unsigned : List Char → List Char
  | '+' :: digits => digits
  | digits => digits

/-- `str::parse::<u32>`. -/
def parseU32 (text : List Char) : Option UInt32 :=
  let digits := unsigned text
  let value := Nat.ofDigitChars 10 digits 0
  if digits.isEmpty || !digits.all Char.isDigit || value ≥ 2 ^ 32 then none
  else some (UInt32.ofNat value)

/-- `read_owner` (`logon_supervisor.rs:198-204`). -/
def readOwner (state : State) : Option UInt32 :=
  ((state (.file .owner)).bind fromUtf8).bind fun text => parseU32 (trim text.toList)

/-- `write_private` (`logon_supervisor.rs:214-225`). -/
def writePrivate (file : StateFile) (bytes : List UInt8) : Calls FileOp Done Bool :=
  -- Whether the old temporary file goes away is not looked at.
  .call (.removeFile (.temporary file)) fun _ =>
    attempt (.createNew (.temporary file)) <|
    attempt (.writeAll (.temporary file) bytes) <|
    attempt (.syncAll (.temporary file)) <|
    attempt (.rename (.temporary file) (.file file)) (.done true)

/-- `format!("{uid}\n")`. -/
def ownerLine (uid : UInt32) : List UInt8 :=
  asBytes (String.ofList (Nat.toDigits 10 uid.toNat ++ ['\n']))

/-- `write_copy` (`logon_supervisor.rs:206-210`). -/
def writeCopy (uid : UInt32) (entries : List Entry) : Calls FileOp Done Bool :=
  match encodeEntries entries with
  | none => .done false
  | some encoded =>
      (writePrivate .secrets encoded).andThen fun written =>
        if written then writePrivate .owner (ownerLine uid) else .done false

/-- `remove_if_present` (`logon_supervisor.rs:227-232`). -/
def removeIfPresent (file : StateFile) : Calls FileOp Done Bool :=
  .call (.removeFile (.file file)) fun answer => .done (answer ≠ .failed)

/-- `handle` (`logon_supervisor.rs:143-196`): the reply, and whether what is kept changed. -/
def handle (request : LogonEnroll.Request) (uid : UInt32) (state : State) :
    Calls FileOp Done (LogonEnroll.Reply × Bool) :=
  let owner := readOwner state
  match request with
  | .status =>
      .done <|
        match owner with
        | some owner =>
            if owner = uid && (state (.file .secrets)).isSome then (.yours, false)
            else if owner ≠ uid then (.otherOwner, false)
            else (.notEnrolled, false)
        | none => (.notEnrolled, false)
  | .enroll entries =>
      if owner.any fun owner => owner ≠ uid then .done (.otherOwner, false)
      else if uid = 0 then .done (.refused, false)
      else
        (writeCopy uid entries).andThen fun written =>
          .done (if written then (.yours, true) else (.failed, false))
  | .withdraw =>
      match owner with
      | none => .done (.notEnrolled, false)
      | some owner =>
          if owner ≠ uid && uid ≠ 0 then .done (.otherOwner, false)
          else
            (removeIfPresent .secrets).andThen fun removed =>
              if removed then
                (removeIfPresent .owner).andThen fun removed =>
                  .done (if removed then (.yours, true) else (.failed, false))
              else .done (.failed, false)

/-- A client that connects: its uid, unless the kernel does not say, what it sends, and what
happens to the operations that this leads to. The process is killed when they run out. -/
structure Connection where
  uid : Option UInt32
  stream : List UInt8
  faults : List Fault
  deriving DecidableEq

/-- What the client asks, if it asks something. -/
def Connection.request (connection : Connection) : Option LogonEnroll.Request :=
  (LogonEnroll.readRequest connection.stream).1

/-- `serve_one` (`logon_supervisor.rs:118-138`): what is answered unless the process is killed. -/
def serveOne (state : State) (connection : Connection) :
    Option (LogonEnroll.Reply × Bool) × State :=
  match connection.uid with
  | none => (some (.refused, false), state)
  | some uid =>
      match connection.request with
      | none => (some (.refused, false), state)
      | some request =>
          let ran := (handle request uid state).run perform connection.faults state
          (ran.1.map (·.1), ran.2)

/-- `enrolled` (`logon_supervisor.rs:322-324`). -/
def enrolled (state : State) : Bool := (readOwner state).isSome && (state (.file .secrets)).isSome

/-- What the logon host would be started with: whose copy, and the copy. -/
def startedWith (state : State) : Option (UInt32 × List UInt8) :=
  match readOwner state, state (.file .secrets) with
  | some owner, some secrets => some (owner, secrets)
  | _, _ => none

end Lumepeer.Service.LogonSupervisor
