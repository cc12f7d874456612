import Lumepeer.Core.RemotePath
import Lumepeer.Lib.HashMap
import Lumepeer.Lib.Saturating
import Lumepeer.Net.Basic

/-!
# The receiver's book of file transfers

`ReceiveTracker` of `crates/net/src/file_transfer.rs:42-221`, and the check of an
offered name. BLAKE3 is the `blake3` crate's and a parameter. A function that
takes `&mut self` returns what it returns beside the next state. A `BTreeMap`
that is only read key by key or counted is a finite map.
-/

namespace Lumepeer.Net
open Lumepeer.Lib Lumepeer.Core

/-- What the code uses of the crate `blake3`. -/
structure Blake3 where
  Hasher : Type
  /-- `Hasher::new`. -/
  new : Hasher
  /-- `Hasher::update`. -/
  update : Hasher → List UInt8 → Hasher
  /-- `Hasher::finalize`. -/
  finalize : Hasher → Bytes 32
  /-- `blake3::hash`. -/
  hash : List UInt8 → Bytes 32

/-- `safe_file_name` (`file_transfer.rs:329-363`), with the paths of a dialect. -/
def safeFileName (dialect : Dialect) (name : List Char) : Option (List Char) :=
  if name.isEmpty || utf8Len name > fileNameMaxBytes then none
  else if name.any isControl then none
  else if name.contains ':' || name.contains '/' || name.contains '\\' then none
  else
    match dialect.components name with
    | [.normal only] =>
        if only ≠ name then none
        else if only.getLast? = some '.' || only.getLast? = some ' ' then none
        else if RemotePath.windowsDeviceNames.contains (RemotePath.stem only) then none
        else some only
    | _ => none

/-- `TransferId` (`file_transfer.rs:35`). -/
abbrev TransferId := UInt64

/-- `TransferEnd` (`file_transfer.rs:45-50`). -/
inductive TransferEnd where
  | completed
  | cancelled
  deriving DecidableEq, Repr

/-- `TransferState` (`file_transfer.rs:54-61`). -/
structure TransferState where
  received : UInt64
  total : UInt64
  ended : Option TransferEnd
  deriving DecidableEq

/-- `ReceiveTracker` (`file_transfer.rs:90-94`). -/
structure ReceiveTracker (blake3 : Blake3) where
  states : HashMap TransferId TransferState
  hashes : HashMap TransferId blake3.Hasher
  nextId : TransferId

/-- A byte slice; there are fewer than `2 ^ 64` bytes to a slice. -/
abbrev Slice := { bytes : List UInt8 // bytes.length < 2 ^ 64 }

/-- `<[u8]>::len`. -/
def Slice.len (slice : Slice) : UInt64 := UInt64.ofNat slice.1.length

namespace ReceiveTracker

variable {blake3 : Blake3}

/-- `ReceiveTracker::default`. -/
def default : ReceiveTracker blake3 := { states := ∅, hashes := ∅, nextId := 0 }

/-- The transfers that have not ended. -/
def active (tracker : ReceiveTracker blake3) : Nat :=
  HashMap.countWhere (fun _ state => state.ended.isNone) tracker.states

/-- `ReceiveTracker::begin_with` (`file_transfer.rs:122-140`). -/
def beginWith (tracker : ReceiveTracker blake3) (id : TransferId) (total : UInt64) :
    Except NetError Unit × ReceiveTracker blake3 :=
  if tracker.active ≥ maxConcurrentFileTransfers then (.error .tooManyTransfers, tracker)
  else if (tracker.states.lookup id).isSome then (.error .transferClosed, tracker)
  else
    (.ok (),
      { tracker with
        states := tracker.states.insert id { received := 0, total, ended := none }
        hashes := tracker.hashes.insert id blake3.new })

/-- `ReceiveTracker::begin` (`file_transfer.rs:103-108`). -/
def begin (tracker : ReceiveTracker blake3) (total : UInt64) :
    Except NetError TransferId × ReceiveTracker blake3 :=
  let id := tracker.nextId
  match tracker.beginWith id total with
  | (.error e, tracker) => (.error e, tracker)
  | (.ok (), tracker) => (.ok id, { tracker with nextId := tracker.nextId + 1 })

/-- `ReceiveTracker::apply_chunk` (`file_transfer.rs:150-172`). -/
def applyChunk (tracker : ReceiveTracker blake3) (id : TransferId) (offset len : UInt64) :
    Except NetError Unit × ReceiveTracker blake3 :=
  match tracker.states.lookup id with
  | none => (.error .unknownTransfer, tracker)
  | some state =>
      if state.ended.isSome then (.error .transferClosed, tracker)
      else if offset ≠ state.received then (.error (.chunkGap state.received offset), tracker)
      else
        match checkedAdd64 state.received len with
        | none => (.error .overflow, tracker)
        | some newReceived =>
            if newReceived > state.total then (.error .chunkOverrun, tracker)
            else
              (.ok (),
                { tracker with
                  states := tracker.states.insert id { state with received := newReceived } })

/-- `ReceiveTracker::hash_chunk` (`file_transfer.rs:176-180`). -/
def hashChunk (tracker : ReceiveTracker blake3) (id : TransferId) (bytes : Slice) :
    ReceiveTracker blake3 :=
  { tracker with
    hashes := HashMap.modify id (fun hasher => blake3.update hasher bytes) tracker.hashes }

/-- `ReceiveTracker::end` (`file_transfer.rs:209-214`). -/
def end_ (tracker : ReceiveTracker blake3) (id : TransferId) (how : TransferEnd) :
    ReceiveTracker blake3 :=
  { tracker with
    states := HashMap.modify id (fun state => { state with ended := some how }) tracker.states
    hashes := tracker.hashes.erase id }

/-- `ReceiveTracker::finish` (`file_transfer.rs:186-202`). -/
def finish (tracker : ReceiveTracker blake3) (id : TransferId) (expected : Bytes 32) :
    Bool × ReceiveTracker blake3 :=
  match tracker.hashes.lookup id with
  | none => (false, tracker)
  | some hasher =>
      let ok := blake3.finalize hasher == expected
        && (tracker.states.lookup id).any fun state => state.received == state.total
      (ok, tracker.end_ id (if ok then .completed else .cancelled))

/-- `ReceiveTracker::cancel` (`file_transfer.rs:205-207`). -/
def cancel (tracker : ReceiveTracker blake3) (id : TransferId) : ReceiveTracker blake3 :=
  tracker.end_ id .cancelled

/-- `ReceiveTracker::state` (`file_transfer.rs:218-220`). -/
def state (tracker : ReceiveTracker blake3) (id : TransferId) : Option TransferState :=
  tracker.states.lookup id

end ReceiveTracker

end Lumepeer.Net
