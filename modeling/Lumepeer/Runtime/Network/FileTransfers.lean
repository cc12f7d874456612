import Lumepeer.Net.FileTransfer
import Lumepeer.Runtime.Network.FileOffers

/-!
# Transfers of files

What one actor of `crates/runtime/src/network.rs` keeps about the files that move
between it and one peer: the rows of `file_transfers`, the destinations and the
inbox of those that come in, the queue and the tasks of those that go out.
Everything is kept under the id of the transfer, which its sender has chosen.
A task that locks the inbox runs at any time after it was spawned. What a message
or a task is about, a transfer that comes in or one that goes out, is written
beside it; the source has only the id. Directories are left out.
-/

namespace Lumepeer.Runtime
open Lumepeer.Lib Lumepeer.Core Lumepeer.Net

namespace FileTransfers
open FileOffers (Path Hash AcceptedOffer)

/-- `TransferState` (`network.rs:3816-3826`). -/
inductive TransferState where
  | running
  | completed
  | cancelled
  | failed
  deriving DecidableEq

/-- `TransferRow` (`network.rs:3830-3852`). -/
structure TransferRow where
  name : String
  size : UInt64
  moved : UInt64
  incoming : Bool
  state : TransferState
  fromClipboard : Bool
  deriving DecidableEq

/-- `SendJob` (`network.rs:3790-3811`); `resume` is where it goes on from. -/
structure SendJob where
  id : TransferId
  path : Path
  resume : UInt64
  attempts : UInt32
  deriving DecidableEq

/-- `FileInbox` (`network.rs:3753-3758`). -/
structure FileInbox (blake3 : Blake3) where
  tracker : ReceiveTracker blake3 := .default
  staged : HashMap TransferId (List UInt8) := ∅
  expected : HashMap TransferId (Hash × Path) := ∅

/-- A spawned task that waits for the inbox. -/
inductive InboxTask where
  /-- `network.rs:15693-15736`. -/
  | begins (id : TransferId) (size : UInt64) (hash : Hash) (destination : Path)
  /-- `network.rs:14973-14980`. -/
  | cancels (id : TransferId) (incoming : Bool)
  deriving DecidableEq

/-- A message, and whether the transfer comes in at the node that gets it. -/
structure FileMessage where
  kind : MessageKind
  incoming : Bool
  deriving DecidableEq

end FileTransfers

open FileTransfers in
open FileOffers (Path AcceptedOffer) in
/-- The actor's transfers with one peer. -/
structure FileTransfers (blake3 : Blake3) where
  mayTransferFiles : Bool := true
  /-- There is a live connection for files. -/
  connected : Bool := false
  nextTransferId : TransferId := 0
  fileAccepted : List AcceptedOffer := []
  fileTransfers : HashMap TransferId TransferRow := ∅
  fileReceiveDestinations : HashMap TransferId (Path × Bool) := ∅
  filePendingSends : List SendJob := []
  fileSendTasks : List TransferId := []
  fileResumable : HashMap TransferId SendJob := ∅
  inbox : FileInbox blake3 := {}
  inboxTasks : List InboxTask := []
  /-- The ids that this node has chosen for files to the peer. -/
  outgoing : List TransferId := []
  /-- The ids that the peer has chosen for files that this node takes. -/
  incoming : List TransferId := []

namespace FileTransfers
open FileOffers (Path Hash AcceptedOffer)
variable {blake3 : Blake3}

/-! ## Files that go out -/

/-- The loop of `start_pending_sends` (`network.rs:15152-15195`). -/
def startSends : List SendJob → FileTransfers blake3 → FileTransfers blake3
  | [], node => { node with filePendingSends := [] }
  | job :: queue, node =>
      if node.fileSendTasks.length ≥ maxConcurrentFileTransfers then
        { node with filePendingSends := job :: queue }
      else
        startSends queue { node with
          fileResumable := node.fileResumable.insert job.id job
          fileSendTasks := node.fileSendTasks.insert job.id }

/-- `Actor::start_pending_sends` (`network.rs:15148-15196`). -/
def startPendingSends (node : FileTransfers blake3) : FileTransfers blake3 :=
  if node.connected then startSends node.filePendingSends node else node

/-- `Actor::ensure_file_connection` (`network.rs:15110-15137`); a connection that is dialed comes up
later. -/
def ensureFileConnection (node : FileTransfers blake3) : FileTransfers blake3 :=
  node.startPendingSends

/-- The start of a file that the peer has accepted (`network.rs:15591-15626`, `15849-15884`). -/
def startTransfer (node : FileTransfers blake3) (path : Path) (name : String) (size : UInt64)
    (hash : Hash) (fromClipboard : Bool) : List FileMessage × FileTransfers blake3 :=
  let id := node.nextTransferId
  let row : TransferRow :=
    { name, size, moved := 0, incoming := false, state := .running, fromClipboard }
  let job : SendJob := { id, path, resume := 0, attempts := 0 }
  let next := { node with
    nextTransferId := id + 1
    fileTransfers := node.fileTransfers.insert id row
    filePendingSends := node.filePendingSends ++ [job]
    outgoing := node.outgoing ++ [id] }
  ([{ kind := .fileTransferStart id name size hash, incoming := true }], next.ensureFileConnection)

/-- `Actor::on_file_chunk_ack` (`network.rs:15891-15905`). -/
def onFileChunkAck (node : FileTransfers blake3) (id : TransferId) (offset : UInt64) :
    FileTransfers blake3 :=
  match node.fileTransfers.lookup id with
  | none => node
  | some row =>
      if row.incoming then node
      else
        let row := { row with moved := min offset row.size }
        if offset ≥ row.size then
          { node with
            fileTransfers := node.fileTransfers.insert id { row with state := .completed }
            fileSendTasks := node.fileSendTasks.erase id }
        else { node with fileTransfers := node.fileTransfers.insert id row }

/-- `Actor::resume_send` (`network.rs:15459-15509`); `none` if the file is not picked up again. -/
def resumeSend (node : FileTransfers blake3) (id : TransferId) : Option (FileTransfers blake3) := do
  let job ← node.fileResumable.lookup id
  guard (job.attempts < fileResumeAttempts)
  guard node.mayTransferFiles
  let row ← node.fileTransfers.lookup id
  guard (!row.incoming && row.state = .running)
  let again : SendJob :=
    { id, path := job.path, resume := row.moved, attempts := job.attempts + 1 }
  return { node with
    fileSendTasks := node.fileSendTasks.erase id
    fileResumable := node.fileResumable.insert id again
    filePendingSends := node.filePendingSends ++ [again] }.ensureFileConnection

/-! ## Files that come in -/

/-- `Actor::on_file_transfer_start` (`network.rs:15633-15740`). -/
def onFileTransferStart (node : FileTransfers blake3) (id : TransferId) (name : String)
    (size : UInt64) (hash : Hash) : List FileMessage × FileTransfers blake3 :=
  let abort : List FileMessage := [{ kind := .fileAbort id, incoming := false }]
  if !node.mayTransferFiles then (abort, node)
  else
    match node.fileAccepted with
    | [] => (abort, node)
    | accepted :: rest =>
        let popped := { node with fileAccepted := rest }
        if accepted.name ≠ name || accepted.size ≠ size || accepted.hash.any (· ≠ hash) then
          (abort, popped)
        else
          let row : TransferRow :=
            { name := accepted.name, size, moved := 0, incoming := true, state := .running
              fromClipboard := accepted.fromClipboard }
          let begins : InboxTask := .begins id size hash accepted.destination
          let next := { popped with
            fileTransfers := node.fileTransfers.insert id row
            fileReceiveDestinations := node.fileReceiveDestinations.insert id
              (accepted.destination, accepted.fromClipboard)
            inboxTasks := node.inboxTasks ++ [begins]
            incoming := node.incoming ++ [id] }
          ([], next.ensureFileConnection)

/-- The task of a start (`network.rs:15693-15736`); `stagingMade` says whether a staging file could be
made. -/
def beginReceive (inbox : FileInbox blake3) (id : TransferId) (size : UInt64) (hash : Hash)
    (destination : Path) (stagingMade : Bool) : FileInbox blake3 :=
  match inbox.tracker.beginWith id size with
  | (.error _, tracker) => { inbox with tracker }
  | (.ok (), tracker) =>
      if stagingMade then
        { tracker
          staged := inbox.staged.insert id []
          expected := inbox.expected.insert id (hash, destination) }
      else { inbox with tracker := tracker.cancel id }

/-- The task of a cancelled transfer (`network.rs:14973-14980`). -/
def cancelReceive (inbox : FileInbox blake3) (id : TransferId) : FileInbox blake3 where
  tracker := inbox.tracker.cancel id
  expected := inbox.expected.erase id
  staged := inbox.staged.erase id

/-- One chunk of a stream (`network.rs:18714-18752`); `torn` says after how many bytes an `append` that
fails stops. -/
def receiveChunk (inbox : FileInbox blake3) (id : TransferId) (offset : UInt64) (bytes : Slice)
    (torn : Option Nat) : FileInbox blake3 :=
  if (inbox.expected.lookup id).isNone then inbox
  else
    match inbox.tracker.applyChunk id offset bytes.len with
    | (.error _, tracker) => { inbox with tracker }
    | (.ok (), tracker) =>
        match torn, inbox.staged.lookup id with
        | some written, some staged =>
            { inbox with
              tracker := tracker.cancel id
              staged := inbox.staged.insert id (staged ++ bytes.1.take written) }
        | _, _ =>
            { inbox with
              tracker := tracker.hashChunk id bytes
              staged := HashMap.modify id (· ++ bytes.1) inbox.staged }

/-- `finish_transfer` (`network.rs:18805-18839`), as far as it is about the inbox. -/
def finishTransfer (inbox : FileInbox blake3) (id : TransferId) : FileInbox blake3 :=
  match inbox.expected.lookup id with
  | none => inbox
  | some (hash, _) =>
      { tracker := (inbox.tracker.finish id hash).2
        expected := inbox.expected.erase id
        staged := inbox.staged.erase id }

/-! ## Both -/

/-- `Actor::cancel_transfer` (`network.rs:14962-14984`). -/
def cancelTransfer (node : FileTransfers blake3) (id : TransferId) (incoming : Bool) :
    FileTransfers blake3 :=
  { node with
    fileSendTasks := node.fileSendTasks.erase id
    fileResumable := node.fileResumable.erase id
    fileTransfers := HashMap.modify id
      (fun row => if row.state = .running then { row with state := .cancelled } else row)
      node.fileTransfers
    inboxTasks := node.inboxTasks ++ [.cancels id incoming] }

/-- `Actor::on_file_abort` (`network.rs:14937-14958`). -/
def onFileAbort (node : FileTransfers blake3) (id : TransferId) :
    List FileMessage × FileTransfers blake3 :=
  match node.fileTransfers.lookup id with
  | none => ([], node)
  | some row =>
      -- What goes out here comes in there.
      ([{ kind := .fileAbort id, incoming := !row.incoming }], node.cancelTransfer id row.incoming)

/-- `Actor::on_file_progress` (`network.rs:15358-15380`). -/
def onFileProgress (node : FileTransfers blake3) (id : TransferId) (moved : UInt64) :
    List FileMessage × FileTransfers blake3 :=
  match node.fileTransfers.lookup id with
  | none => ([], node)
  | some row =>
      let next := { node with fileTransfers := node.fileTransfers.insert id { row with moved } }
      if row.incoming && moved < row.size then
        ([{ kind := .fileChunkAck id moved, incoming := false }], next)
      else ([], next)

/-- `Actor::on_file_finished` (`network.rs:15383-15443`). -/
def onFileFinished (node : FileTransfers blake3) (id : TransferId) (state : TransferState) :
    List FileMessage × FileTransfers blake3 :=
  let resumed := if state = .failed then node.resumeSend id else none
  match resumed with
  | some next => ([], next)
  | none =>
      match node.fileTransfers.lookup id with
      | none => ([], node)
      | some row =>
          let moved := if state = .completed then row.size else row.moved
          let ended := { node with
            fileTransfers := node.fileTransfers.insert id { row with state, moved }
            fileSendTasks := node.fileSendTasks.erase id
            fileResumable := node.fileResumable.erase id
            fileReceiveDestinations := node.fileReceiveDestinations.erase id }
          let next := ended.startPendingSends
          if row.incoming then
            match state with
            | .completed => ([{ kind := .fileChunkAck id row.size, incoming := false }], next)
            | .failed => ([{ kind := .fileAbort id, incoming := false }], next)
            | .cancelled => ([{ kind := .fileAbort id, incoming := false }], next)
            | .running => ([], next)
          else ([], next)

/-! ## Two actors -/

/-- What a user or a task does. -/
inductive Action where
  /-- The peer has accepted a file, and a copied one is hashed. -/
  | send (path : Path) (name : String) (size : UInt64) (hash : Hash) (fromClipboard : Bool)
  /-- An id is chosen for another peer or for a directory. -/
  | elsewhere
  /-- The user has accepted a file. -/
  | accept (offer : AcceptedOffer)
  | fileConnected
  | connectionLost
  | connectFailed
  /-- The task of a file that goes out. -/
  | sendProgress (id : TransferId) (moved : UInt64)
  | sendFailed (id : TransferId)
  /-- The stream of a file that comes in. -/
  | receiveProgress (id : TransferId) (moved : UInt64)
  | receiveFinished (id : TransferId) (state : TransferState)
  | chunk (id : TransferId) (offset : UInt64) (bytes : Slice) (torn : Option Nat)
  | finish (id : TransferId)
  /-- The user stops a transfer. -/
  | abort (id : TransferId)
  /-- A task that waits for the inbox has its turn. -/
  | inboxTask (position : Nat) (stagingMade : Bool)
  | grants (mayTransferFiles : Bool)

/-- A task has its turn. -/
def runInboxTask (node : FileTransfers blake3) (stagingMade : Bool) : InboxTask → FileTransfers blake3
  | .begins id size hash destination =>
      { node with inbox := beginReceive node.inbox id size hash destination stagingMade }
  | .cancels id _ => { node with inbox := cancelReceive node.inbox id }

/-- One step of the user or of a task. There is a task for each transfer that goes out and a stream
for each that comes in. -/
def act (node : FileTransfers blake3) : Action → List FileMessage × FileTransfers blake3
  | .send path name size hash fromClipboard => node.startTransfer path name size hash fromClipboard
  | .elsewhere => ([], { node with nextTransferId := node.nextTransferId + 1 })
  | .accept offer => ([], { node with fileAccepted := node.fileAccepted ++ [offer] })
  | .fileConnected => ([], { node with connected := true }.startPendingSends)
  | .connectionLost => ([], { node with connected := false })
  | .connectFailed => ([], { node with filePendingSends := [] })
  | .sendProgress id moved => if id ∈ node.outgoing then node.onFileProgress id moved else ([], node)
  | .sendFailed id => if id ∈ node.outgoing then node.onFileFinished id .failed else ([], node)
  | .receiveProgress id moved => if id ∈ node.incoming then node.onFileProgress id moved else ([], node)
  | .receiveFinished id state =>
      if id ∈ node.incoming then node.onFileFinished id state else ([], node)
  | .chunk id offset bytes torn =>
      if id ∈ node.incoming then
        ([], { node with inbox := receiveChunk node.inbox id offset bytes torn })
      else ([], node)
  | .finish id =>
      if id ∈ node.incoming then ([], { node with inbox := finishTransfer node.inbox id })
      else ([], node)
  | .abort id => node.onFileAbort id
  | .inboxTask position stagingMade =>
      match node.inboxTasks[position]? with
      | none => ([], node)
      | some task =>
          ([], { node with inboxTasks := node.inboxTasks.eraseIdx position }.runInboxTask stagingMade
            task)
  | .grants mayTransferFiles => ([], { node with mayTransferFiles })

/-- A message comes in (`network.rs:12072-12091`). -/
def receive (node : FileTransfers blake3) (message : FileMessage) :
    List FileMessage × FileTransfers blake3 :=
  match message.kind with
  | .fileTransferStart id name size hash => node.onFileTransferStart id name size hash
  | .fileChunkAck id offset => ([], node.onFileChunkAck id offset)
  | .fileAbort id => ([], node.cancelTransfer id message.incoming)
  | _ => ([], node)

/-- Either of two actors. -/
def peer : Party (FileTransfers blake3) FileMessage Action Unit where
  act := act
  receive node message _ := node.receive message

end FileTransfers

end Lumepeer.Runtime
