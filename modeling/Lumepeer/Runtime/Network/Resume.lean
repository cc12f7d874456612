import Lumepeer.Runtime.Network.FileSends

/-!
# One file over several streams

A file that goes from one actor to another. The sender's task reads the file and
writes chunks to a stream, and starts again on a new stream when a write fails.
The receiver's reader takes chunks off each stream. Three queues lie between them,
each in order and each as slow as it likes: what the sender's tasks tell their
actor, what the readers tell theirs, and what goes over the control connection to
the sender. A chunk that arrives in part is none. The receiver's disk takes what
it is given, and nothing else of the two actors is at work.
-/

namespace Lumepeer.Runtime
open Lumepeer.Lib Lumepeer.Core Lumepeer.Net
open FileOffers (Path Hash)
open FileTransfers (FileMessage)

/-- The file and what was agreed about it. -/
structure SentFile where
  id : TransferId
  path : Path
  name : String
  content : Slice
  hash : Hash
  destination : Path

namespace Resuming

/-- A stream of chunks, from the sender's task to the receiver's reader. -/
structure Stream where
  /-- Where the sender reads on. -/
  offset : UInt64
  /-- What the reader has not taken yet. -/
  unread : List (UInt64 × Slice) := []
  /-- Nothing more arrives. -/
  cut : Bool := false
  /-- The reader has taken the last byte of the file. -/
  complete : Bool := false
  deriving DecidableEq

/-- What a task of the sender tells its actor. -/
inductive Told where
  | progress (moved : UInt64)
  | failed
  deriving DecidableEq

/-- What a reader tells its actor. -/
inductive Report where
  | progress (moved : UInt64)
  | finished (state : FileTransfers.TransferState)
  deriving DecidableEq

end Resuming

open Resuming in
/-- The two actors and what is between them. -/
structure Resuming (blake3 : Blake3) where
  sender : FileSends
  receiver : FileTransfers blake3
  /-- The stream of each task of the sender. -/
  streams : HashMap Nat Stream := ∅
  told : List Told := []
  reports : List Report := []
  messages : List FileMessage := []
  /-- What lies at the destination. -/
  exported : Option (List UInt8) := none

namespace Resuming
open FileTransfers (TransferState receiveChunk finishTransfer)
variable {blake3 : Blake3}

/-- The sender has started the file, and the receiver has been told. -/
def start (file : SentFile) (blake3 : Blake3) : Resuming blake3 where
  sender :=
    (FileSends.startTransfer { nextTransferId := file.id } file.path file.name file.content.len
      file.hash false).2
  receiver :=
    (FileTransfers.onFileTransferStart
      { fileAccepted := [{
          name := file.name, size := file.content.len, hash := some file.hash
          destination := file.destination, fromClipboard := false }] }
      file.id file.name file.content.len file.hash).2

/-- The stream of a task. -/
def streamOf (state : Resuming blake3) (task : FileSends.SendTask) : Stream :=
  (state.streams.lookup task.number).getD { offset := task.resume }

/-- A slice of at most a chunk. -/
def chunkAt (content : Slice) (offset : UInt64) (len : Nat) : Slice :=
  ⟨(content.1.drop offset.toNat).take (min len fileChunkMaxBytes), by
    have bound := content.2
    rw [List.length_take, List.length_drop]
    omega⟩

/-- One turn of the loop of `send_open` (`file_transfer.rs:663-679`), where `read` gave `len` bytes;
`reported` says whether there was room for the report. -/
def sendChunk (content : Slice) (state : Resuming blake3) (task : FileSends.SendTask) (len : Nat)
    (reported : Bool) : Resuming blake3 :=
  let stream := state.streamOf task
  let chunk := chunkAt content stream.offset len
  if chunk.1 = [] then state
  else
    let offset := stream.offset + chunk.len
    { state with
      streams := state.streams.insert task.number { stream with
        offset
        unread := if stream.cut then stream.unread else stream.unread ++ [(stream.offset, chunk)] }
      told := if reported then state.told ++ [.progress offset] else state.told }

/-- The bytes of the file that the receiver has accepted. -/
def received (file : SentFile) (state : Resuming blake3) : UInt64 :=
  ((state.receiver.inbox.tracker.state file.id).map (·.received)).getD 0

/-- One turn of `read_transfer_stream` (`network.rs:18704-18774`), with the answer of
`apply_chunk`. -/
def readChunk (file : SentFile) (state : Resuming blake3) (number : Nat) :
    Option (Except NetError Unit) × Resuming blake3 :=
  match state.streams.lookup number with
  | none => (none, state)
  | some stream =>
      match stream.unread with
      | [] => (none, state)
      | (offset, bytes) :: unread =>
          let inbox := state.receiver.inbox
          -- `wait_for_start` waits.
          if (inbox.expected.lookup file.id).isNone then (none, state)
          else
            match (inbox.tracker.applyChunk file.id offset bytes.len).1 with
            | .error e =>
                (some (.error e), { state with
                  streams := state.streams.insert number { stream with unread := [], cut := true }
                  reports := state.reports ++ [.finished .failed] })
            | .ok () =>
                let next := receiveChunk inbox file.id offset bytes none
                let complete := (next.tracker.state file.id).any fun entry =>
                  entry.received = entry.total
                let state := { state with
                  receiver := { state.receiver with inbox := next } }
                (some (.ok ()), { state with
                  streams := state.streams.insert number { stream with unread, complete }
                  reports := state.reports ++ [.progress (state.received file)] })

/-- `finish_transfer` (`network.rs:18805-18839`), by the reader of a stream. -/
def finish (file : SentFile) (state : Resuming blake3) (number : Nat) : Resuming blake3 :=
  let inbox := state.receiver.inbox
  match state.streams.lookup number, inbox.expected.lookup file.id with
  | some stream, some (expected, _) =>
      if stream.complete then
        let verified := (inbox.tracker.finish file.id expected).1
        let staged := inbox.staged.lookup file.id
        { state with
          receiver := { state.receiver with inbox := finishTransfer inbox file.id }
          streams := state.streams.insert number { stream with complete := false, cut := true }
          exported := if verified then staged.or state.exported else state.exported
          reports := state.reports ++
            [.finished (if verified && staged.isSome then .completed else .failed)] }
      else state
  | _, _ => state

/-- The sender's actor gets a message. -/
def hear (sender : FileSends) (message : FileMessage) : FileSends :=
  match message.kind with
  | .fileChunkAck id offset => sender.onFileChunkAck id offset
  | .fileAbort id => sender.cancelTransfer id (.file id message.incoming)
  | _ => sender

/-- What happens. -/
inductive Happening where
  | connected
  | connectionLost
  | connectFailed
  | control (connected : Bool)
  | grants (mayTransferFiles : Bool)
  /-- The receiver's start task has its turn. -/
  | begins
  | chunk (number : Nat) (len : Nat) (reported : Bool)
  /-- A write of the sender's task fails. -/
  | fails (number : Nat)
  /-- The sender's task is at the end of the file. -/
  | ends (number : Nat)
  /-- A stream breaks; all but its first chunks are lost. -/
  | cut (number : Nat) (arrived : Nat)
  | read (number : Nat)
  | finish (number : Nat)
  /-- The sender's actor takes an event of its task. -/
  | told
  /-- The receiver's actor takes an event of a reader. -/
  | report
  /-- A message of the receiver gets to the sender's actor. -/
  | message

/-- The answer of `apply_chunk`, if there was one. -/
abbrev Answer := Option (Except NetError Unit)

/-- One step of one of them. -/
def step (file : SentFile) (state : Resuming blake3) : Happening → Answer × Resuming blake3
  | .connected => (none, { state with sender := state.sender.onFileConnected.2 })
  | .connectionLost => (none, { state with sender := { state.sender with fileConn := false } })
  | .connectFailed => (none, { state with sender := { state.sender with filePendingSends := [] } })
  | .control connected => (none, { state with sender := { state.sender with connected } })
  | .grants mayTransferFiles =>
      (none, { state with sender := { state.sender with mayTransferFiles } })
  | .begins =>
      match state.receiver.inboxTasks with
      | [] => (none, state)
      | task :: tasks =>
          (none, { state with
            receiver := { state.receiver with inboxTasks := tasks }.runInboxTask true task })
  | .chunk number len reported =>
      match state.sender.tasks.find? (·.number = number) with
      | none => (none, state)
      | some task => (none, state.sendChunk file.content task len reported)
  | .fails number =>
      match state.sender.tasks.find? (·.number = number) with
      | none => (none, state)
      | some task =>
          (none, { state with
            sender := { state.sender with
              tasks := state.sender.tasks.filter (·.number ≠ task.number) }
            told := state.told ++ [.failed] })
  | .ends number =>
      (none, { state with
        sender := { state.sender with
          tasks := state.sender.tasks.filter fun task =>
            task.number ≠ number ∨ (state.streamOf task).offset ≠ file.content.len } })
  | .cut number arrived =>
      (none, { state with
        streams := HashMap.modify number
          (fun stream => { stream with unread := stream.unread.take arrived, cut := true })
          state.streams })
  | .read number => state.readChunk file number
  | .finish number => (none, state.finish file number)
  | .told =>
      match state.told with
      | [] => (none, state)
      | event :: told =>
          let sender := match event with
            | .progress moved => (state.sender.onFileProgress file.id moved).2
            | .failed => (state.sender.onFileFinished file.id .failed).2
          (none, { state with sender, told })
  | .report =>
      match state.reports with
      | [] => (none, state)
      | report :: reports =>
          let answer := match report with
            | .progress moved => state.receiver.onFileProgress file.id moved
            | .finished outcome => state.receiver.onFileFinished file.id outcome
          (none, { state with
            receiver := answer.2, reports, messages := state.messages ++ answer.1 })
  | .message =>
      match state.messages with
      | [] => (none, state)
      | message :: messages => (none, { state with sender := hear state.sender message, messages })

end Resuming

end Lumepeer.Runtime
