import Lumepeer.Runtime.Network.FileTransfers

/-!
# Files and directories that go out

What one actor of `crates/runtime/src/network.rs` keeps about the files that it
sends to one peer, with the directories that are sent as a whole: their rows, the
queue of `file_pending_sends`, the handles of `file_send_tasks` and the tasks
behind them, and the directories that are being hashed. Removing a handle stops
no task; only `abort` does. Files that come in are here as far as they share the
rows, the groups and the inbox. What a task reports may come in at any later time,
and what a dial or the disk does is an argument.
-/

namespace Lumepeer.Runtime
open Lumepeer.Lib Lumepeer.Core
open Lumepeer.Net (TransferId)

namespace FileSends
open FileOffers (Path Hash)
open FileTransfers (TransferRow TransferState)

/-- `SendJob` (`network.rs:3790-3811`); `resume` is where it goes on from. -/
structure SendJob where
  id : TransferId
  path : Path
  resume : UInt64
  attempts : UInt32
  announce : Option (String × UInt64 × Hash)
  deriving DecidableEq

/-- `DirGroup` (`network.rs:3729-3733`). -/
structure DirGroup where
  name : String
  incoming : Bool
  members : List TransferId
  deriving DecidableEq

/-- A task of `spawn_send` (`network.rs:15211-15267`). -/
structure SendTask where
  number : Nat
  id : TransferId
  resume : UInt64
  deriving DecidableEq

/-- The task that hashes an accepted directory (`network.rs:8195-8220`). -/
structure Hashing where
  group : TransferId
  files : List (TransferId × Path)
  deriving DecidableEq

/-- What is to be cancelled: a file or a directory, that comes in or goes out. The source has only
the ids that it goes through. -/
inductive Meant where
  | file (id : TransferId) (incoming : Bool)
  | directory (group : TransferId) (incoming : Bool)
  deriving DecidableEq

/-- What is to be cancelled comes in. -/
def Meant.incoming : Meant → Bool
  | .file _ incoming => incoming
  | .directory _ incoming => incoming

/-- A task of `cancel_transfer` (`network.rs:14973-14980`). -/
structure CancelTask where
  id : TransferId
  meant : Meant
  deriving DecidableEq

/-- What a step sends, and the transfer that a chunk was sent of. -/
structure Out where
  sent : List MessageKind := []
  chunk : Option TransferId := none
  deriving DecidableEq

end FileSends

open FileSends FileTransfers in
/-- The actor's transfers with one peer. -/
structure FileSends where
  mayTransferFiles : Bool := true
  /-- There is a control connection. -/
  connected : Bool := true
  /-- There is a live connection for files. -/
  fileConn : Bool := false
  nextTransferId : TransferId := 0
  fileTransfers : HashMap TransferId TransferRow := ∅
  filePendingSends : List FileSends.SendJob := []
  /-- `file_send_tasks`, with the number of each task. -/
  fileSendTasks : HashMap TransferId Nat := ∅
  fileResumable : HashMap TransferId FileSends.SendJob := ∅
  dirGroups : HashMap TransferId DirGroup := ∅
  /-- There is a file channel. -/
  fileChannel : Bool := false
  /-- The send tasks that run. -/
  tasks : List SendTask := []
  nextTask : Nat := 0
  hashing : List Hashing := []
  /-- The start tasks that wait for the inbox. -/
  begins : List TransferId := []
  cancels : List CancelTask := []
  /-- The ids under which the inbox has a staging file. -/
  staged : List TransferId := []
  /-- The files of this node that were cancelled. -/
  cancelled : List TransferId := []
  /-- The directory that a file goes out with. -/
  directoryOut : HashMap TransferId TransferId := ∅
  /-- The directory that a file comes in with. -/
  directoryIn : HashMap TransferId TransferId := ∅

namespace FileSends
open FileOffers (Path Hash)
open FileTransfers (TransferRow TransferState)

/-! ## The queue -/

/-- `Actor::spawn_send` (`network.rs:15205-15270`). -/
def spawnSend (node : FileSends) (job : SendJob) : FileSends :=
  { node with
    tasks := node.tasks ++ [{ number := node.nextTask, id := job.id, resume := job.resume }]
    fileSendTasks := node.fileSendTasks.insert job.id node.nextTask
    nextTask := node.nextTask + 1 }

/-- The `FileTransferStart` of a job that has not announced itself. -/
def announcement (job : SendJob) : List MessageKind :=
  match job.announce with
  | none => []
  | some (name, size, hash) => [.fileTransferStart job.id name size hash]

/-- The loop of `start_pending_sends` (`network.rs:15152-15195`). -/
def startSends : List SendJob → FileSends → List MessageKind × FileSends
  | [], node => ([], { node with filePendingSends := [] })
  | job :: queue, node =>
      if node.fileSendTasks.entries.length ≥ maxConcurrentFileTransfers then
        ([], { node with filePendingSends := job :: queue })
      else
        let started := { node with
          fileResumable := node.fileResumable.insert job.id { job with announce := none } }
        let rest := startSends queue (started.spawnSend job)
        (announcement job ++ rest.1, rest.2)

/-- `Actor::start_pending_sends` (`network.rs:15148-15196`). -/
def startPendingSends (node : FileSends) : List MessageKind × FileSends :=
  if node.fileConn then startSends node.filePendingSends node else ([], node)

/-- `Actor::ensure_file_connection` (`network.rs:15110-15137`); a connection that is dialed comes up
later. -/
def ensureFileConnection (node : FileSends) : List MessageKind × FileSends :=
  node.startPendingSends

/-- Queues a job, and starts what can be started. -/
def enqueue (node : FileSends) (job : SendJob) : List MessageKind × FileSends :=
  { node with filePendingSends := node.filePendingSends ++ [job] }.ensureFileConnection

/-- The row of a file that starts to go out. -/
def outgoingRow (name : String) (size : UInt64) (fromClipboard : Bool) : TransferRow :=
  { name, size, moved := 0, incoming := false, state := .running, fromClipboard }

/-- The start of a file that the peer has accepted (`network.rs:15591-15626`, `15849-15884`). -/
def startTransfer (node : FileSends) (path : Path) (name : String) (size : UInt64) (hash : Hash)
    (fromClipboard : Bool) : List MessageKind × FileSends :=
  if !node.mayTransferFiles then ([], node)
  else
    let id := node.nextTransferId
    let queued := { node with
      nextTransferId := id + 1
      fileTransfers := node.fileTransfers.insert id (outgoingRow name size fromClipboard) }.enqueue
        { id, path, resume := 0, attempts := 0, announce := none }
    (.fileTransferStart id name size hash :: queued.1, queued.2)

/-- `Actor::on_file_chunk_ack` (`network.rs:15891-15905`). -/
def onFileChunkAck (node : FileSends) (id : TransferId) (offset : UInt64) : FileSends :=
  match node.fileTransfers.lookup id with
  | none => node
  | some row =>
      if row.incoming then node
      else
        let row := { row with moved := min offset row.size }
        if offset ≥ row.size then
          { node with
            fileTransfers := node.fileTransfers.insert id { row with state := .completed }
            fileSendTasks := node.fileSendTasks.erase id }
        else { node with fileTransfers := node.fileTransfers.insert id row }

/-- `Actor::resume_send` (`network.rs:15459-15509`); `none` if the file is not picked up again. -/
def resumeSend (node : FileSends) (id : TransferId) : Option (List MessageKind × FileSends) := do
  let job ← node.fileResumable.lookup id
  guard (job.attempts < fileResumeAttempts)
  guard (node.mayTransferFiles && node.connected)
  let row ← node.fileTransfers.lookup id
  guard (!row.incoming && row.state = .running)
  let again : SendJob :=
    { id, path := job.path, resume := row.moved, attempts := job.attempts + 1, announce := none }
  return { node with
    fileSendTasks := node.fileSendTasks.erase id
    fileResumable := node.fileResumable.insert id again }.enqueue again

/-- `Actor::on_file_finished` (`network.rs:15383-15443`). -/
def onFileFinished (node : FileSends) (id : TransferId) (state : TransferState) :
    List MessageKind × FileSends :=
  match if state = .failed then node.resumeSend id else none with
  | some resumed => resumed
  | none =>
      match node.fileTransfers.lookup id with
      | none => ([], node)
      | some row =>
          let moved := if state = .completed then row.size else row.moved
          let next := { node with
            fileTransfers := node.fileTransfers.insert id { row with state, moved }
            fileSendTasks := node.fileSendTasks.erase id
            fileResumable := node.fileResumable.erase id }.startPendingSends
          let answer : List MessageKind :=
            if row.incoming then
              match state with
              | .completed => [.fileChunkAck id row.size]
              | .failed | .cancelled => [.fileAbort id]
              | .running => []
            else []
          (answer ++ next.1, next.2)

/-- `Actor::on_file_progress` (`network.rs:15358-15380`). -/
def onFileProgress (node : FileSends) (id : TransferId) (moved : UInt64) :
    List MessageKind × FileSends :=
  match node.fileTransfers.lookup id with
  | none => ([], node)
  | some row =>
      let next := { node with fileTransfers := node.fileTransfers.insert id { row with moved } }
      if row.incoming && moved < row.size then ([.fileChunkAck id moved], next) else ([], next)

/-- `Actor::on_file_connected` (`network.rs:15339-15355`). -/
def onFileConnected (node : FileSends) : List MessageKind × FileSends :=
  if !node.connected || !node.mayTransferFiles then ([], node)
  else { node with fileConn := true, fileChannel := true }.startPendingSends

/-! ## Cancelling -/

/-- `task.abort()` for the task of `id`, with its handle. -/
def abortTask (node : FileSends) (id : TransferId) : FileSends :=
  match node.fileSendTasks.lookup id with
  | none => node
  | some number =>
      { node with
        tasks := node.tasks.filter (·.number ≠ number)
        fileSendTasks := node.fileSendTasks.erase id }

/-- `Actor::cancel_transfer` (`network.rs:14962-14984`). -/
def cancelTransfer (node : FileSends) (id : TransferId) (meant : Meant) : FileSends :=
  let aborted := node.abortTask id
  { aborted with
    fileResumable := node.fileResumable.erase id
    fileTransfers := HashMap.modify id
      (fun row => if row.state = .running then { row with state := .cancelled } else row)
      node.fileTransfers
    cancels := if node.fileChannel then node.cancels ++ [{ id, meant }] else node.cancels
    cancelled := if !meant.incoming && (node.fileTransfers.lookup id).isSome then
      id :: node.cancelled else node.cancelled }

/-- Cancels the files of a directory. -/
def cancelAll (ids : List TransferId) (meant : Meant) (node : FileSends) : FileSends :=
  ids.foldl (fun node id => node.cancelTransfer id meant) node

/-- `Actor::group_members` (`network.rs:8281-8285`). -/
def groupMembers (node : FileSends) (id : TransferId) : Option (List TransferId) :=
  (node.dirGroups.lookup id).map (·.members)

/-- `Actor::on_file_abort` (`network.rs:14937-14958`). -/
def onFileAbort (node : FileSends) (id : TransferId) : List MessageKind × FileSends :=
  match node.dirGroups.lookup id with
  | some group =>
      (group.members.map .fileAbort,
        { cancelAll group.members (.directory id group.incoming) node with filePendingSends := [] })
  | none =>
      match node.fileTransfers.lookup id with
      | none => ([], node)
      | some row => ([.fileAbort id], node.cancelTransfer id (.file id row.incoming))

/-! ## Directories -/

/-- The rows of the files of a directory (`network.rs:8148-8177`). -/
def addMembers (group : TransferId) :
    List (String × Path × UInt64) → FileSends → List (TransferId × Path) × FileSends
  | [], node => ([], node)
  | (name, path, size) :: files, node =>
      let id := node.nextTransferId
      let rest := addMembers group files { node with
        nextTransferId := id + 1
        fileTransfers := node.fileTransfers.insert id (outgoingRow name size false)
        directoryOut := node.directoryOut.insert id group }
      ((id, path) :: rest.1, rest.2)

/-- `Actor::on_dir_accept_inbound` (`network.rs:8126-8221`), for a directory that the peer accepts;
`files` are those of its manifest with a name of their own. -/
def onDirAcceptInbound (node : FileSends) (name : String) (files : List (String × Path × UInt64)) :
    FileSends :=
  if !node.mayTransferFiles then node
  else
    let group := node.nextTransferId
    let added := addMembers group files { node with nextTransferId := group + 1 }
    { added.2 with
      dirGroups := node.dirGroups.insert group
        { name, incoming := false, members := added.1.map (·.1) }
      hashing := node.hashing ++ [{ group, files := added.1 }] }

/-- A file of a directory, hashed. -/
structure Prepared where
  id : TransferId
  path : Path
  name : String
  size : UInt64
  hash : Hash
  deriving DecidableEq

/-- What the hashing task reports, where `prepare` is what `prepare_offer` makes of each path. -/
def prepareAll (prepare : Path → Option (String × UInt64 × Hash)) :
    List (TransferId × Path) → Option (List Prepared)
  | [] => some []
  | (id, path) :: files =>
      match prepare path with
      | none => none
      | some (name, size, hash) =>
          (prepareAll prepare files).map ({ id, path, name, size, hash } :: ·)

/-- The file is not the size that its row has. -/
def misfits (node : FileSends) (file : Prepared) : Bool :=
  (node.fileTransfers.lookup file.id).all (·.size ≠ file.size)

/-- The job of a file of a directory. -/
def jobOf (file : Prepared) : SendJob :=
  { id := file.id, path := file.path, resume := 0, attempts := 0
    announce := some (file.name, file.size, file.hash) }

/-- Queues the files of a directory up to the first that does not fit (`network.rs:8243-8269`), and
whether all do. -/
def queueFiles : List Prepared → FileSends → Bool × FileSends
  | [], node => (true, node)
  | file :: files, node =>
      if node.misfits file then (false, node)
      else queueFiles files { node with filePendingSends := node.filePendingSends ++ [jobOf file] }

/-- The files of a group are cancelled, if it is still there (`network.rs:8236-8240`,
`8256-8260`). -/
def cancelGroup (node : FileSends) (group : TransferId) : FileSends :=
  match node.groupMembers group with
  | none => node
  | some members => cancelAll members (.directory group false) node

/-- `Actor::on_dir_files_ready` (`network.rs:8229-8278`). -/
def onDirFilesReady (node : FileSends) (group : TransferId) (files : Option (List Prepared)) :
    List MessageKind × FileSends :=
  if !node.mayTransferFiles then ([], node)
  else
    match files with
    | none => ([], node.cancelGroup group)
    | some files =>
        let queued := queueFiles files node
        if queued.1 then queued.2.ensureFileConnection else ([], queued.2.cancelGroup group)

/-- The ids of the files of a directory that comes in (`network.rs:8085-8109`). -/
def takeIds : Nat → TransferId → List TransferId
  | 0, _ => []
  | count + 1, id => id :: takeIds count (id + 1)

/-- The end of `accept_dir_offer` (`network.rs:8083-8122`), for `count` files. -/
def acceptDirOffer (node : FileSends) (name : String) (count : Nat) :
    List MessageKind × FileSends :=
  let group := node.nextTransferId
  let next := { node with
    nextTransferId := group + 1 + UInt64.ofNat count
    dirGroups := node.dirGroups.insert group
      { name, incoming := true, members := takeIds count (group + 1) } }.ensureFileConnection
  (.dirAccept true :: next.1, next.2)

/-! ## Files that come in -/

/-- `Actor::on_file_transfer_start` (`network.rs:15633-15740`), for a start that describes the
accepted offer before it. -/
def onFileTransferStart (node : FileSends) (id : TransferId) (name : String) (size : UInt64)
    (fromClipboard : Bool) (directory : Option TransferId) : List MessageKind × FileSends :=
  { node with
    fileTransfers := node.fileTransfers.insert id
      { name, size, moved := 0, incoming := true, state := .running, fromClipboard }
    fileChannel := true
    begins := node.begins ++ [id]
    directoryIn := match directory with
      | none => node.directoryIn.erase id
      | some group => node.directoryIn.insert id group }.ensureFileConnection

/-- `Actor::abandon_file_transfers` (`network.rs:15930-15977`). What waits for the inbox or is
staged in it is no longer this peer's. -/
def abandonFileTransfers (node : FileSends) : FileSends :=
  { node with
    fileConn := false
    filePendingSends := []
    tasks := node.tasks.filter fun task =>
      node.fileSendTasks.entries.all fun entry => entry.2 ≠ task.number
    fileSendTasks := ∅
    fileTransfers := ∅
    fileResumable := ∅
    dirGroups := ∅
    fileChannel := false
    begins := []
    cancels := []
    staged := [] }

/-- What happens. -/
inductive Happening where
  /-- The peer has accepted a file, or a copied one is hashed. -/
  | startTransfer (path : Path) (name : String) (size : UInt64) (hash : Hash) (fromClipboard : Bool)
  | dirAccepted (name : String) (files : List (String × Path × UInt64))
  /-- A directory is hashed, or one of its files cannot be read. -/
  | dirFilesReady (position : Nat) (prepare : Path → Option (String × UInt64 × Hash))
  /-- A directory that the peer offers is accepted. -/
  | acceptDir (name : String) (count : Nat)
  | transferStart (id : TransferId) (name : String) (size : UInt64) (fromClipboard : Bool)
      (directory : Option TransferId)
  | beginTask (position : Nat) (made : Bool)
  | cancelTask (position : Nat)
  /-- A file that came in is exported or discarded. -/
  | unstaged (id : TransferId)
  | chunkAck (id : TransferId) (offset : UInt64)
  /-- `FileAbort` of the peer, for a file that comes in or goes out here. -/
  | peerAbort (id : TransferId) (incoming : Bool)
  | userAbort (id : TransferId)
  | progress (id : TransferId) (moved : UInt64)
  /-- A transfer is over on this side. -/
  | completed (id : TransferId)
  | failed (id : TransferId)
  /-- A send task sends a chunk. -/
  | chunk (number : Nat)
  | taskEnds (number : Nat)
  | fileConnected
  | connectFailed
  | connectionLost
  | abandon
  | grants (mayTransferFiles : Bool)
  | control (connected : Bool)
  /-- An id is chosen for another peer. -/
  | elsewhere

/-- What a handler sends is all that goes out. -/
def quiet (result : List MessageKind × FileSends) : Out × FileSends :=
  ({ sent := result.1 }, result.2)

/-- One step of the actor. -/
def step (node : FileSends) : Happening → Out × FileSends
  | .startTransfer path name size hash fromClipboard =>
      quiet (node.startTransfer path name size hash fromClipboard)
  | .dirAccepted name files => ({}, node.onDirAcceptInbound name files)
  | .dirFilesReady position prepare =>
      match node.hashing[position]? with
      | none => ({}, node)
      | some hashing =>
          let later := { node with hashing := node.hashing.eraseIdx position }
          quiet (later.onDirFilesReady hashing.group (prepareAll prepare hashing.files))
  | .acceptDir name count => quiet (node.acceptDirOffer name count)
  | .transferStart id name size fromClipboard directory =>
      quiet (node.onFileTransferStart id name size fromClipboard directory)
  | .beginTask position made =>
      match node.begins[position]? with
      | none => ({}, node)
      | some id =>
          ({}, { node with
            begins := node.begins.eraseIdx position
            staged := if made then node.staged ++ [id] else node.staged })
  | .cancelTask position =>
      match node.cancels[position]? with
      | none => ({}, node)
      | some task =>
          ({}, { node with
            cancels := node.cancels.eraseIdx position
            staged := node.staged.filter (· ≠ task.id) })
  | .unstaged id => ({}, { node with staged := node.staged.filter (· ≠ id) })
  | .chunkAck id offset => ({}, node.onFileChunkAck id offset)
  | .peerAbort id incoming => ({}, node.cancelTransfer id (.file id incoming))
  | .userAbort id => quiet (node.onFileAbort id)
  | .progress id moved => quiet (node.onFileProgress id moved)
  | .completed id => quiet (node.onFileFinished id .completed)
  | .failed id => quiet (node.onFileFinished id .failed)
  | .chunk number =>
      match node.tasks.find? (·.number = number) with
      | none => ({}, node)
      | some task => ({ chunk := some task.id }, node)
  | .taskEnds number => ({}, { node with tasks := node.tasks.filter (·.number ≠ number) })
  | .fileConnected => quiet node.onFileConnected
  | .connectFailed => ({}, { node with filePendingSends := [] })
  | .connectionLost => ({}, { node with fileConn := false })
  | .abandon => ({}, node.abandonFileTransfers)
  | .grants mayTransferFiles => ({}, { node with mayTransferFiles })
  | .control connected => ({}, { node with connected })
  | .elsewhere => ({}, { node with nextTransferId := node.nextTransferId + 1 })

end FileSends

end Lumepeer.Runtime
