import Lumepeer.Net.FileTransfer.Proofs.Receive
import Lumepeer.Runtime.Network.FileTransfers

/-!
# Rows of transfers

A row is found by the id of its transfer alone. Each node chooses the ids of what
it sends, so a row has one owner as long as the two nodes do not choose the same
id. `Owns` says that everything a node keeps under an id is about the transfer
of that id's owner; every handler touches one id (`LeavesAlone` says what that
means for the others).
-/

namespace Lumepeer.Runtime.FileTransfers
open Lumepeer.Lib Lumepeer.Core Lumepeer.Net
open FileOffers (Path Hash AcceptedOffer)
variable {blake3 : Blake3}

/-- What the node keeps of a transfer stays as it is, and its task goes on. -/
structure LeavesAlone (id : TransferId) (node next : FileTransfers blake3) : Prop where
  row : next.fileTransfers.lookup id = node.fileTransfers.lookup id
  destination : next.fileReceiveDestinations.lookup id = node.fileReceiveDestinations.lookup id
  staged : next.inbox.staged.lookup id = node.inbox.staged.lookup id
  expected : next.inbox.expected.lookup id = node.inbox.expected.lookup id
  tracked : next.inbox.tracker.state id = node.inbox.tracker.state id
  task : id ∈ node.fileSendTasks → id ∈ next.fileSendTasks

/-- No id is used in both directions. -/
def Apart (node : FileTransfers blake3) : Prop :=
  ∀ id ∈ node.outgoing, id ∉ node.incoming

/-- The transfers of the other direction. -/
def others (node : FileTransfers blake3) (incoming : Bool) : List TransferId :=
  if incoming then node.outgoing else node.incoming

def InboxTask.id : InboxTask → TransferId
  | .begins id _ _ _ => id
  | .cancels id _ => id

def InboxTask.incoming : InboxTask → Bool
  | .begins .. => true
  | .cancels _ incoming => incoming

/-- The transfer that a message is about. -/
def transferOf : MessageKind → Option TransferId
  | .fileTransferStart id _ _ _ => some id
  | .fileChunkAck id _ => some id
  | .fileAbort id => some id
  | _ => none

/-- Whether the step is about a transfer that comes in, if it is about one that is under way. -/
def Action.incoming (node : FileTransfers blake3) : Action → Option Bool
  | .sendProgress .. => some false
  | .sendFailed _ => some false
  | .receiveProgress .. => some true
  | .receiveFinished .. => some true
  | .chunk .. => some true
  | .finish _ => some true
  | .abort id => (node.fileTransfers.lookup id).map TransferRow.incoming
  | .inboxTask position _ => node.inboxTasks[position]?.map InboxTask.incoming
  | _ => none

/-- The same for the step of two nodes. -/
def aboutIncoming (world : Duplex (FileTransfers blake3) FileMessage) :
    DuplexOp Action Unit → Option Bool
  | .act who action => action.incoming (world.node who)
  | .deliver who _ => do
      let message ← (world.inbox who).head?
      let _ ← transferOf message.kind
      return message.incoming

/-- A step about one direction leaves every transfer of the other alone. -/
def OneDirection
    (e : Event (Duplex (FileTransfers blake3) FileMessage) (DuplexOp Action Unit) (List FileMessage)) :
    Prop :=
  ∀ incoming, aboutIncoming e.pre e.op = some incoming →
    ∀ id ∈ (e.pre.node e.op.who).others incoming,
      LeavesAlone id (e.pre.node e.op.who) (e.post.node e.op.who)

/-- A file is sent under an id that the peer has not chosen for a file of its own. -/
def ChoosesOwn (lane : Lane (FileTransfers blake3) FileMessage) : Action → Prop
  | .send .. => lane.sender.nextTransferId ∉ lane.receiver.outgoing
  | _ => True

instance (lane : Lane (FileTransfers blake3) FileMessage) (action : Action) :
    Decidable (ChoosesOwn lane action) := by
  cases action <;> unfold ChoosesOwn <;> infer_instance

/-! ## What a node keeps -/

/-- What stands under an id belongs to the node that chose it: this one, or the peer with its ids
`peerIds`. -/
structure Owns (peerIds : List TransferId) (node : FileTransfers blake3) : Prop where
  known : ∀ id ∈ node.incoming, id ∈ peerIds
  apart : ∀ id ∈ node.outgoing, id ∉ peerIds
  rows : ∀ id row, node.fileTransfers.lookup id = some row →
    id ∈ if row.incoming then node.incoming else node.outgoing
  tasks : ∀ task ∈ node.inboxTasks, task.id ∈ if task.incoming then peerIds else node.outgoing

/-- A message is about an id of the node that sends the file. -/
def Addressed (senderIds receiverIds : List TransferId) (message : FileMessage) : Prop :=
  ∀ id ∈ transferOf message.kind,
    (id ∈ if message.incoming then senderIds else receiverIds) ∧
      ∀ name size hash, message.kind = .fileTransferStart id name size hash → message.incoming = true

/-- Both nodes and all messages between them. -/
structure Owned (lane : Lane (FileTransfers blake3) FileMessage) : Prop where
  sender : Owns lane.receiver.outgoing lane.sender
  receiver : Owns lane.sender.outgoing lane.receiver
  down : ∀ message ∈ lane.down, Addressed lane.sender.outgoing lane.receiver.outgoing message
  up : ∀ message ∈ lane.up, Addressed lane.receiver.outgoing lane.sender.outgoing message

/-- A step that keeps what the node owns. -/
structure Steps (peerIds : List TransferId) (node : FileTransfers blake3)
    (result : List FileMessage × FileTransfers blake3) : Prop where
  owns : Owns peerIds result.2
  grows : ∀ id ∈ node.outgoing, id ∈ result.2.outgoing
  sent : ∀ message ∈ result.1, Addressed result.2.outgoing peerIds message

theorem Owns.isApart {peerIds : List TransferId} {node : FileTransfers blake3}
    (owns : Owns peerIds node) : Apart node :=
  fun id isOutgoing isIncoming => owns.apart id isOutgoing (owns.known id isIncoming)

theorem Owned.flip {lane : Lane (FileTransfers blake3) FileMessage} (owned : Owned lane) :
    Owned lane.flip :=
  { sender := owned.receiver, receiver := owned.sender, down := owned.up, up := owned.down }

theorem Addressed.mono {senderIds receiverIds moreSender moreReceiver : List TransferId}
    {message : FileMessage} (addressed : Addressed senderIds receiverIds message)
    (sender : ∀ id ∈ senderIds, id ∈ moreSender) (receiver : ∀ id ∈ receiverIds, id ∈ moreReceiver) :
    Addressed moreSender moreReceiver message := by
  intro id isTransfer
  obtain ⟨isOwned, starts⟩ := addressed id isTransfer
  refine ⟨?_, starts⟩
  split
  · rename_i isIncoming
    rw [if_pos isIncoming] at isOwned
    exact sender id isOwned
  · rename_i isOutgoing
    rw [if_neg isOutgoing] at isOwned
    exact receiver id isOwned

/-- The sender takes a step. -/
theorem Owned.sends {lane : Lane (FileTransfers blake3) FileMessage}
    {result : List FileMessage × FileTransfers blake3} (owned : Owned lane)
    (steps : Steps lane.receiver.outgoing lane.sender result) : Owned (lane.sends result) where
  sender := steps.owns
  receiver :=
    { known := fun id isIncoming => steps.grows id (owned.receiver.known id isIncoming)
      apart := fun id isOutgoing isSender => steps.owns.apart id isSender isOutgoing
      rows := owned.receiver.rows
      tasks := by
        intro task member
        have isOwned := owned.receiver.tasks task member
        split
        · rename_i isIncoming
          rw [if_pos isIncoming] at isOwned
          exact steps.grows _ isOwned
        · rename_i isOutgoing
          rwa [if_neg isOutgoing] at isOwned }
  down := by
    intro message member
    rcases List.mem_append.mp member with old | isNew
    · exact (owned.down message old).mono steps.grows fun _ => id
    · exact steps.sent message isNew
  up := fun message member => (owned.up message member).mono (fun _ => id) steps.grows

/-! ## Steps that only start what is queued -/

/-- Only the queue and the tasks of what goes out are different, and no task is stopped. -/
structure Kept (node next : FileTransfers blake3) : Prop where
  rows : next.fileTransfers = node.fileTransfers
  destinations : next.fileReceiveDestinations = node.fileReceiveDestinations
  inbox : next.inbox = node.inbox
  inboxTasks : next.inboxTasks = node.inboxTasks
  outgoing : next.outgoing = node.outgoing
  incoming : next.incoming = node.incoming
  tasks : ∀ id ∈ node.fileSendTasks, id ∈ next.fileSendTasks

section
variable {node next last : FileTransfers blake3} {id other : TransferId} {peerIds : List TransferId}

theorem Kept.trans (first : Kept node next) (second : Kept next last) : Kept node last where
  rows := second.rows.trans first.rows
  destinations := second.destinations.trans first.destinations
  inbox := second.inbox.trans first.inbox
  inboxTasks := second.inboxTasks.trans first.inboxTasks
  outgoing := second.outgoing.trans first.outgoing
  incoming := second.incoming.trans first.incoming
  tasks id running := second.tasks id (first.tasks id running)

theorem kept_startSends (queue : List SendJob) : Kept node (startSends queue node) := by
  induction queue generalizing node with
  | nil =>
      exact
        { rows := rfl, destinations := rfl, inbox := rfl, inboxTasks := rfl, outgoing := rfl
          incoming := rfl, tasks := fun _ => id }
  | cons job queue ih =>
      unfold startSends
      split
      · exact
          { rows := rfl, destinations := rfl, inbox := rfl, inboxTasks := rfl, outgoing := rfl
            incoming := rfl, tasks := fun _ => id }
      · refine .trans ?_ ih
        exact
          { rows := rfl, destinations := rfl, inbox := rfl, inboxTasks := rfl, outgoing := rfl
            incoming := rfl, tasks := fun _ => List.mem_insert_of_mem }

theorem kept_startPendingSends : Kept node node.startPendingSends := by
  unfold startPendingSends
  split
  · exact kept_startSends _
  · exact
      { rows := rfl, destinations := rfl, inbox := rfl, inboxTasks := rfl, outgoing := rfl
        incoming := rfl, tasks := fun _ => id }

theorem Kept.leavesAlone (kept : Kept node next) : LeavesAlone id node next where
  row := by rw [kept.rows]
  destination := by rw [kept.destinations]
  staged := by rw [kept.inbox]
  expected := by rw [kept.inbox]
  tracked := by rw [kept.inbox]
  task := kept.tasks id

theorem Kept.owns (kept : Kept node next) (owns : Owns peerIds node) : Owns peerIds next where
  known := by simpa [kept.incoming] using owns.known
  apart := by simpa [kept.outgoing] using owns.apart
  rows := by simpa [kept.rows, kept.incoming, kept.outgoing] using owns.rows
  tasks := by simpa [kept.inboxTasks, kept.outgoing] using owns.tasks

theorem LeavesAlone.trans (first : LeavesAlone id node next) (second : LeavesAlone id next last) :
    LeavesAlone id node last where
  row := second.row.trans first.row
  destination := second.destination.trans first.destination
  staged := second.staged.trans first.staged
  expected := second.expected.trans first.expected
  tracked := second.tracked.trans first.tracked
  task running := second.task (first.task running)

theorem LeavesAlone.refl : LeavesAlone id node node :=
  { row := rfl, destination := rfl, staged := rfl, expected := rfl, tracked := rfl, task := fun running => running }

/-! ## Handlers leave other ids alone -/

theorem leavesAlone_onFileChunkAck (differs : other ≠ id) (offset : UInt64) :
    LeavesAlone other node (node.onFileChunkAck id offset) := by
  unfold onFileChunkAck
  split
  · exact .refl
  · split
    · exact .refl
    · dsimp only
      split
      · exact
          { row := by rw [HashMap.lookup_insert_eq, if_neg differs]
            destination := rfl, staged := rfl, expected := rfl, tracked := rfl
            task := (List.mem_erase_of_ne differs).mpr }
      · exact
          { row := by rw [HashMap.lookup_insert_eq, if_neg differs]
            destination := rfl, staged := rfl, expected := rfl, tracked := rfl
            task := fun running => running }

theorem leavesAlone_cancelTransfer (differs : other ≠ id) (incoming : Bool) :
    LeavesAlone other node (node.cancelTransfer id incoming) where
  row := by rw [cancelTransfer, HashMap.lookup_modify_eq, if_neg differs]
  destination := rfl
  staged := rfl
  expected := rfl
  tracked := rfl
  task := (List.mem_erase_of_ne differs).mpr

theorem leavesAlone_onFileAbort (differs : other ≠ id) :
    LeavesAlone other node (node.onFileAbort id).2 := by
  unfold onFileAbort
  split
  · exact .refl
  · exact leavesAlone_cancelTransfer differs _

theorem leavesAlone_onFileProgress (differs : other ≠ id) (moved : UInt64) :
    LeavesAlone other node (node.onFileProgress id moved).2 := by
  unfold onFileProgress
  split
  · exact .refl
  · rename_i row isRow
    have set : LeavesAlone other node
        { node with fileTransfers := node.fileTransfers.insert id { row with moved } } :=
      { row := by rw [HashMap.lookup_insert_eq, if_neg differs]
        destination := rfl, staged := rfl, expected := rfl, tracked := rfl
        task := fun running => running }
    dsimp only
    split
    · exact set
    · exact set

/-- A file is picked up again with its row as it is. -/
theorem resumeSend_cases (resumed : node.resumeSend id = some next) :
    ∃ between : FileTransfers blake3, Kept between next ∧
      between.fileTransfers = node.fileTransfers ∧
      between.fileReceiveDestinations = node.fileReceiveDestinations ∧
      between.inbox = node.inbox ∧ between.inboxTasks = node.inboxTasks ∧
      between.outgoing = node.outgoing ∧ between.incoming = node.incoming ∧
      between.fileSendTasks = node.fileSendTasks.erase id := by
  unfold resumeSend at resumed
  simp only [Option.bind_eq_bind, Option.bind_eq_some_iff, Option.pure_def, Option.some.injEq] at resumed
  obtain ⟨job, -, -, -, -, -, row, -, -, -, rfl⟩ := resumed
  exact ⟨_, kept_startPendingSends, rfl, rfl, rfl, rfl, rfl, rfl, rfl⟩

theorem leavesAlone_onFileFinished (differs : other ≠ id) (state : TransferState) :
    LeavesAlone other node (node.onFileFinished id state).2 := by
  unfold onFileFinished
  dsimp only
  split
  · rename_i next isResumed
    split at isResumed
    · obtain ⟨between, kept, rows, destinations, inbox, -, -, -, tasks⟩ := resumeSend_cases isResumed
      refine .trans ?_ kept.leavesAlone
      exact
        { row := by rw [rows], destination := by rw [destinations], staged := by rw [inbox]
          expected := by rw [inbox], tracked := by rw [inbox]
          task := by rw [tasks]; exact (List.mem_erase_of_ne differs).mpr }
    · cases isResumed
  · split
    · exact .refl
    · rename_i row isRow
      have ended : LeavesAlone other node { node with
          fileTransfers := node.fileTransfers.insert id { row with
            state, moved := if state = .completed then row.size else row.moved }
          fileSendTasks := node.fileSendTasks.erase id
          fileResumable := node.fileResumable.erase id
          fileReceiveDestinations := node.fileReceiveDestinations.erase id } :=
        { row := by rw [HashMap.lookup_insert_eq, if_neg differs]
          destination := by rw [HashMap.lookup_erase_eq, if_neg differs]
          staged := rfl, expected := rfl, tracked := rfl
          task := (List.mem_erase_of_ne differs).mpr }
      have next := ended.trans kept_startPendingSends.leavesAlone
      split
      · split
        all_goals exact next
      · exact next

theorem leavesAlone_onFileTransferStart (differs : other ≠ id) (name : String) (size : UInt64)
    (hash : Hash) : LeavesAlone other node (node.onFileTransferStart id name size hash).2 := by
  unfold onFileTransferStart
  dsimp only
  split
  · exact .refl
  · split
    · exact .refl
    · split
      · exact
          { row := rfl, destination := rfl, staged := rfl, expected := rfl, tracked := rfl
            task := fun running => running }
      · refine .trans ?_ kept_startPendingSends.leavesAlone
        exact
          { row := by rw [HashMap.lookup_insert_eq, if_neg differs]
            destination := by rw [HashMap.lookup_insert_eq, if_neg differs]
            staged := rfl, expected := rfl, tracked := rfl, task := fun running => running }

/-! ## The inbox -/

/-- What the inbox keeps of a transfer stays as it is. -/
structure InboxAlone (id : TransferId) (inbox next : FileInbox blake3) : Prop where
  staged : next.staged.lookup id = inbox.staged.lookup id
  expected : next.expected.lookup id = inbox.expected.lookup id
  tracked : next.tracker.state id = inbox.tracker.state id

theorem InboxAlone.leavesAlone {inbox : FileInbox blake3} {inboxTasks : List InboxTask}
    (alone : InboxAlone id node.inbox inbox) :
    LeavesAlone id node { node with inbox, inboxTasks } :=
  { row := rfl, destination := rfl, staged := alone.staged, expected := alone.expected
    tracked := alone.tracked, task := fun running => running }

variable {inbox : FileInbox blake3}

theorem state_end_ (differs : other ≠ id) {tracker : ReceiveTracker blake3} {how : TransferEnd} :
    (tracker.end_ id how).state other = tracker.state other := by
  rw [ReceiveTracker.state, ReceiveTracker.lookup_end_, if_neg differs]
  rfl

theorem state_beginWith (differs : other ≠ id) {tracker : ReceiveTracker blake3} {size : UInt64} :
    (tracker.beginWith id size).2.state other = tracker.state other := by
  rcases tracker.beginWith_cases id size with ⟨e, refused⟩ | ⟨-, -, begun⟩
  · rw [refused]
  · rw [begun, ReceiveTracker.state, HashMap.lookup_insert_eq, if_neg differs]
    rfl

theorem state_applyChunk (differs : other ≠ id) {tracker : ReceiveTracker blake3}
    {offset len : UInt64} : (tracker.applyChunk id offset len).2.state other = tracker.state other := by
  rcases tracker.applyChunk_cases id offset len with
    ⟨e, refused⟩ | ⟨state, received, -, -, -, -, applied⟩
  · rw [refused]
  · rw [applied, ReceiveTracker.state, HashMap.lookup_insert_eq, if_neg differs]
    rfl

theorem inboxAlone_beginReceive (differs : other ≠ id) (size : UInt64) (hash : Hash)
    (destination : Path) (stagingMade : Bool) :
    InboxAlone other inbox (beginReceive inbox id size hash destination stagingMade) := by
  have tracked := @state_beginWith blake3 id other differs inbox.tracker size
  unfold beginReceive
  split
  · rename_i isBegun
    rw [isBegun] at tracked
    exact { staged := rfl, expected := rfl, tracked }
  · rename_i isBegun
    rw [isBegun] at tracked
    split
    · exact
        { staged := by rw [HashMap.lookup_insert_eq, if_neg differs]
          expected := by rw [HashMap.lookup_insert_eq, if_neg differs], tracked }
    · exact { staged := rfl, expected := rfl, tracked := (state_end_ differs).trans tracked }

theorem inboxAlone_cancelReceive (differs : other ≠ id) :
    InboxAlone other inbox (cancelReceive inbox id) where
  staged := by rw [cancelReceive, HashMap.lookup_erase_eq, if_neg differs]
  expected := by rw [cancelReceive, HashMap.lookup_erase_eq, if_neg differs]
  tracked := state_end_ differs

theorem inboxAlone_receiveChunk (differs : other ≠ id) (offset : UInt64) (bytes : Slice)
    (torn : Option Nat) : InboxAlone other inbox (receiveChunk inbox id offset bytes torn) := by
  have tracked := @state_applyChunk blake3 id other differs inbox.tracker offset bytes.len
  unfold receiveChunk
  split
  · exact { staged := rfl, expected := rfl, tracked := rfl }
  · split
    · rename_i isApplied
      rw [isApplied] at tracked
      exact { staged := rfl, expected := rfl, tracked }
    · rename_i isApplied
      rw [isApplied] at tracked
      split
      · exact
          { staged := by rw [HashMap.lookup_insert_eq, if_neg differs], expected := rfl
            tracked := (state_end_ differs).trans tracked }
      · exact
          { staged := by rw [HashMap.lookup_modify_eq, if_neg differs], expected := rfl, tracked }

theorem inboxAlone_finishTransfer (differs : other ≠ id) :
    InboxAlone other inbox (finishTransfer inbox id) := by
  unfold finishTransfer
  split
  · exact { staged := rfl, expected := rfl, tracked := rfl }
  · refine
      { staged := by rw [HashMap.lookup_erase_eq, if_neg differs]
        expected := by rw [HashMap.lookup_erase_eq, if_neg differs], tracked := ?_ }
    dsimp only
    unfold ReceiveTracker.finish
    split
    · rfl
    · exact state_end_ differs

/-! ## Handlers keep what the node owns -/

/-- The ids are the same, each row has the direction of the one before, and the tasks that wait for
the inbox are old ones or about an id of their owner. -/
theorem Owns.carry (owns : Owns peerIds node) (incoming : next.incoming = node.incoming)
    (outgoing : next.outgoing = node.outgoing)
    (rows : ∀ id row, next.fileTransfers.lookup id = some row →
      ∃ old, node.fileTransfers.lookup id = some old ∧ old.incoming = row.incoming)
    (tasks : ∀ task ∈ next.inboxTasks, task ∈ node.inboxTasks ∨
      task.id ∈ if task.incoming then peerIds else node.outgoing) : Owns peerIds next where
  known := by simpa [incoming] using owns.known
  apart := by simpa [outgoing] using owns.apart
  rows := by
    intro id row isRow
    obtain ⟨old, isOld, same⟩ := rows id row isRow
    rw [incoming, outgoing, ← same]
    exact owns.rows id old isOld
  tasks := by
    intro task member
    rw [outgoing]
    rcases tasks task member with old | isOwned
    · exact owns.tasks task old
    · exact isOwned

/-- A row is written over. -/
theorem rows_insert {old row : TransferRow} (isOld : node.fileTransfers.lookup id = some old)
    (same : old.incoming = row.incoming) :
    ∀ other found, (node.fileTransfers.insert id row).lookup other = some found →
      ∃ old, node.fileTransfers.lookup other = some old ∧ old.incoming = found.incoming := by
  intro other found isFound
  rw [HashMap.lookup_insert_eq] at isFound
  split at isFound
  · rename_i isId
    obtain rfl : row = found := Option.some.inj isFound
    exact ⟨old, isId ▸ isOld, same⟩
  · exact ⟨found, isFound, rfl⟩

/-- The row of a transfer that is owned is of an id that is owned. -/
theorem Owns.row_id (owns : Owns peerIds node) {row : TransferRow}
    (isRow : node.fileTransfers.lookup id = some row) :
    id ∈ if row.incoming then peerIds else node.outgoing := by
  have isOwned := owns.rows id row isRow
  split
  · rename_i isIncoming
    rw [if_pos isIncoming] at isOwned
    exact owns.known id isOwned
  · rename_i isOutgoing
    rwa [if_neg isOutgoing] at isOwned

theorem Owns.steps (owns : Owns peerIds next) (outgoing : next.outgoing = node.outgoing) :
    Steps peerIds node ([], next) :=
  { owns, grows := by simp [outgoing], sent := by simp }

theorem owns_cancelTransfer (owns : Owns peerIds node) {incoming : Bool}
    (isOwned : id ∈ if incoming then peerIds else node.outgoing) :
    Owns peerIds (node.cancelTransfer id incoming) := by
  refine owns.carry rfl rfl ?_ ?_
  · intro other found isFound
    simp only [cancelTransfer] at isFound
    rw [HashMap.lookup_modify_eq] at isFound
    split at isFound
    · rename_i isId
      obtain ⟨old, isOld, isRow⟩ := Option.map_eq_some_iff.mp isFound
      refine ⟨old, isId ▸ isOld, ?_⟩
      rw [← isRow]
      split <;> rfl
    · exact ⟨found, isFound, rfl⟩
  · intro task member
    rcases List.mem_append.mp member with old | isNew
    · exact .inl old
    · rw [List.mem_singleton.mp isNew]
      exact .inr isOwned

theorem owns_onFileChunkAck (owns : Owns peerIds node) {offset : UInt64} :
    Owns peerIds (node.onFileChunkAck id offset) ∧
      (node.onFileChunkAck id offset).outgoing = node.outgoing := by
  unfold onFileChunkAck
  split
  · exact ⟨owns, rfl⟩
  · rename_i row isRow
    split
    · exact ⟨owns, rfl⟩
    · dsimp only
      split
      · exact ⟨owns.carry rfl rfl (rows_insert isRow rfl) fun _ => .inl, rfl⟩
      · exact ⟨owns.carry rfl rfl (rows_insert isRow rfl) fun _ => .inl, rfl⟩

theorem addressed_abort {senderIds receiverIds : List TransferId} {incoming : Bool}
    (isOwned : id ∈ if incoming then senderIds else receiverIds) :
    Addressed senderIds receiverIds { kind := .fileAbort id, incoming } := by
  intro other isTransfer
  obtain rfl : id = other := Option.some.inj isTransfer
  exact ⟨isOwned, nofun⟩

theorem addressed_ack {senderIds receiverIds : List TransferId} {offset : UInt64}
    (isOwned : id ∈ receiverIds) :
    Addressed senderIds receiverIds { kind := .fileChunkAck id offset, incoming := false } := by
  intro other isTransfer
  obtain rfl : id = other := Option.some.inj isTransfer
  exact ⟨isOwned, nofun⟩

theorem steps_onFileAbort (owns : Owns peerIds node) : Steps peerIds node (node.onFileAbort id) := by
  unfold onFileAbort
  split
  · exact owns.steps rfl
  · rename_i row isRow
    have isOwned := owns.row_id isRow
    refine
      { owns := owns_cancelTransfer owns isOwned, grows := fun _ member => member, sent := ?_ }
    intro message member
    rw [List.mem_singleton.mp member]
    refine addressed_abort ?_
    cases isIncoming : row.incoming with
    | true => simpa [isIncoming] using isOwned
    | false => simpa [isIncoming, cancelTransfer] using isOwned

theorem steps_onFileProgress (owns : Owns peerIds node) {moved : UInt64} :
    Steps peerIds node (node.onFileProgress id moved) := by
  unfold onFileProgress
  split
  · exact owns.steps rfl
  · rename_i row isRow
    have isOwned := owns.row_id isRow
    have next : Owns peerIds
        { node with fileTransfers := node.fileTransfers.insert id { row with moved } } :=
      owns.carry rfl rfl (rows_insert isRow rfl) fun _ => .inl
    dsimp only
    split
    · rename_i unfinished
      have isIncoming : row.incoming = true := (Bool.and_eq_true_iff.mp unfinished).1
      refine { owns := next, grows := fun _ member => member, sent := ?_ }
      intro message member
      rw [List.mem_singleton.mp member]
      exact addressed_ack (by simpa [isIncoming] using isOwned)
    · exact next.steps rfl

theorem steps_onFileFinished (owns : Owns peerIds node) {state : TransferState} :
    Steps peerIds node (node.onFileFinished id state) := by
  unfold onFileFinished
  dsimp only
  split
  · rename_i next isResumed
    split at isResumed
    · obtain ⟨between, kept, rows, -, -, tasks, outgoing, incoming, -⟩ := resumeSend_cases isResumed
      have owned : Owns peerIds between := by
        refine owns.carry incoming outgoing ?_ (by rw [tasks]; exact fun _ => .inl)
        intro other found isFound
        exact ⟨found, rows ▸ isFound, rfl⟩
      exact (kept.owns owned).steps (kept.outgoing.trans outgoing)
    · cases isResumed
  · split
    · exact owns.steps rfl
    · rename_i row isRow
      have isOwned := owns.row_id isRow
      let ended : FileTransfers blake3 := { node with
        fileTransfers := node.fileTransfers.insert id { row with
          state, moved := if state = .completed then row.size else row.moved }
        fileSendTasks := node.fileSendTasks.erase id
        fileResumable := node.fileResumable.erase id
        fileReceiveDestinations := node.fileReceiveDestinations.erase id }
      have endedOwns : Owns peerIds ended :=
        owns.carry rfl rfl (rows_insert isRow rfl) fun _ => .inl
      have kept : Kept ended ended.startPendingSends := kept_startPendingSends
      have next := kept.owns endedOwns
      have grows : ∀ id ∈ node.outgoing, id ∈ ended.startPendingSends.outgoing := by
        rw [kept.outgoing]
        exact fun _ member => member
      split
      · rename_i isIncoming
        rw [if_pos isIncoming] at isOwned
        split
        · refine { owns := next, grows, sent := ?_ }
          intro message member
          rw [List.mem_singleton.mp member]
          exact addressed_ack isOwned
        · refine { owns := next, grows, sent := ?_ }
          intro message member
          rw [List.mem_singleton.mp member]
          exact addressed_abort isOwned
        · refine { owns := next, grows, sent := ?_ }
          intro message member
          rw [List.mem_singleton.mp member]
          exact addressed_abort isOwned
        · exact next.steps kept.outgoing
      · exact next.steps kept.outgoing

/-- An owned id stays owned when this node chooses another. -/
theorem mem_of_owned {incoming : Bool} {new : TransferId} {theirs : List TransferId}
    (isOwned : id ∈ if incoming then theirs else node.outgoing) :
    id ∈ if incoming then theirs else node.outgoing ++ [new] := by
  split
  · rename_i isIncoming
    rwa [if_pos isIncoming] at isOwned
  · rename_i isOutgoing
    rw [if_neg isOutgoing] at isOwned
    exact List.mem_append_left _ isOwned

theorem steps_startTransfer (owns : Owns peerIds node) (own : node.nextTransferId ∉ peerIds)
    {path : Path} {name : String} {size : UInt64} {hash : Hash} {fromClipboard : Bool} :
    Steps peerIds node (node.startTransfer path name size hash fromClipboard) := by
  unfold startTransfer
  dsimp only
  let row : TransferRow :=
    { name, size, moved := 0, incoming := false, state := .running, fromClipboard }
  let started : FileTransfers blake3 := { node with
    nextTransferId := node.nextTransferId + 1
    fileTransfers := node.fileTransfers.insert node.nextTransferId row
    filePendingSends := node.filePendingSends ++
      [{ id := node.nextTransferId, path, resume := 0, attempts := 0 }]
    outgoing := node.outgoing ++ [node.nextTransferId] }
  have startedOwns : Owns peerIds started := by
    refine { known := owns.known, apart := ?_, rows := ?_, tasks := ?_ }
    · intro id member
      rcases List.mem_append.mp member with old | isNew
      · exact owns.apart id old
      · rw [List.mem_singleton.mp isNew]
        exact own
    · intro id found isFound
      simp only [started] at isFound
      rw [HashMap.lookup_insert_eq] at isFound
      split at isFound
      · rename_i isId
        obtain rfl : row = found := Option.some.inj isFound
        exact List.mem_append_right _ (List.mem_singleton.mpr isId)
      · exact mem_of_owned (owns.rows id found isFound)
    · exact fun task member => mem_of_owned (owns.tasks task member)
  have kept : Kept started started.startPendingSends := kept_startPendingSends
  refine { owns := kept.owns startedOwns, grows := ?_, sent := ?_ }
  · intro id member
    exact kept.outgoing.symm ▸ List.mem_append_left _ member
  · intro message member
    rw [List.mem_singleton.mp member]
    intro id isTransfer
    obtain rfl : node.nextTransferId = id := Option.some.inj isTransfer
    refine ⟨?_, fun _ _ _ _ => rfl⟩
    exact kept.outgoing.symm ▸ List.mem_append_right _ List.mem_cons_self

theorem steps_onFileTransferStart (owns : Owns peerIds node) (isOwned : id ∈ peerIds) {name : String}
    {size : UInt64} {hash : Hash} :
    Steps peerIds node (node.onFileTransferStart id name size hash) := by
  have aborts (next : FileTransfers blake3) (nextOwns : Owns peerIds next)
      (outgoing : next.outgoing = node.outgoing) :
      Steps peerIds node ([{ kind := .fileAbort id, incoming := false }], next) := by
    refine { owns := nextOwns, grows := by simp [outgoing], sent := ?_ }
    intro message member
    rw [List.mem_singleton.mp member]
    exact addressed_abort isOwned
  unfold onFileTransferStart
  dsimp only
  split
  · exact aborts node owns rfl
  · split
    · exact aborts node owns rfl
    · rename_i accepted rest isAccepted
      split
      · refine aborts _ ?_ rfl
        exact owns.carry rfl rfl (fun _ found isFound => ⟨found, isFound, rfl⟩) fun _ => .inl
      · let row : TransferRow :=
          { name := accepted.name, size, moved := 0, incoming := true, state := .running
            fromClipboard := accepted.fromClipboard }
        let taken : FileTransfers blake3 := { node with
          fileAccepted := rest
          fileTransfers := node.fileTransfers.insert id row
          fileReceiveDestinations := node.fileReceiveDestinations.insert id
            (accepted.destination, accepted.fromClipboard)
          inboxTasks := node.inboxTasks ++ [.begins id size hash accepted.destination]
          incoming := node.incoming ++ [id] }
        have takenOwns : Owns peerIds taken := by
          refine { known := ?_, apart := owns.apart, rows := ?_, tasks := ?_ }
          · intro other member
            rcases List.mem_append.mp member with old | isNew
            · exact owns.known other old
            · rw [List.mem_singleton.mp isNew]
              exact isOwned
          · intro other found isFound
            simp only [taken] at isFound
            rw [HashMap.lookup_insert_eq] at isFound
            split at isFound
            · rename_i isId
              obtain rfl : row = found := Option.some.inj isFound
              exact List.mem_append_right _ (List.mem_singleton.mpr isId)
            · have old := owns.rows other found isFound
              split
              · rename_i isIncoming
                rw [if_pos isIncoming] at old
                exact List.mem_append_left _ old
              · rename_i isOutgoing
                rwa [if_neg isOutgoing] at old
          · intro task member
            rcases List.mem_append.mp member with old | isNew
            · exact owns.tasks task old
            · rw [List.mem_singleton.mp isNew]
              exact isOwned
        have kept : Kept taken taken.startPendingSends := kept_startPendingSends
        exact (kept.owns takenOwns).steps kept.outgoing

/-! ## Steps -/

/-- The step is about neither rows nor ids. -/
theorem Owns.same (owns : Owns peerIds node) (incoming : next.incoming = node.incoming)
    (outgoing : next.outgoing = node.outgoing) (rows : next.fileTransfers = node.fileTransfers)
    (tasks : ∀ task ∈ next.inboxTasks, task ∈ node.inboxTasks) :
    Steps peerIds node ([], next) := by
  have nextOwns : Owns peerIds next := by
    refine owns.carry incoming outgoing ?_ fun task member => .inl (tasks task member)
    intro id found isFound
    exact ⟨found, rows ▸ isFound, rfl⟩
  exact nextOwns.steps outgoing

theorem steps_inboxTask (owns : Owns peerIds node) {position : Nat} {stagingMade : Bool} :
    Steps peerIds node (node.act (.inboxTask position stagingMade)) := by
  unfold act
  dsimp only
  split
  · exact owns.steps rfl
  · rename_i task isTask
    cases task with
    | begins => exact owns.same rfl rfl rfl fun _ => List.mem_of_mem_eraseIdx
    | cancels => exact owns.same rfl rfl rfl fun _ => List.mem_of_mem_eraseIdx

/-- A step of its own. -/
theorem steps_act (owns : Owns peerIds node) {action : Action}
    (own : ∀ path name size hash fromClipboard,
      action = .send path name size hash fromClipboard → node.nextTransferId ∉ peerIds) :
    Steps peerIds node (node.act action) := by
  cases action with
  | send => exact steps_startTransfer owns (own _ _ _ _ _ rfl)
  | elsewhere => exact owns.same rfl rfl rfl fun _ member => member
  | accept => exact owns.same rfl rfl rfl fun _ member => member
  | fileConnected =>
      have kept : Kept _ { node with connected := true }.startPendingSends := kept_startPendingSends
      exact owns.same kept.incoming kept.outgoing kept.rows fun _ member =>
        kept.inboxTasks ▸ member
  | connectionLost => exact owns.same rfl rfl rfl fun _ member => member
  | connectFailed => exact owns.same rfl rfl rfl fun _ member => member
  | sendProgress =>
      unfold act
      dsimp only
      split
      · exact steps_onFileProgress owns
      · exact owns.steps rfl
  | sendFailed =>
      unfold act
      dsimp only
      split
      · exact steps_onFileFinished owns
      · exact owns.steps rfl
  | receiveProgress =>
      unfold act
      dsimp only
      split
      · exact steps_onFileProgress owns
      · exact owns.steps rfl
  | receiveFinished =>
      unfold act
      dsimp only
      split
      · exact steps_onFileFinished owns
      · exact owns.steps rfl
  | chunk =>
      unfold act
      dsimp only
      split
      · exact owns.same rfl rfl rfl fun _ member => member
      · exact owns.steps rfl
  | finish =>
      unfold act
      dsimp only
      split
      · exact owns.same rfl rfl rfl fun _ member => member
      · exact owns.steps rfl
  | abort => exact steps_onFileAbort owns
  | inboxTask => exact steps_inboxTask owns
  | grants => exact owns.same rfl rfl rfl fun _ member => member

/-- A message comes in. -/
theorem steps_receive (owns : Owns peerIds node) {message : FileMessage}
    (addressed : Addressed peerIds node.outgoing message) :
    Steps peerIds node (node.receive message) := by
  unfold receive
  split
  · rename_i id name size hash isKind
    obtain ⟨isOwned, starts⟩ := addressed id (by rw [isKind]; rfl)
    rw [starts name size hash isKind, if_pos rfl] at isOwned
    exact steps_onFileTransferStart owns isOwned
  · obtain ⟨next, outgoing⟩ := owns_onFileChunkAck owns
    exact next.steps outgoing
  · rename_i id isKind
    obtain ⟨isOwned, -⟩ := addressed id (by rw [isKind]; rfl)
    exact (owns_cancelTransfer owns isOwned).steps rfl
  · exact owns.steps rfl

end

/-- Two nodes keep their ids apart while each chooses ids that the other has not chosen. -/
theorem owned_rule :
    LaneRule (peer : Party (FileTransfers blake3) FileMessage Action Unit) ChoosesOwn
      (fun _ _ _ => True) Owned := by
  refine LaneRule.of_flip (fun _ owned => owned.flip) ?_ ?_
  · intro lane action owned own
    refine owned.sends (steps_act owned.sender ?_)
    rintro path name size hash fromClipboard rfl
    exact own
  · intro lane message rest _ owned isUp _
    have popped : Owned { lane with up := rest } :=
      { sender := owned.sender, receiver := owned.receiver, down := owned.down
        up := fun other member => owned.up other (isUp ▸ List.mem_cons_of_mem _ member) }
    exact popped.sends (steps_receive owned.sender (owned.up message (by simp [isUp])))

/-! ## One direction -/

section
variable {node : FileTransfers blake3} {id other : TransferId} {peerIds : List TransferId}

/-- A transfer of the other direction has another id. -/
theorem Owns.differs (owns : Owns peerIds node) {incoming : Bool}
    (isOwned : id ∈ if incoming then peerIds else node.outgoing)
    (isOther : other ∈ node.others incoming) : other ≠ id := by
  rintro rfl
  cases incoming with
  | true => exact owns.apart other isOther isOwned
  | false => exact owns.apart other isOwned (owns.known other isOther)

theorem leavesAlone_runInboxTask {task : InboxTask} (differs : other ≠ task.id) (stagingMade : Bool)
    (left : List InboxTask) :
    LeavesAlone other node ({ node with inboxTasks := left }.runInboxTask stagingMade task) := by
  cases task with
  | begins id size hash destination =>
      exact (inboxAlone_beginReceive differs size hash destination stagingMade).leavesAlone
  | cancels id incoming => exact (inboxAlone_cancelReceive differs).leavesAlone

theorem leavesAlone_act (owns : Owns peerIds node) {action : Action} {incoming : Bool}
    (isAbout : action.incoming node = some incoming) (isOther : other ∈ node.others incoming) :
    LeavesAlone other node (node.act action).2 := by
  cases action with
  | sendProgress id moved =>
      obtain rfl : false = incoming := Option.some.inj isAbout
      unfold act
      dsimp only
      split
      · rename_i isOwned
        exact leavesAlone_onFileProgress (owns.differs isOwned isOther) moved
      · exact .refl
  | sendFailed id =>
      obtain rfl : false = incoming := Option.some.inj isAbout
      unfold act
      dsimp only
      split
      · rename_i isOwned
        exact leavesAlone_onFileFinished (owns.differs isOwned isOther) .failed
      · exact .refl
  | receiveProgress id moved =>
      obtain rfl : true = incoming := Option.some.inj isAbout
      unfold act
      dsimp only
      split
      · rename_i isTaken
        exact leavesAlone_onFileProgress (owns.differs (owns.known id isTaken) isOther) moved
      · exact .refl
  | receiveFinished id state =>
      obtain rfl : true = incoming := Option.some.inj isAbout
      unfold act
      dsimp only
      split
      · rename_i isTaken
        exact leavesAlone_onFileFinished (owns.differs (owns.known id isTaken) isOther) state
      · exact .refl
  | chunk id offset bytes torn =>
      obtain rfl : true = incoming := Option.some.inj isAbout
      unfold act
      dsimp only
      split
      · rename_i isTaken
        have differs := owns.differs (owns.known id isTaken) isOther
        exact (inboxAlone_receiveChunk differs offset bytes torn).leavesAlone
      · exact .refl
  | finish id =>
      obtain rfl : true = incoming := Option.some.inj isAbout
      unfold act
      dsimp only
      split
      · rename_i isTaken
        have differs := owns.differs (owns.known id isTaken) isOther
        exact (inboxAlone_finishTransfer differs).leavesAlone
      · exact .refl
  | abort id =>
      obtain ⟨row, isRow, rfl⟩ := Option.map_eq_some_iff.mp isAbout
      exact leavesAlone_onFileAbort (owns.differs (owns.row_id isRow) isOther)
  | inboxTask position stagingMade =>
      obtain ⟨task, isTask, rfl⟩ := Option.map_eq_some_iff.mp isAbout
      have isOwned := owns.tasks task (List.mem_of_getElem? isTask)
      simp only [act, isTask]
      exact leavesAlone_runInboxTask (owns.differs isOwned isOther) stagingMade _
  | _ => cases isAbout

theorem leavesAlone_receive (owns : Owns peerIds node) {message : FileMessage}
    (addressed : Addressed peerIds node.outgoing message)
    (isOther : other ∈ node.others message.incoming) :
    LeavesAlone other node (node.receive message).2 := by
  unfold receive
  split
  · rename_i id name size hash isKind
    have isOwned := (addressed id (by rw [isKind]; rfl)).1
    exact leavesAlone_onFileTransferStart (owns.differs isOwned isOther) name size hash
  · rename_i id offset isKind
    have isOwned := (addressed id (by rw [isKind]; rfl)).1
    exact leavesAlone_onFileChunkAck (owns.differs isOwned isOther) offset
  · rename_i id isKind
    have isOwned := (addressed id (by rw [isKind]; rfl)).1
    exact leavesAlone_cancelTransfer (owns.differs isOwned isOther) _
  · exact .refl

end

theorem oneDirection_of_owned {world : Duplex (FileTransfers blake3) FileMessage}
    {op : DuplexOp Action Unit} (owned : ∀ who, Owned (world.lane who)) :
    OneDirection (Event.of (Duplex.step peer) world op) := by
  intro incoming isAbout id isOther
  cases op with
  | act who action =>
      have alone := leavesAlone_act (owned who).sender isAbout isOther
      simpa [Duplex.step, Duplex.after, DuplexOp.who, peer, Duplex.lane] using alone
  | deliver who _ =>
      cases isInbox : world.inbox who with
      | nil => simp [aboutIncoming, isInbox] at isAbout
      | cons message rest =>
          simp only [Event.of_pre, Event.of_op, aboutIncoming, isInbox, List.head?_cons,
            Option.bind_eq_bind, Option.bind_some, Option.pure_def, Option.bind_eq_some_iff] at isAbout
          obtain ⟨-, -, same⟩ := isAbout
          obtain rfl : message.incoming = incoming := Option.some.inj same
          have addressed := (owned who).up message (by simp [Duplex.lane, isInbox])
          have alone := leavesAlone_receive (owned who).sender addressed isOther
          simpa [Duplex.step, isInbox, Duplex.taken, Duplex.after, DuplexOp.who, peer, Duplex.lane]
            using alone

/-- A node without any transfer yet. -/
structure Fresh (node : FileTransfers blake3) : Prop where
  fileTransfers : node.fileTransfers = ∅
  inboxTasks : node.inboxTasks = []
  outgoing : node.outgoing = []
  incoming : node.incoming = []

theorem Fresh.owned {nodes : Bool → FileTransfers blake3} (fresh : ∀ who, Fresh (nodes who))
    (who : Bool) : Owned ((Duplex.start nodes).lane who) := by
  have owns (who : Bool) : Owns [] (nodes who) :=
    { known := by simp [(fresh who).incoming]
      apart := by simp
      rows := by simp [(fresh who).fileTransfers]
      tasks := by simp [(fresh who).inboxTasks] }
  refine { sender := ?_, receiver := ?_, down := by simp [Duplex.start, Duplex.lane],
           up := by simp [Duplex.start, Duplex.lane] }
  · simpa [Duplex.start, Duplex.lane, (fresh (!who)).outgoing] using owns who
  · simpa [Duplex.start, Duplex.lane, (fresh who).outgoing] using owns (!who)

/-- While each node chooses ids that the other has not chosen, no id is used in both directions, and
a step about one direction leaves the transfers of the other alone. -/
theorem transfers_apart_while_ids_are_own (nodes : Bool → FileTransfers blake3)
    (fresh : ∀ who, Fresh (nodes who)) (ops : List (DuplexOp Action Unit))
    (own : ∀ e ∈ history (Duplex.step peer) (.start nodes) ops,
      e.pre.Meets ChoosesOwn (fun _ _ _ => True) e.op) :
    (∀ who, Apart ((exec (Duplex.step peer) (.start nodes) ops).node who)) ∧
      ∀ e ∈ history (Duplex.step peer) (.start nodes) ops, OneDirection e := by
  constructor
  · intro who
    exact (owned_rule.run (Fresh.owned fresh) own who).sender.isApart
  · intro e member
    have owned := owned_rule.before (Fresh.owned fresh) own e member
    rw [eq_of_mem_history member]
    exact oneDirection_of_owned owned

/-- One node has chosen an id elsewhere, so that the two files have the ids 0 and 1. -/
theorem two_files_with_two_ids :
    let hash : Hash := ⟨List.replicate 32 0, rfl⟩
    let offer (name : String) : AcceptedOffer :=
      { name, size := 1, hash := some hash, destination := "/home", fromClipboard := false }
    let ops : List (DuplexOp Action Unit) :=
      [.act false .elsewhere, .act true (.accept (offer "b")), .act false (.accept (offer "a")),
        .act true (.send "/srv/a" "a" 1 hash false), .act false (.send "/srv/b" "b" 1 hash false),
        .deliver true (), .deliver false (), .act true (.abort 0), .deliver false ()]
    let world : Duplex (FileTransfers sampleBlake3) FileMessage :=
      exec (Duplex.step peer) (.start fun _ => {}) ops
    Apart (world.node true) ∧ (world.node true).outgoing = [0] ∧ (world.node true).incoming = [1] :=
  ⟨(transfers_apart_while_ids_are_own (fun _ => {})
      (fun _ => { fileTransfers := rfl, inboxTasks := rfl, outgoing := rfl, incoming := rfl }) _
      (by decide)).1 true, by decide, by decide⟩

/-- Each of two nodes sends its first file. -/
theorem first_files_share_an_id :
    let hash : Hash := ⟨List.replicate 32 0, rfl⟩
    let offer : AcceptedOffer :=
      { name := "b", size := 1, hash := some hash, destination := "/home", fromClipboard := false }
    let ops : List (DuplexOp Action Unit) :=
      [.act true (.accept offer), .act true (.send "/srv/a" "a" 1 hash false),
        .act false (.send "/srv/b" "b" 1 hash false), .deliver true ()]
    let start : Duplex (FileTransfers sampleBlake3) FileMessage := .start fun _ => {}
    ¬ ((∀ who, Apart ((exec (Duplex.step peer) start ops).node who)) ∧
      ∀ e ∈ history (Duplex.step peer) start ops, OneDirection e) := by
  rintro hash offer ops start ⟨apart, -⟩
  have isOutgoing : 0 ∈ ((exec (Duplex.step peer) start ops).node true).outgoing := by decide
  have isIncoming : 0 ∈ ((exec (Duplex.step peer) start ops).node true).incoming := by decide
  exact apart true 0 isOutgoing isIncoming

end Lumepeer.Runtime.FileTransfers
