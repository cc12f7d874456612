import Lumepeer.Runtime.Network.Proofs.SendQueue

/-!
# A cancelled transfer stays cancelled

The row of a cancelled file is the only place that says so. A job that waits, a
directory that is hashed and a task without a handle outlive a cancel, and an
acknowledgement or the end of a task writes over the row. The ids of the two
directions and those of a directory are one space, so that a cancel can hit the
file of the other side that has the same number.
-/

namespace Lumepeer.Runtime.FileSends
open Lumepeer.Lib Lumepeer.Core
open Lumepeer.Net (TransferId)
open FileOffers (Path Hash)
open FileTransfers (TransferRow TransferState)

abbrev SendEvent := Event FileSends Happening Out

variable {node node' : FileSends}

/-- The directory that the file comes in or goes out with. -/
def directoryOf (node : FileSends) (id : TransferId) (incoming : Bool) : Option TransferId :=
  if incoming then node.directoryIn.lookup id else node.directoryOut.lookup id

/-- The transfer is what is meant, or belongs to its directory. -/
def Own (node : FileSends) (meant : Meant) (id : TransferId) (incoming : Bool) : Prop :=
  incoming = meant.incoming ∧
    match meant with
    | .file other _ => id = other ∨
        ∃ group ∈ node.directoryOf id incoming, node.directoryOf other incoming = some group
    | .directory group _ => node.directoryOf id incoming = some group

/-- All that is kept about a transfer is the same. -/
structure SameTransfer (node node' : FileSends) (id : TransferId) (incoming : Bool) : Prop where
  row : (node'.fileTransfers.lookup id).filter (·.incoming = incoming) =
    (node.fileTransfers.lookup id).filter (·.incoming = incoming)
  jobs : incoming = false →
    node'.filePendingSends.filter (·.id = id) = node.filePendingSends.filter (·.id = id)
  handle : incoming = false → node'.fileSendTasks.lookup id = node.fileSendTasks.lookup id
  tasks : incoming = false → node'.tasks.filter (·.id = id) = node.tasks.filter (·.id = id)
  staging : incoming = true → (id ∈ node'.staged ↔ id ∈ node.staged)

/-- The files of the directory cannot be sent. -/
def givesUp (node : FileSends) : Option (List Prepared) → Bool
  | none => true
  | some files => files.any node.misfits

/-- What a step cancels, with the ids that `cancel_transfer` is called with. -/
def cancelledBy (node : FileSends) : Happening → Option (Meant × List TransferId)
  | .peerAbort id incoming => some (.file id incoming, [id])
  | .userAbort id =>
      match node.dirGroups.lookup id with
      | some group => some (.directory id group.incoming, group.members)
      | none => (node.fileTransfers.lookup id).map fun row => (.file id row.incoming, [id])
  | .dirFilesReady position prepare => do
      let hashing ← node.hashing[position]?
      guard (node.mayTransferFiles && node.givesUp (prepareAll prepare hashing.files))
      return (.directory hashing.group false, node.membersOf hashing.group)
  | .cancelTask position => node.cancels[position]?.map fun task => (task.meant, [])
  | _ => none

/-- Nothing of a cancelled file is sent, its row stays as it is, and a cancel is about no other
transfer. -/
structure StaysCancelled (e : SendEvent) : Prop where
  chunk : ∀ id ∈ e.out.chunk, id ∉ e.pre.cancelled
  start : ∀ id name size hash,
    MessageKind.fileTransferStart id name size hash ∈ e.out.sent → id ∉ e.pre.cancelled
  row : ∀ id, ∀ row ∈ e.pre.fileTransfers.lookup id, row.state = .cancelled →
    ∀ after ∈ e.post.fileTransfers.lookup id, after.state = .cancelled
  ended : ∀ cancel ∈ e.pre.cancelledBy e.op, ∀ id ∈ cancel.2,
    ∀ row ∈ e.post.fileTransfers.lookup id, row.state ≠ .running
  alone : ∀ cancel ∈ e.pre.cancelledBy e.op, ∀ id incoming, ¬ e.pre.Own cancel.1 id incoming →
    SameTransfer e.pre e.post id incoming

/-! ## The condition -/

/-- The id is the file's alone: no transfer of the other direction is found under it. -/
def Hits (node : FileSends) (meant : Meant) (id : TransferId) : Prop :=
  (∀ row ∈ node.fileTransfers.lookup id, row.state = .running → node.Own meant id row.incoming)
    ∧ ((node.fileSendTasks.lookup id).isSome → node.Own meant id false)

/-- No job of the file waits. -/
def Unqueued (node : FileSends) (id : TransferId) : Prop :=
  ∀ job ∈ node.filePendingSends, job.id ≠ id

/-- To abort the task of the file ends all that is left of it. -/
def Stops (node : FileSends) (id : TransferId) : Prop :=
  ¬ node.BeingHashed id ∧
    ∀ task ∈ node.tasks, task.id = id → node.fileSendTasks.lookup id = some task.number

/-- To cancel the files hits nothing else and ends all but their jobs. -/
def Clean (node : FileSends) (meant : Meant) (ids : List TransferId) : Prop :=
  ∀ id ∈ ids, node.Hits meant id
    ∧ (meant.incoming = false → (node.fileTransfers.lookup id).isSome → node.Stops id)

/-- No job of the files waits, as far as they go out. -/
def NoneWaits (node : FileSends) (meant : Meant) (ids : List TransferId) : Prop :=
  ∀ id ∈ ids, meant.incoming = false → (node.fileTransfers.lookup id).isSome → node.Unqueued id

/-- The id is not that of a cancelled transfer. -/
def Unused (node : FileSends) (id : TransferId) : Prop :=
  id ∉ node.cancelled ∧ ∀ row ∈ node.fileTransfers.lookup id, row.state ≠ .cancelled

/-- A cancel ends a transfer and no other, and nothing is said or started later under the id of a
cancelled one. -/
def CancelsCleanly (node : FileSends) : Happening → Prop
  | .peerAbort id incoming =>
      node.Clean (.file id incoming) [id] ∧ node.NoneWaits (.file id incoming) [id]
  | .userAbort id =>
      match node.dirGroups.lookup id with
      | some group =>
          node.Clean (.directory id group.incoming) group.members
            ∧ ∀ job ∈ node.filePendingSends, node.Own (.directory id group.incoming) job.id false
      | none => ∀ row ∈ node.fileTransfers.lookup id,
          node.Clean (.file id row.incoming) [id] ∧ node.NoneWaits (.file id row.incoming) [id]
  | .dirFilesReady position prepare => ∀ hashing ∈ node.hashing[position]?,
      let later := { node with hashing := node.hashing.eraseIdx position }
      let files := prepareAll prepare hashing.files
      node.mayTransferFiles = true → node.givesUp files = true →
        (∀ prepared ∈ files, prepared.head?.any node.misfits = true)
          ∧ later.Clean (.directory hashing.group false) (node.membersOf hashing.group)
          ∧ node.NoneWaits (.directory hashing.group false) (node.membersOf hashing.group)
  | .cancelTask position => ∀ task ∈ node.cancels[position]?,
      task.id ∈ node.staged → node.Own task.meant task.id true
  | .chunkAck id offset => ∀ row ∈ node.fileTransfers.lookup id,
      row.incoming = false → row.state = .cancelled → offset < row.size
  | .completed id | .failed id | .transferStart id .. =>
      ∀ row ∈ node.fileTransfers.lookup id, row.state ≠ .cancelled
  | .startTransfer .. => node.mayTransferFiles = true → node.Unused node.nextTransferId
  | .dirAccepted _ files => node.mayTransferFiles = true →
      ∀ id ∈ takeIds files.length (node.nextTransferId + 1), node.Unused id
  | _ => True

section decidable
variable (node : FileSends)

instance (meant : Meant) (id : TransferId) (incoming : Bool) :
    Decidable (node.Own meant id incoming) := by
  unfold Own
  cases meant <;> infer_instance

instance (meant : Meant) (id : TransferId) : Decidable (node.Hits meant id) := by
  unfold Hits
  infer_instance

instance (id : TransferId) : Decidable (node.Unqueued id) := by
  unfold Unqueued
  infer_instance

instance (id : TransferId) : Decidable (node.Stops id) := by
  unfold Stops
  infer_instance

instance (meant : Meant) (ids : List TransferId) : Decidable (node.Clean meant ids) := by
  unfold Clean
  exact List.decidableBAll _ ids

instance (meant : Meant) (ids : List TransferId) : Decidable (node.NoneWaits meant ids) := by
  unfold NoneWaits
  exact List.decidableBAll _ ids

instance (id : TransferId) : Decidable (node.Unused id) := by
  unfold Unused
  infer_instance

instance (ids : List TransferId) : Decidable (∀ id ∈ ids, node.Unused id) :=
  List.decidableBAll _ ids

/-- What `CancelsCleanly` asks of an abort by the user is decided for what its id is found to be. -/
def decidableUserAbort (id : TransferId) : (found : Option DirGroup) → Decidable (match found with
      | some group =>
          node.Clean (.directory id group.incoming) group.members
            ∧ ∀ job ∈ node.filePendingSends, node.Own (.directory id group.incoming) job.id false
      | none => ∀ row ∈ node.fileTransfers.lookup id,
          node.Clean (.file id row.incoming) [id] ∧ node.NoneWaits (.file id row.incoming) [id])
  | some _ => instDecidableAnd
  | none => inferInstance

instance : (happening : Happening) → Decidable (node.CancelsCleanly happening)
  | .userAbort id => node.decidableUserAbort id (node.dirGroups.lookup id)
  | .peerAbort .. | .dirFilesReady .. | .cancelTask .. | .chunkAck .. | .completed ..
  | .failed .. | .transferStart .. | .startTransfer .. | .dirAccepted .. => by
      dsimp only [CancelsCleanly]
      infer_instance
  | .acceptDir .. | .beginTask .. | .unstaged .. | .progress .. | .chunk .. | .taskEnds ..
  | .fileConnected | .connectFailed | .connectionLost | .abandon | .grants .. | .control ..
  | .elsewhere => instDecidableTrue

end decidable

/-! ## What a cancel does -/

section cancel

/-- `cancel_transfer` on a row. -/
def cancelRow (row : TransferRow) : TransferRow :=
  if row.state = .running then { row with state := .cancelled } else row

theorem cancelRow_idem (row : TransferRow) : cancelRow (cancelRow row) = cancelRow row := by
  unfold cancelRow
  split
  · exact if_neg TransferState.noConfusion
  · rfl

/-- What cancelling files does, in terms of what was there before. -/
structure CancelsAll (meant : Meant) (ids : List TransferId) (node node' : FileSends) : Prop where
  fileTransfers : ∀ id, node'.fileTransfers.lookup id =
    if id ∈ ids then (node.fileTransfers.lookup id).map cancelRow else node.fileTransfers.lookup id
  fileSendTasks : ∀ id, node'.fileSendTasks.lookup id =
    if id ∈ ids then none else node.fileSendTasks.lookup id
  tasks : node'.tasks =
    node.tasks.filter fun task =>
      @decide (∀ id ∈ ids, node.fileSendTasks.lookup id ≠ some task.number)
        (List.decidableBAll _ ids)
  cancelled : ∀ id ∈ node'.cancelled, id ∈ node.cancelled
    ∨ (meant.incoming = false ∧ id ∈ ids ∧ (node.fileTransfers.lookup id).isSome)
  nextTask : node'.nextTask = node.nextTask
  filePendingSends : node'.filePendingSends = node.filePendingSends
  hashing : node'.hashing = node.hashing
  staged : node'.staged = node.staged

theorem abortTask_tasks (node : FileSends) (id : TransferId) :
    (node.abortTask id).tasks =
      node.tasks.filter fun task => node.fileSendTasks.lookup id ≠ some task.number := by
  unfold abortTask
  cases held : node.fileSendTasks.lookup id with
  | none => simp
  | some number =>
      refine List.filter_congr fun task _ => ?_
      simp only [ne_eq, Option.some.injEq, decide_eq_decide]
      exact not_congr eq_comm

theorem cancelTransfer_all (meant : Meant) (id : TransferId) (node : FileSends) :
    CancelsAll meant [id] node (node.cancelTransfer id meant) := by
  have same : (node.abortTask id).nextTask = node.nextTask
      ∧ (node.abortTask id).filePendingSends = node.filePendingSends
      ∧ (node.abortTask id).hashing = node.hashing
      ∧ (node.abortTask id).staged = node.staged := by
    unfold abortTask
    cases node.fileSendTasks.lookup id <;> exact ⟨rfl, rfl, rfl, rfl⟩
  refine ⟨fun other => ?_, fun other => ?_, ?_, fun other member => ?_, same.1, same.2.1,
    same.2.2.1, same.2.2.2⟩
  · simp only [List.mem_singleton]
    refine (HashMap.lookup_modify_eq ..).trans ?_
    split
    next isId => rw [isId]; rfl
    next => rfl
  · simp only [List.mem_singleton]
    rw [← HashMap.lookup_erase_eq, ← abortTask_fileSendTasks]
    rfl
  · simp only [List.mem_singleton, forall_eq]
    exact abortTask_tasks node id
  · have member : other ∈ if !meant.incoming && (node.fileTransfers.lookup id).isSome then
        id :: node.cancelled else node.cancelled := member
    split at member
    next known =>
      rw [Bool.and_eq_true, Bool.not_eq_true'] at known
      rcases List.mem_cons.mp member with rfl | before
      · exact .inr ⟨known.1, List.mem_singleton_self other, known.2⟩
      · exact .inl before
    next => exact .inl member

/-- One file more, cancelled before the others. -/
theorem CancelsAll.cons {meant : Meant} {id : TransferId} {ids : List TransferId}
    {middle : FileSends} (first : CancelsAll meant [id] node middle)
    (rest : CancelsAll meant ids middle node') : CancelsAll meant (id :: ids) node node' := by
  refine ⟨fun other => ?_, fun other => ?_, ?_, fun other member => ?_,
    rest.nextTask.trans first.nextTask, rest.filePendingSends.trans first.filePendingSends,
    rest.hashing.trans first.hashing, rest.staged.trans first.staged⟩
  · rw [rest.fileTransfers, first.fileTransfers]
    by_cases isId : other = id <;> by_cases later : other ∈ ids <;>
      simp [isId, later, Function.comp_def, cancelRow_idem]
  · rw [rest.fileSendTasks, first.fileSendTasks]
    by_cases isId : other = id <;> by_cases later : other ∈ ids <;> simp [isId, later]
  · rw [rest.tasks, first.tasks, List.filter_filter]
    refine List.filter_congr fun task _ => ?_
    rw [← Bool.decide_and, decide_eq_decide]
    simp only [first.fileSendTasks, List.mem_singleton, forall_eq, List.forall_mem_cons]
    constructor
    · rintro ⟨others, one⟩
      refine ⟨one, fun other member => ?_⟩
      by_cases isId : other = id
      · rw [isId]
        exact one
      · have := others other member
        rwa [if_neg isId] at this
    · rintro ⟨one, others⟩
      refine ⟨fun other member => ?_, one⟩
      split
      · exact (Option.some_ne_none task.number).symm
      · exact others other member
  · rcases rest.cancelled other member with before | ⟨out, later, known⟩
    · rcases first.cancelled other before with before | ⟨out, isId, known⟩
      · exact .inl before
      · exact .inr ⟨out, List.mem_cons.mpr (.inl (List.mem_singleton.mp isId)), known⟩
    · refine .inr ⟨out, List.mem_cons_of_mem id later, ?_⟩
      rw [first.fileTransfers] at known
      split at known
      · rwa [Option.isSome_map] at known
      · exact known

theorem cancelAll_all (meant : Meant) (ids : List TransferId) (node : FileSends) :
    CancelsAll meant ids node (cancelAll ids meant node) := by
  induction ids generalizing node with
  | nil =>
      refine ⟨fun _ => rfl, fun _ => rfl, ?_, fun _ member => .inl member, rfl, rfl, rfl, rfl⟩
      simp [cancelAll]
  | cons id ids ih => exact (cancelTransfer_all meant id node).cons (ih _)

end cancel

/-! ## The invariant -/

section invariant

/-- Nothing is left that would send the file. -/
structure Stopped (node : FileSends) (id : TransferId) : Prop where
  runs : ¬ node.Runs id
  unqueued : node.Unqueued id
  tasks : ∀ task ∈ node.tasks, task.id ≠ id
  hashed : ¬ node.BeingHashed id

/-- Cancelled files are stopped, and a handle is that of the file's own task. -/
structure Sound (node : FileSends) : Prop where
  stopped : ∀ id ∈ node.cancelled, node.Stopped id
  own : ∀ id number, node.fileSendTasks.lookup id = some number →
    ∀ task ∈ node.tasks, task.number = number → task.id = id
  handles : ∀ id number, node.fileSendTasks.lookup id = some number → number < node.nextTask
  numbers : ∀ task ∈ node.tasks, task.number < node.nextTask

/-- A step that starts no task and cancels nothing. -/
structure Quiet (node node' : FileSends) : Prop where
  cancelled : node'.cancelled = node.cancelled
  runs : ∀ id ∈ node.cancelled, node'.Runs id → node.Runs id
  queue : ∀ job ∈ node'.filePendingSends, job ∈ node.filePendingSends ∨ job.id ∉ node.cancelled
  hashing : ∀ hashing ∈ node'.hashing, hashing ∈ node.hashing
    ∨ ∀ id ∈ hashing.files.map (·.1), id ∉ node.cancelled
  tasks : ∀ task ∈ node'.tasks, task ∈ node.tasks
  handles : ∀ id number, node'.fileSendTasks.lookup id = some number →
    node.fileSendTasks.lookup id = some number
  nextTask : node'.nextTask = node.nextTask

theorem Quiet.refl (node : FileSends) : Quiet node node :=
  ⟨rfl, fun _ _ runs => runs, fun _ member => .inl member, fun _ member => .inl member,
    fun _ member => member, fun _ _ held => held, rfl⟩

/-- Nothing that matters here is changed. -/
theorem Quiet.same (rows : node'.fileTransfers = node.fileTransfers)
    (queue : node'.filePendingSends = node.filePendingSends)
    (hashing : node'.hashing = node.hashing) (tasks : node'.tasks = node.tasks)
    (handles : node'.fileSendTasks = node.fileSendTasks)
    (nextTask : node'.nextTask = node.nextTask) (cancelled : node'.cancelled = node.cancelled) :
    Quiet node node' := by
  refine ⟨cancelled, fun _ _ runs => ?_, fun _ member => .inl (queue ▸ member),
    fun _ member => .inl (hashing ▸ member), fun _ member => tasks ▸ member,
    fun _ _ held => handles ▸ held, nextTask⟩
  unfold Runs at runs
  rwa [rows] at runs

theorem Sound.quiet (sound : Sound node) (quiet : Quiet node node') : Sound node' := by
  refine ⟨fun id member => ?_, fun id number held task member => ?_, fun id number held => ?_,
    fun task member => ?_⟩
  · rw [quiet.cancelled] at member
    have stopped := sound.stopped id member
    refine ⟨fun runs => stopped.runs (quiet.runs id member runs), fun job isJob isId => ?_,
      fun task isTask => stopped.tasks task (quiet.tasks task isTask), fun hashed => ?_⟩
    · rcases quiet.queue job isJob with before | fresh
      · exact stopped.unqueued job before isId
      · exact fresh (isId ▸ member)
    · obtain ⟨hashing, isHashing, isFile⟩ := hashed
      rcases quiet.hashing hashing isHashing with before | fresh
      · exact stopped.hashed ⟨hashing, before, isFile⟩
      · exact fresh id isFile member
  · exact sound.own id number (quiet.handles id number held) task (quiet.tasks task member)
  · rw [quiet.nextTask]
    exact sound.handles id number (quiet.handles id number held)
  · rw [quiet.nextTask]
    exact sound.numbers task (quiet.tasks task member)

/-- A task for a job of a file that is not cancelled. -/
theorem spawnSend_sound (sound : Sound node) {job : SendJob} (alive : job.id ∉ node.cancelled) :
    Sound (node.spawnSend job) := by
  refine ⟨fun id member => ?_, fun id number held task member isNumber => ?_,
    fun id number held => ?_, fun task member => ?_⟩
  · have stopped := sound.stopped id member
    refine ⟨stopped.runs, stopped.unqueued, fun task isTask => ?_, stopped.hashed⟩
    rcases List.mem_append.mp isTask with before | new
    · exact stopped.tasks task before
    · rw [List.mem_singleton.mp new]
      rintro rfl
      exact alive member
  · rw [lookup_spawnSend] at held
    rcases List.mem_append.mp member with before | new
    · have bound := sound.numbers task before
      split at held
      next =>
        cases held
        omega
      next => exact sound.own id number held task before isNumber
    · rw [List.mem_singleton.mp new] at isNumber ⊢
      split at held
      next isId => exact isId.symm
      next =>
        have bound := sound.handles id number held
        simp only at isNumber
        omega
  · rw [lookup_spawnSend] at held
    show number < node.nextTask + 1
    split at held
    · cases held
      omega
    · have bound := sound.handles id number held
      omega
  · show task.number < node.nextTask + 1
    rcases List.mem_append.mp member with before | new
    · have bound := sound.numbers task before
      omega
    · rw [List.mem_singleton.mp new]
      exact Nat.lt_succ_self _

/-- What waits is not cancelled, and so is what starts. -/
theorem startSends_sound (queue : List SendJob) (node : FileSends)
    (sound : Sound { node with filePendingSends := queue }) : Sound (startSends queue node).2 := by
  induction queue generalizing node with
  | nil => exact sound
  | cons job queue ih =>
      unfold startSends
      split
      · exact sound
      · have alive : job.id ∉ node.cancelled := fun member =>
          (sound.stopped job.id member).unqueued job List.mem_cons_self rfl
        have started : Sound { node with
            filePendingSends := queue
            fileResumable := node.fileResumable.insert job.id { job with announce := none } } :=
          sound.quiet ⟨rfl, fun _ _ runs => runs,
            fun _ member => .inl (List.mem_cons_of_mem job member), fun _ member => .inl member,
            fun _ member => member, fun _ _ held => held, rfl⟩
        exact ih _ (spawnSend_sound started alive)

theorem startSends_announces (queue : List SendJob) (node : FileSends) {id : TransferId}
    {name : String} {size : UInt64} {hash : Hash}
    (announced : .fileTransferStart id name size hash ∈ (startSends queue node).1) :
    ∃ job ∈ queue, job.id = id := by
  induction queue generalizing node with
  | nil => exact absurd announced List.not_mem_nil
  | cons job queue ih =>
      unfold startSends at announced
      split at announced
      · exact absurd announced List.not_mem_nil
      · rcases List.mem_append.mp announced with own | later
        · refine ⟨job, List.mem_cons_self, ?_⟩
          unfold announcement at own
          split at own
          · exact absurd own List.not_mem_nil
          · cases List.mem_singleton.mp own
            rfl
        · obtain ⟨other, member, isId⟩ := ih _ later
          exact ⟨other, List.mem_cons_of_mem job member, isId⟩

theorem startPendingSends_sound (sound : Sound node) : Sound node.startPendingSends.2 := by
  unfold startPendingSends
  split
  · exact startSends_sound _ _ sound
  · exact sound

/-- Nothing that is announced is cancelled. -/
theorem startPendingSends_announces (sound : Sound node) {id : TransferId} {name : String}
    {size : UInt64} {hash : Hash}
    (announced : .fileTransferStart id name size hash ∈ node.startPendingSends.1) :
    id ∉ node.cancelled := by
  unfold startPendingSends at announced
  split at announced
  · obtain ⟨job, member, isId⟩ := startSends_announces _ _ announced
    exact fun cancelled => (sound.stopped id cancelled).unqueued job member isId
  · exact absurd announced List.not_mem_nil

theorem cancelAll_sound {meant : Meant} {ids : List TransferId} {queue : List SendJob}
    (sound : Sound node) (clean : node.Clean meant ids)
    (fewer : ∀ job ∈ queue, job ∈ node.filePendingSends)
    (noneWaits : ∀ id ∈ ids, meant.incoming = false → (node.fileTransfers.lookup id).isSome →
      ∀ job ∈ queue, job.id ≠ id) :
    Sound { cancelAll ids meant node with filePendingSends := queue } := by
  have all := cancelAll_all meant ids node
  have ran (id : TransferId) (runs : (cancelAll ids meant node).Runs id) :
      node.Runs id ∧ id ∉ ids := (cancelAll_cancels ids meant node).runs id runs
  have earlier (task : SendTask) (member : task ∈ (cancelAll ids meant node).tasks) :
      task ∈ node.tasks := by
    rw [all.tasks] at member
    exact List.mem_of_mem_filter member
  have held (id : TransferId) (number : Nat)
      (found : (cancelAll ids meant node).fileSendTasks.lookup id = some number) :
      node.fileSendTasks.lookup id = some number := by
    rw [all.fileSendTasks] at found
    split at found
    · cases found
    · exact found
  refine ⟨fun id member => ?_, fun id number found task member => ?_, fun id number found => ?_,
    fun task member => ?_⟩
  · rcases all.cancelled id member with before | ⟨out, isId, known⟩
    · have stopped := sound.stopped id before
      refine ⟨fun runs => stopped.runs (ran id runs).1,
        fun job isJob => stopped.unqueued job (fewer job isJob),
        fun task isTask => stopped.tasks task (earlier task isTask),
        fun hashed => stopped.hashed ?_⟩
      obtain ⟨hashing, isHashing, isFile⟩ := hashed
      exact ⟨hashing, all.hashing ▸ isHashing, isFile⟩
    · have stops := (clean id isId).2 out known
      refine ⟨fun runs => (ran id runs).2 isId, noneWaits id isId out known,
        fun task isTask same => ?_, fun hashed => stops.1 ?_⟩
      · have isTask : task ∈ (cancelAll ids meant node).tasks := isTask
        rw [all.tasks, List.mem_filter, @decide_eq_true_iff _ (List.decidableBAll _ ids)] at isTask
        exact isTask.2 id isId (stops.2 task isTask.1 same)
      · obtain ⟨hashing, isHashing, isFile⟩ := hashed
        exact ⟨hashing, all.hashing ▸ isHashing, isFile⟩
  · exact sound.own id number (held id number found) task (earlier task member)
  · show number < (cancelAll ids meant node).nextTask
    rw [all.nextTask]
    exact sound.handles id number (held id number found)
  · show task.number < (cancelAll ids meant node).nextTask
    rw [all.nextTask]
    exact sound.numbers task (earlier task member)

end invariant

/-! ## Steps -/

section steps

/-- A row that says cancelled goes on saying so, as long as it is there. -/
def RowsLast (node node' : FileSends) : Prop :=
  ∀ id, ∀ row ∈ node.fileTransfers.lookup id, row.state = .cancelled →
    ∀ after ∈ node'.fileTransfers.lookup id, after.state = .cancelled

theorem RowsLast.of_eq (same : node'.fileTransfers = node.fileTransfers) : RowsLast node node' := by
  intro id row isRow cancelled after isAfter
  rw [same] at isAfter
  cases Option.mem_unique isRow isAfter
  exact cancelled

/-- A row is written over that is not cancelled. -/
theorem RowsLast.insert {id : TransferId} {row : TransferRow}
    (isRows : node'.fileTransfers = node.fileTransfers.insert id row)
    (open_ : ∀ before ∈ node.fileTransfers.lookup id, before.state = .cancelled →
      row.state = .cancelled) : RowsLast node node' := by
  intro other before isBefore cancelled after isAfter
  rw [isRows, HashMap.lookup_insert_eq] at isAfter
  split at isAfter
  next isId =>
    cases isAfter
    exact open_ before (isId ▸ isBefore) cancelled
  next =>
    cases Option.mem_unique isBefore isAfter
    exact cancelled

/-- A handler leaves all cancelled files stopped and says nothing of them. -/
structure Safe (node : FileSends) (result : List MessageKind × FileSends) : Prop where
  sound : Sound result.2
  rows : RowsLast node result.2
  start : ∀ id name size hash, .fileTransferStart id name size hash ∈ result.1 → id ∉ node.cancelled

theorem Safe.quiet (sound : Sound node) (quiet : Quiet node node') (rows : RowsLast node node') :
    Safe node ([], node') :=
  ⟨sound.quiet quiet, rows, fun _ _ _ _ announced => absurd announced List.not_mem_nil⟩

/-- What does not start a transfer may be said of any. -/
theorem Safe.append {result : List MessageKind × FileSends} (safe : Safe node result)
    {answers : List MessageKind}
    (plain : ∀ id name size hash, .fileTransferStart id name size hash ∉ answers) :
    Safe node (answers ++ result.1, result.2) := by
  refine ⟨safe.sound, safe.rows, fun id name size hash announced => ?_⟩
  rcases List.mem_append.mp announced with own | later
  · exact absurd own (plain id name size hash)
  · exact safe.start id name size hash later

theorem startPendingSends_safe (sound : Sound node) (quiet : Quiet node node')
    (rows : RowsLast node node') : Safe node node'.startPendingSends := by
  have sound' := sound.quiet quiet
  refine ⟨startPendingSends_sound sound', fun id row isRow cancelled after isAfter => ?_,
    fun id name size hash announced => ?_⟩
  · have same : node'.startPendingSends.2.fileTransfers = node'.fileTransfers := by
      unfold startPendingSends
      split
      · exact (startSends_books ..).fileTransfers
      · rfl
    rw [same] at isAfter
    exact rows id row isRow cancelled after isAfter
  · rw [← quiet.cancelled]
    exact startPendingSends_announces sound' announced

theorem startTransfer_safe (sound : Sound node) (path : Path) (name : String) (size : UInt64)
    (hash : Hash) (fromClipboard : Bool)
    (unused : node.mayTransferFiles = true → node.Unused node.nextTransferId) :
    Safe node (node.startTransfer path name size hash fromClipboard) := by
  unfold startTransfer
  split
  next => exact .quiet sound (.refl node) (.of_eq rfl)
  next granted =>
    rw [Bool.not_eq_true', Bool.not_eq_false] at granted
    have fresh := unused granted
    have queued : Safe node (startPendingSends { node with
        nextTransferId := node.nextTransferId + 1
        fileTransfers :=
          node.fileTransfers.insert node.nextTransferId (outgoingRow name size fromClipboard)
        filePendingSends := node.filePendingSends ++
          [{ id := node.nextTransferId, path, resume := 0, attempts := 0, announce := none }]
      }) := by
      refine startPendingSends_safe sound ⟨rfl, fun id member runs => ?_, fun job member => ?_,
        fun _ member => .inl member, fun _ member => member, fun _ _ held => held, rfl⟩
        (.insert rfl fun before isBefore cancelled => absurd cancelled (fresh.2 before isBefore))
      · rcases runs_insert rfl runs with ⟨rfl, -⟩ | ⟨-, ran⟩
        · exact absurd member fresh.1
        · exact ran
      · rcases List.mem_append.mp member with before | new
        · exact .inl before
        · rw [List.mem_singleton.mp new]
          exact .inr fresh.1
    refine ⟨queued.sound, queued.rows, fun id name size hash announced => ?_⟩
    rcases List.mem_cons.mp announced with own | later
    · cases own
      exact fresh.1
    · exact queued.start id name size hash later

theorem lookup_erase_le {tasks : HashMap TransferId Nat} {key id : TransferId} {number : Nat}
    (held : (tasks.erase key).lookup id = some number) : tasks.lookup id = some number := by
  rw [HashMap.lookup_erase_eq] at held
  split at held
  · cases held
  · exact held

theorem onFileChunkAck_safe (sound : Sound node) {id : TransferId} {offset : UInt64}
    (cleanly : node.CancelsCleanly (.chunkAck id offset)) :
    Safe node ([], node.onFileChunkAck id offset) := by
  unfold onFileChunkAck
  cases found : node.fileTransfers.lookup id with
  | none => exact .quiet sound (.refl node) (.of_eq rfl)
  | some row =>
      simp only
      split
      next => exact .quiet sound (.refl node) (.of_eq rfl)
      next outgoing =>
        have out : row.incoming = false := Bool.eq_false_iff.mpr outgoing
        split
        next complete =>
          refine .quiet sound ⟨rfl, fun other member runs => ?_, fun _ member => .inl member,
            fun _ member => .inl member, fun _ member => member,
            fun _ _ held => lookup_erase_le held, rfl⟩
            (.insert rfl fun before isBefore cancelled => ?_)
          · rcases runs_insert rfl runs with ⟨-, -, running⟩ | ⟨-, ran⟩
            · cases running
            · exact ran
          · rw [found] at isBefore
            cases isBefore
            exact absurd complete (UInt64.not_le.mpr (cleanly row found out cancelled))
        next =>
          refine .quiet sound ⟨rfl, fun other member runs => ?_, fun _ member => .inl member,
            fun _ member => .inl member, fun _ member => member, fun _ _ held => held, rfl⟩
            (.insert rfl fun before isBefore cancelled => ?_)
          · rcases runs_insert rfl runs with ⟨isId, isOut, running⟩ | ⟨-, ran⟩
            · exact ⟨row, isId.symm ▸ found, isOut, running⟩
            · exact ran
          · rw [found] at isBefore
            cases isBefore
            exact cancelled

theorem resumeSend_safe (sound : Sound node) {id : TransferId}
    {resumed : List MessageKind × FileSends} (isResumed : node.resumeSend id = some resumed) :
    Safe node resumed := by
  simp only [resumeSend, Option.bind_eq_bind, Option.bind_eq_some_iff, Option.guard_eq_some',
    Option.pure_def, Option.some.injEq, Bool.and_eq_true, Bool.not_eq_true', decide_eq_true_eq]
    at isResumed
  obtain ⟨job, -, -, -, -, -, row, found, -, ⟨outgoing, running⟩, rfl⟩ := isResumed
  have alive : id ∉ node.cancelled := fun member =>
    (sound.stopped id member).runs ⟨row, found, outgoing, running⟩
  refine startPendingSends_safe sound ⟨rfl, fun _ _ runs => runs, fun other member => ?_,
    fun _ member => .inl member, fun _ member => member, fun _ _ held => lookup_erase_le held, rfl⟩
    (.of_eq rfl)
  rcases List.mem_append.mp member with before | new
  · exact .inl before
  · rw [List.mem_singleton.mp new]
    exact .inr alive

theorem onFileFinished_safe (sound : Sound node) {id : TransferId} {state : TransferState}
    (ended : state ≠ .running)
    (unended : ∀ row ∈ node.fileTransfers.lookup id, row.state ≠ .cancelled) :
    Safe node (node.onFileFinished id state) := by
  unfold onFileFinished
  split
  next resumed isResumed =>
    split at isResumed
    · exact resumeSend_safe sound isResumed
    · cases isResumed
  next =>
    cases found : node.fileTransfers.lookup id with
    | none => exact .quiet sound (.refl node) (.of_eq rfl)
    | some row =>
        have next : Safe node (startPendingSends { node with
            fileTransfers := node.fileTransfers.insert id
              { row with state, moved := if state = .completed then row.size else row.moved }
            fileSendTasks := node.fileSendTasks.erase id
            fileResumable := node.fileResumable.erase id }) := by
          refine startPendingSends_safe sound ⟨rfl, fun other member runs => ?_,
            fun _ member => .inl member, fun _ member => .inl member, fun _ member => member,
            fun _ _ held => lookup_erase_le held, rfl⟩ (.insert rfl fun before isBefore cancelled =>
              absurd cancelled (unended before isBefore))
          rcases runs_insert rfl runs with ⟨-, -, running⟩ | ⟨-, ran⟩
          · exact absurd running ended
          · exact ran
        refine next.append fun other name size hash announced => ?_
        split at announced
        · cases state <;> simp at announced
        · exact absurd announced List.not_mem_nil

theorem onFileProgress_safe (sound : Sound node) (id : TransferId) (moved : UInt64) :
    Safe node (node.onFileProgress id moved) := by
  unfold onFileProgress
  cases found : node.fileTransfers.lookup id with
  | none => exact .quiet sound (.refl node) (.of_eq rfl)
  | some row =>
      have next : Safe node ([], { node with
          fileTransfers := node.fileTransfers.insert id { row with moved } }) := by
        refine .quiet sound ⟨rfl, fun other member runs => ?_, fun _ member => .inl member,
          fun _ member => .inl member, fun _ member => member, fun _ _ held => held, rfl⟩
          (.insert rfl fun before isBefore cancelled => ?_)
        · rcases runs_insert rfl runs with ⟨isId, outgoing, running⟩ | ⟨-, ran⟩
          · exact ⟨row, isId.symm ▸ found, outgoing, running⟩
          · exact ran
        · rw [found] at isBefore
          cases isBefore
          exact cancelled
      simp only
      split
      · have plain : ∀ other name size hash, MessageKind.fileTransferStart other name size hash
            ∉ [MessageKind.fileChunkAck id moved] := by simp
        exact next.append plain
      · exact next

theorem onFileConnected_safe (sound : Sound node) : Safe node node.onFileConnected := by
  unfold onFileConnected
  split
  · exact .quiet sound (.refl node) (.of_eq rfl)
  · exact startPendingSends_safe sound (.same rfl rfl rfl rfl rfl rfl rfl) (.of_eq rfl)

theorem onFileTransferStart_safe (sound : Sound node) {id : TransferId} (name : String)
    (size : UInt64) (fromClipboard : Bool) (directory : Option TransferId)
    (unended : ∀ row ∈ node.fileTransfers.lookup id, row.state ≠ .cancelled) :
    Safe node (node.onFileTransferStart id name size fromClipboard directory) := by
  refine startPendingSends_safe sound ⟨rfl, fun other member runs => ?_,
    fun _ member => .inl member, fun _ member => .inl member, fun _ member => member,
    fun _ _ held => held, rfl⟩
    (.insert rfl fun before isBefore cancelled => absurd cancelled (unended before isBefore))
  rcases runs_insert rfl runs with ⟨-, outgoing, -⟩ | ⟨-, ran⟩
  · cases outgoing
  · exact ran

theorem addMembers_ids (group : TransferId) (files : List (String × Path × UInt64))
    (node : FileSends) :
    (addMembers group files node).1.map (·.1) = takeIds files.length node.nextTransferId := by
  induction files generalizing node with
  | nil => rfl
  | cons file files ih =>
      obtain ⟨name, path, size⟩ := file
      exact congrArg (node.nextTransferId :: ·) (ih _)

theorem addMembers_rows (group : TransferId) (files : List (String × Path × UInt64))
    (node : FileSends) {id : TransferId}
    (outside : id ∉ takeIds files.length node.nextTransferId) :
    (addMembers group files node).2.fileTransfers.lookup id = node.fileTransfers.lookup id := by
  induction files generalizing node with
  | nil => rfl
  | cons file files ih =>
      obtain ⟨name, path, size⟩ := file
      obtain ⟨other, later⟩ := not_or.mp (mt List.mem_cons.mpr outside)
      exact (ih _ later).trans (AList.lookup_insert_ne other)

theorem onDirAcceptInbound_safe (sound : Sound node) (name : String)
    (files : List (String × Path × UInt64))
    (cleanly : node.CancelsCleanly (.dirAccepted name files)) :
    Safe node ([], node.onDirAcceptInbound name files) := by
  unfold onDirAcceptInbound
  split
  next => exact .quiet sound (.refl node) (.of_eq rfl)
  next granted =>
    rw [Bool.not_eq_true', Bool.not_eq_false] at granted
    have unused := cleanly granted
    have start := addMembers_ids node.nextTransferId files
      { node with nextTransferId := node.nextTransferId + 1 }
    have adds := addMembers_adds node.nextTransferId files
      { node with nextTransferId := node.nextTransferId + 1 }
    refine .quiet sound ⟨adds.cancelled, fun id member runs => ?_, fun job member => ?_,
      fun hashing member => ?_, fun task member => ?_, fun id number held => ?_, adds.nextTask⟩
      fun id row isRow cancelled after isAfter => ?_
    · rcases adds.runs id runs with ran | added
      · exact ran
      · rw [start] at added
        exact absurd member (unused id added).1
    · exact .inl (adds.filePendingSends ▸ member)
    · rcases List.mem_append.mp member with before | new
      · exact .inl (adds.hashing ▸ before)
      · rw [List.mem_singleton.mp new]
        refine .inr fun id added => ?_
        rw [start] at added
        exact (unused id added).1
    · exact adds.tasks ▸ member
    · exact adds.fileSendTasks ▸ held
    · have same := addMembers_rows node.nextTransferId files
        { node with nextTransferId := node.nextTransferId + 1 } (fun member =>
          (unused id member).2 row isRow cancelled)
      have isAfter : after ∈ (addMembers node.nextTransferId files { node with
          nextTransferId := node.nextTransferId + 1 }).2.fileTransfers.lookup id := isAfter
      rw [same] at isAfter
      cases Option.mem_unique isRow isAfter
      exact cancelled

theorem CancelsAll.rows {meant : Meant} {ids : List TransferId}
    (all : CancelsAll meant ids node node') : RowsLast node node' := by
  intro id row isRow cancelled after isAfter
  rw [all.fileTransfers] at isAfter
  have isRow : node.fileTransfers.lookup id = some row := isRow
  rw [isRow] at isAfter
  split at isAfter
  · cases isAfter
    unfold cancelRow
    rw [if_neg (by rw [cancelled]; exact TransferState.noConfusion)]
    exact cancelled
  · cases isAfter
    exact cancelled

theorem cancelAll_safe {meant : Meant} {ids : List TransferId} (sound : Sound node)
    (clean : node.Clean meant ids) (noneWaits : node.NoneWaits meant ids) :
    Safe node ([], cancelAll ids meant node) := by
  have all := cancelAll_all meant ids node
  refine ⟨?_, all.rows, fun _ _ _ _ announced => absurd announced List.not_mem_nil⟩
  have before (job : SendJob) (member : job ∈ (cancelAll ids meant node).filePendingSends) :
      job ∈ node.filePendingSends := all.filePendingSends ▸ member
  exact cancelAll_sound sound clean before fun id member out known job isJob =>
    noneWaits id member out known job (before job isJob)

theorem onFileAbort_safe (sound : Sound node) {id : TransferId}
    (cleanly : node.CancelsCleanly (.userAbort id)) : Safe node (node.onFileAbort id) := by
  dsimp only [CancelsCleanly] at cleanly
  unfold onFileAbort
  cases isGroup : node.dirGroups.lookup id with
  | some group =>
      simp only [isGroup] at cleanly ⊢
      refine ⟨?_, (cancelAll_all _ _ node).rows, fun id name size hash announced => ?_⟩
      · exact cancelAll_sound sound cleanly.1 (fun _ member => absurd member List.not_mem_nil)
          fun _ _ _ _ _ member => absurd member List.not_mem_nil
      · obtain ⟨_, -, isAbort⟩ := List.mem_map.mp announced
        cases isAbort
  | none =>
      simp only [isGroup] at cleanly ⊢
      cases found : node.fileTransfers.lookup id with
      | none => exact .quiet sound (.refl node) (.of_eq rfl)
      | some row =>
          obtain ⟨clean, noneWaits⟩ := cleanly row found
          have plain : ∀ other name size hash, MessageKind.fileTransferStart other name size hash
            ∉ [MessageKind.fileAbort id] := by simp
          exact (cancelAll_safe sound clean noneWaits).append plain

theorem cancelGroup_eq (node : FileSends) (group : TransferId) :
    node.cancelGroup group = cancelAll (node.membersOf group) (.directory group false) node := by
  unfold cancelGroup membersOf
  cases node.groupMembers group <;> rfl

/-- What the hashed files of a directory were is settled by their ids. -/
theorem onDirFilesReady_safe (sound : Sound node) {later : FileSends} (quiet : Quiet node later)
    (rows : later.fileTransfers = node.fileTransfers) {group : TransferId}
    {files : Option (List Prepared)}
    (alive : ∀ prepared ∈ files, ∀ file ∈ prepared, file.id ∉ node.cancelled)
    (cleanly : later.mayTransferFiles = true → later.givesUp files = true →
      (∀ prepared ∈ files, prepared.head?.any later.misfits = true)
        ∧ later.Clean (.directory group false) (later.membersOf group)
        ∧ later.NoneWaits (.directory group false) (later.membersOf group)) :
    Safe node (later.onDirFilesReady group files) := by
  have given (sound' : Sound later)
      (clean : later.Clean (.directory group false) (later.membersOf group))
      (noneWaits : later.NoneWaits (.directory group false) (later.membersOf group)) :
      Safe node ([], later.cancelGroup group) := by
    rw [cancelGroup_eq]
    have safe := cancelAll_safe sound' clean noneWaits
    refine ⟨safe.sound, fun id row isRow cancelled after isAfter => ?_,
      fun _ _ _ _ announced => absurd announced List.not_mem_nil⟩
    exact safe.rows id row (rows ▸ isRow) cancelled after isAfter
  unfold onDirFilesReady
  cases granted : later.mayTransferFiles with
  | false => exact .quiet sound quiet (.of_eq rows)
  | true =>
      have cleanly := cleanly granted
      have sound' := sound.quiet quiet
      cases files with
      | none => exact given sound' (cleanly rfl).2.1 (cleanly rfl).2.2
      | some files =>
          have queues := queueFiles_queues files later
          simp only [Bool.not_true, Bool.false_eq_true, if_false]
          cases fits : (queueFiles files later).1 with
          | false =>
              rw [if_neg Bool.false_ne_true]
              rw [queueFiles_fits, Bool.not_eq_false'] at fits
              obtain ⟨first, clean, noneWaits⟩ := cleanly fits
              rw [queues.none (first files rfl)]
              exact given sound' clean noneWaits
          | true =>
              rw [if_pos rfl]
              refine startPendingSends_safe sound ⟨queues.cancelled.trans quiet.cancelled,
                fun id member runs => quiet.runs id member ?_, fun job member => ?_,
                fun hashing member => quiet.hashing hashing (queues.hashing ▸ member),
                fun task member => quiet.tasks task (queues.tasks ▸ member),
                fun id number held => quiet.handles id number (queues.fileSendTasks ▸ held),
                queues.nextTask.trans quiet.nextTask⟩ (.of_eq (queues.fileTransfers.trans rows))
              · unfold Runs at runs ⊢
                rwa [queues.fileTransfers] at runs
              · rcases queues.only job member with before | ⟨file, isFile, rfl⟩
                · exact quiet.queue job before
                · exact .inr (alive files rfl file isFile)

theorem step_safe (sound : Sound node) (happening : Happening)
    (cleanly : node.CancelsCleanly happening) :
    Safe node ((step node happening).1.sent, (step node happening).2) := by
  cases happening with
  | startTransfer path name size hash fromClipboard =>
      exact startTransfer_safe sound path name size hash fromClipboard cleanly
  | dirAccepted name files => exact onDirAcceptInbound_safe sound name files cleanly
  | dirFilesReady position prepare =>
      simp only [step]
      cases isHashing : node.hashing[position]? with
      | none => exact .quiet sound (.refl node) (.of_eq rfl)
      | some hashing =>
          have member := List.mem_of_getElem? isHashing
          have quiet : Quiet node { node with hashing := node.hashing.eraseIdx position } :=
            ⟨rfl, fun _ _ runs => runs, fun _ member => .inl member,
              fun _ member => .inl (List.mem_of_mem_eraseIdx member), fun _ member => member,
              fun _ _ held => held, rfl⟩
          refine onDirFilesReady_safe sound quiet rfl
            (fun prepared isPrepared file isFile cancelled => ?_) (cleanly hashing isHashing)
          have isId := prepareAll_ids isPrepared
          exact (sound.stopped file.id cancelled).hashed
            ⟨hashing, member, isId ▸ List.mem_map_of_mem isFile⟩
  | acceptDir name count =>
      have next : Safe node (startPendingSends { node with
          nextTransferId := node.nextTransferId + 1 + UInt64.ofNat count
          dirGroups := node.dirGroups.insert node.nextTransferId
            { name, incoming := true, members := takeIds count (node.nextTransferId + 1) } }) :=
        startPendingSends_safe sound (.same rfl rfl rfl rfl rfl rfl rfl) (.of_eq rfl)
      have plain : ∀ other name size hash, MessageKind.fileTransferStart other name size hash
        ∉ [MessageKind.dirAccept true] := by simp
      exact next.append plain
  | transferStart id name size fromClipboard directory =>
      exact onFileTransferStart_safe sound name size fromClipboard directory cleanly
  | beginTask position made =>
      simp only [step]
      cases node.begins[position]? with
      | none => exact .quiet sound (.refl node) (.of_eq rfl)
      | some id =>
          exact .quiet sound (.same rfl rfl rfl rfl rfl rfl rfl) (.of_eq rfl)
  | cancelTask position =>
      simp only [step]
      cases node.cancels[position]? with
      | none => exact .quiet sound (.refl node) (.of_eq rfl)
      | some task =>
          exact .quiet sound (.same rfl rfl rfl rfl rfl rfl rfl) (.of_eq rfl)
  | chunkAck id offset => exact onFileChunkAck_safe sound cleanly
  | peerAbort id incoming => exact cancelAll_safe sound cleanly.1 cleanly.2
  | userAbort id => exact onFileAbort_safe sound cleanly
  | progress id moved => exact onFileProgress_safe sound id moved
  | completed id =>
      have ended : TransferState.completed ≠ .running := TransferState.noConfusion
      exact onFileFinished_safe sound ended cleanly
  | failed id =>
      have ended : TransferState.failed ≠ .running := TransferState.noConfusion
      exact onFileFinished_safe sound ended cleanly
  | chunk number =>
      simp only [step]
      cases node.tasks.find? (·.number = number) <;> exact .quiet sound (.refl node) (.of_eq rfl)
  | taskEnds number =>
      exact .quiet sound ⟨rfl, fun _ _ runs => runs, fun _ member => .inl member,
        fun _ member => .inl member, fun _ member => List.mem_of_mem_filter member,
        fun _ _ held => held, rfl⟩ (.of_eq rfl)
  | fileConnected => exact onFileConnected_safe sound
  | connectFailed =>
      exact .quiet sound ⟨rfl, fun _ _ runs => runs, fun _ member => absurd member List.not_mem_nil,
        fun _ member => .inl member, fun _ member => member, fun _ _ held => held, rfl⟩ (.of_eq rfl)
  | abandon =>
      refine .quiet sound ⟨rfl, fun _ _ runs => ?_, fun _ member => absurd member List.not_mem_nil,
        fun _ member => .inl member, fun _ member => List.mem_of_mem_filter member,
        fun _ _ held => ?_, rfl⟩ fun _ _ _ _ _ isAfter => ?_
      · obtain ⟨_, isRow, -⟩ := runs
        cases isRow
      · cases held
      · cases isAfter
  | unstaged | connectionLost | grants | control | elsewhere =>
      exact .quiet sound (.same rfl rfl rfl rfl rfl rfl rfl) (.of_eq rfl)

/-! What a cancel leaves alone -/

theorem CancelsAll.ended {meant : Meant} {ids : List TransferId}
    (all : CancelsAll meant ids node node') {id : TransferId} (member : id ∈ ids) :
    ∀ row ∈ node'.fileTransfers.lookup id, row.state ≠ .running := by
  intro row isRow
  rw [all.fileTransfers, if_pos member] at isRow
  obtain ⟨before, -, rfl⟩ := Option.map_eq_some_iff.mp isRow
  unfold cancelRow
  split
  · exact TransferState.noConfusion
  · assumption

/-- Where no other transfer is found under the ids, none is changed. -/
theorem CancelsAll.alone {meant : Meant} {ids : List TransferId} (sound : Sound node)
    (all : CancelsAll meant ids node node') (hits : ∀ id ∈ ids, node.Hits meant id)
    {id : TransferId} {incoming : Bool} (outside : ¬ node.Own meant id incoming)
    {queue : List SendJob} (jobs : incoming = false →
      queue.filter (·.id = id) = node.filePendingSends.filter (·.id = id)) :
    SameTransfer node { node' with filePendingSends := queue } id incoming := by
  have unowned (out : incoming = false) (member : id ∈ ids) :
      node.fileSendTasks.lookup id = none := by
    by_contra held
    exact outside (out ▸ (hits id member).2 (Option.isSome_iff_ne_none.mpr held))
  refine ⟨?_, jobs, fun out => ?_, fun out => ?_, fun _ => by rw [← all.staged]⟩
  · show (node'.fileTransfers.lookup id).filter _ = _
    rw [all.fileTransfers]
    split
    next member =>
      cases found : node.fileTransfers.lookup id with
      | none => rfl
      | some row =>
          unfold cancelRow
          by_cases running : row.state = .running
          · have other : row.incoming ≠ incoming := fun isIncoming =>
              outside (isIncoming ▸ (hits id member).1 row found running)
            simp [running, other, Option.filter_some]
          · simp [running]
    next => rfl
  · show node'.fileSendTasks.lookup id = _
    rw [all.fileSendTasks]
    split
    next member => exact (unowned out member).symm
    next => rfl
  · show node'.tasks.filter _ = _
    rw [all.tasks, List.filter_filter]
    refine List.filter_congr fun task isTask => ?_
    rw [Bool.and_eq_left_iff_imp, decide_eq_true_iff, @decide_eq_true_iff _ (List.decidableBAll ..)]
    rintro rfl other member held
    have isId := sound.own other task.number held task isTask rfl
    rw [← isId, unowned out (isId ▸ member)] at held
    cases held

/-- A directory that is given up before any of its files is queued. -/
theorem onDirFilesReady_givesUp {position : Nat} {group : TransferId}
    {files : Option (List Prepared)} (granted : node.mayTransferFiles = true)
    (given : node.givesUp files = true)
    (first : ∀ prepared ∈ files, prepared.head?.any node.misfits = true) :
    onDirFilesReady { node with hashing := node.hashing.eraseIdx position } group files =
      ([], cancelAll (node.membersOf group) (.directory group false)
        { node with hashing := node.hashing.eraseIdx position }) := by
  unfold onDirFilesReady
  rw [if_neg (by rw [granted]; exact Bool.false_ne_true)]
  cases files with
  | none => exact congrArg _ (cancelGroup_eq ..)
  | some files =>
      have queues := queueFiles_queues files
        { node with hashing := node.hashing.eraseIdx position }
      have unfit : (queueFiles files
          { node with hashing := node.hashing.eraseIdx position }).1 = false := by
        rw [queueFiles_fits, Bool.not_eq_false']
        exact given
      simp only [unfit, Bool.false_eq_true, if_false]
      rw [queues.none (first files rfl)]
      exact congrArg _ (cancelGroup_eq ..)

/-- What a cancelling step does to the files that it goes through, and to all others. -/
theorem step_cancels (sound : Sound node) {happening : Happening}
    (cleanly : node.CancelsCleanly happening) {cancel : Meant × List TransferId}
    (isCancel : node.cancelledBy happening = some cancel) :
    (∀ id ∈ cancel.2, ∀ row ∈ (step node happening).2.fileTransfers.lookup id, row.state ≠ .running)
      ∧ ∀ id incoming, ¬ node.Own cancel.1 id incoming →
        SameTransfer node (step node happening).2 id incoming := by
  cases happening with
  | peerAbort id incoming =>
      cases isCancel
      have all := cancelAll_all (.file id incoming) [id] node
      exact ⟨fun other member => all.ended member, fun other direction outside =>
        all.alone sound (fun id member => (cleanly.1 id member).1) outside fun _ =>
          congrArg _ all.filePendingSends⟩
  | userAbort id =>
      dsimp only [CancelsCleanly] at cleanly
      unfold cancelledBy at isCancel
      simp only [step, onFileAbort]
      cases isGroup : node.dirGroups.lookup id with
      | some group =>
          simp only [isGroup] at cleanly isCancel ⊢
          cases isCancel
          have all := cancelAll_all (.directory id group.incoming) group.members node
          refine ⟨fun other member => all.ended member, fun other direction outside => ?_⟩
          refine all.alone sound (fun id member => (cleanly.1 id member).1) outside fun out => ?_
          -- All that waited was of the directory.
          refine (List.filter_eq_nil_iff.mpr fun job member isOther => outside ?_).symm
          rw [out, ← of_decide_eq_true isOther]
          exact cleanly.2 job member
      | none =>
          simp only [isGroup] at cleanly isCancel ⊢
          cases found : node.fileTransfers.lookup id with
          | none =>
              rw [found] at isCancel
              cases isCancel
          | some row =>
              rw [found] at isCancel
              cases isCancel
              have all := cancelAll_all (.file id row.incoming) [id] node
              exact ⟨fun other member => all.ended member, fun other direction outside =>
                all.alone sound (fun id member => ((cleanly row found).1 id member).1) outside
                  fun _ => congrArg _ all.filePendingSends⟩
  | dirFilesReady position prepare =>
      simp only [cancelledBy, Option.bind_eq_bind, Option.bind_eq_some_iff, Option.guard_eq_some',
        Option.pure_def, Option.some.injEq, Bool.and_eq_true] at isCancel
      obtain ⟨hashing, isHashing, -, ⟨granted, given⟩, rfl⟩ := isCancel
      have gives := cleanly hashing isHashing granted given
      simp only [step, isHashing]
      rw [quiet, onDirFilesReady_givesUp granted given gives.1]
      have sound' : Sound { node with hashing := node.hashing.eraseIdx position } :=
        sound.quiet ⟨rfl, fun _ _ runs => runs, fun _ member => .inl member,
          fun _ member => .inl (List.mem_of_mem_eraseIdx member), fun _ member => member,
          fun _ _ held => held, rfl⟩
      have all := cancelAll_all (.directory hashing.group false) (node.membersOf hashing.group)
        { node with hashing := node.hashing.eraseIdx position }
      refine ⟨fun other member => all.ended member, fun other direction outside => ?_⟩
      have same := all.alone sound' (fun id member => (gives.2.1 id member).1) outside fun _ =>
        congrArg _ all.filePendingSends
      exact ⟨same.row, same.jobs, same.handle, same.tasks, same.staging⟩
  | cancelTask position =>
      obtain ⟨task, isTask, rfl⟩ := Option.map_eq_some_iff.mp isCancel
      simp only [step, isTask]
      refine ⟨fun _ member => absurd member List.not_mem_nil, fun id incoming outside =>
        ⟨rfl, fun _ => rfl, fun _ => rfl, fun _ => rfl, fun comes => ?_⟩⟩
      rw [List.mem_filter, decide_eq_true_iff, and_iff_left_iff_imp]
      rintro member rfl
      exact outside (comes ▸ cleanly task isTask member)
  | _ => cases isCancel

end steps

/-! ## Runs -/

theorem step_chunk (happening : Happening) {id : TransferId}
    (isChunk : id ∈ (step node happening).1.chunk) : ∃ task ∈ node.tasks, task.id = id := by
  cases happening with
  | chunk number =>
      simp only [step] at isChunk
      cases found : node.tasks.find? (·.number = number) with
      | none =>
          rw [found] at isChunk
          cases isChunk
      | some task =>
          rw [found] at isChunk
          cases isChunk
          exact ⟨task, List.mem_of_find?_eq_some found, rfl⟩
  | dirFilesReady position prepare =>
      simp only [step] at isChunk
      cases found : node.hashing[position]? with
      | none =>
          rw [found] at isChunk
          cases isChunk
      | some hashing =>
          rw [found] at isChunk
          cases isChunk
  | beginTask position made =>
      simp only [step] at isChunk
      split at isChunk <;> cases isChunk
  | cancelTask position =>
      simp only [step] at isChunk
      split at isChunk <;> cases isChunk
  | _ => cases isChunk

theorem run_sound (happenings : List Happening)
    (cleanly : ∀ e ∈ history step {} happenings, e.pre.CancelsCleanly e.op) :
    Sound (exec step {} happenings) := by
  refine exec_induction (fun node happening sound ok => (step_safe sound happening ok).sound)
    ⟨fun _ member => ?_, fun _ _ held => ?_, fun _ _ held => ?_, fun _ member => ?_⟩ cleanly
  · exact absurd member List.not_mem_nil
  · cases held
  · cases held
  · exact absurd member List.not_mem_nil

/-- In a run in which every cancel finds its file where `cancel_transfer` looks for it, and nothing
under its number that is another's, and in which nothing is reported of a cancelled transfer later,
a cancelled transfer stays cancelled and alone. -/
theorem cancelled_stays_cancelled (happenings : List Happening)
    (cleanly : ∀ e ∈ history step {} happenings, e.pre.CancelsCleanly e.op) :
    ∀ e ∈ history step {} happenings, StaysCancelled e := by
  intro e member
  obtain ⟨before, after, rfl, isEvent⟩ := exists_prefix_of_mem_history member
  have ok := cleanly e member
  rw [isEvent] at ok ⊢
  have sound : Sound (exec step {} before) := run_sound before fun event earlier =>
    cleanly event (by rw [history_append]; exact List.mem_append_left _ earlier)
  have safe := step_safe sound e.op ok
  refine ⟨fun id isChunk cancelled => ?_, safe.start, safe.rows,
    fun cancel isCancel => (step_cancels sound ok isCancel).1,
    fun cancel isCancel => (step_cancels sound ok isCancel).2⟩
  obtain ⟨task, isTask, isId⟩ := step_chunk e.op isChunk
  exact (sound.stopped id cancelled).tasks task isTask isId

/-- Two files and a directory of two go out; a file and then the directory are cancelled, and what
the peer still acknowledges is less than a file. -/
def twoCancels : List Happening :=
  [.fileConnected, .startTransfer "/a" "a" 9 default false,
    .startTransfer "/b" "b" 9 default false, .chunk 0, .chunkAck 0 5, .peerAbort 0 false,
    .chunkAck 0 7, .cancelTask 0, .dirAccepted "d" [("c", "/d/c", 1), ("e", "/d/e", 1)],
    .dirFilesReady 0 fun path => some (path, 1, default),
    .userAbort 2, .chunk 1, .chunkAck 1 9]

theorem two_cancels_stay_cancelled :
    let events := history step {} twoCancels
    events ≠ [] ∧ ∀ e ∈ events, StaysCancelled e :=
  ⟨List.cons_ne_nil _ _, cancelled_stays_cancelled twoCancels (by decide)⟩

/-- Three files are sent and a fourth waits. The peer aborts the fourth; when one of the three
fails, the fourth is sent. -/
theorem waiting_file_is_sent_after_its_cancel :
    ¬ ∀ happenings : List Happening, ∀ e ∈ history step {} happenings, StaysCancelled e := by
  intro always
  have stays := always
    [.fileConnected, .startTransfer "/a" "a" 1 default false,
      .startTransfer "/b" "b" 1 default false, .startTransfer "/c" "c" 1 default false,
      .startTransfer "/d" "d" 1 default false, .peerAbort 3 false, .failed 0, .chunk 3]
  have last := stays _ (List.mem_of_getElem? (i := 7) rfl)
  exact absurd (last.chunk 3 rfl) (by decide)

end Lumepeer.Runtime.FileSends
