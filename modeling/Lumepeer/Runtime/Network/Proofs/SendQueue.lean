import Lumepeer.Runtime.Network.FileSends

/-!
# No file that goes out is forgotten

A file that goes out waits in the queue, has a task or belongs to a directory
that is being hashed. A failed dial and the end of a directory throw the whole
queue away, and a cancelled or an acknowledged file leaves its place empty
although others wait. While neither happens at the wrong moment, no file is left
behind.
-/

namespace Lumepeer.Runtime.FileSends
open Lumepeer.Lib Lumepeer.Core
open Lumepeer.Net (TransferId)
open FileOffers (Path Hash)
open FileTransfers (TransferRow TransferState)

/-- The file goes out and is running. -/
def Runs (node : FileSends) (id : TransferId) : Prop :=
  ∃ row ∈ node.fileTransfers.lookup id, row.incoming = false ∧ row.state = .running

/-- The file belongs to a directory that is being hashed. -/
def BeingHashed (node : FileSends) (id : TransferId) : Prop :=
  ∃ hashing ∈ node.hashing, id ∈ hashing.files.map (·.1)

/-- The file waits, has a task or is being hashed with its directory. -/
def Held (node : FileSends) (id : TransferId) : Prop :=
  (∃ job ∈ node.filePendingSends, job.id = id) ∨ (node.fileSendTasks.lookup id).isSome
    ∨ node.BeingHashed id

/-- No file that is running is forgotten. -/
def Accounted (node : FileSends) : Prop :=
  ∀ id, node.Runs id → node.Held id

/-- While files wait for nothing but a place, all places are taken. -/
def Busy (node : FileSends) : Prop :=
  node.fileConn = true → node.filePendingSends ≠ [] →
    node.fileSendTasks.entries.length = maxConcurrentFileTransfers

/-- Nothing but its job holds the file. -/
def OnlyQueued (node : FileSends) (id : TransferId) : Prop :=
  node.Runs id ∧ node.fileSendTasks.lookup id = none ∧ ¬ node.BeingHashed id

/-- To take away the task of the file leaves a place empty for which others wait. -/
def Frees (node : FileSends) (id : TransferId) : Prop :=
  node.fileConn = true ∧ node.filePendingSends ≠ [] ∧ (node.fileSendTasks.lookup id).isSome

/-- The files that the group has, if it is there. -/
def membersOf (node : FileSends) (group : TransferId) : List TransferId :=
  (node.groupMembers group).getD []

/-- What was hashed is held otherwise, or is cancelled with its group. -/
def Cancellable (node : FileSends) (hashing : Hashing) : Prop :=
  ∀ id ∈ hashing.files.map (·.1), node.Runs id →
    node.Held id ∨ id ∈ node.membersOf hashing.group

/-- Some of the files would wait, or wait already, while a place is empty or is left empty. -/
def Stalls (node : FileSends) (group : TransferId) (files : List Prepared) : Prop :=
  node.fileConn = true ∧ (node.filePendingSends ≠ [] ∨ ¬ files.head?.any node.misfits)
    ∧ (node.fileSendTasks.entries.length < maxConcurrentFileTransfers
      ∨ ∃ id ∈ node.membersOf group, (node.fileSendTasks.lookup id).isSome)

/-- A hashed directory can start, or can be given up. -/
def ReadyInTime (node : FileSends) (hashing : Hashing) (files : Option (List Prepared)) : Prop :=
  if node.mayTransferFiles then
    match files with
    | none => node.Cancellable hashing ∧ ∀ id ∈ node.membersOf hashing.group, ¬ node.Frees id
    | some files =>
        files.any node.misfits → node.Cancellable hashing ∧ ¬ node.Stalls hashing.group files
  else ∀ id ∈ hashing.files.map (·.1), node.Runs id → node.Held id

/-- No step throws away the only place of a file, or leaves a place empty for which a file waits. -/
def KeepsQueue (node : FileSends) : Happening → Prop
  | .chunkAck id offset =>
      (∃ row ∈ node.fileTransfers.lookup id, row.incoming = false ∧ row.size ≤ offset) →
        ¬ node.Frees id
  | .peerAbort id _ => ¬ node.Frees id
  | .userAbort id =>
      match node.dirGroups.lookup id with
      | some group =>
          ∀ job ∈ node.filePendingSends, job.id ∈ group.members ∨ ¬ node.OnlyQueued job.id
      | none => (node.fileTransfers.lookup id).isSome → ¬ node.Frees id
  | .connectFailed => ∀ job ∈ node.filePendingSends, ¬ node.OnlyQueued job.id
  | .dirFilesReady position prepare => ∀ hashing ∈ node.hashing[position]?,
      ReadyInTime { node with hashing := node.hashing.eraseIdx position } hashing
        (prepareAll prepare hashing.files)
  | _ => True

section decidable
variable (node : FileSends)

instance (id : TransferId) : Decidable (node.Runs id) := by
  unfold Runs
  infer_instance

instance (id : TransferId) : Decidable (node.BeingHashed id) := by
  unfold BeingHashed
  infer_instance

instance (id : TransferId) : Decidable (node.Held id) := by
  unfold Held
  infer_instance

instance (id : TransferId) : Decidable (node.OnlyQueued id) := by
  unfold OnlyQueued
  infer_instance

instance (id : TransferId) : Decidable (node.Frees id) := by
  unfold Frees
  infer_instance

instance (hashing : Hashing) : Decidable (node.Cancellable hashing) := by
  unfold Cancellable
  exact List.decidableBAll _ _

instance (group : TransferId) (files : List Prepared) : Decidable (node.Stalls group files) := by
  unfold Stalls
  infer_instance

instance (hashing : Hashing) (files : Option (List Prepared)) :
    Decidable (node.ReadyInTime hashing files) := by
  have members : Decidable (∀ id ∈ node.membersOf hashing.group, ¬ node.Frees id) :=
    List.decidableBAll _ _
  have running : Decidable (∀ id ∈ hashing.files.map (·.1), node.Runs id → node.Held id) :=
    List.decidableBAll _ _
  unfold ReadyInTime
  cases files <;> infer_instance

instance (happening : Happening) : Decidable (node.KeepsQueue happening) := by
  cases happening with
  | userAbort id =>
      dsimp only [KeepsQueue]
      cases node.dirGroups.lookup id <;> infer_instance
  | _ => unfold KeepsQueue; infer_instance

end decidable

/-! ## The queue -/

section queue

/-- What `start_pending_sends` leaves as it was. -/
structure SameBooks (node node' : FileSends) : Prop where
  fileTransfers : node'.fileTransfers = node.fileTransfers
  dirGroups : node'.dirGroups = node.dirGroups
  hashing : node'.hashing = node.hashing
  fileConn : node'.fileConn = node.fileConn

theorem startSends_books (queue : List SendJob) (node : FileSends) :
    SameBooks node (startSends queue node).2 := by
  induction queue generalizing node with
  | nil => exact ⟨rfl, rfl, rfl, rfl⟩
  | cons job queue ih =>
      unfold startSends
      split
      · exact ⟨rfl, rfl, rfl, rfl⟩
      · let started := { node with
          fileResumable := node.fileResumable.insert job.id { job with announce := none } }
        obtain ⟨rows, groups, hashing, live⟩ := ih (started.spawnSend job)
        exact ⟨rows, groups, hashing, live⟩

theorem lookup_spawnSend (node : FileSends) (job : SendJob) (id : TransferId) :
    (node.spawnSend job).fileSendTasks.lookup id =
      if id = job.id then some node.nextTask else node.fileSendTasks.lookup id :=
  HashMap.lookup_insert_eq ..

theorem startSends_tasks (queue : List SendJob) (node : FileSends) {id : TransferId}
    (held : (node.fileSendTasks.lookup id).isSome ∨ ∃ job ∈ queue, job.id = id) :
    ((startSends queue node).2.fileSendTasks.lookup id).isSome
      ∨ ∃ job ∈ (startSends queue node).2.filePendingSends, job.id = id := by
  induction queue generalizing node with
  | nil =>
      rcases held with task | ⟨job, member, -⟩
      · exact .inl task
      · exact absurd member List.not_mem_nil
  | cons job queue ih =>
      unfold startSends
      split
      · exact held
      · apply ih
        rcases held with task | ⟨other, member, isId⟩
        · refine .inl ?_
          rw [lookup_spawnSend]
          split
          · rfl
          · exact task
        · rcases List.mem_cons.mp member with rfl | later
          · refine .inl ?_
            rw [lookup_spawnSend, if_pos isId.symm]
            rfl
          · exact .inr ⟨other, later, isId⟩

/-- The queue stops only when it is empty or all places are taken. -/
theorem startSends_full (queue : List SendJob) (node : FileSends)
    (waits : (startSends queue node).2.filePendingSends ≠ []) :
    maxConcurrentFileTransfers ≤ (startSends queue node).2.fileSendTasks.entries.length := by
  induction queue generalizing node with
  | nil => exact absurd rfl waits
  | cons job queue ih =>
      unfold startSends at waits ⊢
      split
      next full => exact full
      next free =>
        rw [if_neg free] at waits
        exact ih _ waits

theorem length_entries_insert_le (map : HashMap TransferId Nat) (id : TransferId) (number : Nat) :
    (map.insert id number).entries.length ≤ map.entries.length + 1 := by
  rw [AList.entries_insert, List.length_cons]
  exact Nat.succ_le_succ (List.kerase_sublist id map.entries).length_le

theorem startSends_bounded (queue : List SendJob) (node : FileSends)
    (bounded : node.fileSendTasks.entries.length ≤ maxConcurrentFileTransfers) :
    (startSends queue node).2.fileSendTasks.entries.length ≤ maxConcurrentFileTransfers := by
  induction queue generalizing node with
  | nil => exact bounded
  | cons job queue ih =>
      unfold startSends
      split
      · exact bounded
      next free =>
        apply ih
        have grown := length_entries_insert_le node.fileSendTasks job.id node.nextTask
        show (node.fileSendTasks.insert job.id node.nextTask).entries.length ≤ _
        omega

end queue

/-! ## Steps -/

section steps
variable {node : FileSends}

/-- What holds between two steps. -/
structure Kept (node : FileSends) : Prop where
  accounted : node.Accounted
  busy : node.fileConn = true → node.filePendingSends ≠ [] →
    maxConcurrentFileTransfers ≤ node.fileSendTasks.entries.length
  bounded : node.fileSendTasks.entries.length ≤ maxConcurrentFileTransfers

/-- A step that leaves no file without a place may leave places empty before it starts the queue. -/
theorem startPendingSends_kept (accounted : node.Accounted)
    (bounded : node.fileSendTasks.entries.length ≤ maxConcurrentFileTransfers) :
    Kept node.startPendingSends.2 := by
  unfold startPendingSends
  split
  next live =>
    have books := startSends_books node.filePendingSends node
    refine ⟨fun id runs => ?_, fun _ waits => startSends_full _ _ waits,
      startSends_bounded _ _ bounded⟩
    have ran : node.Runs id := by
      unfold Runs at runs ⊢
      rwa [books.fileTransfers] at runs
    unfold Held BeingHashed
    rw [books.hashing]
    rcases accounted id ran with queued | task | hashed
    · rcases startSends_tasks node.filePendingSends node (.inr queued) with task | waits
      · exact .inr (.inl task)
      · exact .inl waits
    · rcases startSends_tasks node.filePendingSends node (.inl task) with task | waits
      · exact .inr (.inl task)
      · exact .inl waits
    · exact .inr (.inr hashed)
  next dead => exact ⟨accounted, fun live => absurd live dead, bounded⟩

theorem enqueue_kept {job : SendJob}
    (accounted : ∀ id, id ≠ job.id → node.Runs id → node.Held id)
    (bounded : node.fileSendTasks.entries.length ≤ maxConcurrentFileTransfers) :
    Kept (node.enqueue job).2 := by
  show Kept (startPendingSends _).2
  refine startPendingSends_kept ?_ bounded
  intro id runs
  by_cases isJob : id = job.id
  · exact .inl ⟨job, List.mem_append_right _ (List.mem_singleton_self job), isJob.symm⟩
  · rcases accounted id isJob runs with ⟨other, member, isId⟩ | kept
    · exact .inl ⟨other, List.mem_append_left _ member, isId⟩
    · exact .inr kept

/-- What a step does to the rows of files that go out, as far as they run. -/
theorem runs_insert {rows : HashMap TransferId TransferRow} {key : TransferId} {row : TransferRow}
    {id : TransferId} (isRows : node.fileTransfers = rows.insert key row)
    (runs : node.Runs id) :
    (id = key ∧ row.incoming = false ∧ row.state = .running)
      ∨ (id ≠ key ∧ ∃ row ∈ rows.lookup id, row.incoming = false ∧ row.state = .running) := by
  unfold Runs at runs
  rw [isRows, HashMap.lookup_insert_eq] at runs
  split at runs
  next same =>
    obtain ⟨_, isRow, outgoing, running⟩ := runs
    cases isRow
    exact .inl ⟨same, outgoing, running⟩
  next other => exact .inr ⟨other, runs⟩

/-- A task that goes leaves the tasks of other files. -/
theorem held_erase {tasks : HashMap TransferId Nat} {key id : TransferId} (other : id ≠ key)
    (isTasks : node.fileSendTasks = tasks.erase key) (task : (tasks.lookup id).isSome) :
    (node.fileSendTasks.lookup id).isSome := by
  rw [isTasks, AList.lookup_erase_ne other]
  exact task

theorem length_entries_erase_le (tasks : HashMap TransferId Nat) (id : TransferId) :
    (tasks.erase id).entries.length ≤ tasks.entries.length :=
  (List.kerase_sublist id tasks.entries).length_le

/-- What cancelling files does. -/
structure Cancels (ids : List TransferId) (node node' : FileSends) : Prop where
  runs : ∀ id, node'.Runs id → node.Runs id ∧ id ∉ ids
  others : ∀ id, id ∉ ids → node'.fileSendTasks.lookup id = node.fileSendTasks.lookup id
  unowned : (∀ id ∈ ids, node.fileSendTasks.lookup id = none) →
    node'.fileSendTasks = node.fileSendTasks
  fewer : node'.fileSendTasks.entries.length ≤ node.fileSendTasks.entries.length
  filePendingSends : node'.filePendingSends = node.filePendingSends
  fileConn : node'.fileConn = node.fileConn
  hashing : node'.hashing = node.hashing

theorem erase_of_lookup_none {tasks : HashMap TransferId Nat} {id : TransferId}
    (missing : tasks.lookup id = none) : tasks.erase id = tasks := by
  apply AList.ext
  show List.kerase id tasks.entries = tasks.entries
  apply List.kerase_of_notMem_keys
  rw [← AList.keys, ← AList.mem_keys]
  exact AList.lookup_eq_none.mp missing

theorem abortTask_fileSendTasks (node : FileSends) (id : TransferId) :
    (node.abortTask id).fileSendTasks = node.fileSendTasks.erase id := by
  unfold abortTask
  cases held : node.fileSendTasks.lookup id with
  | none => exact (erase_of_lookup_none held).symm
  | some number => rfl

theorem cancelTransfer_cancels (node : FileSends) (id : TransferId) (meant : Meant) :
    Cancels [id] node (node.cancelTransfer id meant) := by
  have isTasks : (node.cancelTransfer id meant).fileSendTasks = node.fileSendTasks.erase id :=
    abortTask_fileSendTasks node id
  have same : (node.abortTask id).filePendingSends = node.filePendingSends
      ∧ (node.abortTask id).fileConn = node.fileConn
      ∧ (node.abortTask id).hashing = node.hashing := by
    unfold abortTask
    cases node.fileSendTasks.lookup id <;> exact ⟨rfl, rfl, rfl⟩
  refine ⟨fun other runs => ?_, fun other outside => ?_, fun unowned => ?_, ?_, same.1, same.2.1,
    same.2.2⟩
  · obtain ⟨row, isRow, outgoing, running⟩ := runs
    have found : (HashMap.modify id (fun row : TransferRow =>
        if row.state = .running then { row with state := .cancelled } else row)
        node.fileTransfers).lookup other = some row := isRow
    rw [HashMap.lookup_modify_eq] at found
    split at found
    next isId =>
      obtain ⟨before, -, isRow⟩ := Option.map_eq_some_iff.mp found
      split at isRow
      next ran =>
        rw [← isRow] at running
        cases running
      next ended =>
        rw [isRow] at ended
        exact absurd running ended
    next isOther =>
      exact ⟨⟨row, found, outgoing, running⟩, fun member => isOther (List.mem_singleton.mp member)⟩
  · rw [isTasks]
    exact AList.lookup_erase_ne fun isId => outside (List.mem_singleton.mpr isId)
  · rw [isTasks]
    exact erase_of_lookup_none (unowned id (List.mem_singleton_self id))
  · rw [isTasks]
    exact length_entries_erase_le ..

/-- The induction is on the files, and each is cancelled with the others already gone. -/
theorem cancelAll_cancels (ids : List TransferId) (meant : Meant) (node : FileSends) :
    Cancels ids node (cancelAll ids meant node) := by
  induction ids generalizing node with
  | nil =>
      exact ⟨fun id runs => ⟨runs, List.not_mem_nil⟩, fun _ _ => rfl, fun _ => rfl, le_rfl, rfl,
        rfl, rfl⟩
  | cons id ids ih =>
      have one := cancelTransfer_cancels node id meant
      have rest := ih (node.cancelTransfer id meant)
      refine ⟨fun other runs => ?_, fun other outside => ?_, fun unowned => ?_,
        rest.fewer.trans one.fewer, rest.filePendingSends.trans one.filePendingSends,
        rest.fileConn.trans one.fileConn, rest.hashing.trans one.hashing⟩
      · have later := rest.runs other runs
        have earlier := one.runs other later.1
        refine ⟨earlier.1, fun member => ?_⟩
        rcases List.mem_cons.mp member with rfl | member
        · exact earlier.2 (List.mem_singleton_self other)
        · exact later.2 member
      · rw [List.mem_cons, not_or] at outside
        exact (rest.others other outside.2).trans
          (one.others other fun member => outside.1 (List.mem_singleton.mp member))
      · have first := one.unowned fun other member =>
          unowned other (List.mem_cons.mpr (.inl (List.mem_singleton.mp member)))
        refine (rest.unowned fun other member => ?_).trans first
        rw [first]
        exact unowned other (List.mem_cons_of_mem id member)

/-- Cancelling files whose places nobody waits for forgets nothing. -/
theorem Cancels.kept {ids : List TransferId} {node' : FileSends} (cancels : Cancels ids node node')
    (accounted : ∀ id, id ∉ ids → node.Runs id → node.Held id)
    (busy : node.fileConn = true → node.filePendingSends ≠ [] →
      maxConcurrentFileTransfers ≤ node.fileSendTasks.entries.length)
    (bounded : node.fileSendTasks.entries.length ≤ maxConcurrentFileTransfers)
    (unfreed : ∀ id ∈ ids, ¬ node.Frees id) : Kept node' := by
  refine ⟨fun id runs => ?_, fun live waits => ?_, cancels.fewer.trans bounded⟩
  · have ran := cancels.runs id runs
    unfold Held BeingHashed
    rw [cancels.filePendingSends, cancels.hashing, cancels.others id ran.2]
    exact accounted id ran.2 ran.1
  · rw [cancels.fileConn] at live
    rw [cancels.filePendingSends] at waits
    have unowned : ∀ id ∈ ids, node.fileSendTasks.lookup id = none := fun id member => by
      by_contra held
      exact unfreed id member ⟨live, waits, Option.isSome_iff_ne_none.mpr held⟩
    rw [cancels.unowned unowned]
    exact busy live waits

theorem cancelTransfer_kept (kept : Kept node) {id : TransferId} (meant : Meant)
    (unfreed : ¬ node.Frees id) : Kept (node.cancelTransfer id meant) := by
  refine (cancelTransfer_cancels node id meant).kept (fun other _ runs => kept.accounted other runs)
    kept.busy kept.bounded fun other member => ?_
  rw [List.mem_singleton.mp member]
  exact unfreed

theorem startTransfer_kept (kept : Kept node) (path : Path) (name : String) (size : UInt64)
    (hash : Hash) (fromClipboard : Bool) :
    Kept (node.startTransfer path name size hash fromClipboard).2 := by
  unfold startTransfer
  split
  · exact kept
  · refine enqueue_kept (fun id other runs => ?_) kept.bounded
    rcases runs_insert rfl runs with ⟨isNew, -⟩ | ⟨-, ran⟩
    · exact absurd isNew other
    · exact kept.accounted id ran

theorem onFileChunkAck_kept (kept : Kept node) {id : TransferId} {offset : UInt64}
    (keeps : node.KeepsQueue (.chunkAck id offset)) : Kept (node.onFileChunkAck id offset) := by
  unfold onFileChunkAck
  cases found : node.fileTransfers.lookup id with
  | none => exact kept
  | some row =>
      simp only
      split
      next => exact kept
      next outgoing =>
        split
        next complete =>
          have unfreed : ¬ node.Frees id :=
            keeps ⟨row, found, Bool.eq_false_iff.mpr outgoing, complete⟩
          refine ⟨fun other runs => ?_, fun live waits => ?_,
            (length_entries_erase_le ..).trans kept.bounded⟩
          · rcases runs_insert rfl runs with ⟨-, -, running⟩ | ⟨isOther, ran⟩
            · cases running
            · rcases kept.accounted other ran with queued | task | hashed
              · exact .inl queued
              · exact .inr (.inl (held_erase isOther rfl task))
              · exact .inr (.inr hashed)
          · have unowned : node.fileSendTasks.lookup id = none := by
              by_contra held
              exact unfreed ⟨live, waits, Option.isSome_iff_ne_none.mpr held⟩
            show _ ≤ (node.fileSendTasks.erase id).entries.length
            rw [erase_of_lookup_none unowned]
            exact kept.busy live waits
        next =>
          refine ⟨fun other runs => ?_, kept.busy, kept.bounded⟩
          rcases runs_insert rfl runs with ⟨isId, isOutgoing, running⟩ | ⟨-, ran⟩
          · exact kept.accounted other ⟨row, isId.symm ▸ found, isOutgoing, running⟩
          · exact kept.accounted other ran

theorem resumeSend_kept (kept : Kept node) {id : TransferId}
    {resumed : List MessageKind × FileSends} (isResumed : node.resumeSend id = some resumed) : Kept resumed.2 := by
  simp only [resumeSend, Option.bind_eq_bind, Option.bind_eq_some_iff, Option.guard_eq_some',
    Option.pure_def, Option.some.injEq] at isResumed
  obtain ⟨job, -, -, -, -, -, row, -, -, -, rfl⟩ := isResumed
  refine enqueue_kept (fun other isOther runs => ?_)
    ((length_entries_erase_le ..).trans kept.bounded)
  rcases kept.accounted other runs with queued | task | hashed
  · exact .inl queued
  · exact .inr (.inl (held_erase isOther rfl task))
  · exact .inr (.inr hashed)

theorem onFileFinished_kept (kept : Kept node) (id : TransferId) {state : TransferState}
    (ended : state ≠ .running) : Kept (node.onFileFinished id state).2 := by
  unfold onFileFinished
  split
  next resumed isResumed =>
    split at isResumed
    · exact resumeSend_kept kept isResumed
    · cases isResumed
  next =>
    cases node.fileTransfers.lookup id with
    | none => exact kept
    | some row =>
        refine startPendingSends_kept (fun other runs => ?_)
          ((length_entries_erase_le ..).trans kept.bounded)
        rcases runs_insert rfl runs with ⟨-, -, running⟩ | ⟨isOther, ran⟩
        · exact absurd running ended
        · rcases kept.accounted other ran with queued | task | hashed
          · exact .inl queued
          · exact .inr (.inl (held_erase isOther rfl task))
          · exact .inr (.inr hashed)

theorem onFileProgress_kept (kept : Kept node) (id : TransferId) (moved : UInt64) :
    Kept (node.onFileProgress id moved).2 := by
  unfold onFileProgress
  cases found : node.fileTransfers.lookup id with
  | none => exact kept
  | some row =>
      have next : Kept { node with
          fileTransfers := node.fileTransfers.insert id { row with moved } } := by
        refine ⟨fun other runs => ?_, kept.busy, kept.bounded⟩
        rcases runs_insert rfl runs with ⟨isId, outgoing, running⟩ | ⟨-, ran⟩
        · exact kept.accounted other ⟨row, isId.symm ▸ found, outgoing, running⟩
        · exact kept.accounted other ran
      simp only
      split
      · exact next
      · exact next

theorem onFileConnected_kept (kept : Kept node) : Kept node.onFileConnected.2 := by
  unfold onFileConnected
  split
  · exact kept
  · exact startPendingSends_kept kept.accounted kept.bounded

theorem onFileTransferStart_kept (kept : Kept node) (id : TransferId) (name : String)
    (size : UInt64) (fromClipboard : Bool) (directory : Option TransferId) :
    Kept (node.onFileTransferStart id name size fromClipboard directory).2 := by
  refine startPendingSends_kept (fun other runs => ?_) kept.bounded
  rcases runs_insert rfl runs with ⟨-, outgoing, -⟩ | ⟨-, ran⟩
  · cases outgoing
  · exact kept.accounted other ran

theorem onFileAbort_kept (kept : Kept node) {id : TransferId}
    (keeps : node.KeepsQueue (.userAbort id)) : Kept (node.onFileAbort id).2 := by
  unfold KeepsQueue at keeps
  unfold onFileAbort
  cases isGroup : node.dirGroups.lookup id with
  | some group =>
      simp only [isGroup] at keeps ⊢
      have cancels := cancelAll_cancels group.members (.directory id group.incoming) node
      refine ⟨fun other runs => ?_, fun _ waits => absurd rfl waits,
        cancels.fewer.trans kept.bounded⟩
      obtain ⟨ran, outside⟩ := cancels.runs other runs
      have task : (node.fileSendTasks.lookup other).isSome ∨ node.BeingHashed other := by
        rcases kept.accounted other ran with ⟨job, member, rfl⟩ | elsewhere
        · by_contra alone
          rw [not_or, Bool.not_eq_true, Option.isSome_eq_false_iff, Option.isNone_iff_eq_none]
            at alone
          exact (keeps job member).elim outside fun held => held ⟨ran, alone⟩
        · exact elsewhere
      refine .inr (task.imp (fun task => ?_) fun hashed => ?_)
      · exact (congrArg Option.isSome (cancels.others other outside)).trans task
      · obtain ⟨hashing, member, isFile⟩ := hashed
        exact ⟨hashing, cancels.hashing.symm ▸ member, isFile⟩
  | none =>
      simp only [isGroup] at keeps ⊢
      cases found : node.fileTransfers.lookup id with
      | none => exact kept
      | some row =>
          exact cancelTransfer_kept kept _ (keeps (Option.isSome_of_eq_some found))

/-! Directories -/

/-- What the rows of a directory change. -/
structure Adds (files : List (TransferId × Path)) (node node' : FileSends) : Prop where
  runs : ∀ id, node'.Runs id → node.Runs id ∨ id ∈ files.map (·.1)
  filePendingSends : node'.filePendingSends = node.filePendingSends
  fileSendTasks : node'.fileSendTasks = node.fileSendTasks
  fileConn : node'.fileConn = node.fileConn
  hashing : node'.hashing = node.hashing
  tasks : node'.tasks = node.tasks
  nextTask : node'.nextTask = node.nextTask
  cancelled : node'.cancelled = node.cancelled

theorem addMembers_adds (group : TransferId) (files : List (String × Path × UInt64))
    (node : FileSends) :
    Adds (addMembers group files node).1 node (addMembers group files node).2 := by
  induction files generalizing node with
  | nil => exact ⟨fun _ runs => .inl runs, rfl, rfl, rfl, rfl, rfl, rfl, rfl⟩
  | cons file files ih =>
      obtain ⟨name, path, size⟩ := file
      have rest := ih { node with
        nextTransferId := node.nextTransferId + 1
        fileTransfers := node.fileTransfers.insert node.nextTransferId (outgoingRow name size false)
        directoryOut := node.directoryOut.insert node.nextTransferId group }
      refine ⟨fun id runs => ?_, rest.filePendingSends, rest.fileSendTasks, rest.fileConn,
        rest.hashing, rest.tasks, rest.nextTask, rest.cancelled⟩
      rcases rest.runs id runs with ran | later
      · rcases runs_insert rfl ran with ⟨isId, -⟩ | ⟨-, ran⟩
        · exact .inr (List.mem_cons.mpr (.inl isId))
        · exact .inl ran
      · exact .inr (List.mem_cons_of_mem _ later)

theorem onDirAcceptInbound_kept (kept : Kept node) (name : String)
    (files : List (String × Path × UInt64)) : Kept (node.onDirAcceptInbound name files) := by
  unfold onDirAcceptInbound
  split
  · exact kept
  · have adds := addMembers_adds node.nextTransferId files
      { node with nextTransferId := node.nextTransferId + 1 }
    refine ⟨fun id runs => ?_, ?_, ?_⟩
    · unfold Held
      simp only [adds.filePendingSends, adds.fileSendTasks]
      rcases adds.runs id runs with ran | added
      · rcases kept.accounted id ran with queued | task | ⟨hashing, member, isFile⟩
        · exact .inl queued
        · exact .inr (.inl task)
        · exact .inr (.inr ⟨hashing, List.mem_append_left _ member, isFile⟩)
      · exact .inr (.inr ⟨_, List.mem_append_right _ (List.mem_singleton_self _), added⟩)
    · simp only [adds.filePendingSends, adds.fileSendTasks, adds.fileConn]
      exact kept.busy
    · simp only [adds.fileSendTasks]
      exact kept.bounded

/-- What `queueFiles` leaves as it was, and what it queues. -/
structure Queues (files : List Prepared) (fits : Bool) (node node' : FileSends) : Prop where
  fileTransfers : node'.fileTransfers = node.fileTransfers
  fileSendTasks : node'.fileSendTasks = node.fileSendTasks
  fileConn : node'.fileConn = node.fileConn
  hashing : node'.hashing = node.hashing
  dirGroups : node'.dirGroups = node.dirGroups
  queued : ∀ job ∈ node.filePendingSends, job ∈ node'.filePendingSends
  all : fits = true → ∀ file ∈ files, jobOf file ∈ node'.filePendingSends
  only : ∀ job ∈ node'.filePendingSends,
    job ∈ node.filePendingSends ∨ ∃ file ∈ files, job = jobOf file
  none : files.head?.any node.misfits → node' = node
  tasks : node'.tasks = node.tasks
  nextTask : node'.nextTask = node.nextTask
  cancelled : node'.cancelled = node.cancelled

theorem queueFiles_queues (files : List Prepared) (node : FileSends) :
    Queues files (queueFiles files node).1 node (queueFiles files node).2 := by
  induction files generalizing node with
  | nil =>
      exact ⟨rfl, rfl, rfl, rfl, rfl, fun _ member => member,
        fun _ _ member => absurd member List.not_mem_nil, fun _ member => .inl member, fun _ => rfl,
        rfl, rfl, rfl⟩
  | cons file files ih =>
      unfold queueFiles
      split
      next =>
        exact ⟨rfl, rfl, rfl, rfl, rfl, fun _ member => member,
          fun fits => absurd fits Bool.false_ne_true, fun _ member => .inl member, fun _ => rfl,
          rfl, rfl, rfl⟩
      next fits =>
        have rest := ih { node with filePendingSends := node.filePendingSends ++ [jobOf file] }
        refine ⟨rest.fileTransfers, rest.fileSendTasks, rest.fileConn, rest.hashing, rest.dirGroups,
          fun job member => rest.queued job (List.mem_append_left _ member),
          fun all other member => ?_, fun job member => ?_, fun misfits => absurd misfits fits,
          rest.tasks, rest.nextTask, rest.cancelled⟩
        · rcases List.mem_cons.mp member with rfl | later
          · exact rest.queued _ (List.mem_append_right _ (List.mem_singleton_self _))
          · exact rest.all all other later
        · rcases rest.only job member with before | ⟨other, later, isJob⟩
          · rcases List.mem_append.mp before with earlier | isFile
            · exact .inl earlier
            · exact .inr ⟨file, List.mem_cons_self, List.mem_singleton.mp isFile⟩
          · exact .inr ⟨other, List.mem_cons_of_mem file later, isJob⟩

/-- The queue takes all files unless one misfits. -/
theorem queueFiles_fits (files : List Prepared) (node : FileSends) :
    (queueFiles files node).1 = !files.any node.misfits := by
  induction files generalizing node with
  | nil => rfl
  | cons file files ih =>
      unfold queueFiles
      rw [List.any_cons]
      split
      next misfits => rw [misfits]; rfl
      next fits =>
        rw [Bool.eq_false_iff.mpr fits, ih, Bool.false_or]
        rfl

theorem prepareAll_ids {prepare : Path → Option (String × UInt64 × Hash)}
    {files : List (TransferId × Path)} {prepared : List Prepared}
    (isPrepared : prepareAll prepare files = some prepared) :
    prepared.map (·.id) = files.map (·.1) := by
  induction files generalizing prepared with
  | nil =>
      cases isPrepared
      rfl
  | cons file files ih =>
      obtain ⟨id, path⟩ := file
      unfold prepareAll at isPrepared
      split at isPrepared
      · cases isPrepared
      · obtain ⟨rest, isRest, rfl⟩ := Option.map_eq_some_iff.mp isPrepared
        rw [List.map_cons, List.map_cons, ih isRest]

/-- A hashed directory is gone from those that are being hashed. -/
theorem held_eraseIdx (kept : Kept node) {position : Nat} {hashing : Hashing}
    (isHashing : node.hashing[position]? = some hashing) (id : TransferId) (runs : node.Runs id) :
    Held { node with hashing := node.hashing.eraseIdx position } id
      ∨ id ∈ hashing.files.map (·.1) := by
  rcases kept.accounted id runs with queued | task | ⟨other, member, isFile⟩
  · exact .inl (.inl queued)
  · exact .inl (.inr (.inl task))
  · obtain ⟨k, isOther⟩ := List.mem_iff_getElem?.mp member
    by_cases same : k = position
    · subst same
      rw [isHashing] at isOther
      cases isOther
      exact .inr isFile
    · refine .inl (.inr (.inr ⟨other, ?_, isFile⟩))
      exact List.mem_eraseIdx_iff_getElem?.mpr ⟨k, same, isOther⟩

theorem cancelGroup_cancels (node : FileSends) (group : TransferId) :
    Cancels (node.membersOf group) node (node.cancelGroup group) := by
  unfold membersOf cancelGroup
  cases node.groupMembers group with
  | none => exact cancelAll_cancels [] (.directory group false) node
  | some members => exact cancelAll_cancels members (.directory group false) node

/-- A directory that is given up after some of its files were queued. -/
theorem misfit_kept {group : TransferId} {files : List Prepared}
    (accounted : ∀ id, id ∉ node.membersOf group → node.Runs id → node.Held id)
    (bounded : node.fileSendTasks.entries.length ≤ maxConcurrentFileTransfers)
    (unstalled : ¬ node.Stalls group files) :
    Kept ((queueFiles files node).2.cancelGroup group) := by
  have queues := queueFiles_queues files node
  have members : (queueFiles files node).2.membersOf group = node.membersOf group := by
    unfold membersOf groupMembers
    rw [queues.dirGroups]
  -- If a file waits now, one waited before or the first of the directory was queued.
  have waited : (queueFiles files node).2.filePendingSends ≠ [] →
      node.filePendingSends ≠ [] ∨ ¬ files.head?.any node.misfits := fun waits => by
    rw [or_iff_not_imp_right, not_not]
    intro misfits
    rwa [queues.none misfits] at waits
  have placed := queues.fileSendTasks
  refine (cancelGroup_cancels _ group).kept (fun id outside runs => ?_) (fun live waits => ?_) ?_
    fun id member frees => ?_
  · rw [members] at outside
    unfold Runs at runs
    rw [queues.fileTransfers] at runs
    unfold Held BeingHashed
    rw [placed, queues.hashing]
    exact (accounted id outside runs).imp_left fun ⟨job, member, isId⟩ =>
      ⟨job, queues.queued job member, isId⟩
  · rw [placed]
    rw [queues.fileConn] at live
    by_contra free
    exact unstalled ⟨live, waited waits, .inl (Nat.lt_of_not_le free)⟩
  · rw [placed]
    exact bounded
  · obtain ⟨live, waits, task⟩ := frees
    rw [queues.fileConn] at live
    rw [placed] at task
    rw [members] at member
    exact unstalled ⟨live, waited waits, .inr ⟨id, member, task⟩⟩

theorem onDirFilesReady_kept {hashing : Hashing} {files : Option (List Prepared)}
    (accounted : ∀ id, node.Runs id → node.Held id ∨ id ∈ hashing.files.map (·.1))
    (busy : node.fileConn = true → node.filePendingSends ≠ [] →
      maxConcurrentFileTransfers ≤ node.fileSendTasks.entries.length)
    (bounded : node.fileSendTasks.entries.length ≤ maxConcurrentFileTransfers)
    (isFiles : ∀ prepared ∈ files, prepared.map (·.id) = hashing.files.map (·.1))
    (ready : node.ReadyInTime hashing files) :
    Kept (node.onDirFilesReady hashing.group files).2 := by
  unfold ReadyInTime at ready
  unfold onDirFilesReady
  cases mayTransfer : node.mayTransferFiles with
  | false =>
      rw [if_neg (by rw [mayTransfer]; exact Bool.false_ne_true)] at ready
      rw [Bool.not_false, if_pos rfl]
      refine ⟨fun id runs => ?_, busy, bounded⟩
      rcases accounted id runs with held | isFile
      · exact held
      · exact ready id isFile runs
  | true =>
      rw [if_pos mayTransfer] at ready
      have held (cancellable : node.Cancellable hashing) (id : TransferId)
          (outside : id ∉ node.membersOf hashing.group) (runs : node.Runs id) : node.Held id :=
        (accounted id runs).elim (fun held => held) fun isFile =>
          (cancellable id isFile runs).resolve_right outside
      cases files with
      | none =>
          exact (cancelGroup_cancels node hashing.group).kept (held ready.1) busy bounded ready.2
      | some files =>
          simp only [Bool.not_true, Bool.false_eq_true, if_false]
          cases fits : (queueFiles files node).1 with
          | false =>
              rw [if_neg Bool.false_ne_true]
              rw [queueFiles_fits, Bool.not_eq_false'] at fits
              exact misfit_kept (held (ready fits).1) bounded (ready fits).2
          | true =>
              rw [if_pos rfl]
              have queues := queueFiles_queues files node
              refine startPendingSends_kept (fun id runs => ?_) (queues.fileSendTasks ▸ bounded)
              unfold Runs at runs
              rw [queues.fileTransfers] at runs
              unfold Held BeingHashed
              rw [queues.fileSendTasks, queues.hashing]
              rcases accounted id runs with held | isFile
              · exact held.imp_left fun ⟨job, member, isId⟩ =>
                  ⟨job, queues.queued job member, isId⟩
              · rw [← isFiles files rfl] at isFile
                obtain ⟨file, member, isId⟩ := List.mem_map.mp isFile
                exact .inl ⟨jobOf file, queues.all fits file member, isId⟩

theorem acceptDirOffer_kept (kept : Kept node) (name : String) (count : Nat) :
    Kept (node.acceptDirOffer name count).2 :=
  startPendingSends_kept kept.accounted kept.bounded

theorem abandonFileTransfers_kept (node : FileSends) : Kept node.abandonFileTransfers := by
  refine ⟨fun id runs => ?_, fun _ waits => absurd rfl waits, Nat.zero_le _⟩
  obtain ⟨row, isRow, -⟩ := runs
  cases isRow

/-- Every step keeps what holds, if it keeps the queue. -/
theorem step_kept (node : FileSends) (happening : Happening) (kept : Kept node)
    (keeps : node.KeepsQueue happening) : Kept (step node happening).2 := by
  cases happening with
  | startTransfer path name size hash fromClipboard => exact startTransfer_kept kept ..
  | dirAccepted name files => exact onDirAcceptInbound_kept kept name files
  | dirFilesReady position prepare =>
      simp only [step]
      cases isHashing : node.hashing[position]? with
      | none => exact kept
      | some hashing =>
          exact onDirFilesReady_kept (held_eraseIdx kept isHashing) kept.busy kept.bounded
            (fun _ isPrepared => prepareAll_ids isPrepared) (keeps hashing isHashing)
  | acceptDir name count => exact acceptDirOffer_kept kept name count
  | transferStart id name size fromClipboard directory => exact onFileTransferStart_kept kept ..
  | beginTask position made =>
      simp only [step]
      cases node.begins[position]? with
      | none => exact kept
      | some id => exact ⟨kept.accounted, kept.busy, kept.bounded⟩
  | cancelTask position =>
      simp only [step]
      cases node.cancels[position]? with
      | none => exact kept
      | some task => exact ⟨kept.accounted, kept.busy, kept.bounded⟩
  | chunkAck id offset => exact onFileChunkAck_kept kept keeps
  | peerAbort id incoming => exact cancelTransfer_kept kept _ keeps
  | userAbort id => exact onFileAbort_kept kept keeps
  | progress id moved => exact onFileProgress_kept kept id moved
  | completed id => exact onFileFinished_kept kept id TransferState.noConfusion
  | failed id => exact onFileFinished_kept kept id TransferState.noConfusion
  | chunk number =>
      simp only [step]
      cases node.tasks.find? (·.number = number) with
      | none => exact kept
      | some task => exact kept
  | fileConnected => exact onFileConnected_kept kept
  | connectFailed =>
      refine ⟨fun id runs => .inr ?_, fun _ waits => absurd rfl waits, kept.bounded⟩
      rcases kept.accounted id runs with ⟨job, member, rfl⟩ | elsewhere
      · by_contra alone
        rw [not_or, Bool.not_eq_true, Option.isSome_eq_false_iff, Option.isNone_iff_eq_none]
          at alone
        exact keeps job member ⟨runs, alone⟩
      · exact elsewhere
  | connectionLost =>
      exact ⟨kept.accounted, fun live => absurd live Bool.false_ne_true, kept.bounded⟩
  | abandon => exact abandonFileTransfers_kept node
  | unstaged | taskEnds | grants | control | elsewhere =>
      exact ⟨kept.accounted, kept.busy, kept.bounded⟩

end steps

/-! ## Runs -/

theorem run_kept (happenings : List Happening)
    (keeps : ∀ e ∈ history step {} happenings, e.pre.KeepsQueue e.op) :
    Kept (exec step {} happenings) := by
  refine exec_induction step_kept
    ⟨fun id runs => ?_, fun _ waits => absurd rfl waits, Nat.zero_le _⟩ keeps
  obtain ⟨row, isRow, -⟩ := runs
  cases isRow

/-- While no step throws away the only place of a file or leaves a place empty for which one waits,
every file that goes out is in the queue, in a task or being hashed, and the places are taken as
long as files wait for them. -/
theorem no_send_is_forgotten (happenings : List Happening)
    (keeps : ∀ e ∈ history step {} happenings, e.pre.KeepsQueue e.op) :
    Accounted (exec step {} happenings) ∧ Busy (exec step {} happenings) := by
  have kept := run_kept happenings keeps
  exact ⟨kept.accounted, fun live waits => le_antisymm kept.bounded (kept.busy live waits)⟩

/-- A directory of four files is accepted, and a file of its own while the directory is hashed. -/
def directorySent : List Happening :=
  [.fileConnected,
    .dirAccepted "d" [("a", "/d/a", 1), ("b", "/d/b", 1), ("c", "/d/c", 1), ("e", "/d/e", 1)],
    .startTransfer "/f" "f" 5 default false,
    .dirFilesReady 0 fun path => some (path, 1, default),
    .completed 5, .completed 1, .failed 2]

theorem directory_is_not_forgotten :
    Accounted (exec step {} directorySent) ∧ Busy (exec step {} directorySent) :=
  no_send_is_forgotten directorySent (by decide)

/-- Four files are accepted, three of them start, and the acknowledgement of the last chunk of one
of the three starts no other: the fourth waits beside an empty place. -/
theorem acknowledged_send_starts_no_other :
    ¬ ∀ happenings : List Happening,
      Accounted (exec step {} happenings) ∧ Busy (exec step {} happenings) := by
  intro always
  have busy := (always
    [.fileConnected, .startTransfer "/a" "a" 1 default false,
      .startTransfer "/b" "b" 1 default false, .startTransfer "/c" "c" 1 default false,
      .startTransfer "/d" "d" 1 default false, .chunkAck 0 1]).2
  exact absurd (busy (by decide) (by decide)) (by decide)

end Lumepeer.Runtime.FileSends
