import Lumepeer.Net.FileTransfer.Proofs.Receive
import Lumepeer.Runtime.Network.Proofs.SendQueue
import Lumepeer.Runtime.Network.Resume

/-!
# Where a file is picked up again

The sender picks a file up again where its row says, and the row is written by
its own tasks, which count what they have written, as well as by the receiver,
which counts what it has accepted. Where the two agree at that moment, and nothing
of the stream before arrives later, every chunk is accepted.
-/

namespace Lumepeer.Runtime.Resuming
open Lumepeer.Lib Lumepeer.Core Lumepeer.Net
open FileTransfers (receiveChunk finishTransfer)

variable {blake3 : Blake3} {file : SentFile} {state : Resuming blake3}

abbrev ResumeEvent (blake3 : Blake3) := Event (Resuming blake3) Happening Answer

/-- Streams start where the receiver is, chunks are accepted, and what is exported is the file. -/
structure Rebuilds (file : SentFile) (e : ResumeEvent blake3) : Prop where
  resumes : ∀ task ∈ e.post.sender.tasks, task ∉ e.pre.sender.tasks →
    task.resume = e.pre.received file
  accepted : ∀ error, e.out ≠ some (.error error)
  exported : ∀ bytes ∈ e.post.exported, bytes = file.content.1

/-- The file is picked up again when the row says how much the receiver has accepted, and a stream
is read only until it is to be replaced. -/
def CaughtUp (file : SentFile) (state : Resuming blake3) : Happening → Prop
  | .told => state.told.head? = some .failed → (state.sender.resumeSend file.id).isSome →
      ∀ row ∈ state.sender.fileTransfers.lookup file.id, row.moved = state.received file
  | .read number => (state.receiver.inbox.expected.lookup file.id).isSome →
      ∀ stream ∈ state.streams.lookup number, stream.unread ≠ [] →
        number + 1 = state.sender.nextTask ∧ state.sender.filePendingSends = []
  | _ => True

instance (file : SentFile) (state : Resuming blake3) (happening : Happening) :
    Decidable (state.CaughtUp file happening) := by
  cases happening <;> dsimp only [CaughtUp] <;> infer_instance

/-! ## Chunks of the file -/

section chunks

/-- The chunks are the file's from `r` on, one after the other, up to `q`. -/
def Follows (content : Slice) : UInt64 → List (UInt64 × Slice) → UInt64 → Prop
  | r, [], q => q = r
  | r, (offset, bytes) :: chunks, q =>
      offset = r ∧ (∃ len, bytes = chunkAt content r len) ∧ bytes.1 ≠ []
        ∧ Follows content (r + bytes.len) chunks q

theorem Follows.concat {content : Slice} {r q : UInt64} {chunks : List (UInt64 × Slice)} {len : Nat}
    (follows : Follows content r chunks q) (some_ : (chunkAt content q len).1 ≠ []) :
    Follows content r (chunks ++ [(q, chunkAt content q len)])
      (q + (chunkAt content q len).len) := by
  induction chunks generalizing r with
  | nil =>
      cases follows
      exact ⟨rfl, ⟨len, rfl⟩, some_, rfl⟩
  | cons chunk chunks ih =>
      obtain ⟨offset, bytes⟩ := chunk
      obtain ⟨isOffset, isChunk, full, rest⟩ := follows
      exact ⟨isOffset, isChunk, full, ih rest⟩

theorem Follows.take {content : Slice} {r q : UInt64} {chunks : List (UInt64 × Slice)}
    (follows : Follows content r chunks q) (n : Nat) :
    ∃ q', Follows content r (chunks.take n) q' := by
  induction chunks generalizing r n with
  | nil =>
      rw [List.take_nil]
      exact ⟨q, follows⟩
  | cons chunk chunks ih =>
      obtain ⟨offset, bytes⟩ := chunk
      obtain ⟨isOffset, isChunk, full, rest⟩ := follows
      cases n with
      | zero => exact ⟨r, rfl⟩
      | succ n =>
          obtain ⟨q', later⟩ := ih rest n
          exact ⟨q', isOffset, isChunk, full, later⟩

/-- A chunk lies within the file. -/
theorem chunkAt_end {content : Slice} {offset : UInt64} {len : Nat}
    (some_ : (chunkAt content offset len).1 ≠ []) :
    offset.toNat + (chunkAt content offset len).1.length ≤ content.1.length := by
  have full := List.length_pos_iff.mpr some_
  simp only [chunkAt, List.length_take, List.length_drop] at full ⊢
  omega

theorem toNat_add_chunkAt {content : Slice} {offset : UInt64} {len : Nat}
    (some_ : (chunkAt content offset len).1 ≠ []) :
    (offset + (chunkAt content offset len).len).toNat =
      offset.toNat + (chunkAt content offset len).1.length := by
  have bound := chunkAt_end some_
  have small := content.2
  rw [Slice.len, UInt64.toNat_add, UInt64.toNat_ofNat']
  omega

/-- What was taken, with the next chunk. -/
theorem take_append_chunkAt {content : Slice} {offset : UInt64} {len : Nat}
    (some_ : (chunkAt content offset len).1 ≠ []) :
    content.1.take offset.toNat ++ (chunkAt content offset len).1 =
      content.1.take (offset + (chunkAt content offset len).len).toNat := by
  rw [toNat_add_chunkAt some_, List.take_add]
  congr 1
  simp only [chunkAt, List.length_take, List.length_drop]
  rw [List.take_eq_take_iff]
  rw [List.length_drop]
  omega

end chunks

/-! ## The receiver -/

section receiver
open FileTransfers (InboxTask)
variable {receiver : FileTransfers blake3}

/-- What the receiver has staged is what it has accepted. -/
inductive Receives (file : SentFile) (receiver : FileTransfers blake3) : Prop
  | waits (inbox : receiver.inbox = {})
      (tasks : receiver.inboxTasks =
        [.begins file.id file.content.len file.hash file.destination])
  | live (r : UInt64)
      (entry : receiver.inbox.tracker.state file.id =
        some { received := r, total := file.content.len, ended := none })
      (bounded : r.toNat ≤ file.content.1.length)
      (staged : receiver.inbox.staged.lookup file.id = some (file.content.1.take r.toNat))
      (expected : receiver.inbox.expected.lookup file.id = some (file.hash, file.destination))
      (tasks : receiver.inboxTasks = [])
  | settled (expected : receiver.inbox.expected.lookup file.id = none)
      (tasks : receiver.inboxTasks = [])

theorem Receives.congr {receiver' : FileTransfers blake3} (receives : Receives file receiver)
    (inbox : receiver'.inbox = receiver.inbox)
    (tasks : receiver'.inboxTasks = receiver.inboxTasks) : Receives file receiver' := by
  cases receives with
  | waits isInbox isTasks => exact .waits (inbox.trans isInbox) (tasks.trans isTasks)
  | live r entry bounded staged expected isTasks =>
      refine .live r ?_ bounded ?_ ?_ (tasks.trans isTasks)
      · rw [inbox]
        exact entry
      · rw [inbox]
        exact staged
      · rw [inbox]
        exact expected
  | settled expected isTasks =>
      refine .settled ?_ (tasks.trans isTasks)
      rw [inbox]
      exact expected

theorem content_len (file : SentFile) : file.content.len.toNat = file.content.1.length := by
  have small := file.content.2
  rw [Slice.len, UInt64.toNat_ofNat']
  omega

theorem beginReceive_default (file : SentFile) (blake3 : Blake3) :
    FileTransfers.beginReceive ({} : FileTransfers.FileInbox blake3) file.id file.content.len
      file.hash file.destination true =
    { tracker := {
        states := AList.insert file.id
          { received := 0, total := file.content.len, ended := none } ∅
        hashes := AList.insert file.id blake3.new ∅
        nextId := 0 }
      staged := AList.insert file.id [] ∅
      expected := AList.insert file.id (file.hash, file.destination) ∅ } :=
  rfl

/-- The start task opens the book at nothing. -/
theorem Receives.begins (receives : Receives file receiver) {task : InboxTask}
    {tasks : List InboxTask} (isTasks : receiver.inboxTasks = task :: tasks) :
    Receives file ({ receiver with inboxTasks := tasks }.runInboxTask true task) := by
  cases receives with
  | waits isInbox only =>
      rw [only] at isTasks
      cases isTasks
      have opened : ({ receiver with inboxTasks := [] }.runInboxTask true (.begins file.id
          file.content.len file.hash file.destination)).inbox = _ :=
        (congrArg (fun inbox => FileTransfers.beginReceive inbox file.id file.content.len file.hash
          file.destination true) isInbox).trans (beginReceive_default file blake3)
      refine .live 0 ?_ (Nat.zero_le _) ?_ ?_ rfl
      · rw [opened]
        exact AList.lookup_insert _
      · rw [opened]
        exact AList.lookup_insert _
      · rw [opened]
        exact AList.lookup_insert _
  | live r entry bounded staged expected none =>
      rw [none] at isTasks
      cases isTasks
  | settled expected none =>
      rw [none] at isTasks
      cases isTasks

/-- The next chunk of the file is accepted. -/
theorem applyChunk_next {tracker : ReceiveTracker blake3} {r : UInt64} {len : Nat}
    (entry : tracker.state file.id =
      some { received := r, total := file.content.len, ended := none })
    (some_ : (chunkAt file.content r len).1 ≠ []) :
    tracker.applyChunk file.id r (chunkAt file.content r len).len =
      (.ok (), { tracker with
        states := tracker.states.insert file.id
          { received := r + (chunkAt file.content r len).len, total := file.content.len
            ended := none } }) := by
  have bound := chunkAt_end some_
  have sum := toNat_add_chunkAt some_
  have small := file.content.2
  have length : (chunkAt file.content r len).len.toNat = (chunkAt file.content r len).1.length := by
    rw [Slice.len, UInt64.toNat_ofNat']
    omega
  have fits : checkedAdd64 r (chunkAt file.content r len).len =
      some (r + (chunkAt file.content r len).len) := by
    unfold checkedAdd64
    rw [if_pos (by omega)]
    rfl
  have under : ¬ r + (chunkAt file.content r len).len > file.content.len := by
    rw [gt_iff_lt, UInt64.lt_iff_toNat_lt, sum, content_len]
    omega
  have found : tracker.states.lookup file.id =
      some { received := r, total := file.content.len, ended := none } := entry
  simp only [ReceiveTracker.applyChunk, found, Option.isSome_none, Bool.false_eq_true, if_false,
    ne_eq, not_true_eq_false, fits, under]

/-- What is staged grows with what is accepted. -/
theorem Receives.chunk {r : UInt64} {len : Nat}
    (entry : receiver.inbox.tracker.state file.id =
      some { received := r, total := file.content.len, ended := none })
    (staged : receiver.inbox.staged.lookup file.id = some (file.content.1.take r.toNat))
    (expected : receiver.inbox.expected.lookup file.id = some (file.hash, file.destination))
    (tasks : receiver.inboxTasks = []) (some_ : (chunkAt file.content r len).1 ≠ []) :
    Receives file { receiver with
      inbox := receiveChunk receiver.inbox file.id r (chunkAt file.content r len) none }
    ∧ (receiveChunk receiver.inbox file.id r (chunkAt file.content r len) none).tracker.state file.id =
      some { received := r + (chunkAt file.content r len).len, total := file.content.len
             ended := none } := by
  have bound := chunkAt_end some_
  have applied := applyChunk_next entry some_
  have grown : (receiveChunk receiver.inbox file.id r (chunkAt file.content r len) none).tracker.state
      file.id = some { received := r + (chunkAt file.content r len).len
                       total := file.content.len, ended := none } := by
    simp only [receiveChunk, expected, applied]
    exact AList.lookup_insert _
  refine ⟨.live (r + (chunkAt file.content r len).len) grown ?_ ?_ ?_ tasks, grown⟩
  · rw [toNat_add_chunkAt some_]
    exact bound
  · simp only [receiveChunk, expected, applied]
    refine (HashMap.lookup_modify_eq ..).trans ?_
    rw [if_pos rfl, staged, ← take_append_chunkAt some_]
    rfl
  · simp only [receiveChunk, expected, applied]
    exact expected

/-- What a verified transfer has staged is the whole file. -/
theorem Receives.finish (receives : Receives file receiver) {hash : FileOffers.Hash}
    {destination : FileOffers.Path}
    (isExpected : receiver.inbox.expected.lookup file.id = some (hash, destination)) :
    Receives file { receiver with inbox := finishTransfer receiver.inbox file.id }
    ∧ ((receiver.inbox.tracker.finish file.id hash).1 = true →
      ∀ bytes ∈ receiver.inbox.staged.lookup file.id, bytes = file.content.1) := by
  cases receives with
  | waits isInbox tasks =>
      rw [isInbox] at isExpected
      cases isExpected
  | live r entry bounded staged expected tasks =>
      refine ⟨.settled ?_ tasks, fun verified bytes isStaged => ?_⟩
      · simp only [finishTransfer, isExpected]
        exact AList.lookup_erase ..
      · rcases ReceiveTracker.finish_cases receiver.inbox.tracker file.id hash with
          ⟨-, unfinished⟩ | ⟨hasher, how, -, -, -, full⟩
        · rw [unfinished] at verified
          cases verified
        · obtain ⟨-, found, isFound, complete⟩ := full.mp verified
          have entry : receiver.inbox.tracker.states.lookup file.id = _ := entry
          rw [entry] at isFound
          cases isFound
          rw [staged] at isStaged
          cases isStaged
          have complete : r = file.content.len := complete
          rw [complete, content_len, List.take_length]
  | settled expected tasks =>
      rw [expected] at isExpected
      cases isExpected

end receiver

/-! ## The sender -/

section sender
open FileSends (SendJob)
variable {node node' : FileSends} {r : UInt64}

/-- What waits and what starts goes on at `r`. -/
structure Spawns (r : UInt64) (node node' : FileSends) : Prop where
  queue : ∀ job ∈ node'.filePendingSends, job.resume = r
  nextTask : node.nextTask ≤ node'.nextTask
  tasks : ∀ task ∈ node'.tasks, task ∈ node.tasks
    ∨ (node.nextTask ≤ task.number ∧ task.number < node'.nextTask ∧ task.resume = r)

/-- Nothing starts. -/
theorem Spawns.none (queue : ∀ job ∈ node'.filePendingSends, job.resume = r)
    (nextTask : node'.nextTask = node.nextTask) (tasks : ∀ task ∈ node'.tasks, task ∈ node.tasks) :
    Spawns r node node' :=
  ⟨queue, nextTask.ge, fun task member => .inl (tasks task member)⟩

theorem startSends_spawns (queue : List SendJob) (node : FileSends)
    (waits : ∀ job ∈ queue, job.resume = r) :
    Spawns r node (FileSends.startSends queue node).2 := by
  induction queue generalizing node with
  | nil => exact .none (fun _ member => absurd member List.not_mem_nil) rfl fun _ member => member
  | cons job queue ih =>
      unfold FileSends.startSends
      split
      · exact .none waits rfl fun _ member => member
      · let started := { node with
          fileResumable := node.fileResumable.insert job.id { job with announce := Option.none } }
        have rest := ih (started.spawnSend job) fun other member =>
          waits other (List.mem_cons_of_mem job member)
        have later : node.nextTask + 1 ≤ _ := rest.nextTask
        refine ⟨rest.queue, Nat.le_of_succ_le later, fun task member => ?_⟩
        rcases rest.tasks task member with before | ⟨above, below, isResume⟩
        · rcases List.mem_append.mp before with old | new
          · exact .inl old
          · rw [List.mem_singleton.mp new]
            exact .inr ⟨le_rfl, later, waits job List.mem_cons_self⟩
        · exact .inr ⟨Nat.le_of_succ_le above, below, isResume⟩

theorem startPendingSends_spawns (waits : ∀ job ∈ node.filePendingSends, job.resume = r) :
    Spawns r node node.startPendingSends.2 := by
  unfold FileSends.startPendingSends
  split
  · exact startSends_spawns _ _ waits
  · exact .none waits rfl fun _ member => member

theorem onFileConnected_spawns (waits : ∀ job ∈ node.filePendingSends, job.resume = r) :
    Spawns r node node.onFileConnected.2 := by
  unfold FileSends.onFileConnected
  split
  · exact .none waits rfl fun _ member => member
  · have starts : Spawns r { node with fileConn := true, fileChannel := true } _ :=
      startPendingSends_spawns waits
    exact ⟨starts.queue, starts.nextTask, starts.tasks⟩

theorem onFileProgress_spawns (waits : ∀ job ∈ node.filePendingSends, job.resume = r)
    (id : TransferId) (moved : UInt64) : Spawns r node (node.onFileProgress id moved).2 := by
  unfold FileSends.onFileProgress
  split
  · exact .none waits rfl fun _ member => member
  · split <;> exact .none waits rfl fun _ member => member

theorem onFileChunkAck_spawns (waits : ∀ job ∈ node.filePendingSends, job.resume = r)
    (id : TransferId) (offset : UInt64) : Spawns r node (node.onFileChunkAck id offset) := by
  unfold FileSends.onFileChunkAck
  split
  · exact .none waits rfl fun _ member => member
  · split
    · exact .none waits rfl fun _ member => member
    · simp only
      split <;> exact .none waits rfl fun _ member => member

theorem cancelTransfer_spawns (waits : ∀ job ∈ node.filePendingSends, job.resume = r)
    (id : TransferId) (meant : FileSends.Meant) : Spawns r node (node.cancelTransfer id meant) := by
  unfold FileSends.cancelTransfer FileSends.abortTask
  split
  · exact .none waits rfl fun _ member => member
  · exact .none waits rfl fun _ member => List.mem_of_mem_filter member

/-- Where a file is picked up again is where its row says. -/
theorem resumeSend_spawns (waits : ∀ job ∈ node.filePendingSends, job.resume = r) {id : TransferId}
    {resumed : List MessageKind × FileSends} (isResumed : node.resumeSend id = some resumed)
    (caughtUp : ∀ row ∈ node.fileTransfers.lookup id, row.moved = r) : Spawns r node resumed.2 := by
  simp only [FileSends.resumeSend, Option.bind_eq_bind, Option.bind_eq_some_iff,
    Option.guard_eq_some', Option.pure_def, Option.some.injEq] at isResumed
  obtain ⟨job, -, -, -, -, -, row, found, -, -, rfl⟩ := isResumed
  let again : SendJob :=
    { id, path := job.path, resume := row.moved, attempts := job.attempts + 1, announce := .none }
  have starts : Spawns r { node with
      fileSendTasks := node.fileSendTasks.erase id
      fileResumable := node.fileResumable.insert id again
      filePendingSends := node.filePendingSends ++ [again] } _ :=
    startPendingSends_spawns fun other member => by
      rcases List.mem_append.mp member with before | new
      · exact waits other before
      · rw [List.mem_singleton.mp new]
        exact caughtUp row found
  exact ⟨starts.queue, starts.nextTask, starts.tasks⟩

theorem onFileFailed_spawns (waits : ∀ job ∈ node.filePendingSends, job.resume = r)
    {id : TransferId} (caughtUp : (node.resumeSend id).isSome →
      ∀ row ∈ node.fileTransfers.lookup id, row.moved = r) :
    Spawns r node (node.onFileFinished id .failed).2 := by
  unfold FileSends.onFileFinished
  rw [if_pos rfl]
  cases isResumed : node.resumeSend id with
  | some resumed =>
      exact resumeSend_spawns waits isResumed (caughtUp (by rw [isResumed]; rfl))
  | none =>
      cases found : node.fileTransfers.lookup id with
      | none => exact .none waits rfl fun _ member => member
      | some row =>
          have starts : Spawns r { node with
              fileTransfers := node.fileTransfers.insert id
                { row with state := .failed, moved := row.moved }
              fileSendTasks := node.fileSendTasks.erase id
              fileResumable := node.fileResumable.erase id } _ := startPendingSends_spawns waits
          exact ⟨starts.queue, starts.nextTask, starts.tasks⟩

end sender

/-! ## Both -/

section both

/-- What the receiver has not read of a stream starts where it is. -/
def Carries (content : Slice) (r : UInt64) (stream : Stream) : Prop :=
  ∃ q, Follows content r stream.unread q ∧ (stream.cut = false → q = stream.offset)

/-- The stream of the last task carries what the receiver waits for, and so will the next one. -/
structure Sound (file : SentFile) (state : Resuming blake3) : Prop where
  receives : Receives file state.receiver
  queue : ∀ job ∈ state.sender.filePendingSends, job.resume = state.received file
  numbers : ∀ task ∈ state.sender.tasks, task.number < state.sender.nextTask
  streams : ∀ number, (state.streams.lookup number).isSome → number < state.sender.nextTask
  current : ∀ number, number + 1 = state.sender.nextTask →
    ∀ stream ∈ state.streams.lookup number, Carries file.content (state.received file) stream
  fresh : ∀ task ∈ state.sender.tasks, task.number + 1 = state.sender.nextTask →
    state.streams.lookup task.number = none → task.resume = state.received file
  exported : ∀ bytes ∈ state.exported, bytes = file.content.1

/-- What the sender's actor does changes nothing for the receiver. -/
theorem Sound.sender (sound : Sound file state) {sender : FileSends}
    (spawns : Spawns (state.received file) state.sender sender) (told : List Told)
    (messages : List FileTransfers.FileMessage) :
    Sound file { state with sender, told, messages } := by
  -- A task whose number was not given before has no stream yet.
  have unstreamed (number : Nat) (above : state.sender.nextTask ≤ number) :
      state.streams.lookup number = none := by
    by_contra held
    exact absurd (sound.streams number (Option.isSome_iff_ne_none.mpr held)) (Nat.not_lt.mpr above)
  refine ⟨sound.receives, spawns.queue, fun task member => ?_,
    fun number held => (sound.streams number held).trans_le spawns.nextTask,
    fun number isLast stream isStream => ?_, fun task member isLast unread => ?_, sound.exported⟩
  · rcases spawns.tasks task member with before | ⟨-, below, -⟩
    · exact (sound.numbers task before).trans_le spawns.nextTask
    · exact below
  · have bound := sound.streams number (Option.isSome_of_eq_some isStream)
    have later := spawns.nextTask
    have isLast : number + 1 = sender.nextTask := isLast
    exact sound.current number (by omega) stream isStream
  · rcases spawns.tasks task member with before | ⟨-, -, isResume⟩
    · have bound := sound.numbers task before
      have later := spawns.nextTask
      have isLast : task.number + 1 = sender.nextTask := isLast
      exact sound.fresh task before (by omega) unread
    · exact isResume

/-- The receiver changes, but not how far it is. -/
theorem Sound.receiver (sound : Sound file state) {receiver : FileTransfers blake3}
    (receives : Receives file receiver)
    (same : received file { state with receiver } = state.received file)
    {exported : Option (List UInt8)} (whole : ∀ bytes ∈ exported, bytes = file.content.1) (reports : List Report)
    (messages : List FileTransfers.FileMessage) :
    Sound file { state with receiver, reports, messages, exported } := by
  have same : received file { state with receiver, reports, messages, exported } =
      state.received file := same
  exact ⟨receives, fun job member => same ▸ sound.queue job member, sound.numbers, sound.streams,
    fun number isLast stream isStream => same ▸ sound.current number isLast stream isStream,
    fun task member isLast unread => same ▸ sound.fresh task member isLast unread, whole⟩

/-- A stream changes, and still carries what the receiver waits for. -/
theorem Sound.stream (sound : Sound file state) {number : Nat} {stream : Stream}
    (given : number < state.sender.nextTask)
    (carries : number + 1 = state.sender.nextTask →
      Carries file.content (state.received file) stream)
    (told : List Told) (reports : List Report) :
    Sound file { state with streams := state.streams.insert number stream, told, reports } := by
  refine ⟨sound.receives, sound.queue, sound.numbers, fun other held => ?_,
    fun other isLast found isFound => ?_, fun task member isLast unread => ?_, sound.exported⟩
  · have held : ((state.streams.insert number stream).lookup other).isSome := held
    rw [HashMap.lookup_insert_eq] at held
    split at held
    next isNumber => rw [isNumber]; exact given
    next => exact sound.streams other held
  · have isFound : found ∈ (state.streams.insert number stream).lookup other := isFound
    rw [HashMap.lookup_insert_eq] at isFound
    split at isFound
    next isNumber =>
      cases isFound
      exact carries (isNumber ▸ isLast)
    next => exact sound.current other isLast found isFound
  · have unread : (state.streams.insert number stream).lookup task.number = none := unread
    rw [HashMap.lookup_insert_eq] at unread
    split at unread
    · cases unread
    · exact sound.fresh task member isLast unread

/-- The stream of a task that runs carries what the receiver waits for, if there is no later one. -/
theorem Sound.streamOf (sound : Sound file state) {task : FileSends.SendTask}
    (member : task ∈ state.sender.tasks) (isLast : task.number + 1 = state.sender.nextTask) :
    Carries file.content (state.received file) (state.streamOf task) := by
  unfold Resuming.streamOf
  cases found : state.streams.lookup task.number with
  | none => exact ⟨_, rfl, fun _ => (sound.fresh task member isLast found).symm⟩
  | some stream => exact sound.current task.number isLast stream found

theorem sendChunk_sound (sound : Sound file state) {task : FileSends.SendTask}
    (member : task ∈ state.sender.tasks) (len : Nat) (reported : Bool) :
    Sound file (state.sendChunk file.content task len reported) := by
  unfold sendChunk
  simp only
  split
  · exact sound
  next full =>
    refine sound.stream (sound.numbers task member) (fun isLast => ?_) _ state.reports
    obtain ⟨q, follows, uncut⟩ := sound.streamOf member isLast
    cases isCut : (state.streamOf task).cut with
    | true => exact ⟨q, follows, fun live => Bool.noConfusion live⟩
    | false =>
        have isOffset := uncut isCut
        subst isOffset
        exact ⟨_, follows.concat full, fun _ => rfl⟩

/-- The receiver gets on, and what is left of the last stream carries what it waits for then. -/
theorem Sound.taken (sound : Sound file state) {number : Nat} {stream : Stream}
    {receiver : FileTransfers blake3} {reports : List Report}
    (isLast : number + 1 = state.sender.nextTask) (emptied : state.sender.filePendingSends = [])
    (receives : Receives file receiver)
    (carries : Carries file.content (received file { state with receiver }) stream) :
    Sound file { state with
      receiver, streams := state.streams.insert number stream, reports } := by
  refine ⟨receives, fun job member => ?_, sound.numbers, fun other held => ?_,
    fun other isOther found isFound => ?_, fun task member isOther unread => ?_, sound.exported⟩
  · have member : job ∈ state.sender.filePendingSends := member
    rw [emptied] at member
    exact absurd member List.not_mem_nil
  · have held : ((state.streams.insert number stream).lookup other).isSome := held
    rw [HashMap.lookup_insert_eq] at held
    split at held
    next isNumber => exact Nat.lt_of_succ_le (isNumber ▸ isLast.le)
    next => exact sound.streams other held
  · have same : other = number := Nat.succ.inj (isOther.trans isLast.symm)
    have isFound : (state.streams.insert number stream).lookup other = some found := isFound
    rw [HashMap.lookup_insert_eq, if_pos same] at isFound
    cases isFound
    exact carries
  · have same : task.number = number := Nat.succ.inj (isOther.trans isLast.symm)
    have unread : (state.streams.insert number stream).lookup task.number = none := unread
    rw [HashMap.lookup_insert_eq, if_pos same] at unread
    cases unread

/-- A reader that takes the next chunk of the last stream. -/
theorem readChunk_sound (sound : Sound file state) {number : Nat}
    (caughtUp : state.CaughtUp file (.read number)) :
    Sound file (state.readChunk file number).2
      ∧ ∀ error, (state.readChunk file number).1 ≠ some (.error error) := by
  have idle : Sound file state ∧ ∀ error, (none : Answer) ≠ some (.error error) :=
    ⟨sound, fun error => (Option.some_ne_none _).symm⟩
  unfold readChunk
  cases found : state.streams.lookup number with
  | none => exact idle
  | some stream =>
      obtain ⟨offset, unread, cut, complete⟩ := stream
      cases unread with
      | nil => exact idle
      | cons chunk unread =>
          obtain ⟨start, bytes⟩ := chunk
          simp only
          cases expected : state.receiver.inbox.expected.lookup file.id with
          | none => exact idle
          | some expectation =>
              obtain ⟨isLast, emptied⟩ := caughtUp (by rw [expected]; rfl) _ found
                (List.cons_ne_nil _ _)
              obtain ⟨q, ⟨isStart, ⟨len, isChunk⟩, full, rest⟩, uncut⟩ :=
                sound.current number isLast _ found
              cases sound.receives with
              | waits isInbox =>
                  rw [isInbox] at expected
                  cases expected
              | settled isNone =>
                  rw [isNone] at expected
                  cases expected
              | live r entry bounded staged isExpected tasks =>
                  have isReceived : state.received file = r := by
                    unfold received
                    rw [entry]
                    rfl
                  rw [isReceived] at isStart isChunk rest
                  subst isChunk isStart
                  obtain ⟨receives, grown⟩ := Receives.chunk entry staged isExpected tasks full
                  simp only [Option.isNone_some, Bool.false_eq_true, if_false,
                    applyChunk_next entry full]
                  refine ⟨sound.taken isLast emptied receives ⟨q, ?_, uncut⟩, fun error => by simp⟩
                  unfold received
                  rw [grown]
                  exact rest

theorem received_finishTransfer (file : SentFile) (state : Resuming blake3) :
    received file { state with receiver := { state.receiver with
      inbox := finishTransfer state.receiver.inbox file.id } } = state.received file := by
  unfold received finishTransfer
  dsimp only
  split
  · rfl
  next hash _ _ =>
    rcases ReceiveTracker.finish_cases state.receiver.inbox.tracker file.id hash with
      ⟨-, unfinished⟩ | ⟨hasher, how, -, ended, -⟩
    · rw [unfinished]
    · simp only [ended, ReceiveTracker.state]
      rw [ReceiveTracker.lookup_end_, if_pos rfl, Option.map_map]
      rfl

/-- A reader that has taken the last byte. -/
theorem finish_sound (sound : Sound file state) (number : Nat) :
    Sound file (state.finish file number) := by
  unfold Resuming.finish
  dsimp only
  cases found : state.streams.lookup number with
  | none => exact sound
  | some stream =>
      cases isExpected : state.receiver.inbox.expected.lookup file.id with
      | none => exact sound
      | some expectation =>
          obtain ⟨hash, destination⟩ := expectation
          dsimp only
          split
          · obtain ⟨receives, whole⟩ := sound.receives.finish isExpected
            have exported : ∀ bytes ∈ if (state.receiver.inbox.tracker.finish file.id hash).1 then
                (state.receiver.inbox.staged.lookup file.id).or state.exported else state.exported,
                bytes = file.content.1 := by
              intro bytes isBytes
              split at isBytes
              next verified =>
                rcases Option.or_eq_some_iff.mp isBytes with isStaged | ⟨-, before⟩
                · exact whole verified bytes isStaged
                · exact sound.exported bytes before
              next => exact sound.exported bytes isBytes
            have finished := sound.receiver receives (received_finishTransfer file state) exported
              state.reports state.messages
            refine finished.stream (sound.streams number (Option.isSome_of_eq_some found))
              (fun isLast => ?_) state.told _
            obtain ⟨q, follows, -⟩ := finished.current number isLast stream found
            exact ⟨q, follows, fun live => Bool.noConfusion live⟩
          · exact sound

theorem onFileProgress_inbox (receiver : FileTransfers blake3) (id : TransferId) (moved : UInt64) :
    (receiver.onFileProgress id moved).2.inbox = receiver.inbox
      ∧ (receiver.onFileProgress id moved).2.inboxTasks = receiver.inboxTasks := by
  unfold FileTransfers.onFileProgress
  split
  · exact ⟨rfl, rfl⟩
  · dsimp only
    split <;> exact ⟨rfl, rfl⟩

theorem startSends_inbox (queue : List FileTransfers.SendJob) (receiver : FileTransfers blake3) :
    (FileTransfers.startSends queue receiver).inbox = receiver.inbox
      ∧ (FileTransfers.startSends queue receiver).inboxTasks = receiver.inboxTasks := by
  induction queue generalizing receiver with
  | nil => exact ⟨rfl, rfl⟩
  | cons job queue ih =>
      unfold FileTransfers.startSends
      split
      · exact ⟨rfl, rfl⟩
      · exact ih _

theorem startPendingSends_inbox (receiver : FileTransfers blake3) :
    receiver.startPendingSends.inbox = receiver.inbox
      ∧ receiver.startPendingSends.inboxTasks = receiver.inboxTasks := by
  unfold FileTransfers.startPendingSends
  split
  · exact startSends_inbox _ receiver
  · exact ⟨rfl, rfl⟩

theorem onFileFinished_inbox (receiver : FileTransfers blake3) (id : TransferId)
    (outcome : FileTransfers.TransferState) :
    (receiver.onFileFinished id outcome).2.inbox = receiver.inbox
      ∧ (receiver.onFileFinished id outcome).2.inboxTasks = receiver.inboxTasks := by
  unfold FileTransfers.onFileFinished
  dsimp only
  split
  next resumed isResumed =>
    split at isResumed
    · simp only [FileTransfers.resumeSend, Option.bind_eq_bind, Option.bind_eq_some_iff,
        Option.guard_eq_some', Option.pure_def, Option.some.injEq] at isResumed
      obtain ⟨job, -, -, -, -, -, row, -, -, -, rfl⟩ := isResumed
      exact startPendingSends_inbox _
    · cases isResumed
  next =>
    split
    · exact ⟨rfl, rfl⟩
    · split
      · cases outcome <;> exact startPendingSends_inbox _
      · exact startPendingSends_inbox _

/-- The book is opened at nothing, and before that nothing is received. -/
theorem received_begins (sound : Sound file state) {task : FileTransfers.InboxTask}
    {tasks : List FileTransfers.InboxTask} (isTasks : state.receiver.inboxTasks = task :: tasks) :
    received file { state with
      receiver := { state.receiver with inboxTasks := tasks }.runInboxTask true task } =
        state.received file := by
  cases sound.receives with
  | waits isInbox only =>
      rw [only] at isTasks
      cases isTasks
      have opened : ({ state.receiver with inboxTasks := [] }.runInboxTask true (.begins file.id
          file.content.len file.hash file.destination)).inbox = _ :=
        (congrArg (fun inbox => FileTransfers.beginReceive inbox file.id file.content.len file.hash
          file.destination true) isInbox).trans (beginReceive_default file blake3)
      unfold received ReceiveTracker.state
      rw [opened, isInbox]
      simp only [AList.lookup_insert]
      rfl
  | live r entry bounded staged expected none =>
      rw [none] at isTasks
      cases isTasks
  | settled expected none =>
      rw [none] at isTasks
      cases isTasks

/-- A stream that breaks carries what got through. -/
theorem cut_sound (sound : Sound file state) (number arrived : Nat) :
    Sound file { state with
      streams := HashMap.modify number
        (fun stream => { stream with unread := stream.unread.take arrived, cut := true })
        state.streams } := by
  unfold HashMap.modify
  cases found : state.streams.lookup number with
  | none => exact sound
  | some stream =>
      refine sound.stream (sound.streams number (Option.isSome_of_eq_some found))
        (fun isLast => ?_) state.told state.reports
      obtain ⟨q, follows, -⟩ := sound.current number isLast stream found
      obtain ⟨q', shorter⟩ := follows.take arrived
      exact ⟨q', shorter, fun live => Bool.noConfusion live⟩

theorem hear_spawns {r : UInt64} {sender : FileSends}
    (waits : ∀ job ∈ sender.filePendingSends, job.resume = r)
    (message : FileTransfers.FileMessage) : Spawns r sender (hear sender message) := by
  unfold hear
  split
  · exact onFileChunkAck_spawns waits ..
  · exact cancelTransfer_spawns waits ..
  · exact .none waits rfl fun _ member => member

/-- Whatever starts does so where the receiver is. -/
theorem step_spawns (sound : Sound file state) (happening : Happening)
    (caughtUp : state.CaughtUp file happening) :
    Spawns (state.received file) state.sender (step file state happening).2.sender := by
  have waits := sound.queue
  have same : Spawns (state.received file) state.sender state.sender :=
    .none waits rfl fun _ member => member
  cases happening with
  | connected => exact onFileConnected_spawns waits
  | connectionLost => exact .none waits rfl fun _ member => member
  | connectFailed =>
      exact .none (fun _ member => absurd member List.not_mem_nil) rfl fun _ member => member
  | control connected => exact .none waits rfl fun _ member => member
  | grants mayTransferFiles => exact .none waits rfl fun _ member => member
  | begins =>
      simp only [step]
      split <;> exact same
  | chunk number len reported =>
      simp only [step]
      split
      · exact same
      · dsimp only [sendChunk]
        split <;> exact same
  | fails number =>
      simp only [step]
      split
      · exact same
      · exact .none waits rfl fun _ member => List.mem_of_mem_filter member
  | ends number => exact .none waits rfl fun _ member => List.mem_of_mem_filter member
  | cut number arrived => exact same
  | read number =>
      simp only [step]
      unfold readChunk
      split
      · exact same
      · split
        · exact same
        · dsimp only
          split
          · exact same
          · split <;> exact same
  | finish number =>
      simp only [step]
      unfold Resuming.finish
      dsimp only
      split
      · split <;> exact same
      · exact same
  | told =>
      simp only [step]
      cases isTold : state.told with
      | nil => exact same
      | cons event told =>
          cases event with
          | progress moved => exact onFileProgress_spawns waits ..
          | failed => exact onFileFailed_spawns waits (caughtUp (by rw [isTold]; rfl))
  | report =>
      simp only [step]
      split <;> exact same
  | message =>
      simp only [step]
      split
      · exact same
      · exact hear_spawns waits _

theorem step_sound (sound : Sound file state) (happening : Happening)
    (caughtUp : state.CaughtUp file happening) : Sound file (step file state happening).2 := by
  have spawns := step_spawns sound happening caughtUp
  cases happening with
  | connected | connectionLost | connectFailed | control | grants | ends =>
      exact sound.sender spawns state.told state.messages
  | begins =>
      simp only [step] at spawns ⊢
      cases isTasks : state.receiver.inboxTasks with
      | nil => exact sound
      | cons task tasks =>
          exact sound.receiver (sound.receives.begins isTasks) (received_begins sound isTasks)
            sound.exported state.reports state.messages
  | chunk number len reported =>
      simp only [step]
      cases found : state.sender.tasks.find? (·.number = number) with
      | none => exact sound
      | some task => exact sendChunk_sound sound (List.mem_of_find?_eq_some found) len reported
  | fails number =>
      simp only [step] at spawns ⊢
      split
      · exact sound
      next found =>
        rw [found] at spawns
        exact sound.sender spawns _ state.messages
  | cut number arrived => exact cut_sound sound number arrived
  | read number => exact (readChunk_sound sound caughtUp).1
  | finish number => exact finish_sound sound number
  | told =>
      simp only [step] at spawns ⊢
      cases isTold : state.told with
      | nil => exact sound
      | cons event told =>
          rw [isTold] at spawns
          exact sound.sender spawns told state.messages
  | report =>
      simp only [step]
      cases isReports : state.reports with
      | nil => exact sound
      | cons report reports =>
          cases report with
          | progress moved =>
              have same := onFileProgress_inbox state.receiver file.id moved
              exact sound.receiver (sound.receives.congr same.1 same.2)
                (by unfold received; rw [same.1]) sound.exported _ _
          | finished outcome =>
              have same := onFileFinished_inbox state.receiver file.id outcome
              exact sound.receiver (sound.receives.congr same.1 same.2)
                (by unfold received; rw [same.1]) sound.exported _ _
  | message =>
      simp only [step] at spawns ⊢
      cases isMessages : state.messages with
      | nil => exact sound
      | cons message messages =>
          rw [isMessages] at spawns
          exact sound.sender spawns state.told messages

/-- Only a reader gets an answer, and it is no refusal. -/
theorem step_accepted (sound : Sound file state) (happening : Happening)
    (caughtUp : state.CaughtUp file happening) (error : NetError) :
    (step file state happening).1 ≠ some (.error error) := by
  have silent : (none : Answer) ≠ some (.error error) := (Option.some_ne_none _).symm
  cases happening with
  | read number => exact (readChunk_sound sound caughtUp).2 error
  | connected | connectionLost | connectFailed | control | grants | ends | cut | finish =>
      exact silent
  | begins | chunk | fails | told | report | message =>
      simp only [step]
      split <;> exact silent

end both

/-! ## Runs -/

theorem start_sound (file : SentFile) (blake3 : Blake3) : Sound file (start file blake3) := by
  have begun : Receives file (start file blake3).receiver := by
    refine .waits ?_ ?_ <;>
      simp [start, FileTransfers.onFileTransferStart, FileTransfers.ensureFileConnection,
        FileTransfers.startPendingSends]
  have nothing : (start file blake3).received file = 0 := by
    simp [start, FileTransfers.onFileTransferStart, FileTransfers.ensureFileConnection,
      FileTransfers.startPendingSends, received, ReceiveTracker.state, ReceiveTracker.default]
  refine ⟨begun, fun job member => ?_, fun task member => ?_, fun number held => ?_,
    fun number _ stream isStream => ?_, fun task member => ?_, fun bytes isBytes => ?_⟩
  · rw [nothing]
    have member : job ∈ [(⟨file.id, file.path, 0, 0, none⟩ : FileSends.SendJob)] := member
    rw [List.mem_singleton.mp member]
  · exact absurd member List.not_mem_nil
  · cases held
  · cases isStream
  · exact absurd member List.not_mem_nil
  · cases isBytes

theorem run_sound (file : SentFile) (happenings : List Happening)
    (caughtUp : ∀ e ∈ history (step file) (start file blake3) happenings,
      e.pre.CaughtUp file e.op) :
    Sound file (exec (step file) (start file blake3) happenings) :=
  exec_induction (fun _ happening sound ok => step_sound sound happening ok)
    (start_sound file blake3) caughtUp

/-- In a run in which the row says what the receiver has accepted whenever the file is picked up
again, and in which no stream is read that another is to follow, every stream starts where the
receiver is, no chunk is refused, and what is exported is the file. -/
theorem resume_rebuilds_file (file : SentFile) (happenings : List Happening)
    (caughtUp : ∀ e ∈ history (step file) (start file blake3) happenings,
      e.pre.CaughtUp file e.op) :
    ∀ e ∈ history (step file) (start file blake3) happenings, Rebuilds file e := by
  intro e member
  obtain ⟨before, after, rfl, isEvent⟩ := exists_prefix_of_mem_history member
  have ok := caughtUp e member
  rw [isEvent] at ok ⊢
  have sound : Sound file (exec (step file) (start file blake3) before) :=
    run_sound file before fun event earlier =>
      caughtUp event (by rw [history_append]; exact List.mem_append_left _ earlier)
  refine ⟨fun task isTask new => ?_, step_accepted sound e.op ok,
    (step_sound sound e.op ok).exported⟩
  rcases (step_spawns sound e.op ok).tasks task isTask with old | ⟨-, -, isResume⟩
  · exact absurd old new
  · exact isResume

/-- A file of two bytes. -/
def twoBytes : SentFile where
  id := 4
  path := "/a"
  name := "a"
  content := ⟨[1, 2], by decide⟩
  hash := sampleBlake3.hash [1, 2]
  destination := "/b"

/-- The second byte is lost, but the acknowledgement of the first comes after the sender's own
count. -/
def pickedUp : List Happening :=
  [.connected, .begins, .chunk 0 1 true, .chunk 0 1 true, .read 0, .cut 0 0, .told, .told, .report,
    .message, .fails 0, .told, .chunk 1 5 true, .read 1, .finish 1, .report, .report, .message]

theorem two_bytes_are_rebuilt :
    (exec (step twoBytes) (start twoBytes sampleBlake3) pickedUp).exported = some [1, 2] ∧
      ∀ e ∈ history (step twoBytes) (start twoBytes sampleBlake3) pickedUp, Rebuilds twoBytes e :=
  ⟨by decide, resume_rebuilds_file twoBytes pickedUp (by decide)⟩

/-- The sender counts a byte that never arrives, and goes on after it. -/
theorem lost_byte_is_not_sent_again :
    ¬ ∀ (file : SentFile) (happenings : List Happening),
      ∀ e ∈ history (step file) (start file sampleBlake3) happenings, Rebuilds file e := by
  intro always
  have rebuilds := always twoBytes
    [.connected, .begins, .chunk 0 1 true, .cut 0 0, .told, .fails 0, .told, .chunk 1 1 true,
      .read 1]
  have last := rebuilds _ (List.mem_of_getElem? (i := 8) rfl)
  exact last.accepted (.chunkGap 0 1) (by decide)

end Lumepeer.Runtime.Resuming
