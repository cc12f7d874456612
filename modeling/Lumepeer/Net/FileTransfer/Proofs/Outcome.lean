import Lumepeer.Net.FileTransfer.Proofs.Receive

/-!
# Whether the outcome of a transfer is final

An ended transfer keeps its entry, so its id stays taken, and it has no hasher
any more, so `finish` passes it by. `cancel` does not ask how a transfer stands:
it is the one operation that overwrites an outcome.
-/

namespace Lumepeer.Net
open Lumepeer.Lib Lumepeer.Core

namespace ReceiveTracker

variable {blake3 : Blake3} {tracker : ReceiveTracker blake3}

/-- The state a list of operations leads a fresh tracker to. -/
def after (blake3 : Blake3) (ops : List TrackerOp) : ReceiveTracker blake3 :=
  exec step (default : ReceiveTracker blake3) ops

/-- A transfer that ended as `how` stays as it is, whatever operations follow. -/
def Final (blake3 : Blake3) (how : TransferEnd) (ops : List TrackerOp) : Prop :=
  ∀ first later rest, ops = first ++ later ++ rest → ∀ id state,
    (after blake3 first).state id = some state → state.ended = some how →
      (after blake3 (first ++ later)).state id = some state

/-- The id of an ended transfer is refused to every later transfer. -/
def NotBegunAgain (blake3 : Blake3) (ops : List TrackerOp) : Prop :=
  ∀ first later rest, ops = first ++ later ++ rest → ∀ id state,
    (after blake3 first).state id = some state → state.ended.isSome →
      ∀ total,
        (∃ e, ((after blake3 (first ++ later)).beginWith id total).1 = .error e) ∧
        ((after blake3 (first ++ later)).begin total).1 ≠ .ok id

/-- Some step of the run cancels a transfer that is completed. -/
def CancelsCompleted (blake3 : Blake3) (ops : List TrackerOp) : Prop :=
  ∃ first id rest, ops = first ++ .cancel id :: rest ∧
    ∃ state, (after blake3 first).state id = some state ∧ state.ended = some .completed

/-- The next tracker has the same entry at this id, and no hasher where there was none. -/
def LeavesAt (id : TransferId) (tracker next : ReceiveTracker blake3) : Prop :=
  next.state id = tracker.state id ∧
    (tracker.hashes.lookup id = none → next.hashes.lookup id = none)

/-- No ended transfer is at this id, neither before nor after. -/
def LiveAt (id : TransferId) (tracker next : ReceiveTracker blake3) : Prop :=
  (∀ state, tracker.state id = some state → state.ended = none) ∧
    ∀ state, next.state id = some state → state.ended = none

theorem leavesAt_self (id : TransferId) (tracker : ReceiveTracker blake3) :
    LeavesAt id tracker tracker :=
  ⟨rfl, fun none => none⟩

/-- A new transfer leaves every other id alone. -/
theorem registered_at {into : TransferId} (free : tracker.states.lookup into = none)
    (total : UInt64) (nextId id : TransferId) :
    let next : ReceiveTracker blake3 :=
      { states := tracker.states.insert into { received := 0, total, ended := none }
        hashes := tracker.hashes.insert into blake3.new
        nextId }
    LeavesAt id tracker next ∨ LiveAt id tracker next := by
  intro next
  by_cases same : id = into
  · subst same
    refine .inr ⟨fun state found => ?_, fun state found => ?_⟩
    · cases free.symm.trans found
    · cases (AList.lookup_insert _).symm.trans found
      rfl
  · refine .inl ⟨?_, fun none => ?_⟩
    · exact AList.lookup_insert_ne same
    · exact (AList.lookup_insert_ne same).trans none

/-- So does the end of one. -/
theorem end_leavesAt {into id : TransferId} (other : id ≠ into) (how : TransferEnd) :
    LeavesAt id tracker (tracker.end_ into how) := by
  constructor
  · rw [ReceiveTracker.state, lookup_end_, if_neg other]
    rfl
  · intro none
    rw [lookup_hashes_end_, if_neg other]
    exact none

/-- What an operation does at one id: nothing to its entry, open or continue a live transfer, or end
one, which takes a hasher unless it is a `cancel`. -/
theorem step_at (tracker : ReceiveTracker blake3) (op : TrackerOp) (id : TransferId) :
    LeavesAt id tracker (tracker.step op).2 ∨ LiveAt id tracker (tracker.step op).2 ∨
    ((tracker.step op).2.hashes.lookup id = none ∧
      ((tracker.hashes.lookup id).isSome ∨
        op = .cancel id ∧ (tracker.step op).2.state id =
          (tracker.state id).map fun state => { state with ended := some .cancelled })) := by
  cases op with
  | begin total =>
      rcases begin_cases tracker total with ⟨e, refused⟩ | ⟨-, free, begun⟩
      · simp only [step, refused]
        exact .inl (leavesAt_self id tracker)
      · simp only [step, begun]
        exact (registered_at free total _ id).imp_right .inl
  | beginWith into total =>
      rcases beginWith_cases tracker into total with ⟨e, refused⟩ | ⟨-, free, begun⟩
      · simp only [step, refused]
        exact .inl (leavesAt_self id tracker)
      · simp only [step, begun]
        exact (registered_at free total _ id).imp_right .inl
  | applyChunk into offset len =>
      rcases applyChunk_cases tracker into offset len with
        ⟨e, refused⟩ | ⟨state, received, found, live, -, -, applied⟩
      · simp only [step, refused]
        exact .inl (leavesAt_self id tracker)
      · simp only [step, applied]
        by_cases same : id = into
        · subst same
          refine .inr (.inl ⟨fun state' found' => ?_, fun state' found' => ?_⟩)
          · cases found.symm.trans found'
            exact live
          · cases (AList.lookup_insert _).symm.trans found'
            exact live
        · exact .inl ⟨AList.lookup_insert_ne same, fun none => none⟩
  | hashChunk into bytes =>
      refine .inl ⟨rfl, fun none => ?_⟩
      simp only [step, hashChunk, HashMap.lookup_modify_eq]
      split
      · rename_i same
        rw [← same, none]
        rfl
      · exact none
  | finish into expected =>
      rcases finish_cases tracker into expected with
        ⟨-, unfinished⟩ | ⟨hasher, how, hasHasher, ended, -⟩
      · simp only [step, unfinished]
        exact .inl (leavesAt_self id tracker)
      · simp only [step, ended]
        by_cases same : id = into
        · refine .inr (.inr ⟨?_, .inl ?_⟩)
          · rw [lookup_hashes_end_, if_pos same]
          · rw [same, hasHasher]
            rfl
        · exact .inl (end_leavesAt same how)
  | cancel into =>
      simp only [step, cancel]
      by_cases same : id = into
      · refine .inr (.inr ⟨?_, .inr ⟨by rw [same], ?_⟩⟩)
        · rw [lookup_hashes_end_, if_pos same]
        · rw [ReceiveTracker.state, lookup_end_, if_pos same, same]
          rfl
      · exact .inl (end_leavesAt same .cancelled)

/-- Only live transfers have a hasher. -/
def HashersLive (tracker : ReceiveTracker blake3) : Prop :=
  ∀ id state, tracker.state id = some state → state.ended.isSome → tracker.hashes.lookup id = none

theorem hashersLive_step (live : HashersLive tracker) (op : TrackerOp) :
    HashersLive (tracker.step op).2 := by
  intro id state found ended
  rcases step_at tracker op id with ⟨same, stays⟩ | ⟨-, isLive⟩ | ⟨gone, -⟩
  · exact stays (live id state (same ▸ found) ended)
  · simp [isLive state found] at ended
  · exact gone

theorem hashersLive_after (ops : List TrackerOp) : HashersLive (after blake3 ops) := by
  have fresh : HashersLive (default : ReceiveTracker blake3) := by
    intro id state found
    cases found
  have keep : ∀ (tracker : ReceiveTracker blake3) (op : TrackerOp), HashersLive tracker →
      HashersLive (tracker.step op).2 := fun _ op live => hashersLive_step live op
  exact exec_invariant keep fresh ops

/-- An operation leaves an ended transfer alone, or is a `cancel` and overwrites its outcome. -/
theorem step_of_ended (live : HashersLive tracker) {id : TransferId} {state : TransferState}
    (found : tracker.state id = some state) (ended : state.ended.isSome) (op : TrackerOp) :
    (tracker.step op).2.state id = some state ∨
      op = .cancel id ∧
        (tracker.step op).2.state id = some { state with ended := some .cancelled } := by
  rcases step_at tracker op id with ⟨same, -⟩ | ⟨wasLive, -⟩ | ⟨-, hasHasher | ⟨cancels, overwritten⟩⟩
  · exact .inl (same.trans found)
  · simp [wasLive state found] at ended
  · simp [live id state found ended] at hasHasher
  · exact .inr ⟨cancels, by rw [overwritten, found, Option.map_some]⟩

theorem after_concat (ops : List TrackerOp) (op : TrackerOp) :
    after blake3 (ops ++ [op]) = ((after blake3 ops).step op).2 :=
  exec_concat default ops op

/-- A cancelled transfer stays as it is. -/
theorem final_cancelled (ops : List TrackerOp) : Final blake3 .cancelled ops := by
  intro first later rest _ id state found ended
  clear * - found ended
  induction later using List.reverseRecOn with
  | nil => simpa using found
  | append_singleton later op ih =>
      rw [← List.append_assoc, after_concat]
      rcases step_of_ended (hashersLive_after _) ih (by rw [ended]; rfl) op with kept | ⟨-, again⟩
      · exact kept
      · rw [again, ← ended]

/-- An ended transfer keeps an entry, ended one way or the other. -/
theorem ended_later {first : List TrackerOp} {id : TransferId} {state : TransferState}
    (found : (after blake3 first).state id = some state) (ended : state.ended.isSome)
    (later : List TrackerOp) :
    ∃ state', (after blake3 (first ++ later)).state id = some state' ∧ state'.ended.isSome := by
  induction later using List.reverseRecOn with
  | nil => exact ⟨state, by simpa using found, ended⟩
  | append_singleton later op ih =>
      obtain ⟨state', found', ended'⟩ := ih
      rw [← List.append_assoc, after_concat]
      rcases step_of_ended (hashersLive_after _) found' ended' op with kept | ⟨-, overwritten⟩
      · exact ⟨state', kept, ended'⟩
      · exact ⟨_, overwritten, rfl⟩

theorem notBegunAgain (ops : List TrackerOp) : NotBegunAgain blake3 ops := by
  intro first later rest _ id state found ended total
  obtain ⟨state', taken, -⟩ := ended_later found ended later
  constructor
  · rcases beginWith_cases (after blake3 (first ++ later)) id total with ⟨e, refused⟩ | ⟨-, free, -⟩
    · exact ⟨e, by rw [refused]⟩
    · cases free.symm.trans taken
  · rcases begin_cases (after blake3 (first ++ later)) total with ⟨e, refused⟩ | ⟨-, free, begun⟩
    · rw [refused]
      exact nofun
    · rw [begun]
      intro same
      cases same
      cases free.symm.trans taken

/-- A completed transfer stays as it is as long as no step cancels it. -/
theorem final_completed_iff (ops : List TrackerOp) :
    Final blake3 .completed ops ↔ ¬ CancelsCompleted blake3 ops := by
  constructor
  · rintro final ⟨first, id, rest, split, state, found, completed⟩
    have kept := final first [.cancel id] rest (by simp [split]) id state found completed
    have overwritten : ((after blake3 first).cancel id).state id =
        some { state with ended := some .cancelled } := by
      rw [cancel, ReceiveTracker.state, lookup_end_, if_pos rfl]
      exact congrArg (Option.map _) found
    rw [after_concat] at kept
    have same : state = { state with ended := some .cancelled } :=
      Option.some.inj (kept.symm.trans overwritten)
    rw [same] at completed
    cases completed
  · intro spared first later rest split id state found completed
    induction later using List.reverseRecOn generalizing rest with
    | nil => simpa using found
    | append_singleton later op ih =>
        have before := ih (op :: rest) (by simp [split])
        rw [← List.append_assoc, after_concat]
        rcases step_of_ended (hashersLive_after _) before (by rw [completed]; rfl) op with
          kept | ⟨cancels, -⟩
        · exact kept
        · exact absurd ⟨first ++ later, id, rest, by simp [split, cancels], state, before, completed⟩
            spared

/-- In a run of operations every outcome is final exactly if no step cancels a completed transfer:
a cancelled transfer stays cancelled and no id is begun again in any case. -/
theorem outcomes_final_iff (blake3 : Blake3) (ops : List TrackerOp) :
    (Final blake3 .completed ops ∧ Final blake3 .cancelled ops ∧ NotBegunAgain blake3 ops) ↔
      ¬ CancelsCompleted blake3 ops := by
  constructor
  · rintro ⟨final, -⟩
    exact (final_completed_iff ops).mp final
  · intro spared
    exact ⟨(final_completed_iff ops).mpr spared, final_cancelled ops, notBegunAgain ops⟩

/-- An empty file arrives, is finished, and a late abort of the peer cancels it. -/
theorem late_cancel_overwrites_completed :
    (after sampleBlake3 [.begin 0, .finish 0 emptyDigest]).state 0 =
        some { received := 0, total := 0, ended := some .completed } ∧
      (after sampleBlake3 [.begin 0, .finish 0 emptyDigest, .cancel 0]).state 0 =
        some { received := 0, total := 0, ended := some .cancelled } ∧
      ¬ Final sampleBlake3 .completed [.begin 0, .finish 0 emptyDigest, .cancel 0] := by
  have completed : (after sampleBlake3 [.begin 0, .finish 0 emptyDigest]).state 0 =
      some { received := 0, total := 0, ended := some .completed } := rfl
  have cancelled : (after sampleBlake3 [.begin 0, .finish 0 emptyDigest, .cancel 0]).state 0 =
      some { received := 0, total := 0, ended := some .cancelled } := rfl
  refine ⟨completed, cancelled, fun final => ?_⟩
  have kept := final [.begin 0, .finish 0 emptyDigest] [.cancel 0] [] rfl 0 _ completed rfl
  cases kept.symm.trans cancelled

end ReceiveTracker

end Lumepeer.Net
