import Lumepeer.Broker.Proofs.Licences
import Lumepeer.Broker.Proofs.Statements

/-!
# The seconds of the trial

A heartbeat reads what is recorded of its device and writes the greater of that and
of what it reports. The write has no condition: a second heartbeat that is recorded
in between is overwritten, and where it recorded more than the first one writes, the
record shrinks. It only grows while nobody is overtaken so.
-/

namespace Lumepeer.Broker
open Lumepeer.Lib Lumepeer.Core

/-- The seconds that are recorded of a device. -/
def Db.recordedOf (db : Db) (deviceId : String) : Option Int :=
  (db.devices.lookup deviceId).map (·.trialSecondsUsed)

/-- What `db` has recorded of a device, `db'` has too, or more. -/
def Db.RecordsAll (db db' : Db) : Prop :=
  ∀ deviceId used, db.recordedOf deviceId = some used →
    ∃ used', db'.recordedOf deviceId = some used' ∧ used ≤ used'

/-- An event of a run of the broker. -/
abbrev ServiceEvent := Event Service Service.Happening (Option Answer)

/-- A heartbeat that is written finds what it read, or no more than it reports. -/
def Service.NotOvertaken (service : Service) (happening : Service.Happening) : Prop :=
  ∀ position request now device used, happening = .run position →
    service.tasks[position]? = some (.beating request now device) →
      service.db.recordedOf request.deviceId = some used →
        used = toSql device.trialSecondsUsed ∨ used ≤ toSql request.activeSeconds

namespace Db
variable {db db' : Db} {app : AppState} {now : UInt64}

theorem RecordsAll.refl (db : Db) : db.RecordsAll db := fun _ used recorded => ⟨used, recorded, le_rfl⟩

theorem recordedOf_modify {deviceId : String} {change : DeviceRow → DeviceRow} (other : String) :
    recordedOf { db with devices := HashMap.modify deviceId change db.devices } other =
      if other = deviceId then
        (db.devices.lookup deviceId).map fun row => (change row).trialSecondsUsed
      else db.recordedOf other := by
  unfold recordedOf
  rw [HashMap.lookup_modify_eq]
  split
  · rw [Option.map_map]
    rfl
  · rfl

/-- A heartbeat that is written. -/
theorem recordedOf_recordHeartbeat (deviceId : String) (used : UInt64) (other : String) :
    (db.recordHeartbeat deviceId used now).recordedOf other =
      if other = deviceId then (db.recordedOf deviceId).map fun _ => toSql used
      else db.recordedOf other := by
  rw [recordHeartbeat, recordedOf_modify]
  split
  · rw [recordedOf, Option.map_map]
    rfl
  · rfl

/-- Every other write leaves what is recorded. -/
theorem recordsAll_of_writes {task : Task} (writes : task.Writes app db db')
    (isOther : ∀ request now device, task ≠ .beating request now device) : db.RecordsAll db' := by
  cases writes with
  | reads => exact .refl db
  | revokes now device => exact .refl db
  | beats request now device => exact absurd rfl (isOther request now device)
  | displaces request now license deviceId displacing =>
      intro other used recorded
      refine ⟨used, ?_, le_rfl⟩
      rw [displaceDevice, recordedOf_modify]
      split
      next same =>
        rw [← recorded, same, recordedOf]
        congr 1
        funext row
        split <;> rfl
      next => exact recorded
  | issues request now license isIssued =>
      intro other used recorded
      refine ⟨used, ?_, le_rfl⟩
      unfold recordIssue at isIssued
      dsimp only at isIssued
      split at isIssued
      · cases isIssued
      cases isIssued
      unfold recordedOf at recorded ⊢
      dsimp only
      rw [HashMap.lookup_insert_eq]
      split
      next same =>
        rw [same] at recorded
        cases before : db.devices.lookup request.deviceId with
        | none => simp [before] at recorded
        | some row => simpa [before] using recorded
      next => exact recorded
  | pays request now event change accepted =>
      unfold applyWebhook
      split
      · exact .refl db
      · cases change <;> exact .refl db

end Db

/-! ## One statement -/

/-- What a heartbeat read is recorded still, or more is. -/
structure Service.Behind (service : Service) : Prop where
  inRange : service.db.InRange
  behind : ∀ request now device, Task.beating request now device ∈ service.tasks →
    ∃ used, service.db.recordedOf request.deviceId = some used ∧
      toSql device.trialSecondsUsed ≤ used

namespace Service
variable {app : AppState} {service : Service} {happening : Happening}

theorem inRange_step (inRange : service.db.InRange) (happening : Happening) :
    (service.step app happening).2.db.InRange := by
  rcases service.db_step app happening with same | ⟨position, task, -, -, after⟩
  · rw [same]
    exact inRange
  · rw [after]
    exact inRange.step (task.writes_step app service.db)

/-- The record grows exactly when no heartbeat is overtaken. -/
theorem recordsAll_step_iff (behind : service.Behind) :
    service.db.RecordsAll (service.step app happening).2.db ↔ service.NotOvertaken happening := by
  by_cases beats : ∃ position request now device, happening = .run position ∧
      service.tasks[position]? = some (.beating request now device)
  · obtain ⟨position, request, now, device, rfl, isTask⟩ := beats
    obtain ⟨used, recorded, read⟩ :=
      behind.behind request now device (List.mem_of_getElem? isTask)
    have written (deviceId : String) :
        (service.step app (.run position)).2.db.recordedOf deviceId =
          if deviceId = request.deviceId then
            some (max (toSql device.trialSecondsUsed) (toSql request.activeSeconds))
          else service.db.recordedOf deviceId := by
      rw [db_step_run app isTask]
      simp only [Task.step, Db.recordedOf_recordHeartbeat, recorded, Option.map_some, toSql_max]
    constructor
    · intro grows position' request' now' device' used' isRun isTask' recorded'
      cases isRun
      cases isTask.symm.trans isTask'
      cases recorded.symm.trans recorded'
      obtain ⟨later, isLater, le⟩ := grows _ _ recorded
      rw [written, if_pos rfl] at isLater
      cases isLater
      omega
    · intro inTime deviceId before isBefore
      rw [written]
      split
      next same =>
        rw [same, recorded] at isBefore
        cases isBefore
        refine ⟨_, rfl, ?_⟩
        rcases inTime position request now device used rfl isTask recorded with still | less
        · exact still.le.trans (le_max_left _ _)
        · exact less.trans (le_max_right _ _)
      next => exact ⟨before, isBefore, le_rfl⟩
  · constructor
    · intro _ position request now device used isRun isTask _
      exact absurd ⟨position, request, now, device, isRun, isTask⟩ beats
    · intro _
      rcases service.db_step app happening with same | ⟨position, task, isRun, isTask, after⟩
      · rw [same]
        exact .refl service.db
      · rw [after]
        refine Db.recordsAll_of_writes (task.writes_step app service.db) ?_
        rintro request now device rfl
        exact beats ⟨position, request, now, device, isRun, isTask⟩

/-- A heartbeat is left of the statement that read its device. -/
theorem beating_of_step {db : Db} {task : Task} {request : HeartbeatRequest} {now : UInt64}
    {device : DeviceView} (next : (task.step app db).1 = .inr (.beating request now device)) :
    task = .begins (.heartbeat request) now ∧ db.device request.deviceId = some device := by
  cases task with
  | begins request' now' =>
      cases request' with
      | heartbeat request' =>
          simp only [Task.step] at next
          split at next
          · cases next
          next isDevice =>
            cases next
            exact ⟨rfl, isDevice⟩
      | issue request' =>
          simp only [Task.step] at next
          split at next <;> cases next
      | revoke deviceId =>
          simp only [Task.step] at next
          split at next <;> cases next
      | refresh deviceId =>
          simp only [Task.step] at next
          split at next <;> cases next
      | payment request' => cases next
  | noToken request' now' =>
      simp only [Task.step] at next
      split at next <;> cases next
  | seating request' now' license displacing => cases displacing <;> cases next
  | licensed | beating | beaten | revoking | refreshing => cases next

/-- While the record grows, no heartbeat is ahead of it. -/
theorem Behind.step (behind : service.Behind)
    (grows : service.db.RecordsAll (service.step app happening).2.db) :
    (service.step app happening).2.Behind where
  inRange := inRange_step behind.inRange happening
  behind request now device member := by
    rcases tasks_step member with old | ⟨_, _, -, isBegin⟩ | ⟨position, before, rfl, isTask, next⟩
    · obtain ⟨used, recorded, le⟩ := behind.behind request now device old
      obtain ⟨used', recorded', le'⟩ := grows _ _ recorded
      exact ⟨used', recorded', le.trans le'⟩
    · cases isBegin
    · obtain ⟨rfl, isDevice⟩ := beating_of_step next
      obtain ⟨row, isRow, rfl⟩ := Option.map_eq_some_iff.mp isDevice
      have same : (service.step app (.run position)).2.db = service.db := by
        rw [db_step_run app isTask]
        simp only [Task.step, isDevice]
      obtain ⟨nonneg, lt⟩ := behind.inRange.trialSecondsUsed _ row isRow
      rw [same]
      refine ⟨row.trialSecondsUsed, by rw [Db.recordedOf, isRow]; rfl, ?_⟩
      exact (toSql_ofSql nonneg lt).le

end Service

/-! ## Heartbeats that are handled -/

/-- The task still has to write what `request` reports. -/
def Task.Owes (request : HeartbeatRequest) (task : Task) : Prop :=
  (∃ now, task = .begins (.heartbeat request) now) ∨ ∃ now device, task = .beating request now device

/-- The request is turned away: a statement fails before its report is written, or its device is
unknown. -/
def TurnsAway (request : HeartbeatRequest) (e : ServiceEvent) : Prop :=
  (∃ (position : Nat) (task : Task), e.op = .fail position ∧ e.pre.tasks[position]? = some task ∧
    task.Owes request) ∨
  ∃ (position : Nat) (now : UInt64), e.op = .run position ∧
    e.pre.tasks[position]? = some (.begins (.heartbeat request) now) ∧
      e.pre.db.device request.deviceId = none

/-- What `request` reports is recorded, or more is. -/
def Db.Recorded (db : Db) (request : HeartbeatRequest) : Prop :=
  ∃ used, db.recordedOf request.deviceId = some used ∧ toSql request.activeSeconds ≤ used

/-- What `request` reports is recorded or still to be written. -/
def Service.Pursues (service : Service) (request : HeartbeatRequest) : Prop :=
  service.db.Recorded request ∨ ∃ task ∈ service.tasks, task.Owes request

namespace Service
variable {app : AppState} {service : Service} {happening : Happening} {request : HeartbeatRequest}

theorem Pursues.step (pursues : service.Pursues request) (behind : service.Behind)
    (grows : service.db.RecordsAll (service.step app happening).2.db)
    (kept : ¬ TurnsAway request (Event.of (step app) service happening)) :
    (service.step app happening).2.Pursues request := by
  rcases pursues with ⟨used, recorded, le⟩ | ⟨task, member, owes⟩
  · obtain ⟨used', recorded', le'⟩ := grows _ _ recorded
    exact .inl ⟨used', recorded', le.trans le'⟩
  · obtain ⟨position, isTask⟩ := List.getElem?_of_mem member
    by_cases isFail : happening = .fail position
    · exact absurd (.inl ⟨position, task, isFail, isTask, owes⟩) kept
    · by_cases isRun : happening = .run position
      · subst isRun
        rcases owes with ⟨now, rfl⟩ | ⟨now, device, rfl⟩
        · cases isDevice : service.db.device request.deviceId with
          | none => exact absurd (.inr ⟨position, now, rfl, isTask, isDevice⟩) kept
          | some device =>
              refine .inr ⟨.beating request now device, ?_, .inr ⟨now, device, rfl⟩⟩
              simp only [Service.step, isTask, Task.step, isDevice]
              exact List.mem_set (List.getElem?_eq_some_iff.mp isTask).1 _
        · obtain ⟨used, recorded, -⟩ := behind.behind request now device member
          refine .inl ⟨toSql (max device.trialSecondsUsed request.activeSeconds), ?_, ?_⟩
          · rw [db_step_run app isTask]
            simp only [Task.step, Db.recordedOf_recordHeartbeat, recorded, if_true, Option.map_some]
          · rw [toSql_max]
            exact le_max_right _ _
      · exact .inr ⟨task, mem_tasks_of_other isTask isRun isFail, owes⟩

end Service

theorem behind_start : Service.Behind {} where
  inRange := ⟨by simp, by simp⟩
  behind := by simp

/-- From its arrival on, a heartbeat that is not turned away is pursued. -/
theorem pursues_run {app : AppState} {happenings : List Service.Happening}
    {request : HeartbeatRequest} {now : UInt64}
    (arrives : .arrive (.heartbeat request) now ∈ happenings)
    (grows : ∀ e ∈ history (Service.step app) {} happenings, e.pre.db.RecordsAll e.post.db)
    (kept : ∀ e ∈ history (Service.step app) {} happenings, ¬ TurnsAway request e) :
    (exec (Service.step app) {} happenings).Pursues request := by
  obtain ⟨before, after, rfl⟩ := List.append_of_mem arrives
  rw [history_append, history_cons] at grows kept
  rw [exec_append, exec_cons]
  -- Until it arrives, no heartbeat is ahead of the record.
  have keep (service : Service) (happening : Service.Happening) (behind : service.Behind)
      (grows : service.db.RecordsAll (service.step app happening).2.db) :
      (service.step app happening).2.Behind := behind.step grows
  have behind : (exec (Service.step app) {} before).Behind := by
    refine exec_induction keep behind_start fun e member => ?_
    have grown := grows e (List.mem_append_left _ member)
    rwa [post_of_mem_history member] at grown
  -- From then on, it is pursued as well.
  have keepBoth (service : Service) (happening : Service.Happening)
      (both : service.Behind ∧ service.Pursues request)
      (ok : service.db.RecordsAll (service.step app happening).2.db ∧
        ¬ TurnsAway request (Event.of (Service.step app) service happening)) :
      (service.step app happening).2.Behind ∧ (service.step app happening).2.Pursues request :=
    ⟨both.1.step ok.1, both.2.step both.1 ok.1 ok.2⟩
  refine (exec_induction keepBoth ⟨behind.step ?_, ?_⟩ fun e member => ?_).2
  · exact grows _ (List.mem_append_right _ (List.mem_cons_self ..))
  · refine .inr ⟨.begins (.heartbeat request) now, ?_, .inl ⟨now, rfl⟩⟩
    exact List.mem_append_right _ (List.mem_singleton.mpr rfl)
  · have grown := grows e (List.mem_append_right _ (List.mem_cons_of_mem _ member))
    rw [post_of_mem_history member] at grown
    refine ⟨grown, ?_⟩
    rw [← eq_of_mem_history member]
    exact kept e (List.mem_append_right _ (List.mem_cons_of_mem _ member))

/-- In every run, the seconds recorded of every device grow with every statement exactly when no
heartbeat is written over more than it read and reports; and then every heartbeat that came and
was not turned away is recorded once it is handled. -/
theorem trial_grows_iff (app : AppState) (happenings : List Service.Happening) :
    ((∀ e ∈ history (Service.step app) {} happenings, e.pre.db.RecordsAll e.post.db) ↔
      ∀ e ∈ history (Service.step app) {} happenings, e.pre.NotOvertaken e.op) ∧
    ((∀ e ∈ history (Service.step app) {} happenings, e.pre.NotOvertaken e.op) →
      ∀ request now, .arrive (.heartbeat request) now ∈ happenings →
        (∀ e ∈ history (Service.step app) {} happenings, ¬ TurnsAway request e) →
          (∀ task ∈ (exec (Service.step app) {} happenings).tasks, ¬ task.Owes request) →
            (exec (Service.step app) {} happenings).db.Recorded request) := by
  have same : (∀ e ∈ history (Service.step app) {} happenings, e.pre.db.RecordsAll e.post.db) ↔
      ∀ e ∈ history (Service.step app) {} happenings, e.pre.NotOvertaken e.op := by
    refine history_iff ?_ ?_ behind_start
    · intro service happening behind
      exact Service.recordsAll_step_iff behind
    · intro service happening behind grows
      exact behind.step grows
  refine ⟨same, ?_⟩
  intro inTime request now arrives kept handled
  rcases pursues_run arrives (same.mpr inTime) kept with recorded | ⟨task, member, owes⟩
  · exact recorded
  · exact absurd owes (handled task member)

open Service.Happening in
/-- Two heartbeats of one device that read the same. -/
def twoHeartbeats : List Service.Happening :=
  [arrive (Served.granted "e" "a" "l" 0 1) 1, run 0,
    arrive (.issue ⟨"a", "d", "k"⟩) 2, run 0, run 0, run 0, run 0,
    arrive (.heartbeat ⟨"d", 100⟩) 3, arrive (.heartbeat ⟨"d", 50⟩) 3, run 0, run 1, run 0]

/-- The one that reports less writes last. -/
theorem trial_shrinks :
    ¬ ∀ (app : AppState) (happenings : List Service.Happening),
      ∀ e ∈ history (Service.step app) {} happenings, e.pre.db.RecordsAll e.post.db := by
  intro always
  have grows := always Served.sampleApp (twoHeartbeats ++ [.run 1])
    (Event.of (Service.step Served.sampleApp) (exec (Service.step Served.sampleApp) {}
      twoHeartbeats) (.run 1)) (by rw [history_concat]; simp)
  obtain ⟨used, recorded, le⟩ := grows "d" 100 (by decide)
  have shrunk : (Service.step Served.sampleApp
      (exec (Service.step Served.sampleApp) {} twoHeartbeats) (.run 1)).2.db.recordedOf "d" =
        some 50 := by decide
  cases shrunk.symm.trans recorded
  omega

end Lumepeer.Broker
