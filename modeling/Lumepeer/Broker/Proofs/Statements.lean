import Lumepeer.Broker.Routes
import Lumepeer.Lib.Run

/-!
# What one statement writes

Every statement of a task reads, or is one of five writes. What a column holds of an
unsigned number is what SQLite has room for, and so the conversions back are exact.
-/

namespace Lumepeer.Broker
open Lumepeer.Lib Lumepeer.Core

/-! ## Conversions -/

theorem toSql_nonneg (n : UInt64) : 0 ≤ toSql n := by
  unfold toSql
  split <;> omega

theorem toSql_lt (n : UInt64) : toSql n < 2 ^ 63 := by
  unfold toSql
  split <;> omega

theorem toSql_of_lt {n : UInt64} (lt : n.toNat < 2 ^ 63) : toSql n = n.toNat := if_pos lt

theorem toNat_ofSql {n : Int} (nonneg : 0 ≤ n) (lt : n < 2 ^ 63) : ((ofSql n).toNat : Int) = n := by
  unfold ofSql
  rw [if_pos ⟨nonneg, by omega⟩, UInt64.toNat_ofNat_of_lt' (by simp only [UInt64.size]; omega)]
  exact Int.toNat_of_nonneg nonneg

/-- What a column holds comes back as it was. -/
theorem toSql_ofSql {n : Int} (nonneg : 0 ≤ n) (lt : n < 2 ^ 63) : toSql (ofSql n) = n := by
  have back := toNat_ofSql nonneg lt
  rw [toSql_of_lt (by omega)]
  exact back

theorem toSql_max (n m : UInt64) : toSql (max n m) = max (toSql n) (toSql m) := by
  have greater : (max n m).toNat = max n.toNat m.toNat := toNat_max64 n m
  unfold toSql
  rw [greater]
  split <;> split <;> split <;> omega

/-! ## Writes -/

/-- What the next statement of a task leaves of the database. -/
inductive Task.Writes (app : AppState) (db : Db) : Task → Db → Prop where
  | reads (task : Task) : Writes app db task db
  | displaces (request : IssueRequest) (now : UInt64) (license : LicenseView) (deviceId : String)
      (displacing : List String) :
      Writes app db (.seating request now license (deviceId :: displacing))
        (db.displaceDevice deviceId now)
  | issues (request : IssueRequest) (now : UInt64) (license : LicenseView) {db' : Db}
      (recorded : db.recordIssue license.id request.deviceId request.idempotencyKey
        (signToken app license request.deviceId now) now = some db') :
      Writes app db (.seating request now license []) db'
  | beats (request : HeartbeatRequest) (now : UInt64) (device : DeviceView) :
      Writes app db (.beating request now device)
        (db.recordHeartbeat request.deviceId (max device.trialSecondsUsed request.activeSeconds)
          now)
  | revokes (now : UInt64) (device : DeviceView) :
      Writes app db (.revoking now device) (db.revokeLicense device.licenseId now)
  | pays (request : PaymentRequest) (now : UInt64) (event : PaymentEvent)
      (change : EntitlementChange) (accepted : request.accept now = .ok (event, change)) :
      Writes app db (.begins (.payment request) now)
        (db.applyWebhook event.eventId "payment" event.eventTs event.accountId change now).2

theorem Task.writes_step (app : AppState) (db : Db) (task : Task) :
    task.Writes app db (task.step app db).2 := by
  cases task with
  | begins request now =>
      cases request with
      | payment request =>
          simp only [step, payment]
          cases accepted : request.accept now with
          | error answer => exact .reads _
          | ok pair =>
              obtain ⟨event, change⟩ := pair
              have pays := @Writes.pays app db request now event change accepted
              dsimp only
              split
              next isAfter => rwa [isAfter] at pays
              next isAfter => rwa [isAfter] at pays
      | issue request =>
          simp only [step]
          split <;> exact .reads _
      | heartbeat request =>
          simp only [step]
          split <;> exact .reads _
      | revoke deviceId =>
          simp only [step]
          split <;> exact .reads _
      | refresh deviceId =>
          simp only [step]
          split <;> exact .reads _
  | noToken request now =>
      simp only [step]
      split <;> exact .reads _
  | licensed request now license => exact .reads _
  | seating request now license displacing =>
      cases displacing with
      | cons deviceId displacing => exact .displaces request now license deviceId displacing
      | nil =>
          simp only [step, recordAnswer]
          cases recorded : db.recordIssue license.id request.deviceId request.idempotencyKey
              (signToken app license request.deviceId now) now with
          | none => exact .reads _
          | some db' => exact .issues request now license recorded
  | beating request now device => exact .beats request now device
  | beaten now used device => exact .reads _
  | revoking now device => exact .revokes now device
  | refreshing deviceId now device => exact .reads _

/-- The database changes only by the next statement of some task. -/
theorem Service.db_step (app : AppState) (service : Service) (happening : Service.Happening) :
    (service.step app happening).2.db = service.db ∨
    ∃ (position : Nat) (task : Task), happening = .run position ∧
      service.tasks[position]? = some task ∧
      (service.step app happening).2.db = (task.step app service.db).2 := by
  cases happening with
  | arrive request now => exact .inl rfl
  | fail position =>
      simp only [step]
      split <;> exact .inl rfl
  | run position =>
      simp only [step]
      cases isTask : service.tasks[position]? with
      | none => exact .inl rfl
      | some task =>
          refine .inr ⟨position, task, rfl, isTask, ?_⟩
          dsimp only
          split <;> rfl

theorem Service.db_step_run (app : AppState) {service : Service} {position : Nat} {task : Task}
    (isTask : service.tasks[position]? = some task) :
    (service.step app (.run position)).2.db = (task.step app service.db).2 := by
  simp only [step, isTask]
  split <;> rfl

/-- What is run or fails is answered and gone, or goes on, or was never there. -/
theorem Service.step_at {app : AppState} {service : Service} {happening : Service.Happening}
    {position : Nat} (isAt : happening = .run position ∨ happening = .fail position) :
    ((∃ answer, (service.step app happening).1 = some answer) ∧
      (service.step app happening).2.tasks = service.tasks.eraseIdx position) ∨
    (service.step app happening).1 = none ∧
      ((service.step app happening).2.tasks = service.tasks ∨
        ∃ (task next : Task), service.tasks[position]? = some task ∧
          (task.step app service.db).1 = .inr next ∧
          (service.step app happening).2.tasks = service.tasks.set position next) := by
  rcases isAt with rfl | rfl
  · simp only [step]
    cases isTask : service.tasks[position]? with
    | none => exact .inr ⟨rfl, .inl rfl⟩
    | some task =>
        cases result : (task.step app service.db).1 with
        | inl answer =>
            simp only [result]
            exact .inl ⟨⟨answer, rfl⟩, trivial⟩
        | inr next =>
            simp only [result]
            exact .inr ⟨trivial, .inr ⟨task, next, rfl, result, rfl⟩⟩
  · simp only [step]
    cases service.tasks[position]? with
    | none => exact .inr ⟨rfl, .inl rfl⟩
    | some task => exact .inl ⟨⟨task.failed, rfl⟩, rfl⟩

/-- A task that is there after something happened was there before, or arrived, or is what the
statement that was run left of its task. -/
theorem Service.tasks_step {app : AppState} {service : Service} {happening : Service.Happening}
    {task : Task} (member : task ∈ (service.step app happening).2.tasks) :
    task ∈ service.tasks ∨
    (∃ request now, happening = .arrive request now ∧ task = .begins request now) ∨
    ∃ (position : Nat) (before : Task), happening = .run position ∧
      service.tasks[position]? = some before ∧ (before.step app service.db).1 = .inr task := by
  cases happening with
  | arrive request now =>
      rcases List.mem_append.mp member with old | new
      · exact .inl old
      · exact .inr (.inl ⟨request, now, rfl, List.mem_singleton.mp new⟩)
  | fail position =>
      simp only [step] at member
      split at member
      · exact .inl member
      · exact .inl (List.mem_of_mem_eraseIdx member)
  | run position =>
      simp only [step] at member
      cases isTask : service.tasks[position]? with
      | none =>
          simp only [isTask] at member
          exact .inl member
      | some before =>
          simp only [isTask] at member
          cases result : (before.step app service.db).1 with
          | inl answer =>
              simp only [result] at member
              exact .inl (List.mem_of_mem_eraseIdx member)
          | inr next =>
              simp only [result] at member
              rcases List.mem_or_eq_of_mem_set member with old | rfl
              · exact .inl old
              · exact .inr (.inr ⟨position, before, rfl, isTask, result⟩)

/-- A task that nothing happens to stays. -/
theorem Service.mem_tasks_of_other {app : AppState} {service : Service}
    {happening : Service.Happening} {position : Nat} {task : Task}
    (isTask : service.tasks[position]? = some task) (notRun : happening ≠ .run position)
    (notFailed : happening ≠ .fail position) : task ∈ (service.step app happening).2.tasks := by
  have member : task ∈ service.tasks := List.mem_of_getElem? isTask
  have erased {other : Nat} (isOther : position ≠ other) : task ∈ service.tasks.eraseIdx other :=
    List.mem_eraseIdx_iff_getElem?.mpr ⟨position, isOther, isTask⟩
  cases happening with
  | arrive request now => exact List.mem_append_left _ member
  | fail other =>
      have isOther : position ≠ other := fun same => notFailed (congrArg _ same.symm)
      simp only [step]
      split
      · exact member
      · exact erased isOther
  | run other =>
      have isOther : position ≠ other := fun same => notRun (congrArg _ same.symm)
      simp only [step]
      split
      · exact member
      · split
        · exact erased isOther
        · exact List.mem_of_getElem? ((List.getElem?_set_ne (Ne.symm isOther)).trans isTask)

/-- What every statement keeps holds of every database that statements lead to. -/
theorem Service.db_run {Inv : Db → Prop} {app : AppState} (start : Inv {})
    (keep : ∀ db task db', Inv db → Task.Writes app db task db' → Inv db')
    (happenings : List Service.Happening) : Inv (exec (Service.step app) {} happenings).db := by
  have kept : ∀ service happening, Inv (Service.db service) →
      Inv (service.step app happening).2.db := by
    intro service happening holds
    rcases service.db_step app happening with same | ⟨position, task, -, -, after⟩
    · rw [same]
      exact holds
    · rw [after]
      exact keep service.db task _ holds (task.writes_step app service.db)
  exact @exec_invariant _ _ _ _ (fun service : Service => Inv service.db) kept {} start happenings

/-! ## Columns -/

/-- The columns that hold an unsigned number hold one that SQLite has room for. -/
structure Db.InRange (db : Db) : Prop where
  expiresAt : ∀ id row, db.licenses.lookup id = some row → 0 ≤ row.expiresAt ∧ row.expiresAt < 2 ^ 63
  trialSecondsUsed : ∀ id row, db.devices.lookup id = some row →
    0 ≤ row.trialSecondsUsed ∧ row.trialSecondsUsed < 2 ^ 63

namespace Db
variable {db db' : Db} {app : AppState}

theorem InRange.of_modify (inRange : db.InRange) {deviceId : String}
    {change : DeviceRow → DeviceRow}
    (kept : ∀ row, 0 ≤ row.trialSecondsUsed ∧ row.trialSecondsUsed < 2 ^ 63 →
      0 ≤ (change row).trialSecondsUsed ∧ (change row).trialSecondsUsed < 2 ^ 63) :
    InRange { db with devices := HashMap.modify deviceId change db.devices } where
  expiresAt := inRange.expiresAt
  trialSecondsUsed id row found := by
    dsimp only at found
    rw [HashMap.lookup_modify_eq] at found
    split at found
    next same =>
      obtain ⟨before, isBefore, rfl⟩ := Option.map_eq_some_iff.mp found
      exact kept before (inRange.trialSecondsUsed _ before isBefore)
    next => exact inRange.trialSecondsUsed id row found

theorem inRange_applyChange (inRange : db.InRange) (accountId : String) (now : UInt64)
    (change : EntitlementChange) : (db.applyChange accountId now change).InRange := by
  cases change with
  | grant licenseId plan expiresAt =>
      refine ⟨fun id row found => ?_, inRange.trialSecondsUsed⟩
      simp only [applyChange, HashMap.lookup_insert_eq] at found
      split at found
      · cases found
        cases db.licenses.lookup licenseId <;> exact ⟨toSql_nonneg expiresAt, toSql_lt expiresAt⟩
      · exact inRange.expiresAt id row found
  | revokeAll =>
      refine ⟨fun id row found => ?_, inRange.trialSecondsUsed⟩
      simp only [applyChange, HashMap.lookup_mapValues] at found
      obtain ⟨before, isBefore, rfl⟩ := Option.map_eq_some_iff.mp found
      have same : (if before.accountId = accountId then LicenseRow.revoke before now else before).expiresAt =
          before.expiresAt := by
        unfold LicenseRow.revoke
        split
        · split <;> rfl
        · rfl
      rw [same]
      exact inRange.expiresAt id before isBefore

/-- One statement. -/
theorem InRange.step {task : Task} (inRange : db.InRange) (writes : task.Writes app db db') :
    db'.InRange := by
  cases writes with
  | reads => exact inRange
  | displaces request now license deviceId displacing =>
      refine inRange.of_modify fun row kept => ?_
      split <;> exact kept
  | issues request now license recorded =>
      unfold recordIssue at recorded
      dsimp only at recorded
      split at recorded
      · cases recorded
      cases recorded
      refine ⟨inRange.expiresAt, fun id row found => ?_⟩
      dsimp only at found
      rw [HashMap.lookup_insert_eq] at found
      split at found
      · cases found
        cases before : db.devices.lookup request.deviceId with
        | none => exact ⟨le_rfl, (by decide : (0 : Int) < 2 ^ 63)⟩
        | some row => exact inRange.trialSecondsUsed _ row before
      · exact inRange.trialSecondsUsed id row found
  | beats request now device =>
      exact inRange.of_modify fun _ _ => ⟨toSql_nonneg _, toSql_lt _⟩
  | revokes now device =>
      refine ⟨fun id row found => ?_, inRange.trialSecondsUsed⟩
      simp only [revokeLicense, HashMap.lookup_modify_eq] at found
      split at found
      · obtain ⟨before, isBefore, rfl⟩ := Option.map_eq_some_iff.mp found
        have same : (LicenseRow.revoke before now).expiresAt = before.expiresAt := by
          unfold LicenseRow.revoke
          split <;> rfl
        rw [same]
        exact inRange.expiresAt _ before isBefore
      · exact inRange.expiresAt id row found
  | pays request now event change accepted =>
      unfold applyWebhook
      split
      · exact inRange
      · dsimp only
        refine inRange_applyChange ?_ event.accountId now change
        exact ⟨inRange.expiresAt, inRange.trialSecondsUsed⟩

/-- Every run. -/
theorem inRange_run (app : AppState) (happenings : List Service.Happening) :
    (exec (Service.step app) {} happenings).db.InRange :=
  Service.db_run ⟨by simp, by simp⟩ (fun _ _ _ inRange writes => inRange.step writes) happenings

end Db

end Lumepeer.Broker
