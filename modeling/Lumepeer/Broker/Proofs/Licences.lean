import Lumepeer.Broker.Routes
import Lumepeer.Lib.Run

/-!
# Which licence a device answers for

A token names the licence of the account, and later requests of the device go by the
device's row. A row that is there already keeps its licence when a token is issued
again, so the two agree while no device is issued a token under another licence.
-/

namespace Lumepeer.Broker
open Lumepeer.Lib Lumepeer.Core

/-! ## Statements one after the other -/

section alone

variable {app : AppState} {db : Db} {now : UInt64}

theorem runAlone_seating (db : Db) (request : IssueRequest) (license : LicenseView)
    (displacing : List String) :
    (Task.seating request now license displacing).runAlone app (displacing.length + 1) db =
      some (recordAnswer app (displacing.foldl (fun db id => db.displaceDevice id now) db) request
        license now) := by
  induction displacing generalizing db with
  | nil => rfl
  | cons id displacing ih => exact ih _

/-- A handler does what its task does when nothing comes between. -/
theorem handle_eq_runAlone (request : Request) :
    ∃ fuel, (Task.begins request now).runAlone app fuel db = some (handle app db now request) := by
  cases request with
  | issue request =>
      simp only [handle, issue]
      cases known : db.tokenForIdempotencyKey request.idempotencyKey with
      | some existing => exact ⟨1, by simp only [Task.runAlone, Task.step, known]⟩
      | none =>
          cases active : db.activeLicenseForAccount app.visited request.accountId now with
          | none => exact ⟨2, by simp only [Task.runAlone, Task.step, known, active]⟩
          | some license =>
              refine ⟨(toDisplace (db.liveDevices app.visited license.id) license
                request.deviceId).length + 4, ?_⟩
              have seating := @runAlone_seating app now db request license
                (toDisplace (db.liveDevices app.visited license.id) license request.deviceId)
              simp only [Task.runAlone, Task.step, known, active] at seating ⊢
              exact seating
  | heartbeat request =>
      simp only [handle, heartbeat]
      cases found : db.device request.deviceId with
      | none => exact ⟨1, by simp only [Task.runAlone, Task.step, found]⟩
      | some device => exact ⟨3, by simp only [Task.runAlone, Task.step, found]⟩
  | revoke deviceId =>
      simp only [handle, revoke]
      cases found : db.device deviceId with
      | none => exact ⟨1, by simp only [Task.runAlone, Task.step, found]⟩
      | some device => exact ⟨2, by simp only [Task.runAlone, Task.step, found]⟩
  | refresh deviceId =>
      simp only [handle, refresh]
      cases found : db.device deviceId with
      | none => exact ⟨1, by simp only [Task.runAlone, Task.step, found]⟩
      | some device => exact ⟨2, by simp only [Task.runAlone, Task.step, found]⟩
  | payment request => exact ⟨1, rfl⟩

end alone

/-! ## The licence of a device's row -/

namespace Db
variable {db db' : Db} {app : AppState} {now : UInt64}

def licenceOf (db : Db) (deviceId : String) : Option String :=
  (db.devices.lookup deviceId).map (·.licenseId)

/-- An update that leaves the column as it was. -/
theorem licenceOf_modify {deviceId : String} {change : DeviceRow → DeviceRow}
    (kept : ∀ row, (change row).licenseId = row.licenseId) (other : String) :
    licenceOf { db with devices := HashMap.modify deviceId change db.devices } other =
      db.licenceOf other := by
  unfold licenceOf
  rw [HashMap.lookup_modify_eq]
  split
  next same =>
    rw [same, Option.map_map]
    exact congrArg (Option.map · _) (funext kept)
  next => rfl

theorem licenceOf_displaceDevice (deviceId other : String) :
    (db.displaceDevice deviceId now).licenceOf other = db.licenceOf other := by
  refine licenceOf_modify (fun row => ?_) other
  split <;> rfl

theorem licenceOf_displaceDevices (displacing : List String) (other : String) :
    (displacing.foldl (fun db id => db.displaceDevice id now) db).licenceOf other =
      db.licenceOf other := by
  induction displacing generalizing db with
  | nil => rfl
  | cons id displacing ih => exact ih.trans (licenceOf_displaceDevice id other)

theorem licenceOf_recordHeartbeat (deviceId : String) (used : UInt64) (other : String) :
    (db.recordHeartbeat deviceId used now).licenceOf other = db.licenceOf other := by
  unfold recordHeartbeat
  exact licenceOf_modify (by exact fun _ => rfl) other

/-- A row that is there keeps its licence. -/
theorem licenceOf_recordIssue {licenseId deviceId key : String} {token : List UInt8}
    (isSome : db.recordIssue licenseId deviceId key token now = some db') (other : String) :
    db'.licenceOf other =
      if other = deviceId then some ((db.licenceOf deviceId).getD licenseId)
      else db.licenceOf other := by
  unfold recordIssue at isSome
  dsimp only at isSome
  split at isSome
  · cases isSome
  cases isSome
  unfold licenceOf
  dsimp only
  rw [HashMap.lookup_insert_eq]
  split
  · cases db.devices.lookup deviceId <;> rfl
  · rfl

theorem licenceOf_applyWebhook (eventId provider : String) (eventTs : UInt64) (accountId : String)
    (change : EntitlementChange) (other : String) :
    (db.applyWebhook eventId provider eventTs accountId change now).2.licenceOf other =
      db.licenceOf other := by
  unfold applyWebhook
  split
  · rfl
  · cases change <;> rfl

end Db

section handlers

variable {app : AppState} {db db' : Db} {now : UInt64} {answer : Answer}

/-- The licence that an account has is the row of a licence of its own, not revoked and not yet
expired. -/
theorem exists_row_of_active {visited : String → Nat} {accountId : String} {license : LicenseView}
    (active : db.activeLicenseForAccount visited accountId now = some license) :
    ∃ row, db.licenses.lookup license.id = some row ∧ license = row.view license.id ∧
      row.accountId = accountId ∧ row.revokedAt = none ∧ toSql now ≤ row.expiresAt := by
  unfold Db.activeLicenseForAccount at active
  obtain ⟨⟨id, row⟩, isFirst, rfl⟩ := Option.map_eq_some_iff.mp active
  have member := List.mem_of_mem_head? isFirst
  rw [Db.orderByDesc, (List.perm_insertionSort _ _).mem_iff, Db.selectWhere, List.mem_map] at member
  obtain ⟨⟨id, row⟩, selected, isRow⟩ := member
  cases isRow
  obtain ⟨entry, holds⟩ := List.mem_filter.mp selected
  simp only [Bool.and_eq_true, decide_eq_true_eq, Option.isNone_iff_eq_none] at holds
  exact ⟨row, AList.mem_lookup_iff.mpr entry, rfl, holds.1.1, holds.1.2, holds.2⟩

theorem licenceOf_payment (request : PaymentRequest) (other : String) :
    (payment db request now).2.licenceOf other = db.licenceOf other := by
  unfold payment
  split
  · rfl
  next event change _ =>
    have kept := @Db.licenceOf_applyWebhook db now event.eventId "payment" event.eventTs
      event.accountId change other
    split
    next isAfter => rwa [isAfter] at kept
    next isAfter => rwa [isAfter] at kept

/-- A token is issued under the licence of the account, or all rows keep theirs. -/
theorem issue_cases {request : IssueRequest} (isAfter : issue app db request now = (answer, db')) :
    answer.status ≠ .created ∧ (∀ other, db'.licenceOf other = db.licenceOf other)
      ∨ ∃ license, db.tokenForIdempotencyKey request.idempotencyKey = none
        ∧ db.activeLicenseForAccount app.visited request.accountId now = some license
        ∧ answer.licenses = [license.id]
        ∧ ∀ other, db'.licenceOf other =
          if other = request.deviceId then some ((db.licenceOf request.deviceId).getD license.id)
          else db.licenceOf other := by
  unfold issue at isAfter
  split at isAfter
  · cases isAfter
    exact .inl ⟨nofun, fun _ => rfl⟩
  next fresh =>
    split at isAfter
    · cases isAfter
      exact .inl ⟨nofun, fun _ => rfl⟩
    next license active =>
      dsimp only [recordAnswer] at isAfter
      split at isAfter
      · cases isAfter
        exact .inl ⟨nofun, Db.licenceOf_displaceDevices _⟩
      next recorded =>
        cases isAfter
        refine .inr ⟨license, fresh, active, rfl, fun other => ?_⟩
        rw [Db.licenceOf_recordIssue recorded, Db.licenceOf_displaceDevices,
          Db.licenceOf_displaceDevices]

end handlers

/-! ## One request at a time -/

/-- The database, and the licence under which each device got its last token. -/
structure Served where
  db : Db := {}
  issuedUnder : HashMap String String := ∅

namespace Served

/-- A request that is handled alone. -/
def step (app : AppState) (served : Served) (call : Request × UInt64) : Answer × Served :=
  let (answer, db) := handle app served.db call.2 call.1
  match call.1, answer.status, answer.licenses with
  | .issue request, .created, [licenseId] =>
      (answer, { db, issuedUnder := served.issuedUnder.insert request.deviceId licenseId })
  | _, _, _ => (answer, { served with db })

abbrev ServedEvent := Event Served (Request × UInt64) Answer

/-- The device that a later request is for. -/
def deviceOf : Request → Option String
  | .heartbeat request => some request.deviceId
  | .revoke deviceId | .refresh deviceId => some deviceId
  | .issue _ | .payment _ => none

/-- A request for a device reads and acts on the licence of its last token, and on no other. -/
structure AnswersFor (e : ServedEvent) : Prop where
  reads : ∀ deviceId licenseId, deviceOf e.op.1 = some deviceId →
    e.pre.issuedUnder.lookup deviceId = some licenseId → e.out.licenses = [licenseId]
  spares : ∀ deviceId licenseId, deviceOf e.op.1 = some deviceId →
    e.pre.issuedUnder.lookup deviceId = some licenseId → ∀ other, other ≠ licenseId →
      e.post.db.licenses.lookup other = e.pre.db.licenses.lookup other

/-- A device that asks for a new token has no row, or one of the licence that its account has
now. -/
def KeepsLicence (app : AppState) (served : Served) : Request × UInt64 → Prop
  | (.issue request, now) =>
      served.db.tokenForIdempotencyKey request.idempotencyKey = none →
        ∀ license ∈ served.db.activeLicenseForAccount app.visited request.accountId now,
          ∀ row ∈ served.db.devices.lookup request.deviceId, row.licenseId = license.id
  | _ => True

instance (app : AppState) (served : Served) (call : Request × UInt64) :
    Decidable (served.KeepsLicence app call) := by
  obtain ⟨request, now⟩ := call
  cases request <;> dsimp only [KeepsLicence] <;> infer_instance

/-- The rows of the devices say the licence of the last token. -/
def Agrees (served : Served) : Prop :=
  ∀ deviceId licenseId, served.issuedUnder.lookup deviceId = some licenseId →
    served.db.licenceOf deviceId = some licenseId

variable {app : AppState} {served : Served}

/-- A request that is none for a token leaves the licences of all rows as they were. -/
theorem agrees_of_same (agrees : served.Agrees) {db : Db}
    (same : ∀ other, db.licenceOf other = served.db.licenceOf other) :
    Agrees { served with db } := by
  intro deviceId licenseId issued
  exact (same deviceId).trans (agrees deviceId licenseId issued)

theorem device_eq_none_or (deviceId : String) (db : Db) :
    db.device deviceId = none
      ∨ ∃ device, db.device deviceId = some device
        ∧ db.licenceOf deviceId = some device.licenseId := by
  unfold Db.device Db.licenceOf
  cases db.devices.lookup deviceId with
  | none => exact .inl rfl
  | some row => exact .inr ⟨_, rfl, rfl⟩

/-- Every request but one for a token leaves the licences of the rows as they were. -/
theorem licenceOf_handle {db : Db} {now : UInt64} {request : Request}
    (isOther : ∀ issue, request ≠ .issue issue) (other : String) :
    (handle app db now request).2.licenceOf other = db.licenceOf other := by
  cases request with
  | issue request => exact absurd rfl (isOther request)
  | heartbeat request =>
      simp only [handle, heartbeat]
      split
      · rfl
      · exact Db.licenceOf_recordHeartbeat _ _ other
  | revoke deviceId =>
      simp only [handle, revoke]
      split <;> rfl
  | refresh deviceId =>
      simp only [handle, refresh]
      split <;> rfl
  | payment request => exact licenceOf_payment request other

theorem step_of_not_issue {request : Request} (isOther : ∀ issue, request ≠ .issue issue)
    (now : UInt64) :
    (served.step app (request, now)).2 =
      { served with db := (handle app served.db now request).2 } := by
  unfold step
  dsimp only
  split
  · exact absurd rfl (isOther _)
  · rfl

theorem agrees_step (agrees : served.Agrees) (call : Request × UInt64)
    (keeps : served.KeepsLicence app call) : (served.step app call).2.Agrees := by
  obtain ⟨request, now⟩ := call
  cases request with
  | issue request =>
      unfold step
      simp only [handle]
      cases isAfter : issue app served.db request now with
      | mk answer db =>
          rcases issue_cases isAfter with ⟨refused, same⟩ | ⟨license, fresh, active, named, rows⟩
          · split
            next created _ => exact absurd created refused
            next => exact agrees_of_same agrees same
          · have row : ∀ licenseId, served.db.licenceOf request.deviceId = some licenseId →
                licenseId = license.id := by
              intro licenseId found
              obtain ⟨row, isRow, rfl⟩ := Option.map_eq_some_iff.mp found
              exact keeps fresh license active row isRow
            have issued : db.licenceOf request.deviceId = some license.id := by
              rw [rows, if_pos rfl]
              cases found : served.db.licenceOf request.deviceId with
              | none => rfl
              | some licenseId => rw [Option.getD_some, row licenseId found]
            have others (deviceId licenseId : String)
                (before : served.issuedUnder.lookup deviceId = some licenseId) :
                deviceId ≠ request.deviceId → db.licenceOf deviceId = some licenseId := by
              intro isOther
              rw [rows, if_neg isOther]
              exact agrees deviceId licenseId before
            split
            next licenseId _ isIssue _ isId =>
              cases isIssue
              cases named.symm.trans isId
              intro deviceId licenseId found
              rw [HashMap.lookup_insert_eq] at found
              split at found
              next same =>
                cases found
                rw [same]
                exact issued
              next isOther => exact others deviceId licenseId found isOther
            next =>
              intro deviceId licenseId before
              by_cases same : deviceId = request.deviceId
              · have was := agrees deviceId licenseId before
                rw [same] at was ⊢
                rw [issued, row licenseId was]
              · exact others deviceId licenseId before same
  | heartbeat | revoke | refresh | payment =>
      rw [step_of_not_issue (by rintro _ ⟨⟩)]
      exact agrees_of_same agrees (licenceOf_handle (by rintro _ ⟨⟩))

/-- A later request goes by the licence of the device's row. -/
theorem handle_of_row {db : Db} {now : UInt64} {request : Request} {deviceId licenseId : String}
    (isDevice : deviceOf request = some deviceId) (row : db.licenceOf deviceId = some licenseId) :
    (handle app db now request).1.licenses = [licenseId]
      ∧ ∀ other, other ≠ licenseId →
        (handle app db now request).2.licenses.lookup other = db.licenses.lookup other := by
  obtain ⟨device, isDevice', same⟩ :
      ∃ device, db.device deviceId = some device ∧ device.licenseId = licenseId := by
    rcases device_eq_none_or deviceId db with nothing | ⟨device, found, is⟩
    · unfold Db.device at nothing
      unfold Db.licenceOf at row
      rw [Option.map_eq_none_iff] at nothing
      rw [nothing] at row
      cases row
    · exact ⟨device, found, Option.some.inj (is.symm.trans row)⟩
  cases request with
  | issue request => cases isDevice
  | payment request => cases isDevice
  | heartbeat request =>
      cases isDevice
      simp only [handle, heartbeat, isDevice']
      refine ⟨?_, fun _ _ => rfl⟩
      rw [← same]
      unfold heartbeatAnswer
      repeat' split
      all_goals rfl
  | revoke deviceId =>
      cases isDevice
      simp only [handle, revoke, isDevice', same]
      refine ⟨trivial, fun other isOther => ?_⟩
      unfold Db.revokeLicense
      rw [HashMap.lookup_modify_eq, if_neg isOther]
  | refresh deviceId =>
      cases isDevice
      simp only [handle, refresh, isDevice']
      refine ⟨?_, fun _ _ => trivial⟩
      rw [← same]
      unfold refreshAnswer
      repeat' split
      all_goals rfl

theorem answersFor_step (agrees : served.Agrees) (call : Request × UInt64) :
    AnswersFor (Event.of (step app) served call) := by
  obtain ⟨request, now⟩ := call
  have isOther {deviceId : String} (isDevice : deviceOf request = some deviceId) :
      ∀ issue, request ≠ .issue issue := by
    rintro issue rfl
    cases isDevice
  constructor
  · intro deviceId licenseId isDevice issued
    have isStep : (served.step app (request, now)).1 = (handle app served.db now request).1 := by
      unfold step
      dsimp only
      split <;> rfl
    exact (congrArg Answer.licenses isStep).trans
      (handle_of_row isDevice (agrees deviceId licenseId issued)).1
  · intro deviceId licenseId isDevice issued other different
    have isStep := @step_of_not_issue app served request (isOther isDevice) now
    exact (congrArg (fun s : Served => s.db.licenses.lookup other) isStep).trans
      ((handle_of_row isDevice (agrees deviceId licenseId issued)).2 other different)

/-- In a run in which a device that asks for a token again has the same licence as before, every
later request of a device goes by the licence of its last token. -/
theorem requests_go_by_the_last_token (app : AppState) (calls : List (Request × UInt64))
    (keeps : ∀ e ∈ history (step app) {} calls, e.pre.KeepsLicence app e.op) :
    ∀ e ∈ history (step app) {} calls, AnswersFor e := by
  intro e member
  obtain ⟨before, after, rfl, isEvent⟩ := exists_prefix_of_mem_history member
  have agrees : Agrees (exec (step app) {} before) := by
    refine exec_induction (fun _ _ agrees ok => agrees_step agrees _ ok) ?_ fun event earlier =>
      keeps event (by rw [history_append]; exact List.mem_append_left _ earlier)
    intro deviceId licenseId issued
    cases issued
  rw [isEvent]
  exact answersFor_step agrees e.op

/-- A signature that says nothing. -/
def sampleApp : AppState where
  ed :=
    { SigningKey := Unit
      VerifyingKey := Unit
      verifyingKey := id
      sign := fun _ _ => .replicate 64 0
      verifyStrict := fun _ _ signature => signature = .replicate 64 0 }
  hash _ := .replicate 32 0
  keyId := 1
  signingKey := ()
  visited _ := 0

/-- A payment that grants an account a licence. -/
def granted (eventId accountId licenseId : String) (plan : UInt8) (now : UInt64) : Request :=
  .payment
    { timestamp := some now
      signature := some true
      event := some
        { eventId, eventTs := now, accountId, kind := "subscription.active"
          licenseId := some licenseId, plan := some plan, expiresAt := some 100000 } }

/-- A token is issued twice under one licence, which is then revoked. -/
def oneLicence : List (Request × UInt64) :=
  [(granted "e" "a" "l" 1 1, 1), (.issue ⟨"a", "d", "k"⟩, 2), (.heartbeat ⟨"d", 5⟩, 3),
    (.issue ⟨"a", "d", "k2"⟩, 4), (.refresh "d", 5), (.revoke "d", 6)]

theorem one_licence_is_kept :
    (exec (step sampleApp) {} oneLicence).issuedUnder.lookup "d" = some "l" ∧
      ∀ e ∈ history (step sampleApp) {} oneLicence, AnswersFor e :=
  ⟨by decide, requests_go_by_the_last_token sampleApp oneLicence (by decide)⟩

/-- A device that gets a token of a new licence is still told that the old one was revoked. -/
theorem new_licence_is_not_read :
    ¬ ∀ (app : AppState) (calls : List (Request × UInt64)),
      ∀ e ∈ history (step app) {} calls, AnswersFor e := by
  intro always
  have answers := always sampleApp
    [(granted "e" "a" "l" 1 1, 1), (.issue ⟨"a", "d", "k"⟩, 2), (.revoke "d", 3),
      (granted "e2" "a" "m" 1 4, 4), (.issue ⟨"a", "d", "k2"⟩, 5), (.heartbeat ⟨"d", 6⟩, 7)]
  have last := answers _ (List.mem_of_getElem? (i := 5) rfl)
  exact absurd (last.reads "d" "m" rfl (by decide)) (by decide)

end Served

end Lumepeer.Broker
