import Lumepeer.Broker.Proofs.Licences

/-!
# How many devices have a seat

A request for a token reads which devices have a seat, takes seats away one by one
and then gives one. Between the first and the last of these statements another
request may give a seat of the same licence, and a device that lost its seat under
one licence gets it back when it asks under another. While neither happens, no
licence seats more devices than its plan.
-/

namespace Lumepeer.Broker
open Lumepeer.Lib Lumepeer.Core

/-! ## The claim -/

/-- The devices that have a seat of the licence. -/
def Db.seatsTaken (db : Db) (licenseId : String) : Nat :=
  HashMap.countWhere (fun _ row => Db.seated licenseId row) db.devices

/-- No licence whose plan was never changed seats more devices than its plan. -/
def Service.SeatsWithinPlan (service : Service) : Prop :=
  ∀ licenseId row, service.db.licenses.lookup licenseId = some row →
    licenseId ∉ service.changed → service.db.seatsTaken licenseId ≤ (row.view licenseId).seats

/-- The licence whose seats a task has read. -/
def Task.seatsOf : Task → Option String
  | .seating _ _ license _ => some license.id
  | _ => none

/-- A seat is given while no other request has read the seats of the licence, and not back to a
device that lost it under another licence. -/
def Service.SeatsInTurn (service : Service) : Service.Happening → Prop
  | .run position =>
      match service.tasks[position]? with
      | some (.seating request _ license []) =>
          service.db.tokenForIdempotencyKey request.idempotencyKey = none →
            (∀ other ∈ service.tasks.eraseIdx position, other.seatsOf ≠ some license.id)
            ∧ ∀ row ∈ service.db.devices.lookup request.deviceId,
                row.licenseId = license.id ∨ row.displacedAt = none
      | _ => True
  | _ => True

instance (service : Service) (happening : Service.Happening) :
    Decidable (service.SeatsInTurn happening) := by
  unfold Service.SeatsInTurn
  split
  · split <;> infer_instance
  · infer_instance

/-! ## Rows with a seat -/

section rows

variable {db db' : Db} {now : UInt64} {licenseId : String}

/-- The devices that have a seat of the licence, but for one device and some others. -/
def Db.othersSeated (db : Db) (licenseId deviceId : String) (but : List String) : Nat :=
  HashMap.countWhere (fun id row => Db.seated licenseId row && id != deviceId && !but.contains id)
    db.devices

/-- No row has a seat of the licence that had none. -/
def Db.NoMoreSeated (db db' : Db) (licenseId : String) : Prop :=
  ∀ id row', db'.devices.lookup id = some row' → Db.seated licenseId row' = true →
    ∃ row, db.devices.lookup id = some row ∧ Db.seated licenseId row = true

theorem Db.NoMoreSeated.seatsTaken_le (fewer : db.NoMoreSeated db' licenseId) :
    db'.seatsTaken licenseId ≤ db.seatsTaken licenseId :=
  HashMap.countWhere_le_of_covered fun id row' found isSeated => fewer id row' found isSeated

theorem Db.NoMoreSeated.othersSeated_le (fewer : db.NoMoreSeated db' licenseId) (deviceId : String)
    (but : List String) :
    db'.othersSeated licenseId deviceId but ≤ db.othersSeated licenseId deviceId but := by
  refine HashMap.countWhere_le_of_covered fun id row' found holds => ?_
  rw [Bool.and_eq_true, Bool.and_eq_true] at holds
  obtain ⟨⟨isSeated, other⟩, notBut⟩ := holds
  obtain ⟨row, before, wasSeated⟩ := fewer id row' found isSeated
  exact ⟨row, before, by rw [wasSeated, other, notBut]; rfl⟩

theorem Db.noMoreSeated_of_devices (same : db'.devices = db.devices) :
    db.NoMoreSeated db' licenseId := by
  intro id row' found isSeated
  exact ⟨row', same ▸ found, isSeated⟩

/-- An update after which a row has a seat only if it had. -/
theorem Db.noMoreSeated_modify {deviceId : String} {change : DeviceRow → DeviceRow}
    (kept : ∀ row, Db.seated licenseId (change row) = true → Db.seated licenseId row = true) :
    db.NoMoreSeated { db with devices := HashMap.modify deviceId change db.devices }
      licenseId := by
  intro id row' found isSeated
  dsimp only at found
  rw [HashMap.lookup_modify_eq] at found
  split at found
  next same =>
    obtain ⟨row, before, rfl⟩ := Option.map_eq_some_iff.mp found
    exact ⟨row, same ▸ before, kept row isSeated⟩
  next => exact ⟨row', found, isSeated⟩

theorem Db.noMoreSeated_recordHeartbeat (deviceId : String) (used : UInt64) :
    db.NoMoreSeated (db.recordHeartbeat deviceId used now) licenseId := by
  unfold Db.recordHeartbeat
  exact Db.noMoreSeated_modify (by exact fun _ isSeated => isSeated)

theorem Db.noMoreSeated_displaceDevice (deviceId : String) :
    db.NoMoreSeated (db.displaceDevice deviceId now) licenseId := by
  unfold Db.displaceDevice
  refine Db.noMoreSeated_modify fun row isSeated => ?_
  split at isSeated
  · simp [Db.seated] at isSeated
  · exact isSeated

/-- A device that is displaced has no seat. -/
theorem Db.seated_displaceDevice {deviceId : String} {row : DeviceRow}
    (found : (db.displaceDevice deviceId now).devices.lookup deviceId = some row) :
    Db.seated licenseId row = false := by
  unfold Db.displaceDevice at found
  dsimp only at found
  rw [HashMap.lookup_modify_eq, if_pos rfl] at found
  obtain ⟨before, -, rfl⟩ := Option.map_eq_some_iff.mp found
  unfold Db.seated
  split
  · simp
  next displaced =>
    rw [Bool.not_eq_true] at displaced
    rw [displaced, Bool.and_false]

theorem Db.othersSeated_displaceDevice (deviceId first : String) (but : List String) :
    (db.displaceDevice first now).othersSeated licenseId deviceId but ≤
      db.othersSeated licenseId deviceId (first :: but) := by
  refine HashMap.countWhere_le_of_covered fun id row' found holds => ?_
  rw [Bool.and_eq_true, Bool.and_eq_true] at holds
  obtain ⟨⟨isSeated, other⟩, notBut⟩ := holds
  have isOther : id ≠ first := by
    rintro rfl
    rw [Db.seated_displaceDevice found] at isSeated
    cases isSeated
  obtain ⟨row, before, wasSeated⟩ :=
    Db.noMoreSeated_displaceDevice first id row' found isSeated
  refine ⟨row, before, ?_⟩
  rw [Bool.not_eq_true', List.contains_eq_mem, decide_eq_false_iff_not] at notBut
  simp [wasSeated, other, isOther, notBut]

/-- A device that is there loses no seat and takes none but its own, and a new one takes one of the
licence. -/
theorem Db.lookup_recordIssue {deviceId key : String} {token : List UInt8}
    (isSome : db.recordIssue licenseId deviceId key token now = some db') (id : String) :
    db'.devices.lookup id =
      if id = deviceId then
        some ((db.devices.lookup deviceId).elim
          { licenseId, lastHeartbeatAt := none, trialSecondsUsed := 0, createdAt := toSql now
            displacedAt := none }
          fun row => { row with displacedAt := none })
      else db.devices.lookup id := by
  unfold Db.recordIssue at isSome
  dsimp only at isSome
  split at isSome
  · cases isSome
  cases isSome
  dsimp only
  rw [HashMap.lookup_insert_eq]
  split
  · cases db.devices.lookup deviceId <;> rfl
  · rfl

theorem Db.licenses_recordIssue {deviceId key : String} {token : List UInt8}
    (isSome : db.recordIssue licenseId deviceId key token now = some db') :
    db'.licenses = db.licenses := by
  unfold Db.recordIssue at isSome
  dsimp only at isSome
  split at isSome
  · cases isSome
  · cases isSome
    rfl

/-- The seats are those of the others and the device's own. -/
theorem Db.seatsTaken_eq (db : Db) (licenseId deviceId : String) :
    db.seatsTaken licenseId = db.othersSeated licenseId deviceId []
      + if (db.devices.lookup deviceId).any (Db.seated licenseId) then 1 else 0 := by
  have same : (fun (id : String) row => id != deviceId && Db.seated licenseId row) =
      fun id row => Db.seated licenseId row && id != deviceId && !List.contains [] id := by
    funext id row
    simp [Bool.and_comm]
  unfold Db.seatsTaken Db.othersSeated
  rw [HashMap.countWhere_eq_others _ db.devices deviceId, same]

/-- The other devices keep their seats when a token is recorded. -/
theorem Db.othersSeated_recordIssue {deviceId key : String} {token : List UInt8}
    (isSome : db.recordIssue licenseId deviceId key token now = some db') (other : String) :
    db'.othersSeated other deviceId [] ≤ db.othersSeated other deviceId [] := by
  refine HashMap.countWhere_le_of_covered fun id row found holds => ⟨row, ?_, holds⟩
  rw [Db.lookup_recordIssue isSome] at found
  split at found
  next same => simp [same] at holds
  next => exact found

/-- No seat of another licence is taken, unless the device lost it there. -/
theorem Db.noMoreSeated_recordIssue {deviceId key : String} {token : List UInt8}
    (isSome : db.recordIssue licenseId deviceId key token now = some db')
    (keeps : ∀ row ∈ db.devices.lookup deviceId, row.licenseId = licenseId ∨ row.displacedAt = none)
    {other : String} (isOther : other ≠ licenseId) : db.NoMoreSeated db' other := by
  intro id row' found isSeated
  rw [Db.lookup_recordIssue isSome] at found
  split at found
  next same =>
    cases before : db.devices.lookup deviceId with
    | none =>
        rw [before] at found
        cases found
        simp [Db.seated, isOther.symm] at isSeated
    | some row =>
        rw [before] at found
        cases found
        have isLicence : row.licenseId = other := by
          rw [Db.seated, Bool.and_eq_true, decide_eq_true_iff] at isSeated
          exact isSeated.1
        have notDisplaced := (keeps row before).resolve_left
          fun same => isOther (isLicence.symm.trans same)
        exact ⟨row, same ▸ before, by simp [Db.seated, isLicence, notDisplaced]⟩
  next => exact ⟨row', found, isSeated⟩

end rows

/-! ## Seats that are taken away -/

section displacing

variable {db : Db} {visited : String → Nat} {license : LicenseView}

theorem Db.perm_liveDevices (db : Db) (visited : String → Nat) (licenseId : String) :
    ((db.liveDevices visited licenseId).map (·.1)).Perm
      ((db.devices.entries.filter fun entry => Db.seated licenseId entry.2).map Sigma.fst) := by
  unfold Db.liveDevices Db.orderByDesc
  rw [List.map_map]
  refine ((List.perm_insertionSort _ _).map _).trans ?_
  unfold Db.selectWhere
  rw [List.map_map]
  exact .refl _

theorem Db.length_liveDevices (db : Db) (visited : String → Nat) (licenseId : String) :
    (db.liveDevices visited licenseId).length = db.seatsTaken licenseId := by
  rw [← List.length_map (·.1), (db.perm_liveDevices visited licenseId).length_eq]
  exact (HashMap.countWhere_eq_length (fun _ row => Db.seated licenseId row) db.devices).symm

theorem Db.mem_liveDevices {licenseId id : String} :
    id ∈ (db.liveDevices visited licenseId).map (·.1) ↔
      ∃ row, db.devices.lookup id = some row ∧ Db.seated licenseId row = true := by
  rw [(db.perm_liveDevices visited licenseId).mem_iff, List.mem_map]
  constructor
  · rintro ⟨⟨id, row⟩, member, rfl⟩
    obtain ⟨entry, isSeated⟩ := List.mem_filter.mp member
    exact ⟨row, AList.mem_lookup_iff.mpr entry, isSeated⟩
  · rintro ⟨row, found, isSeated⟩
    exact ⟨⟨id, row⟩, List.mem_filter.mpr ⟨AList.mem_lookup_iff.mp found, isSeated⟩, rfl⟩

theorem LicenseView.seats_pos (license : LicenseView) : 0 < license.seats := by
  unfold LicenseView.seats
  cases Plan.fromWireOrTrial license.plan <;> decide

/-- Without those that are to be displaced, there is a seat for the device. -/
theorem othersSeated_toDisplace (visited : String → Nat) (deviceId : String)
    (within : db.seatsTaken license.id ≤ license.seats) :
    db.othersSeated license.id deviceId
      (toDisplace (db.liveDevices visited license.id) license deviceId) + 1 ≤ license.seats := by
  have members (id : String) := @Db.mem_liveDevices db visited license.id id
  have length := db.length_liveDevices visited license.id
  have distinct : ((db.liveDevices visited license.id).map (·.1)).Nodup := by
    rw [(db.perm_liveDevices visited license.id).nodup_iff]
    exact (List.filter_sublist.map Sigma.fst).nodup db.devices.keys_nodup
  generalize db.liveDevices visited license.id = live at members length distinct ⊢
  have positive := license.seats_pos
  have isHolder : (live.any fun device => device.1 = deviceId) = true ↔
      deviceId ∈ live.map (·.1) := by
    rw [List.any_eq_true, List.mem_map]
    simp only [decide_eq_true_iff]
  have all := db.seatsTaken_eq license.id deviceId
  unfold toDisplace
  by_cases holds : deviceId ∈ live.map (·.1)
  · -- The device has a seat, and keeps it.
    obtain ⟨row, found, isSeated⟩ := (members deviceId).mp holds
    rw [found, Option.any_some, isSeated, if_pos rfl] at all
    rw [isHolder.mpr holds, Bool.not_true, Bool.false_and, if_neg Bool.false_ne_true]
    omega
  · have noHolder : (live.any fun device => device.1 = deviceId) = false := by
      rw [← Bool.not_eq_true, isHolder]
      exact holds
    rw [noHolder, Bool.not_false, Bool.true_and]
    split
    next full =>
      rw [decide_eq_true_iff] at full
      have covered : db.othersSeated license.id deviceId
          ((live.reverse.take (live.length + 1 - license.seats)).map (·.1)) ≤
            ((live.take (license.seats - 1)).map (·.1)).length := by
        refine HashMap.countWhere_le_length fun id row found selected => ?_
        rw [Bool.and_eq_true, Bool.and_eq_true] at selected
        obtain ⟨⟨isSeated, -⟩, notDisplaced⟩ := selected
        rw [Bool.not_eq_true', List.contains_eq_mem, decide_eq_false_iff_not, List.take_reverse,
          List.map_reverse, List.mem_reverse] at notDisplaced
        have isLive := (members id).mpr ⟨row, found, isSeated⟩
        have rest : live.length - (live.length + 1 - license.seats) = license.seats - 1 := by omega
        rw [rest] at notDisplaced
        rw [← List.take_append_drop (license.seats - 1) live, List.map_append,
          List.mem_append] at isLive
        exact isLive.resolve_right notDisplaced
      rw [List.length_map, List.length_take] at covered
      omega
    next notFull =>
      rw [decide_eq_true_iff] at notFull
      omega

end displacing

/-! ## Tasks -/

section tasks

variable {db db' : Db} {changed : List String} {app : AppState}

/-- The licence that a task has read is there, and has its plan unless that was changed. -/
def Planned (db : Db) (changed : List String) (license : LicenseView) : Prop :=
  ∃ row, db.licenses.lookup license.id = some row
    ∧ (license.id ∉ changed → license.seats = (row.view license.id).seats)

/-- A task that has taken seats away has one to give. -/
def Task.Ready (db : Db) (changed : List String) : Task → Prop
  | .licensed _ _ license => Planned db changed license
  | .seating request _ license displacing => Planned db changed license
      ∧ (license.id ∉ changed →
        db.othersSeated license.id request.deviceId displacing + 1 ≤ license.seats)
  | _ => True

/-- No licence goes, and its plan changes only as it is written down. -/
def Db.LicencesKept (db db' : Db) : Prop :=
  ∀ id row, db.licenses.lookup id = some row → ∃ row', db'.licenses.lookup id = some row'
    ∧ (id ∉ Service.planChanges db db' → row'.plan = row.plan)

theorem licencesKept_of_some
    (kept : ∀ id row, db.licenses.lookup id = some row → (db'.licenses.lookup id).isSome) :
    db.LicencesKept db' := by
  intro id row found
  obtain ⟨row', found'⟩ := Option.isSome_iff_exists.mp (kept id row found)
  refine ⟨row', found', fun unchanged => ?_⟩
  by_contra different
  refine unchanged (List.mem_map.mpr ⟨⟨id, row⟩, List.mem_filter.mpr
    ⟨AList.mem_lookup_iff.mp found, ?_⟩, rfl⟩)
  rw [found', Option.any_some, decide_eq_true_iff]
  exact different

theorem licencesKept_of_same (same : db'.licenses = db.licenses) : db.LicencesKept db' :=
  licencesKept_of_some fun id row found => by rw [same, found]; rfl

theorem seats_of_plan {row row' : LicenseRow} (id : String) (same : row'.plan = row.plan) :
    (row'.view id).seats = (row.view id).seats := by
  unfold LicenseView.seats LicenseRow.view
  rw [same]

theorem Planned.later {license : LicenseView} (planned : Planned db changed license)
    (kept : db.LicencesKept db') :
    Planned db' (changed ++ Service.planChanges db db') license := by
  obtain ⟨row, found, seats⟩ := planned
  obtain ⟨row', found', plan⟩ := kept license.id row found
  refine ⟨row', found', fun unchanged => ?_⟩
  rw [List.mem_append, not_or] at unchanged
  rw [seats unchanged.1, seats_of_plan license.id (plan unchanged.2)]

theorem Task.Ready.later {task : Task} (ready : task.Ready db changed)
    (kept : db.LicencesKept db')
    (fewer : ∀ request now license displacing, task = .seating request now license displacing →
      db.NoMoreSeated db' license.id) :
    task.Ready db' (changed ++ Service.planChanges db db') := by
  cases task with
  | licensed request now license => exact Planned.later ready kept
  | seating request now license displacing =>
      refine ⟨ready.1.later kept, fun unchanged => ?_⟩
      rw [List.mem_append, not_or] at unchanged
      have room := ready.2 unchanged.1
      have less := (fewer request now license displacing rfl).othersSeated_le request.deviceId
        displacing
      omega
  | _ => trivial

/-- A statement after which no licence seats more than before. -/
structure Quiet (db db' : Db) : Prop where
  fewer : ∀ licenseId, db.NoMoreSeated db' licenseId
  kept : db.LicencesKept db'
  same : ∀ id, db'.licenceOf id = db.licenceOf id

theorem Quiet.refl (db : Db) : Quiet db db where
  fewer _ := Db.noMoreSeated_of_devices rfl
  kept := licencesKept_of_same rfl
  same _ := rfl

theorem quiet_displaceDevice (deviceId : String) (now : UInt64) :
    Quiet db (db.displaceDevice deviceId now) where
  fewer _ := Db.noMoreSeated_displaceDevice deviceId
  kept := licencesKept_of_same rfl
  same := Db.licenceOf_displaceDevice deviceId

theorem quiet_recordHeartbeat (deviceId : String) (used now : UInt64) :
    Quiet db (db.recordHeartbeat deviceId used now) where
  fewer _ := Db.noMoreSeated_recordHeartbeat deviceId used
  kept := licencesKept_of_same rfl
  same := Db.licenceOf_recordHeartbeat deviceId used

/-- Only licences are written. -/
theorem quiet_of_devices (devices : db'.devices = db.devices)
    (kept : ∀ id row, db.licenses.lookup id = some row → (db'.licenses.lookup id).isSome) :
    Quiet db db' where
  fewer _ := Db.noMoreSeated_of_devices devices
  kept := licencesKept_of_some kept
  same id := by rw [Db.licenceOf, Db.licenceOf, devices]

theorem quiet_revokeLicense (licenseId : String) (now : UInt64) :
    Quiet db (db.revokeLicense licenseId now) := by
  refine quiet_of_devices rfl fun id row found => ?_
  unfold Db.revokeLicense
  rw [HashMap.lookup_modify_eq]
  split
  next same =>
    rw [← same, found]
    rfl
  next =>
    rw [found]
    rfl

theorem quiet_applyChange (accountId : String) (now : UInt64) (change : EntitlementChange) :
    Quiet db (db.applyChange accountId now change) := by
  cases change with
  | grant licenseId plan expiresAt =>
      refine quiet_of_devices rfl fun id row found => ?_
      unfold Db.applyChange
      dsimp only
      rw [HashMap.lookup_insert_eq]
      split
      · rfl
      · rw [found]
        rfl
  | revokeAll =>
      refine quiet_of_devices rfl fun id row found => ?_
      unfold Db.applyChange
      dsimp only
      rw [HashMap.lookup_mapValues, found]
      rfl

theorem quiet_payment (request : PaymentRequest) (now : UInt64) :
    Quiet db (payment db request now).2 := by
  unfold payment
  split
  · exact .refl db
  next event change _ =>
    have applied : Quiet db
        (db.applyWebhook event.eventId "payment" event.eventTs event.accountId change now).2 := by
      unfold Db.applyWebhook
      split
      · exact .refl db
      · have change := @quiet_applyChange { db with
          webhookEvents := db.webhookEvents.insert event.eventId
            ⟨"payment", toSql now, toSql event.eventTs⟩
          accounts := if (db.accounts.lookup event.accountId).isSome then db.accounts
            else db.accounts.insert event.accountId (toSql now) } event.accountId now change
        exact ⟨change.fewer, change.kept, change.same⟩
    split
    next isAfter => rwa [isAfter] at applied
    next isAfter => rwa [isAfter] at applied

theorem planned_of_active {visited : String → Nat} {accountId : String} {now : UInt64}
    {license : LicenseView}
    (active : db.activeLicenseForAccount visited accountId now = some license) :
    Planned db changed license := by
  obtain ⟨row, found, isView, -⟩ := exists_row_of_active active
  exact ⟨row, found, fun _ => by rw [isView]; rfl⟩

/-- What holds between any two statements. -/
structure Seated (service : Service) : Prop where
  within : service.SeatsWithinPlan
  /-- The foreign key of `devices`. -/
  known : ∀ id licenseId, service.db.licenceOf id = some licenseId →
    (service.db.licenses.lookup licenseId).isSome
  ready : ∀ task ∈ service.tasks, task.Ready service.db service.changed

variable {service : Service}

theorem Seated.quiet (seated : Seated service) (quiet : Quiet service.db db') {tasks : List Task}
    (ready : ∀ task ∈ tasks, task ∈ service.tasks
      ∨ task.Ready db' (service.changed ++ Service.planChanges service.db db')) :
    Seated
      { db := db', changed := service.changed ++ Service.planChanges service.db db', tasks } := by
  refine ⟨fun licenseId row' found' unchanged => ?_, fun id licenseId isLicence => ?_,
    fun task member => ?_⟩
  · rw [List.mem_append, not_or] at unchanged
    refine (quiet.fewer licenseId).seatsTaken_le.trans ?_
    cases found : service.db.licenses.lookup licenseId with
    | some row =>
        obtain ⟨later, foundLater, plan⟩ := quiet.kept licenseId row found
        cases found'.symm.trans foundLater
        rw [seats_of_plan licenseId (plan unchanged.2)]
        exact seated.within licenseId row found unchanged.1
    | none =>
        -- Nobody has a seat of a licence that was not there.
        have nobody : service.db.seatsTaken licenseId ≤ ([] : List String).length := by
          refine HashMap.countWhere_le_length fun id row isRow isSeated => ?_
          rw [Db.seated, Bool.and_eq_true, decide_eq_true_iff] at isSeated
          have there := seated.known id row.licenseId (by rw [Db.licenceOf, isRow]; rfl)
          rw [isSeated.1, found] at there
          cases there
        exact nobody.trans (Nat.zero_le _)
  · obtain ⟨row, before⟩ :=
      Option.isSome_iff_exists.mp (seated.known id licenseId ((quiet.same id).symm.trans isLicence))
    obtain ⟨later, foundLater, -⟩ := quiet.kept licenseId row before
    exact Option.isSome_iff_exists.mpr ⟨later, foundLater⟩
  · rcases ready task member with old | new
    · exact (seated.ready task old).later quiet.kept fun _ _ license _ _ => quiet.fewer license.id
    · exact new

/-- A seat is given. -/
theorem Seated.record (seated : Seated service) {request : IssueRequest} {now : UInt64}
    {license : LicenseView} {token : List UInt8} {position : Nat}
    (isTask : service.tasks[position]? = some (.seating request now license []))
    (recorded :
      service.db.recordIssue license.id request.deviceId request.idempotencyKey token now = some db')
    (alone : ∀ other ∈ service.tasks.eraseIdx position,
      ∀ request' now' license' displacing, other = .seating request' now' license' displacing →
        license'.id ≠ license.id)
    (own : ∀ row ∈ service.db.devices.lookup request.deviceId,
      row.licenseId = license.id ∨ row.displacedAt = none) :
    Seated { db := db', changed := service.changed ++ Service.planChanges service.db db'
             tasks := service.tasks.eraseIdx position } := by
  have licenses : db'.licenses = service.db.licenses := Db.licenses_recordIssue recorded
  obtain ⟨planned, room⟩ : Planned service.db service.changed license ∧ _ :=
    seated.ready _ (List.mem_of_getElem? isTask)
  refine ⟨fun licenseId row found unchanged => ?_, fun id licenseId isLicence => ?_,
    fun task member => ?_⟩
  · have found : service.db.licenses.lookup licenseId = some row := licenses ▸ found
    rw [List.mem_append, not_or] at unchanged
    by_cases same : licenseId = license.id
    · obtain ⟨row', found', seats⟩ := planned
      rw [same] at found unchanged ⊢
      cases found.symm.trans found'
      have others := Db.othersSeated_recordIssue recorded license.id
      have all := db'.seatsTaken_eq license.id request.deviceId
      have free := room unchanged.1
      rw [← seats unchanged.1]
      show db'.seatsTaken license.id ≤ license.seats
      split at all <;> omega
    · exact (Db.noMoreSeated_recordIssue recorded own same).seatsTaken_le.trans
        (seated.within licenseId row found unchanged.1)
  · show (db'.licenses.lookup licenseId).isSome
    have isLicence : db'.licenceOf id = some licenseId := isLicence
    rw [licenses]
    rw [Db.licenceOf_recordIssue recorded] at isLicence
    split at isLicence
    · cases before : service.db.licenceOf request.deviceId with
      | some old =>
          rw [before] at isLicence
          cases isLicence
          exact seated.known request.deviceId _ before
      | none =>
          rw [before] at isLicence
          cases isLicence
          obtain ⟨row, found, -⟩ := planned
          rw [Option.getD_none, found]
          rfl
    · exact seated.known id licenseId isLicence
  · refine (seated.ready task (List.mem_of_mem_eraseIdx member)).later
      (licencesKept_of_same licenses) fun request' now' license' displacing isSeating => ?_
    exact Db.noMoreSeated_recordIssue recorded own
      (alone task member request' now' license' displacing isSeating)

/-- A statement that is not the one that gives a seat. -/
theorem Task.step_quiet {task : Task} (ready : task.Ready db changed)
    (within : ∀ licenseId row, db.licenses.lookup licenseId = some row → licenseId ∉ changed →
      db.seatsTaken licenseId ≤ (row.view licenseId).seats)
    (isOther : ∀ request now license, task ≠ .seating request now license []) :
    Quiet db (task.step app db).2 ∧ ∀ task', (task.step app db).1 = .inr task' →
      task'.Ready (task.step app db).2
        (changed ++ Service.planChanges db (task.step app db).2) := by
  cases task with
  | begins request now =>
      cases request with
      | issue request =>
          simp only [Task.step]
          split <;> exact ⟨.refl db, by rintro _ ⟨⟩ <;> trivial⟩
      | heartbeat request =>
          simp only [Task.step]
          split <;> exact ⟨.refl db, by rintro _ ⟨⟩ <;> trivial⟩
      | revoke deviceId =>
          simp only [Task.step]
          split <;> exact ⟨.refl db, by rintro _ ⟨⟩ <;> trivial⟩
      | refresh deviceId =>
          simp only [Task.step]
          split <;> exact ⟨.refl db, by rintro _ ⟨⟩ <;> trivial⟩
      | payment request => exact ⟨quiet_payment request now, by rintro _ ⟨⟩⟩
  | noToken request now =>
      simp only [Task.step]
      split
      · exact ⟨.refl db, by rintro _ ⟨⟩⟩
      next active =>
        refine ⟨.refl db, ?_⟩
        rintro _ ⟨⟩
        exact planned_of_active active
  | licensed request now license =>
      refine ⟨.refl db, ?_⟩
      rintro _ ⟨⟩
      have planned : Planned db changed license := ready
      refine ⟨planned.later (licencesKept_of_same rfl), fun unchanged => ?_⟩
      obtain ⟨row, found, seats⟩ := planned
      rw [List.mem_append, not_or] at unchanged
      refine othersSeated_toDisplace app.visited request.deviceId ?_
      rw [seats unchanged.1]
      exact within license.id row found unchanged.1
  | seating request now license displacing =>
      cases displacing with
      | nil => exact absurd rfl (isOther request now license)
      | cons first displacing =>
          have quiet := @quiet_displaceDevice db first now
          refine ⟨quiet, ?_⟩
          rintro _ ⟨⟩
          obtain ⟨planned, room⟩ : Planned db changed license ∧ _ := ready
          refine ⟨planned.later quiet.kept, fun unchanged => ?_⟩
          rw [List.mem_append, not_or] at unchanged
          have before := room unchanged.1
          have less := @Db.othersSeated_displaceDevice db now license.id request.deviceId first
            displacing
          show (db.displaceDevice first now).othersSeated _ _ _ + 1 ≤ _
          omega
  | beating request now device =>
      exact ⟨quiet_recordHeartbeat _ _ _, by rintro _ ⟨⟩; trivial⟩
  | beaten now used device => exact ⟨.refl db, by rintro _ ⟨⟩⟩
  | revoking now device => exact ⟨quiet_revokeLicense _ _, by rintro _ ⟨⟩⟩
  | refreshing deviceId now device => exact ⟨.refl db, by rintro _ ⟨⟩⟩

/-- The task is the one that gives a seat next, or it is not. -/
theorem Seated.run (seated : Seated service) {position : Nat} {task : Task}
    (isTask : service.tasks[position]? = some task) (inTurn : service.SeatsInTurn (.run position)) :
    Seated (service.step app (.run position)).2 := by
  have erased : ∀ other ∈ service.tasks.eraseIdx position, other ∈ service.tasks :=
    fun _ member => List.mem_of_mem_eraseIdx member
  simp only [Service.step, isTask]
  by_cases isOther : ∀ request now license, task ≠ .seating request now license []
  · obtain ⟨quiet, next⟩ : Quiet service.db (task.step app service.db).2 ∧ _ :=
      Task.step_quiet (seated.ready task (List.mem_of_getElem? isTask)) seated.within isOther
    generalize task.step app service.db = result at quiet next ⊢
    obtain ⟨answer | task', db'⟩ := result
    · exact seated.quiet quiet fun other member => .inl (erased other member)
    · refine seated.quiet quiet fun other member => ?_
      rcases List.mem_or_eq_of_mem_set member with old | rfl
      · exact .inl old
      · exact .inr (next other rfl)
  · simp only [not_forall, not_not] at isOther
    obtain ⟨request, now, license, rfl⟩ := isOther
    simp only [Service.SeatsInTurn, isTask] at inTurn
    simp only [Task.step, recordAnswer]
    cases recorded : service.db.recordIssue license.id request.deviceId request.idempotencyKey
        (signToken app license request.deviceId now) now with
    | none => exact seated.quiet (.refl service.db) fun other member => .inl (erased other member)
    | some db' =>
        have fresh : service.db.tokenForIdempotencyKey request.idempotencyKey = none := by
          unfold Db.recordIssue at recorded
          dsimp only at recorded
          split at recorded
          · cases recorded
          next unused =>
            rw [Db.tokenForIdempotencyKey, Option.map_eq_none_iff]
            exact Option.not_isSome_iff_eq_none.mp unused
        obtain ⟨alone, own⟩ := inTurn fresh
        refine seated.record isTask recorded (fun other member => ?_) own
        rintro request' now' license' displacing rfl same
        exact alone _ member (congrArg some same)

theorem Seated.step (seated : Seated service) (happening : Service.Happening)
    (inTurn : service.SeatsInTurn happening) : Seated (service.step app happening).2 := by
  cases happening with
  | arrive request now =>
      refine ⟨seated.within, seated.known, fun task member => ?_⟩
      rcases List.mem_append.mp member with old | new
      · exact seated.ready task old
      · rw [List.mem_singleton.mp new]
        trivial
  | fail position =>
      simp only [Service.step]
      split
      · exact seated
      · exact ⟨seated.within, seated.known, fun task member =>
          seated.ready task (List.mem_of_mem_eraseIdx member)⟩
  | run position =>
      cases isTask : service.tasks[position]? with
      | none =>
          simp only [Service.step, isTask]
          exact seated
      | some task => exact seated.run isTask inTurn

end tasks

/-- In a run in which every seat is given in turn, no licence whose plan was never changed seats
more devices than its plan. -/
theorem seats_are_never_oversold (app : AppState) (happenings : List Service.Happening)
    (inTurn : ∀ e ∈ history (Service.step app) {} happenings, e.pre.SeatsInTurn e.op) :
    (exec (Service.step app) {} happenings).SeatsWithinPlan := by
  have start : Seated {} := ⟨nofun, nofun, nofun⟩
  have seated : Seated (exec (Service.step app) {} happenings) :=
    exec_induction (fun _ happening seated ok => seated.step happening ok) start inTurn
  exact seated.within

open Service.Happening in
/-- Two devices ask for the one seat of a licence, one after the other, and then the first again. -/
def oneSeat : List Service.Happening :=
  [arrive (Served.granted "e" "a" "l" 1 1) 1, run 0,
    arrive (.issue ⟨"a", "d", "k"⟩) 2, run 0, run 0, run 0, run 0,
    arrive (.issue ⟨"a", "d2", "k2"⟩) 3, run 0, run 0, run 0,
    arrive (.heartbeat ⟨"d", 1⟩) 3, run 1, run 0, run 0, run 0, run 0,
    arrive (.issue ⟨"a", "d", "k3"⟩) 4, run 0, run 0, run 0, run 0, run 0]

theorem one_seat_is_not_oversold :
    (exec (Service.step Served.sampleApp) {} oneSeat).SeatsWithinPlan :=
  seats_are_never_oversold Served.sampleApp oneSeat (by decide)

example : ((exec (Service.step Served.sampleApp) {} oneSeat).db.devices.lookup "d2").map
    (·.displacedAt) = some (some 4) := by
  decide

open Service.Happening in
/-- Two devices ask at once, and each finds the seat free. -/
theorem seat_is_given_twice :
    ¬ ∀ (app : AppState) (happenings : List Service.Happening),
      (exec (Service.step app) {} happenings).SeatsWithinPlan := by
  intro always
  have within := always Served.sampleApp
    [arrive (Served.granted "e" "a" "l" 1 1) 1, run 0,
      arrive (.issue ⟨"a", "d", "k"⟩) 2, arrive (.issue ⟨"a", "d2", "k2"⟩) 2,
      run 0, run 0, run 0, run 1, run 1, run 1, run 0, run 0]
  exact absurd (within "l" ⟨"a", 1, 100000, none, 1⟩ (by decide) (by decide)) (by decide)

end Lumepeer.Broker
