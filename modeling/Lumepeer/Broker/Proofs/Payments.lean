import Lumepeer.Broker.Webhook
import Lumepeer.Lib.Run

/-!
# Payments that count

The row of an event and what it changes are written in one transaction, and only one
transaction writes at a time. What it has written is therefore what its statements
make of the last commit, and a commit is the change of one event that no earlier
commit knew.
-/

namespace Lumepeer.Broker
open Lumepeer.Lib Lumepeer.Core

/-! ## The windows -/

theorem toNat_absDiff (a b : UInt64) :
    (absDiff a b).toNat = (a.toNat - b.toNat) + (b.toNat - a.toNat) := by
  unfold absDiff
  split
  next less =>
    rw [UInt64.lt_iff_toNat_lt] at less
    rw [UInt64.toNat_sub_of_le _ _ (UInt64.le_iff_toNat_le.mpr less.le)]
    omega
  next notLess =>
    have le : b.toNat ≤ a.toNat := by
      rw [UInt64.lt_iff_toNat_lt] at notLess
      omega
    rw [UInt64.toNat_sub_of_le _ _ (UInt64.le_iff_toNat_le.mpr le)]
    omega

/-- Two times are at most five minutes apart. -/
def InWindow (a b : UInt64) : Prop := a.toNat ≤ b.toNat + 300 ∧ b.toNat ≤ a.toNat + 300

theorem inWindow_iff (a b : UInt64) : InWindow a b ↔ ¬ absDiff a b > webhookTimestampWindowSecs := by
  have window : webhookTimestampWindowSecs.toNat = 300 := rfl
  unfold InWindow
  rw [gt_iff_lt, UInt64.lt_iff_toNat_lt, toNat_absDiff, window]
  omega

/-- What an event asks for. -/
def PaymentEvent.Asks (event : PaymentEvent) : EntitlementChange → Prop
  | .grant licenseId plan expiresAt =>
      event.kind = "subscription.active" ∧ event.licenseId = some licenseId ∧
        event.plan = some plan ∧ event.expiresAt = some expiresAt
  | .revokeAll => event.kind = "subscription.cancelled"

theorem asks_of_change {event : PaymentEvent} {change : EntitlementChange}
    (isChange : event.change = .ok change) : event.Asks change := by
  unfold PaymentEvent.change at isChange
  split at isChange
  next isActive =>
    split at isChange
    next licenseId plan expiresAt isLicense isPlan isExpiry =>
      obtain rfl := Except.ok.inj isChange
      exact ⟨isActive, isLicense, isPlan, isExpiry⟩
    next => cases isChange
  next =>
    split at isChange
    next isCancelled =>
      obtain rfl := Except.ok.inj isChange
      exact isCancelled
    next => cases isChange

/-- The request carries an event that its sender signed with the secret, both of whose times are
in the window. -/
def Genuine (state : WebhookState) (request : WebhookRequest) (now : UInt64) (paid : Paid) : Prop :=
  ∃ timestamp signature provided,
    (request.timestamp.bind toStr).bind parseU64 = some timestamp ∧
    request.signature.bind toStr = some signature ∧ decodeHex32 signature = some provided ∧
    (state.keyedHash (state.hash state.webhookSecret)
      (decimal timestamp ++ [46] ++ request.body)).toList = provided ∧
    InWindow now timestamp ∧ state.fromSlice request.body = some paid.event ∧
    InWindow paid.event.eventTs timestamp ∧ paid.event.Asks paid.change ∧ paid.now = now

/-- The event of a request that passes every check. -/
def Accepts (state : WebhookState) (delivery : Delivery) (paid : Paid) : Prop :=
  (delivery.request.received state).accept delivery.now = .ok (paid.event, paid.change) ∧
    paid.now = delivery.now

theorem genuine_of_accepts {state : WebhookState} {delivery : Delivery} {paid : Paid}
    (accepts : Accepts state delivery paid) :
    Genuine state delivery.request delivery.now paid := by
  obtain ⟨accepted, isNow⟩ := accepts
  unfold PaymentRequest.accept WebhookRequest.received at accepted
  dsimp only at accepted
  cases isTimestamp : (delivery.request.timestamp.bind toStr).bind parseU64 with
  | none =>
      rw [isTimestamp] at accepted
      cases accepted
  | some timestamp =>
      cases isSignature : delivery.request.signature.bind toStr with
      | none =>
          rw [isTimestamp, isSignature] at accepted
          cases accepted
      | some signature =>
          rw [isTimestamp, isSignature] at accepted
          simp only [Option.map_some, Option.any_some] at accepted
          split at accepted
          · cases accepted
          next near =>
            split at accepted
            · cases accepted
            next good =>
              split at accepted
              · cases accepted
              next event isEvent =>
                split at accepted
                · cases accepted
                next eventNear =>
                  rw [Bool.not_eq_true', Bool.not_eq_false] at good
                  unfold WebhookState.verifyWebhook at good
                  split at good
                  · cases good
                  next provided isProvided =>
                    cases isChange : event.change with
                    | error answer =>
                        rw [isChange] at accepted
                        cases accepted
                    | ok change =>
                        rw [isChange] at accepted
                        obtain ⟨rfl, rfl⟩ := Prod.mk.inj (Except.ok.inj accepted)
                        exact ⟨timestamp, signature, provided, isTimestamp, isSignature, isProvided,
                          beq_iff_eq.mp good, (inWindow_iff _ _).mpr near, isEvent,
                          (inWindow_iff _ _).mpr eventNear, asks_of_change isChange, isNow⟩

/-- Every refusal is one. -/
theorem status_of_refused {state : WebhookState} {request : WebhookRequest} {now : UInt64}
    {answer : Answer} (refused : (request.received state).accept now = .error answer) :
    answer.status = .badRequest := by
  unfold PaymentRequest.accept at refused
  split at refused
  · cases refused
    rfl
  · cases refused
    rfl
  · split at refused
    · cases refused
      rfl
    · split at refused
      · cases refused
        rfl
      · split at refused
        · cases refused
          rfl
        · split at refused
          · cases refused
            rfl
          next event _ _ =>
            cases isChange : event.change with
            | ok change =>
                rw [isChange] at refused
                cases refused
            | error answer' =>
                rw [isChange] at refused
                cases refused
                unfold PaymentEvent.change at isChange
                split at isChange
                · split at isChange
                  · cases isChange
                  · cases isChange
                    rfl
                · split at isChange
                  · cases isChange
                  · cases isChange
                    rfl

/-! ## Commits -/

namespace Db

/-- What an event that is new does to the tables. -/
def pay (db : Db) (paid : Paid) : Db := ((db.insertEvent paid).insertAccount paid).change paid

/-- The statements of the transaction come to what `apply_webhook` does at once. -/
theorem applyWebhook_eq_pay {db : Db} {paid : Paid}
    (fresh : (db.webhookEvents.lookup paid.event.eventId).isSome = false) :
    db.applyWebhook paid.event.eventId "payment" paid.event.eventTs paid.event.accountId paid.change
      paid.now = (true, db.pay paid) := by
  unfold applyWebhook
  rw [if_neg (by simp [fresh])]
  rfl

theorem webhookEvents_pay (db : Db) (paid : Paid) :
    (db.pay paid).webhookEvents = (db.insertEvent paid).webhookEvents := by
  unfold pay change
  cases paid.change <;> rfl

theorem accounts_pay (db : Db) (paid : Paid) :
    (db.pay paid).accounts = (db.insertAccount paid).accounts := by
  unfold pay change
  cases paid.change <;> rfl

theorem licenses_pay (db : Db) (paid : Paid) : (db.pay paid).licenses =
    (db.applyChange paid.event.accountId paid.now paid.change).licenses := by
  unfold pay change
  cases paid.change <;> rfl

variable {db : Db} {paid : Paid}

/-- An account is opened by the first event of it. -/
theorem lookup_accounts_pay (accountId : String) : (db.pay paid).accounts.lookup accountId =
    if accountId = paid.event.accountId then
      some ((db.accounts.lookup accountId).getD (toSql paid.now))
    else db.accounts.lookup accountId := by
  rw [accounts_pay, insertAccount]
  cases opened : db.accounts.lookup paid.event.accountId with
  | none =>
      simp only [Option.isSome_none, Bool.false_eq_true, if_false, HashMap.lookup_insert_eq]
      split
      next same => rw [same, opened, Option.getD_none]
      next => rfl
  | some created =>
      simp only [Option.isSome_some, if_true]
      split
      next same => rw [same, opened, Option.getD_some]
      next => rfl

/-- The account that a licence belongs to once `accountId` was granted it. -/
def holderAfter (db : Db) (accountId licenseId : String) : String :=
  ((db.licenses.lookup licenseId).map (·.accountId)).getD accountId

/-- A grant makes or changes one row, and leaves it with the account that has it. -/
theorem lookup_pay_grant {granted : String} {plan : UInt8} {expiresAt : UInt64}
    (isGrant : paid.change = .grant granted plan expiresAt) (licenseId : String) :
    (db.pay paid).licenses.lookup licenseId =
      if licenseId = granted then
        some
          { accountId := db.holderAfter paid.event.accountId granted
            plan := plan.toNat, expiresAt := toSql expiresAt, revokedAt := none
            createdAt := ((db.licenses.lookup granted).map (·.createdAt)).getD (toSql paid.now) }
      else db.licenses.lookup licenseId := by
  rw [licenses_pay, isGrant]
  simp only [applyChange, HashMap.lookup_insert_eq, holderAfter]
  split
  · cases db.licenses.lookup granted <;> rfl
  · rfl

/-- A cancellation marks the rows of the account. -/
theorem lookup_pay_revokeAll (isCancel : paid.change = .revokeAll) (licenseId : String) :
    (db.pay paid).licenses.lookup licenseId = (db.licenses.lookup licenseId).map fun row =>
      if row.accountId = paid.event.accountId then LicenseRow.revoke row paid.now else row := by
  rw [licenses_pay, isCancel]
  simp only [applyChange, HashMap.lookup_mapValues]

theorem revoke_eq_getD (row : LicenseRow) (now : UInt64) :
    LicenseRow.revoke row now =
      { row with revokedAt := some (row.revokedAt.getD (toSql now)) } := by
  unfold LicenseRow.revoke
  cases isRevoked : row.revokedAt with
  | none => rfl
  | some revokedAt => rw [if_neg (by simp), Option.getD_some, ← isRevoked]

end Db

/-! ## What accounts hold -/

/-- When each account was opened, and the licences that there are. -/
@[ext] structure Holdings where
  opened : String → Option Int := fun _ => none
  licence : String → Option LicenseRow := fun _ => none

/-- What one event makes of what accounts hold. Its account is open from then on at the latest. A
grant gives the licence its plan and its term and is not revoked; whose it is and since when does not
change. A cancellation revokes what the account has and was not revoked before. -/
def Holdings.after (held : Holdings) (paid : Paid) : Holdings where
  opened accountId :=
    if accountId = paid.event.accountId then
      some ((held.opened accountId).getD (toSql paid.now))
    else held.opened accountId
  licence licenseId :=
    match paid.change with
    | .grant granted plan expiresAt =>
        if licenseId = granted then
          some
            { accountId := ((held.licence granted).map (·.accountId)).getD paid.event.accountId
              plan := plan.toNat
              expiresAt := toSql expiresAt
              revokedAt := none
              createdAt := ((held.licence granted).map (·.createdAt)).getD (toSql paid.now) }
        else held.licence licenseId
    | .revokeAll => (held.licence licenseId).map fun row =>
        if row.accountId = paid.event.accountId then
          { row with revokedAt := some (row.revokedAt.getD (toSql paid.now)) }
        else row

/-- What the tables say of it. -/
def Db.holdings (db : Db) : Holdings := ⟨db.accounts.lookup, db.licenses.lookup⟩

theorem Db.holdings_pay (db : Db) (paid : Paid) :
    (db.pay paid).holdings = db.holdings.after paid := by
  ext1
  · funext accountId
    exact Db.lookup_accounts_pay accountId
  · funext licenseId
    simp only [Db.holdings, Holdings.after]
    cases isChange : paid.change with
    | grant granted plan expiresAt => exact Db.lookup_pay_grant isChange licenseId
    | revokeAll =>
        rw [Db.lookup_pay_revokeAll isChange]
        simp only [Db.revoke_eq_getD]

theorem Db.holdings_foldl (db : Db) (applied : List Paid) :
    (applied.foldl Db.pay db).holdings = applied.foldl Holdings.after db.holdings := by
  induction applied generalizing db with
  | nil => rfl
  | cons paid applied ih =>
      rw [List.foldl_cons, List.foldl_cons, ih, Db.holdings_pay]

namespace Payments

/-- An event of a run. -/
abbrev PaymentsEvent := Event Payments Happening (Option (Delivery × Answer))

/-- The event whose request is answered with 200. -/
def appliedBy (e : PaymentsEvent) : Option Paid :=
  if e.out.map (·.2.status) = some .ok then e.pre.writing.map (·.paid) else none

/-- What the transaction has written, on top of the last commit. -/
def Follows (db : Db) (paid : Paid) : Progress → Prop
  | .replayed => True
  | .inserted work =>
      (db.webhookEvents.lookup paid.event.eventId).isSome = false ∧ work = db.insertEvent paid
  | .accounted work =>
      (db.webhookEvents.lookup paid.event.eventId).isSome = false ∧
        work = (db.insertEvent paid).insertAccount paid
  | .changed work =>
      (db.webhookEvents.lookup paid.event.eventId).isSome = false ∧ work = db.pay paid

/-- What is committed is the change of every event of `commits`, each of which is known. -/
structure Sound (state : WebhookState) (commits : List Paid) (payments : Payments) : Prop where
  committed : payments.db = commits.foldl Db.pay {}
  once : (commits.map fun paid => paid.event.eventId).Nodup
  known : ∀ id, (payments.db.webhookEvents.lookup id).isSome = true ↔
    id ∈ commits.map fun paid => paid.event.eventId
  waiting : ∀ delivery ∈ payments.deliveries, ∀ paid, delivery.paid = some paid →
    Accepts state delivery paid
  writing : ∀ writing, payments.writing = some writing →
    Accepts state writing.delivery writing.paid ∧
      Follows payments.db writing.paid writing.progress

variable {state : WebhookState} {commits : List Paid} {payments : Payments}

theorem sound_start : Sound state [] {} where
  committed := rfl
  once := List.nodup_nil
  known := by simp
  waiting := by simp
  writing := by simp

/-- A request that waits is answered. -/
theorem Sound.erase (sound : Sound state commits payments) (position : Nat) :
    Sound state commits { payments with deliveries := payments.deliveries.eraseIdx position } :=
  { sound with
    waiting := fun delivery member => sound.waiting delivery (List.mem_of_mem_eraseIdx member) }

/-- The transaction that writes is rolled back. -/
theorem Sound.drop (sound : Sound state commits payments) :
    Sound state commits { payments with writing := none } :=
  { sound with writing := by simp }

/-- An event that was not known is committed. -/
theorem Sound.commit (sound : Sound state commits payments) {paid : Paid}
    (fresh : (payments.db.webhookEvents.lookup paid.event.eventId).isSome = false) :
    Sound state (commits ++ [paid]) { payments with db := payments.db.pay paid, writing := none } where
  committed := by
    rw [List.foldl_append, ← sound.committed]
    rfl
  once := by
    rw [List.map_append, List.nodup_append]
    refine ⟨sound.once, List.nodup_singleton _, ?_⟩
    intro id member other isOther same
    have isId : id = paid.event.eventId := same.trans (List.mem_singleton.mp isOther)
    rw [← isId, (sound.known id).mpr member] at fresh
    cases fresh
  known id := by
    dsimp only
    rw [Db.webhookEvents_pay, Db.insertEvent, HashMap.lookup_insert_eq, List.map_append,
      List.mem_append]
    split
    next same => simp [same]
    next other => simp [sound.known id, other]
  waiting := sound.waiting
  writing := by simp

theorem Sound.write (sound : Sound state commits payments) {writing : Writing}
    (isWriting : payments.writing = some writing) :
    Sound state (commits ++ (appliedBy (Event.of (step state) payments .write)).toList)
      (payments.step state .write).2 := by
  obtain ⟨accepts, follows⟩ := sound.writing writing isWriting
  have stepped : payments.step state .write = payments.writeStep writing := by
    simp only [step, isWriting]
  simp only [appliedBy, Event.of_out, Event.of_pre, stepped, isWriting]
  obtain ⟨delivery, paid, progress⟩ := writing
  dsimp only at accepts follows
  cases progress with
  | replayed =>
      simp only [writeStep, refuse, Option.map_some]
      simpa using sound.drop
  | inserted work =>
      obtain ⟨fresh, rfl⟩ := follows
      simp only [writeStep, Option.map_none]
      simp only [reduceCtorEq, if_false, Option.toList_none, List.append_nil]
      refine { sound with writing := ?_ }
      rintro _ ⟨⟩
      exact ⟨accepts, fresh, rfl⟩
  | accounted work =>
      obtain ⟨fresh, rfl⟩ := follows
      simp only [writeStep, Option.map_none]
      simp only [reduceCtorEq, if_false, Option.toList_none, List.append_nil]
      refine { sound with writing := ?_ }
      rintro _ ⟨⟩
      exact ⟨accepts, fresh, rfl⟩
  | changed work =>
      obtain ⟨fresh, rfl⟩ := follows
      exact sound.commit fresh

/-- A step that answers nobody with 200 commits nothing. -/
theorem Sound.unpaid {happening : Happening} {answered : Option (Delivery × Answer)}
    {payments' : Payments} (same : Sound state commits payments')
    (stepped : payments.step state happening = (answered, payments'))
    (notOk : answered.map (·.2.status) ≠ some .ok) :
    Sound state (commits ++ (appliedBy (Event.of (step state) payments happening)).toList)
      (payments.step state happening).2 := by
  rw [appliedBy, Event.of_out, stepped, if_neg notOk, Option.toList_none, List.append_nil]
  exact same

theorem Sound.silent {happening : Happening} {payments' : Payments}
    (same : Sound state commits payments')
    (stepped : payments.step state happening = (none, payments')) :
    Sound state (commits ++ (appliedBy (Event.of (step state) payments happening)).toList)
      (payments.step state happening).2 :=
  same.unpaid stepped (by simp)

theorem Sound.arrive (sound : Sound state commits payments) (request : WebhookRequest)
    (now : UInt64) : Sound state commits
      { payments with deliveries := payments.deliveries ++ [{ request, now }] } := by
  refine { sound with waiting := ?_ }
  intro delivery member paid isPaid
  rcases List.mem_append.mp member with old | new
  · exact sound.waiting delivery old paid isPaid
  · rw [List.mem_singleton.mp new] at isPaid
    cases isPaid

/-- A request passes its checks. -/
theorem Sound.check (sound : Sound state commits payments) {delivery : Delivery}
    {event : PaymentEvent} {change : EntitlementChange}
    (accepted : (delivery.request.received state).accept delivery.now = .ok (event, change))
    (position : Nat) : Sound state commits
      { payments with
        deliveries := payments.deliveries.set position
          { delivery with paid := some { event, change, now := delivery.now } } } := by
  refine { sound with waiting := ?_ }
  intro other member paid isPaid
  rcases List.mem_or_eq_of_mem_set member with old | rfl
  · exact sound.waiting other old paid isPaid
  · cases isPaid
    exact ⟨accepted, rfl⟩

/-- The transaction of a request does its first write. -/
theorem Sound.begin (sound : Sound state commits payments) {delivery : Delivery} {paid : Paid}
    (accepts : Accepts state delivery paid) (position : Nat) : Sound state commits
      { payments with
        deliveries := payments.deliveries.eraseIdx position
        writing := some ⟨delivery, paid,
          if (payments.db.webhookEvents.lookup paid.event.eventId).isSome then .replayed
          else .inserted (payments.db.insertEvent paid)⟩ } := by
  refine { sound.erase position with writing := ?_ }
  rintro _ ⟨⟩
  refine ⟨accepts, ?_⟩
  cases isKnown : (payments.db.webhookEvents.lookup paid.event.eventId).isSome with
  | true => trivial
  | false => exact ⟨isKnown, rfl⟩

theorem Sound.run (sound : Sound state commits payments) (position : Nat) :
    Sound state (commits ++ (appliedBy (Event.of (step state) payments (.run position))).toList)
      (payments.step state (.run position)).2 := by
  cases isDelivery : payments.deliveries[position]? with
  | none => exact sound.silent (by simp only [step, isDelivery])
  | some delivery =>
      cases isPaid : delivery.paid with
      | none =>
          cases accepted : (delivery.request.received state).accept delivery.now with
          | error answer =>
              refine (sound.erase position).unpaid
                (by simp only [step, isDelivery, isPaid, accepted]; rfl) ?_
              simp [status_of_refused accepted]
          | ok pair =>
              exact (sound.check accepted position).silent
                (by simp only [step, isDelivery, isPaid, accepted])
      | some paid =>
          have accepts := sound.waiting delivery (List.mem_of_getElem? isDelivery) paid isPaid
          cases busy : payments.writing.isSome with
          | true => exact sound.silent (by simp only [step, isDelivery, isPaid, busy, if_true])
          | false =>
              exact (sound.begin accepts position).silent
                (by simp only [step, isDelivery, isPaid, busy, Bool.false_eq_true, if_false])

/-- A statement of a request that waits fails. -/
theorem Sound.fail (sound : Sound state commits payments) (position : Nat) :
    Sound state (commits ++ (appliedBy (Event.of (step state) payments (.fail position))).toList)
      (payments.step state (.fail position)).2 := by
  cases isDelivery : payments.deliveries[position]? with
  | none => exact sound.silent (by simp only [step, isDelivery])
  | some delivery =>
      cases accepted : (delivery.request.received state).accept delivery.now with
      | error answer =>
          refine (sound.erase position).unpaid (by simp only [step, isDelivery, accepted]; rfl) ?_
          simp [status_of_refused accepted]
      | ok pair =>
          exact (sound.erase position).unpaid (by simp only [step, isDelivery, accepted]; rfl)
            (by simp [failed, refuse])

/-- Whatever happens. -/
theorem Sound.step (sound : Sound state commits payments) (happening : Happening) :
    Sound state (commits ++ (appliedBy (Event.of (step state) payments happening)).toList)
      (payments.step state happening).2 := by
  cases happening with
  | arrive request now => exact (sound.arrive request now).silent rfl
  | run position => exact sound.run position
  | write =>
      cases isWriting : payments.writing with
      | none => exact sound.silent (by simp only [Payments.step, isWriting])
      | some writing => exact sound.write isWriting
  | fail position => exact sound.fail position
  | failWrite =>
      cases isWriting : payments.writing with
      | none => exact sound.silent (by simp only [Payments.step, isWriting])
      | some writing =>
          exact sound.drop.unpaid (by simp only [Payments.step, isWriting]; rfl)
            (by simp [failed, refuse])

/-- Every run. -/
theorem sound_run (state : WebhookState) (happenings : List Happening) :
    Sound state ((history (step state) {} happenings).filterMap appliedBy)
      (exec (step state) {} happenings) := by
  induction happenings using List.reverseRecOn with
  | nil => exact sound_start
  | append_singleton happenings happening ih =>
      rw [exec_concat, history_concat, List.filterMap_append]
      have next := ih.step happening
      cases isApplied : appliedBy (Event.of (step state) (exec (step state) {} happenings) happening) with
      | none => simpa [isApplied] using next
      | some paid => simpa [isApplied] using next

/-- Only a commit is answered with 200. -/
theorem commits_of_ok {happening : Happening} {delivery : Delivery} {answer : Answer}
    (answered : (payments.step state happening).1 = some (delivery, answer))
    (ok : answer.status = .ok) :
    ∃ writing, payments.writing = some writing ∧ writing.delivery = delivery := by
  cases happening with
  | arrive request now => cases answered
  | run position =>
      simp only [step] at answered
      split at answered
      · cases answered
      · split at answered
        · split at answered
          next refused =>
            cases answered
            rw [status_of_refused refused] at ok
            cases ok
          next => cases answered
        · split at answered <;> cases answered
  | write =>
      simp only [step] at answered
      split at answered
      · cases answered
      next writing isWriting =>
        unfold writeStep at answered
        split at answered
        · cases answered
          cases ok
        · cases answered
        · cases answered
        · cases answered
          exact ⟨writing, isWriting, rfl⟩
  | fail position =>
      simp only [step] at answered
      split at answered
      · cases answered
      · cases answered
        split at ok
        next refused =>
          rw [status_of_refused refused] at ok
          cases ok
        next => cases ok
  | failWrite =>
      simp only [step] at answered
      split at answered
      · cases answered
      · cases answered
        cases ok

/-- Only a commit changes what is committed, and it is answered with 200. -/
theorem db_step (happening : Happening) : (payments.step state happening).2.db = payments.db ∨
    ∃ delivery, (payments.step state happening).1 = some (delivery, applied) := by
  cases happening with
  | arrive request now => exact .inl rfl
  | run position =>
      simp only [step]
      split
      · exact .inl rfl
      · split
        · split <;> exact .inl rfl
        · split <;> exact .inl rfl
  | write =>
      simp only [step]
      split
      · exact .inl rfl
      next writing _ =>
        unfold writeStep
        split
        · exact .inl rfl
        · exact .inl rfl
        · exact .inl rfl
        · exact .inr ⟨writing.delivery, rfl⟩
  | fail position =>
      simp only [step]
      split <;> exact .inl rfl
  | failWrite =>
      simp only [step]
      split <;> exact .inl rfl

end Payments

/-- In every run, with statements failing and requests interleaved in any way, what accounts hold
at the end is what the events that were answered with 200 make of it, one change for each event,
in the order of the commits; a statement that does not answer with 200 changes no table; and a
request that is answered with 200 is genuine. -/
theorem payments_count_once (state : WebhookState) (happenings : List Payments.Happening) :
    let events := history (Payments.step state) {} happenings
    let applied := events.filterMap Payments.appliedBy
    let db := (exec (Payments.step state) {} happenings).db
    db.holdings = applied.foldl Holdings.after {} ∧
    (applied.map fun paid => paid.event.eventId).Nodup ∧
    (∀ id, (db.webhookEvents.lookup id).isSome = true ↔
      id ∈ applied.map fun paid => paid.event.eventId) ∧
    (∀ e ∈ events, (∀ delivery answer, e.out = some (delivery, answer) → answer.status ≠ .ok) →
      e.post.db = e.pre.db) ∧
    ∀ e ∈ events, ∀ delivery answer, e.out = some (delivery, answer) → answer.status = .ok →
      ∃ paid, Payments.appliedBy e = some paid ∧
        Genuine state delivery.request delivery.now paid := by
  obtain ⟨committed, once, known, -, -⟩ := Payments.sound_run state happenings
  refine ⟨?_, once, known, ?_, ?_⟩
  · rw [committed, Db.holdings_foldl]
    rfl
  · intro e member notOk
    rw [post_of_mem_history member]
    rcases Payments.db_step e.op with same | ⟨delivery, answered⟩
    · exact same
    · have isOut : e.out = some (delivery, Payments.applied) :=
        (congrArg Event.out (eq_of_mem_history member)).trans answered
      exact absurd rfl (notOk delivery Payments.applied isOut)
  · intro e member delivery answer answered ok
    obtain ⟨before, after, -, isEvent⟩ := exists_prefix_of_mem_history member
    have sound := Payments.sound_run state before
    rw [isEvent] at answered ⊢
    obtain ⟨writing, isWriting, rfl⟩ := Payments.commits_of_ok answered ok
    obtain ⟨accepts, -⟩ := sound.writing writing isWriting
    refine ⟨writing.paid, ?_, genuine_of_accepts accepts⟩
    unfold Payments.appliedBy
    rw [answered, Event.of_pre, isWriting, Option.map_some, if_pos (congrArg some ok)]
    rfl

end Lumepeer.Broker
