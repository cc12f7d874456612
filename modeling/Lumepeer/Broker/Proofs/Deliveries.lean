import Lumepeer.Broker.Proofs.Payments
import Mathlib.Data.Finset.Dedup
import Mathlib.Data.Finset.Max

/-!
# The order of deliveries

An event is applied when it is delivered; the time that the provider gave it is stored
and never compared. What a licence ends as is therefore said by the grant of it that
was delivered last and by the cancellations delivered after that, whatever their times.
-/

namespace Lumepeer.Broker
open Lumepeer.Lib Lumepeer.Core

/-- An event is delivered; whether it was applied, and not known before. -/
def Db.deliver (db : Db) (paid : Paid) : Bool × Db :=
  db.applyWebhook paid.event.eventId "payment" paid.event.eventTs paid.event.accountId paid.change
    paid.now

/-- Every event is applied when it is delivered. -/
def Applied (db : Db) (delivered : List Paid) : Prop :=
  ∀ e ∈ history Db.deliver db delivered, e.out = true

/-- What a licence is worth to the account that holds it. -/
structure Standing where
  plan : Int
  expiresAt : Int
  revoked : Bool
  deriving DecidableEq

/-- What the licence is worth to the account, if the account holds it. -/
def Db.standing (db : Db) (accountId licenseId : String) : Option Standing :=
  ((db.licenses.lookup licenseId).filter fun row => row.accountId = accountId).map fun row =>
    { plan := row.plan, expiresAt := row.expiresAt, revoked := row.revokedAt.isSome }

section applied
variable {db : Db} {delivered : List Paid} {paid : Paid}

theorem deliver_eq_true_iff :
    (db.deliver paid).1 = true ↔ (db.webhookEvents.lookup paid.event.eventId).isSome = false := by
  unfold Db.deliver Db.applyWebhook
  cases (db.webhookEvents.lookup paid.event.eventId).isSome <;> simp

theorem deliver_eq_pay (isApplied : (db.deliver paid).1 = true) :
    (db.deliver paid).2 = db.pay paid := by
  unfold Db.deliver
  rw [Db.applyWebhook_eq_pay (deliver_eq_true_iff.mp isApplied)]

/-- Events are applied when nobody knows them and no two are one. -/
theorem applied_iff : Applied db delivered ↔
    (delivered.map fun paid => paid.event.eventId).Nodup ∧
      ∀ paid ∈ delivered, (db.webhookEvents.lookup paid.event.eventId).isSome = false := by
  unfold Applied
  induction delivered generalizing db with
  | nil => simp
  | cons paid delivered ih =>
      simp only [history_cons, List.forall_mem_cons, Event.of_out, List.map_cons, List.nodup_cons,
        List.mem_map, not_exists, not_and]
      by_cases isApplied : (db.deliver paid).1 = true
      · have fresh := deliver_eq_true_iff.mp isApplied
        have lookup (id : String) : ((db.deliver paid).2.webhookEvents.lookup id).isSome = false ↔
            id ≠ paid.event.eventId ∧ (db.webhookEvents.lookup id).isSome = false := by
          rw [deliver_eq_pay isApplied, Db.webhookEvents_pay, Db.insertEvent,
            HashMap.lookup_insert_eq]
          split
          next same => simp [same]
          next other => simp [other]
        rw [ih]
        simp only [isApplied, fresh, lookup, true_and]
        constructor
        · rintro ⟨nodup, all⟩
          exact ⟨⟨fun other member => (all other member).1, nodup⟩,
            fun other member => (all other member).2⟩
        · rintro ⟨⟨others, nodup⟩, all⟩
          exact ⟨nodup, fun other member => ⟨others other member, all other member⟩⟩
      · refine iff_of_false (fun all => isApplied all.1) ?_
        rintro ⟨-, fresh, -⟩
        exact isApplied (deliver_eq_true_iff.mpr fresh)

theorem exec_deliver (applied : Applied db delivered) :
    exec Db.deliver db delivered = delivered.foldl Db.pay db := by
  induction delivered generalizing db with
  | nil => rfl
  | cons paid delivered ih =>
      have first := applied (Event.of Db.deliver db paid) (by simp)
      rw [exec_cons, List.foldl_cons, ← deliver_eq_pay first]
      exact ih fun e member => applied e (by simp [member])

end applied

/-! ## One licence -/

/-- What a change of the account makes of a licence that nobody else holds. -/
def Standing.after (licenseId : String) (standing : Option Standing) :
    EntitlementChange → Option Standing
  | .grant granted plan expiresAt =>
      if granted = licenseId then
        some { plan := plan.toNat, expiresAt := toSql expiresAt, revoked := false }
      else standing
  | .revokeAll => standing.map fun standing => { standing with revoked := true }

/-- Nobody but the account holds the licence. -/
def Db.FreeFor (db : Db) (accountId licenseId : String) : Prop :=
  ∀ row, db.licenses.lookup licenseId = some row → row.accountId = accountId

namespace Db
variable {db : Db} {paid : Paid} {accountId licenseId : String}

theorem revoke_eq (row : LicenseRow) (now : UInt64) :
    (LicenseRow.revoke row now).accountId = row.accountId ∧
      (LicenseRow.revoke row now).plan = row.plan ∧
      (LicenseRow.revoke row now).expiresAt = row.expiresAt ∧
      (LicenseRow.revoke row now).revokedAt.isSome = true := by
  unfold LicenseRow.revoke
  cases isRevoked : row.revokedAt with
  | none => exact ⟨rfl, rfl, rfl, rfl⟩
  | some revokedAt =>
      rw [if_neg (by simp)]
      exact ⟨rfl, rfl, rfl, by rw [isRevoked]; rfl⟩

theorem freeFor_pay (free : db.FreeFor accountId licenseId)
    (isAccount : paid.event.accountId = accountId) : (db.pay paid).FreeFor accountId licenseId := by
  intro row found
  cases change : paid.change with
  | grant granted plan expiresAt =>
      rw [lookup_pay_grant change] at found
      split at found
      next same =>
        cases found
        rw [holderAfter, ← same, isAccount]
        cases before : db.licenses.lookup licenseId with
        | none => rfl
        | some row => exact free row before
      next => exact free row found
  | revokeAll =>
      rw [lookup_pay_revokeAll change] at found
      obtain ⟨before, isBefore, rfl⟩ := Option.map_eq_some_iff.mp found
      split
      · rw [(revoke_eq before paid.now).1]
        exact free before isBefore
      · exact free before isBefore

theorem standing_of_freeFor (free : db.FreeFor accountId licenseId) :
    db.standing accountId licenseId = (db.licenses.lookup licenseId).map fun row =>
      { plan := row.plan, expiresAt := row.expiresAt, revoked := row.revokedAt.isSome } := by
  unfold standing
  cases found : db.licenses.lookup licenseId with
  | none => rfl
  | some row => simp [Option.filter, free row found]

theorem standing_pay (free : db.FreeFor accountId licenseId)
    (isAccount : paid.event.accountId = accountId) :
    (db.pay paid).standing accountId licenseId =
      Standing.after licenseId (db.standing accountId licenseId) paid.change := by
  rw [standing_of_freeFor (freeFor_pay free isAccount), standing_of_freeFor free]
  cases change : paid.change with
  | grant granted plan expiresAt =>
      rw [lookup_pay_grant change]
      by_cases same : licenseId = granted
      · simp [Standing.after, same]
      · simp [Standing.after, same, Ne.symm same]
  | revokeAll =>
      rw [lookup_pay_revokeAll change, Standing.after, Option.map_map, Option.map_map]
      cases found : db.licenses.lookup licenseId with
      | none => rfl
      | some row =>
          obtain ⟨-, plan, expiresAt, revoked⟩ := revoke_eq row paid.now
          simp [free row found, isAccount, plan, expiresAt, revoked]

/-- A licence of somebody else stays his. -/
theorem not_freeFor_pay (held : ¬ db.FreeFor accountId licenseId) :
    ¬ (db.pay paid).FreeFor accountId licenseId := by
  intro free
  refine held fun row found => ?_
  cases change : paid.change with
  | grant granted plan expiresAt =>
      by_cases same : licenseId = granted
      · have kept := free _ (by rw [lookup_pay_grant change, if_pos same])
        rw [holderAfter, ← same, found] at kept
        exact kept
      · exact free row (by rw [lookup_pay_grant change, if_neg same, found])
  | revokeAll =>
      have kept := free _ (by rw [lookup_pay_revokeAll change, found]; rfl)
      dsimp only at kept
      split at kept
      · rwa [(revoke_eq row paid.now).1] at kept
      · exact kept

theorem standing_of_not_freeFor (held : ¬ db.FreeFor accountId licenseId) :
    db.standing accountId licenseId = none := by
  unfold standing
  cases found : db.licenses.lookup licenseId with
  | none => rfl
  | some row =>
      have isOther : row.accountId ≠ accountId := by
        intro isAccount
        exact held fun row' found' => by rw [← Option.some.inj (found.symm.trans found'), isAccount]
      simp [Option.filter, isOther]

theorem not_freeFor_foldl {delivered : List Paid} (held : ¬ db.FreeFor accountId licenseId) :
    ¬ (delivered.foldl pay db).FreeFor accountId licenseId := by
  induction delivered generalizing db with
  | nil => exact held
  | cons paid delivered ih => exact ih (not_freeFor_pay held)

/-- A run of the account's events says of each licence what its changes say. -/
theorem standing_foldl {delivered : List Paid} (free : db.FreeFor accountId licenseId)
    (own : ∀ paid ∈ delivered, paid.event.accountId = accountId) :
    (delivered.foldl pay db).standing accountId licenseId =
      (delivered.map (·.change)).foldl (Standing.after licenseId)
        (db.standing accountId licenseId) := by
  induction delivered generalizing db with
  | nil => rfl
  | cons paid delivered ih =>
      have isAccount := own paid (by simp)
      rw [List.foldl_cons, List.map_cons, List.foldl_cons, ← standing_pay free isAccount]
      exact ih (freeFor_pay free isAccount) fun other member => own other (by simp [member])

end Db

/-! ## The last grant and what follows it -/

section order
variable {licenseId : String} {standing : Option Standing}

/-- The change grants the licence. -/
def EntitlementChange.Grants (licenseId : String) (change : EntitlementChange) : Prop :=
  ∃ plan expiresAt, change = .grant licenseId plan expiresAt

/-- Without a grant, a licence is as it was, and revoked if there was a cancellation. -/
theorem foldl_after_of_no_grant {changes : List EntitlementChange}
    (none : ∀ change ∈ changes, ¬ change.Grants licenseId) :
    changes.foldl (Standing.after licenseId) standing = standing.map fun standing =>
      { standing with revoked := standing.revoked || decide (.revokeAll ∈ changes) } := by
  induction changes generalizing standing with
  | nil => cases standing <;> simp
  | cons change changes ih =>
      rw [List.foldl_cons, ih fun other member => none other (by simp [member])]
      cases change with
      | grant granted plan expiresAt =>
          have isOther : granted ≠ licenseId := by
            rintro rfl
            exact none _ (by simp) ⟨plan, expiresAt, rfl⟩
          simp [Standing.after, isOther]
      | revokeAll => cases standing <;> simp [Standing.after]

/-- A grant wipes out what was before. -/
theorem foldl_after_of_grant {before after : List EntitlementChange} {plan : UInt8}
    {expiresAt : UInt64} (none : ∀ change ∈ after, ¬ change.Grants licenseId) :
    (before ++ .grant licenseId plan expiresAt :: after).foldl (Standing.after licenseId) standing =
      some { plan := plan.toNat, expiresAt := toSql expiresAt
             revoked := decide (.revokeAll ∈ after) } := by
  rw [List.foldl_append, List.foldl_cons, foldl_after_of_no_grant none]
  simp [Standing.after]

/-- Changes without a grant of the licence, or the last one and what comes after it. -/
theorem no_grant_or_last (delivered : List Paid) (licenseId : String) :
    (∀ paid ∈ delivered, ¬ paid.change.Grants licenseId) ∨
      ∃ before last after, delivered = before ++ last :: after ∧ last.change.Grants licenseId ∧
        ∀ later ∈ after, ¬ later.change.Grants licenseId := by
  induction delivered using List.reverseRecOn with
  | nil => exact .inl (by simp)
  | append_singleton delivered paid ih =>
      by_cases grants : paid.change.Grants licenseId
      · exact .inr ⟨delivered, paid, [], rfl, grants, by simp⟩
      · refine ih.imp (fun none => ?_) ?_
        · intro other member
          rcases List.mem_append.mp member with early | late
          · exact none other early
          · rw [List.mem_singleton.mp late]
            exact grants
        · rintro ⟨before, last, after, rfl, isGrant, none⟩
          refine ⟨before, last, after ++ [paid], by simp, isGrant, ?_⟩
          intro later member
          rcases List.mem_append.mp member with early | late
          · exact none later early
          · rw [List.mem_singleton.mp late]
            exact grants

end order

/-! ## Deliveries and times -/

/-- What a delivery tells, whenever it is applied. -/
def Paid.told (paid : Paid) : PaymentEvent × EntitlementChange := (paid.event, paid.change)

/-- The grant of the licence that is delivered last gives the terms of the grant with the greatest
time, and a cancellation comes after it if one has a greater time still. -/
def SettlesInTurn (delivered : List Paid) (licenseId : String) : Prop :=
  ∀ before last after newest plan expiresAt newestPlan newestExpiresAt,
    delivered = before ++ last :: after → last.change = .grant licenseId plan expiresAt →
    (∀ later ∈ after, ¬ later.change.Grants licenseId) →
    newest ∈ delivered → newest.change = .grant licenseId newestPlan newestExpiresAt →
    (∀ other ∈ delivered, other.change.Grants licenseId →
      other.event.eventTs ≤ newest.event.eventTs) →
    plan = newestPlan ∧ toSql expiresAt = toSql newestExpiresAt ∧
      ((∃ cancel ∈ after, cancel.change = .revokeAll) ↔
        ∃ cancel ∈ delivered, cancel.change = .revokeAll ∧
          newest.event.eventTs < cancel.event.eventTs)

section turns
variable {delivered inOrder : List Paid} {licenseId : String} {standing : Option Standing}

theorem mem_changes {change : EntitlementChange} :
    change ∈ delivered.map (·.change) ↔ ∃ paid ∈ delivered, paid.change = change :=
  List.mem_map

/-- Among grants of a licence there is one with the greatest time. -/
theorem exists_newest (delivered : List Paid) (licenseId : String)
    (granted : ∃ paid ∈ delivered, paid.change.Grants licenseId) :
    ∃ newest ∈ delivered, newest.change.Grants licenseId ∧
      ∀ other ∈ delivered, other.change.Grants licenseId →
        other.event.eventTs ≤ newest.event.eventTs := by
  classical
  obtain ⟨paid, member, grants⟩ := granted
  let grantsOf := delivered.toFinset.filter fun paid => paid.change.Grants licenseId
  obtain ⟨newest, isNewest, greatest⟩ :=
    grantsOf.exists_max_image (fun paid => paid.event.eventTs.toNat) ⟨paid, by simp [grantsOf, *]⟩
  obtain ⟨isMember, isGrant⟩ := Finset.mem_filter.mp isNewest
  refine ⟨newest, List.mem_toFinset.mp isMember, isGrant, fun other isOther otherGrants => ?_⟩
  exact UInt64.le_iff_toNat_le.mpr (greatest other (by simp [grantsOf, *]))

/-- What holds of the events of one delivery holds of those of another of the same events. -/
theorem exists_told (same : (inOrder.map Paid.told).Perm (delivered.map Paid.told)) {paid : Paid}
    (member : paid ∈ delivered) :
    ∃ twin ∈ inOrder, twin.event = paid.event ∧ twin.change = paid.change := by
  obtain ⟨twin, isMember, told⟩ :=
    List.mem_map.mp (same.mem_iff.mpr (List.mem_map_of_mem member))
  obtain ⟨event, change⟩ := Prod.mk.inj told
  exact ⟨twin, isMember, event, change⟩

theorem mem_change_iff (same : (inOrder.map Paid.told).Perm (delivered.map Paid.told))
    (change : EntitlementChange) :
    change ∈ inOrder.map (·.change) ↔ change ∈ delivered.map (·.change) := by
  rw [mem_changes, mem_changes]
  constructor
  · rintro ⟨paid, member, rfl⟩
    obtain ⟨twin, isMember, -, isChange⟩ := exists_told same.symm member
    exact ⟨twin, isMember, isChange⟩
  · rintro ⟨paid, member, rfl⟩
    obtain ⟨twin, isMember, -, isChange⟩ := exists_told same member
    exact ⟨twin, isMember, isChange⟩

/-- The standing after a delivery with a last grant of the licence. -/
theorem foldl_after_of_last {before after : List Paid} {last : Paid} {plan : UInt8}
    {expiresAt : UInt64} (isGrant : last.change = .grant licenseId plan expiresAt)
    (none : ∀ later ∈ after, ¬ later.change.Grants licenseId) :
    ((before ++ last :: after).map (·.change)).foldl (Standing.after licenseId) standing =
      some { plan := plan.toNat, expiresAt := toSql expiresAt
             revoked := decide (∃ cancel ∈ after, cancel.change = .revokeAll) } := by
  rw [List.map_append, List.map_cons, isGrant, foldl_after_of_grant]
  · simp only [mem_changes]
  · intro change member
    obtain ⟨later, isLater, rfl⟩ := mem_changes.mp member
    exact none later isLater

/-- The standing after a delivery in the order of times, from the grant with the greatest one. -/
theorem foldl_after_in_order (same : (inOrder.map Paid.told).Perm (delivered.map Paid.told))
    (sorted : inOrder.Pairwise fun a b => a.event.eventTs < b.event.eventTs) {newest : Paid}
    {plan : UInt8} {expiresAt : UInt64} (member : newest ∈ delivered)
    (isGrant : newest.change = .grant licenseId plan expiresAt)
    (greatest : ∀ other ∈ delivered, other.change.Grants licenseId →
      other.event.eventTs ≤ newest.event.eventTs) :
    (inOrder.map (·.change)).foldl (Standing.after licenseId) standing =
      some
        { plan := plan.toNat, expiresAt := toSql expiresAt
          revoked := decide (∃ cancel ∈ delivered, cancel.change = .revokeAll ∧
            newest.event.eventTs < cancel.event.eventTs) } := by
  obtain ⟨twin, isMember, event, change⟩ := exists_told same member
  obtain ⟨before, after, rfl⟩ := List.append_of_mem isMember
  obtain ⟨-, ordered, across⟩ := List.pairwise_append.mp sorted
  have isAfter := (List.pairwise_cons.mp ordered).1
  rw [foldl_after_of_last (change.trans isGrant)]
  · congr 2
    refine decide_eq_decide.mpr ⟨?_, ?_⟩
    · rintro ⟨cancel, late, isCancel⟩
      obtain ⟨other, isOther, otherEvent, otherChange⟩ :=
        exists_told same.symm (show cancel ∈ before ++ twin :: after by simp [late])
      refine ⟨other, isOther, otherChange.trans isCancel, ?_⟩
      rw [otherEvent, ← event]
      exact isAfter cancel late
    · rintro ⟨cancel, isDelivered, isCancel, later⟩
      obtain ⟨other, isOther, otherEvent, otherChange⟩ := exists_told same isDelivered
      rw [← otherEvent, ← event] at later
      rcases List.mem_append.mp isOther with early | late
      · exact absurd (across other early twin (by simp)) (UInt64.lt_asymm later)
      · rcases List.mem_cons.mp late with rfl | late
        · exact absurd later (UInt64.lt_irrefl _)
        · exact ⟨other, late, otherChange.trans isCancel⟩
  · intro later isLater grants
    obtain ⟨other, isOther, otherEvent, otherChange⟩ :=
      exists_told same.symm (show later ∈ before ++ twin :: after by simp [isLater])
    have le := greatest other isOther (by rwa [otherChange])
    rw [otherEvent, ← event] at le
    exact absurd (isAfter later isLater) (UInt64.not_lt.mpr le)

/-- A delivery leaves of a licence what the order of times does if it settles in turn. -/
theorem foldl_after_eq_iff (same : (inOrder.map Paid.told).Perm (delivered.map Paid.told))
    (sorted : inOrder.Pairwise fun a b => a.event.eventTs < b.event.eventTs) :
    (delivered.map (·.change)).foldl (Standing.after licenseId) standing =
        (inOrder.map (·.change)).foldl (Standing.after licenseId) standing ↔
      SettlesInTurn delivered licenseId := by
  constructor
  · rintro equal before last after newest plan expiresAt newestPlan newestExpiresAt rfl isGrant none
      member isNewest greatest
    rw [foldl_after_of_last isGrant none,
      foldl_after_in_order same sorted member isNewest greatest] at equal
    obtain ⟨planEq, expiresEq, revokedEq⟩ := Standing.mk.inj (Option.some.inj equal)
    refine ⟨UInt8.toNat_inj.mp (by exact_mod_cast planEq), expiresEq, ?_⟩
    exact decide_eq_decide.mp revokedEq
  · intro settles
    rcases no_grant_or_last delivered licenseId with
      none | ⟨before, last, after, isSplit, grants, none⟩
    · have none' (change : EntitlementChange) (member : change ∈ delivered.map (·.change)) :
          ¬ change.Grants licenseId := by
        obtain ⟨paid, isMember, rfl⟩ := mem_changes.mp member
        exact none paid isMember
      rw [foldl_after_of_no_grant none',
        foldl_after_of_no_grant fun change member =>
          none' change ((mem_change_iff same change).mp member)]
      simp only [mem_change_iff same]
    · obtain ⟨newest, member, isNewest, greatest⟩ := exists_newest delivered licenseId
        ⟨last, by simp [isSplit], grants⟩
      obtain ⟨plan, expiresAt, isGrant⟩ := grants
      obtain ⟨newestPlan, newestExpiresAt, isNewestGrant⟩ := isNewest
      obtain ⟨rfl, expiresEq, revokedIff⟩ := settles before last after newest plan expiresAt
        newestPlan newestExpiresAt isSplit isGrant none member isNewestGrant greatest
      rw [foldl_after_in_order same sorted member isNewestGrant greatest, ← expiresEq,
        ← decide_eq_decide.mpr revokedIff]
      conv_lhs => rw [isSplit]
      exact foldl_after_of_last isGrant none

end turns

/-- What a delivery of an account's events leaves of its licences is what the order of their times
does exactly when every licence that nobody else holds settles in turn. -/
theorem settles_in_turn_iff {db : Db} {accountId : String} {delivered inOrder : List Paid}
    (own : ∀ paid ∈ delivered, paid.event.accountId = accountId)
    (applied : Applied db delivered) (appliedInOrder : Applied db inOrder)
    (same : (inOrder.map Paid.told).Perm (delivered.map Paid.told))
    (sorted : inOrder.Pairwise fun a b => a.event.eventTs < b.event.eventTs) :
    (∀ licenseId, (exec Db.deliver db delivered).standing accountId licenseId =
        (exec Db.deliver db inOrder).standing accountId licenseId) ↔
      ∀ licenseId, db.FreeFor accountId licenseId → SettlesInTurn delivered licenseId := by
  have ownInOrder : ∀ paid ∈ inOrder, paid.event.accountId = accountId := by
    intro paid member
    obtain ⟨twin, isMember, event, -⟩ := exists_told same.symm member
    rw [← event]
    exact own twin isMember
  rw [exec_deliver applied, exec_deliver appliedInOrder]
  refine forall_congr' fun licenseId => ?_
  by_cases free : db.FreeFor accountId licenseId
  · rw [Db.standing_foldl free own, Db.standing_foldl free ownInOrder, forall_prop_of_true free]
    exact foldl_after_eq_iff same sorted
  · rw [Db.standing_of_not_freeFor (Db.not_freeFor_foldl free),
      Db.standing_of_not_freeFor (Db.not_freeFor_foldl free)]
    exact iff_of_true rfl fun isFree => absurd isFree free

/-- The first payment of a licence. -/
def Paid.firstPayment : Paid where
  event :=
    { eventId := "e", eventTs := 1, accountId := "a", kind := "subscription.active"
      licenseId := some "l", plan := some 1, expiresAt := some 9 }
  change := .grant "l" 1 9
  now := 3

/-- The account is cancelled after that. -/
def Paid.cancellation : Paid where
  event :=
    { eventId := "c", eventTs := 2, accountId := "a", kind := "subscription.cancelled"
      licenseId := none, plan := none, expiresAt := none }
  change := .revokeAll
  now := 3

/-- The account pays for the licence again after that. -/
def Paid.renewal : Paid where
  event :=
    { eventId := "r", eventTs := 3, accountId := "a", kind := "subscription.active"
      licenseId := some "l", plan := some 2, expiresAt := some 20 }
  change := .grant "l" 2 20
  now := 3

/-- The first payment comes in after the cancellation, and the renewal settles it. -/
theorem renewed_in_turn :
    let delivered := [Paid.cancellation, Paid.firstPayment, Paid.renewal]
    ∀ licenseId, Db.FreeFor {} "a" licenseId → SettlesInTurn delivered licenseId :=
  have applied : Applied {} [Paid.cancellation, Paid.firstPayment, Paid.renewal] :=
    applied_iff.mpr (by decide)
  have appliedInOrder : Applied {} [Paid.firstPayment, Paid.cancellation, Paid.renewal] :=
    applied_iff.mpr (by decide)
  (settles_in_turn_iff (by decide) applied appliedInOrder (.swap ..) (by decide)).mp fun _ => rfl

/-- A payment that is delivered after the cancellation brings the licence back. -/
theorem late_payment_revives :
    ¬ ∀ (accountId : String) (delivered inOrder : List Paid),
      (∀ paid ∈ delivered, paid.event.accountId = accountId ∧ paid.event.change = .ok paid.change) →
      Applied {} delivered → Applied {} inOrder →
      (inOrder.map Paid.told).Perm (delivered.map Paid.told) →
      (inOrder.Pairwise fun a b => a.event.eventTs < b.event.eventTs) →
      ∀ licenseId, (exec Db.deliver {} delivered).standing accountId licenseId =
        (exec Db.deliver {} inOrder).standing accountId licenseId := by
  intro always
  have agree := always "a" [Paid.cancellation, Paid.firstPayment]
    [Paid.firstPayment, Paid.cancellation] (by decide) (applied_iff.mpr (by decide))
    (applied_iff.mpr (by decide)) (List.Perm.swap _ _ _) (by decide) "l"
  exact absurd agree (by decide)

end Lumepeer.Broker
