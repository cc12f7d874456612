import Lumepeer.Broker.Proofs.Deliveries

/-!
# Accounts apart

A grant is written to the row that its licence id names, whoever the row belongs to,
and an event id is taken by whoever used it first. This module says what the events of
other accounts may be for an account not to notice them.
-/

namespace Lumepeer.Broker
open Lumepeer.Lib Lumepeer.Core

/-- What is left of a delivery without the events of other accounts. -/
def ownOf (accountId : String) (delivered : List Paid) : List Paid :=
  delivered.filter fun paid => paid.event.accountId = accountId

/-- The database after a delivery, from an empty one. -/
def Db.after (delivered : List Paid) : Db := exec Db.deliver {} delivered

/-- No event before has this one's id. -/
def Fresh (before : List Paid) (paid : Paid) : Prop :=
  ∀ earlier ∈ before, earlier.event.eventId ≠ paid.event.eventId

/-- The next event keeps the account apart from the others. -/
structure Separate (accountId : String) (before : List Paid) (paid : Paid) : Prop where
  /-- A grant for somebody else gives a licence of the account nothing but what it has. -/
  others : paid.event.accountId ≠ accountId → Fresh before paid → ∀ licenseId standing,
    paid.change.Grants licenseId → (Db.after before).standing accountId licenseId = some standing →
    Standing.after licenseId (some standing) paid.change = some standing
  /-- A grant for the account is of no licence that somebody else has. -/
  free : paid.event.accountId = accountId → Fresh before paid → ∀ licenseId,
    paid.change.Grants licenseId → (Db.after before).FreeFor accountId licenseId
  /-- An event of the account that has the id of somebody else's would change nothing. -/
  taken : paid.event.accountId = accountId → ¬ Fresh before paid →
    Fresh (ownOf accountId before) paid → ∀ licenseId,
    Standing.after licenseId ((Db.after before).standing accountId licenseId) paid.change =
      (Db.after before).standing accountId licenseId

/-! ## The row of a licence -/

namespace Db
variable {db : Db} {paid : Paid} {accountId licenseId : String} {row : LicenseRow}

/-- The row of the licence, if it is the account's. -/
def rowOf (db : Db) (accountId licenseId : String) : Option LicenseRow :=
  (db.licenses.lookup licenseId).filter fun row => row.accountId = accountId

theorem rowOf_eq_some : db.rowOf accountId licenseId = some row ↔
    db.licenses.lookup licenseId = some row ∧ row.accountId = accountId := by
  simp [rowOf, Option.filter_eq_some_iff]

theorem standing_eq : db.standing accountId licenseId =
    (db.rowOf accountId licenseId).map fun row =>
      { plan := row.plan, expiresAt := row.expiresAt, revoked := row.revokedAt.isSome } := rfl

theorem freeFor_iff : db.FreeFor accountId licenseId ↔
    db.licenses.lookup licenseId = db.rowOf accountId licenseId := by
  unfold FreeFor rowOf
  cases found : db.licenses.lookup licenseId with
  | none => simp
  | some row => by_cases own : row.accountId = accountId <;> simp [Option.filter, own]

/-- A row keeps its account, and a new one gets that of the event. -/
theorem account_pay (found : (db.pay paid).licenses.lookup licenseId = some row) :
    (∃ before, db.licenses.lookup licenseId = some before ∧ row.accountId = before.accountId) ∨
      db.licenses.lookup licenseId = none ∧ row.accountId = paid.event.accountId := by
  cases change : paid.change with
  | grant granted plan expiresAt =>
      rw [lookup_pay_grant change] at found
      split at found
      next same =>
        cases found
        rw [holderAfter, ← same]
        cases db.licenses.lookup licenseId with
        | none => exact .inr ⟨rfl, rfl⟩
        | some before => exact .inl ⟨before, rfl, rfl⟩
      next => exact .inl ⟨row, found, rfl⟩
  | revokeAll =>
      rw [lookup_pay_revokeAll change] at found
      obtain ⟨before, isBefore, rfl⟩ := Option.map_eq_some_iff.mp found
      refine .inl ⟨before, isBefore, ?_⟩
      split
      · exact (revoke_eq before paid.now).1
      · rfl

/-- A change that makes no difference to what a licence is worth makes none to its row. -/
theorem lookup_pay_of_settled (free : db.FreeFor accountId licenseId)
    (settled : Standing.after licenseId (db.standing accountId licenseId) paid.change =
      db.standing accountId licenseId) :
    (db.pay paid).licenses.lookup licenseId = db.licenses.lookup licenseId := by
  rw [standing_of_freeFor free] at settled
  cases change : paid.change with
  | grant granted plan expiresAt =>
      rw [lookup_pay_grant change]
      split
      next same =>
        subst same
        rw [change, Standing.after, if_pos rfl] at settled
        obtain ⟨row, found, isStanding⟩ := Option.map_eq_some_iff.mp settled.symm
        obtain ⟨planEq, expiresEq, notRevoked⟩ := Standing.mk.inj isStanding
        have revokedAt : row.revokedAt = none := by simpa using notRevoked
        simp [holderAfter, found, ← planEq, ← expiresEq, ← revokedAt]
      next => rfl
  | revokeAll =>
      rw [lookup_pay_revokeAll change]
      cases found : db.licenses.lookup licenseId with
      | none => rfl
      | some row =>
          rw [change, found] at settled
          have revoked : row.revokedAt.isSome = true :=
            (Standing.mk.inj (Option.some.inj settled)).2.2.symm
          have kept : LicenseRow.revoke row paid.now = row := by
            rw [LicenseRow.revoke, if_neg (by simpa [Option.isSome_iff_ne_none] using revoked)]
          rw [Option.map_some, kept, ite_self]

/-- A change for another account leaves the row alone if it does not grant the licence. -/
theorem lookup_pay_of_other (found : db.licenses.lookup licenseId = some row)
    (isOther : row.accountId ≠ paid.event.accountId) (none : ¬ paid.change.Grants licenseId) :
    (db.pay paid).licenses.lookup licenseId = some row := by
  cases change : paid.change with
  | grant granted plan expiresAt =>
      rw [lookup_pay_grant change, if_neg, found]
      rintro rfl
      exact none ⟨plan, expiresAt, change⟩
  | revokeAll => rw [lookup_pay_revokeAll change, found, Option.map_some, if_neg isOther]

/-- A grant of a licence that the account has says what it is worth. -/
theorem standing_pay_of_held (free : db.FreeFor accountId licenseId)
    (found : (db.licenses.lookup licenseId).isSome = true) (grants : paid.change.Grants licenseId) :
    (db.pay paid).standing accountId licenseId =
      Standing.after licenseId (db.standing accountId licenseId) paid.change := by
  obtain ⟨plan, expiresAt, change⟩ := grants
  obtain ⟨row, isRow⟩ := Option.isSome_iff_exists.mp found
  rw [standing_eq, rowOf, lookup_pay_grant change, if_pos rfl, change, Standing.after, if_pos rfl]
  simp [holderAfter, isRow, free row isRow, Option.filter]

/-- What the events of other accounts leave of a row of the account. -/
theorem rowOf_pay_of_other (isOther : paid.event.accountId ≠ accountId)
    (settled : ∀ standing, paid.change.Grants licenseId →
      db.standing accountId licenseId = some standing →
      Standing.after licenseId (some standing) paid.change = some standing) :
    (db.pay paid).rowOf accountId licenseId = db.rowOf accountId licenseId := by
  cases own : db.rowOf accountId licenseId with
  | none =>
      rw [Option.eq_none_iff_forall_ne_some]
      intro row isRow
      obtain ⟨found, isAccount⟩ := rowOf_eq_some.mp isRow
      rcases account_pay found with ⟨before, isBefore, same⟩ | ⟨-, same⟩
      · have isOwn := rowOf_eq_some.mpr ⟨isBefore, same.symm.trans isAccount⟩
        rw [own] at isOwn
        cases isOwn
      · exact isOther (same.symm.trans isAccount)
  | some row =>
      obtain ⟨found, isAccount⟩ := rowOf_eq_some.mp own
      refine rowOf_eq_some.mpr ⟨?_, isAccount⟩
      by_cases grants : paid.change.Grants licenseId
      · have free : db.FreeFor accountId licenseId := freeFor_iff.mpr (found.trans own.symm)
        have stands : db.standing accountId licenseId = _ := congrArg (Option.map _) own
        rw [lookup_pay_of_settled free, found]
        rw [stands]
        exact settled _ grants stands
      · exact lookup_pay_of_other found (by rw [isAccount]; exact isOther.symm) grants

/-- What the account's own events make of a row is the same where nobody else has rows. -/
theorem rowOf_pay_of_own {alone : Db} (own : paid.event.accountId = accountId)
    (mirrors : ∀ licenseId, alone.licenses.lookup licenseId = db.rowOf accountId licenseId)
    (free : ∀ licenseId, paid.change.Grants licenseId → db.FreeFor accountId licenseId) :
    (alone.pay paid).licenses.lookup licenseId = (db.pay paid).rowOf accountId licenseId := by
  cases change : paid.change with
  | grant granted plan expiresAt =>
      by_cases same : licenseId = granted
      · subst same
        have isFree := free licenseId ⟨plan, expiresAt, change⟩
        have found : alone.licenses.lookup licenseId = db.licenses.lookup licenseId := by
          rw [mirrors licenseId, freeFor_iff.mp isFree]
        rw [← freeFor_iff.mp (freeFor_pay isFree own), lookup_pay_grant change,
          lookup_pay_grant change, holderAfter, holderAfter, found]
      · rw [rowOf, lookup_pay_grant change, lookup_pay_grant change, if_neg same, if_neg same,
          mirrors licenseId, rowOf]
  | revokeAll =>
      rw [rowOf, lookup_pay_revokeAll change, lookup_pay_revokeAll change, mirrors licenseId, rowOf]
      cases db.licenses.lookup licenseId with
      | none => rfl
      | some row =>
          by_cases isOwn : row.accountId = accountId
          · simp [Option.filter, isOwn, own, (revoke_eq row paid.now).1]
          · simp [Option.filter, isOwn, own]

theorem deliver_of_known (known : (db.webhookEvents.lookup paid.event.eventId).isSome = true) :
    (db.deliver paid).2 = db := by
  unfold deliver applyWebhook
  rw [if_pos known]

theorem deliver_of_new (new : (db.webhookEvents.lookup paid.event.eventId).isSome = false) :
    (db.deliver paid).2 = db.pay paid :=
  deliver_eq_pay (deliver_eq_true_iff.mpr new)

end Db

/-! ## Two databases -/

section two
variable {accountId : String} {before : List Paid} {paid : Paid}

theorem after_concat (before : List Paid) (paid : Paid) :
    Db.after (before ++ [paid]) = ((Db.after before).deliver paid).2 := by
  unfold Db.after
  rw [exec_concat]

/-- The ids that a delivery leaves behind are those of its events. -/
theorem known_iff (before : List Paid) (id : String) :
    ((Db.after before).webhookEvents.lookup id).isSome = true ↔
      ∃ earlier ∈ before, earlier.event.eventId = id := by
  induction before using List.reverseRecOn with
  | nil => simp [Db.after]
  | append_singleton before paid ih =>
      rw [after_concat]
      simp only [List.mem_append, List.mem_singleton, or_and_right, exists_or, exists_eq_left]
      rw [← ih]
      cases isKnown : ((Db.after before).webhookEvents.lookup paid.event.eventId).isSome with
      | true =>
          rw [Db.deliver_of_known isKnown]
          refine (or_iff_left_of_imp ?_).symm
          rintro rfl
          exact isKnown
      | false =>
          rw [Db.deliver_of_new isKnown, Db.webhookEvents_pay, Db.insertEvent,
            HashMap.lookup_insert_eq]
          split
          next same => simp [same]
          next other => simp [Ne.symm other]

theorem new_iff (before : List Paid) (paid : Paid) :
    ((Db.after before).webhookEvents.lookup paid.event.eventId).isSome = false ↔
      Fresh before paid := by
  rw [← Bool.not_eq_true, known_iff]
  simp [Fresh]

theorem after_concat_of_fresh (fresh : Fresh before paid) :
    Db.after (before ++ [paid]) = (Db.after before).pay paid := by
  rw [after_concat, Db.deliver_of_new ((new_iff before paid).mpr fresh)]

theorem after_concat_of_not_fresh (known : ¬ Fresh before paid) :
    Db.after (before ++ [paid]) = Db.after before := by
  rw [after_concat, Db.deliver_of_known]
  rwa [← Bool.not_eq_false, new_iff]

theorem ownOf_concat_of_own (own : paid.event.accountId = accountId) :
    ownOf accountId (before ++ [paid]) = ownOf accountId before ++ [paid] := by
  simp [ownOf, own]

theorem ownOf_concat_of_other (isOther : paid.event.accountId ≠ accountId) :
    ownOf accountId (before ++ [paid]) = ownOf accountId before := by
  simp [ownOf, isOther]

theorem fresh_ownOf (fresh : Fresh before paid) : Fresh (ownOf accountId before) paid :=
  fun earlier member => fresh earlier (List.mem_of_mem_filter member)

/-- The licences of the account are all that there is without the other accounts. -/
def Mirrors (accountId : String) (before : List Paid) : Prop :=
  ∀ licenseId, (Db.after (ownOf accountId before)).licenses.lookup licenseId =
    (Db.after before).rowOf accountId licenseId

/-- The account sees no difference. -/
def Alike (accountId : String) (before : List Paid) : Prop :=
  ∀ licenseId, (Db.after before).standing accountId licenseId =
    (Db.after (ownOf accountId before)).standing accountId licenseId

theorem alike_of_mirrors (mirrors : Mirrors accountId before) : Alike accountId before := by
  intro licenseId
  rw [Db.standing_eq, Db.standing_eq, Db.rowOf, Db.rowOf, mirrors licenseId, Db.rowOf]
  simp [Option.filter_filter]

theorem Mirrors.freeFor (mirrors : Mirrors accountId before) (licenseId : String) :
    (Db.after (ownOf accountId before)).FreeFor accountId licenseId := by
  intro row found
  rw [mirrors licenseId] at found
  exact (Db.rowOf_eq_some.mp found).2

/-- An event that keeps the account apart leaves it a mirror of itself. -/
theorem Mirrors.concat (mirrors : Mirrors accountId before)
    (separate : Separate accountId before paid) : Mirrors accountId (before ++ [paid]) := by
  intro licenseId
  by_cases own : paid.event.accountId = accountId
  · rw [ownOf_concat_of_own own]
    by_cases fresh : Fresh before paid
    · rw [after_concat_of_fresh fresh, after_concat_of_fresh (fresh_ownOf fresh)]
      exact Db.rowOf_pay_of_own own mirrors (separate.free own fresh)
    · rw [after_concat_of_not_fresh fresh]
      by_cases ownFresh : Fresh (ownOf accountId before) paid
      · have settled := separate.taken own fresh ownFresh licenseId
        rw [alike_of_mirrors mirrors licenseId] at settled
        rw [after_concat_of_fresh ownFresh,
          Db.lookup_pay_of_settled (mirrors.freeFor licenseId) settled]
        exact mirrors licenseId
      · rw [after_concat_of_not_fresh ownFresh]
        exact mirrors licenseId
  · rw [ownOf_concat_of_other own]
    by_cases fresh : Fresh before paid
    · rw [after_concat_of_fresh fresh,
        Db.rowOf_pay_of_other own (separate.others own fresh licenseId)]
      exact mirrors licenseId
    · rw [after_concat_of_not_fresh fresh]
      exact mirrors licenseId

/-- An event after which the account sees no difference keeps it apart. -/
theorem Mirrors.separate (mirrors : Mirrors accountId before)
    (alike : Alike accountId (before ++ [paid])) : Separate accountId before paid where
  others := by
    intro isOther fresh licenseId standing grants stands
    have equal := alike licenseId
    rw [ownOf_concat_of_other isOther, after_concat_of_fresh fresh,
      ← alike_of_mirrors mirrors licenseId] at equal
    obtain ⟨row, isRow, -⟩ := Option.map_eq_some_iff.mp stands
    obtain ⟨found, -⟩ := Db.rowOf_eq_some.mp isRow
    have free := Db.freeFor_iff.mpr (found.trans isRow.symm)
    rw [← stands, ← Db.standing_pay_of_held free (by rw [found]; rfl) grants]
    exact equal
  free := by
    intro own fresh licenseId grants
    by_contra held
    have equal := alike licenseId
    rw [ownOf_concat_of_own own, after_concat_of_fresh fresh,
      after_concat_of_fresh (fresh_ownOf fresh),
      Db.standing_of_not_freeFor (Db.not_freeFor_pay held),
      Db.standing_pay (mirrors.freeFor licenseId) own] at equal
    obtain ⟨plan, expiresAt, change⟩ := grants
    rw [change, Standing.after, if_pos rfl] at equal
    cases equal
  taken := by
    intro own known ownFresh licenseId
    have equal := alike licenseId
    rw [ownOf_concat_of_own own, after_concat_of_not_fresh known, after_concat_of_fresh ownFresh,
      Db.standing_pay (mirrors.freeFor licenseId) own,
      ← alike_of_mirrors mirrors licenseId] at equal
    exact equal.symm

/-- A delivery whose every event keeps the account apart. -/
def KeptApart (accountId : String) (delivered : List Paid) : Prop :=
  ∀ before paid, before ++ [paid] <+: delivered → Separate accountId before paid

theorem KeptApart.mirrors (apart : KeptApart accountId before) : Mirrors accountId before := by
  induction before using List.reverseRecOn with
  | nil => exact fun licenseId => rfl
  | append_singleton before paid ih =>
      have mirrors := ih fun earlier other isBefore =>
        apart earlier other (isBefore.trans (List.prefix_append _ _))
      exact mirrors.concat (apart before paid (List.prefix_refl _))

theorem KeptApart.of_prefix {delivered : List Paid} (apart : KeptApart accountId delivered)
    (isPrefix : before <+: delivered) : KeptApart accountId before :=
  fun earlier paid isBefore => apart earlier paid (isBefore.trans isPrefix)

theorem keptApart_iff {delivered : List Paid} :
    (∀ before, before <+: delivered → Alike accountId before) ↔ KeptApart accountId delivered := by
  constructor
  · intro alike
    induction delivered using List.reverseRecOn with
    | nil =>
        intro before paid isPrefix
        exact absurd (List.prefix_nil.mp isPrefix) (by simp)
    | append_singleton delivered paid ih =>
        have apart := ih fun before isPrefix =>
          alike before (isPrefix.trans (List.prefix_append _ _))
        intro before other isPrefix
        rcases List.prefix_concat_iff.mp isPrefix with isLast | isEarlier
        · obtain ⟨rfl, same⟩ := List.append_inj' isLast rfl
          cases same
          exact apart.mirrors.separate (alike _ (List.prefix_refl _))
        · exact apart before other isEarlier
  · intro apart before isPrefix
    exact alike_of_mirrors (apart.of_prefix isPrefix).mirrors

end two

/-! ## The licence that the account has -/

section active
variable {accountId : String} {before : List Paid}

theorem Db.mem_selectWhere {V : Type} {table : HashMap String V} {holds : V → Bool} {id : String}
    {row : V} : (id, row) ∈ selectWhere table holds ↔
      table.lookup id = some row ∧ holds row = true := by
  unfold selectWhere
  rw [List.mem_map]
  constructor
  · rintro ⟨⟨id, row⟩, member, isRow⟩
    cases isRow
    obtain ⟨entry, isSelected⟩ := List.mem_filter.mp member
    exact ⟨AList.mem_lookup_iff.mpr entry, isSelected⟩
  · rintro ⟨found, isSelected⟩
    exact ⟨⟨id, row⟩, List.mem_filter.mpr ⟨AList.mem_lookup_iff.mp found, isSelected⟩, rfl⟩

theorem Db.nodup_selectWhere {V : Type} (table : HashMap String V) (holds : V → Bool) :
    (selectWhere table holds).Nodup := by
  unfold selectWhere
  refine List.Nodup.map ?_ (table.nodupKeys.nodup.filter _)
  rintro ⟨id, row⟩ ⟨id', row'⟩ same
  cases same
  rfl

/-- Rows whose places differ are put in one order, whichever order they are found in. -/
theorem Db.orderByDesc_eq_of_perm {V : Type} {visited : String → Nat} {key : V → Int}
    {rows rows' : List (String × V)} (perm : rows.Perm rows')
    (distinct : ∀ a ∈ rows, ∀ b ∈ rows, visited a.1 = visited b.1 → a = b) :
    orderByDesc visited key rows = orderByDesc visited key rows' := by
  let comes (a b : String × V) : Prop :=
    key b.2 < key a.2 ∨ key a.2 = key b.2 ∧ visited a.1 ≤ visited b.1
  have total : Std.Total comes := ⟨fun a b => by simp only [comes]; omega⟩
  have transitive : IsTrans (String × V) comes := ⟨fun a b c => by simp only [comes]; omega⟩
  refine List.Perm.eq_of_pairwise ?_ (List.pairwise_insertionSort comes rows)
    (List.pairwise_insertionSort comes rows')
    (((List.perm_insertionSort _ _).trans perm).trans (List.perm_insertionSort _ _).symm)
  intro a b isRow isRow' le ge
  have mem := (List.mem_insertionSort _).mp isRow
  have mem' := perm.mem_iff.mpr ((List.mem_insertionSort _).mp isRow')
  refine distinct a mem b mem' ?_
  simp only [comes] at le ge
  omega

/-- A mirror of itself has the licence in force that the account has. -/
theorem Mirrors.activeLicense (mirrors : Mirrors accountId before) {visited : String → Nat}
    (distinct : Set.InjOn visited
      {licenseId | ((Db.after before).standing accountId licenseId).isSome}) (now : UInt64) :
    (Db.after before).activeLicenseForAccount visited accountId now =
      (Db.after (ownOf accountId before)).activeLicenseForAccount visited accountId now := by
  unfold Db.activeLicenseForAccount
  dsimp only
  rw [Db.orderByDesc_eq_of_perm]
  · refine (List.perm_ext_iff_of_nodup (Db.nodup_selectWhere _ _) (Db.nodup_selectWhere _ _)).mpr ?_
    rintro ⟨id, row⟩
    rw [Db.mem_selectWhere, Db.mem_selectWhere, mirrors id, Db.rowOf_eq_some]
    simp only [Bool.and_eq_true, decide_eq_true_eq]
    tauto
  · rintro ⟨id, row⟩ isRow ⟨id', row'⟩ isRow' same
    obtain ⟨found, isOwn⟩ := Db.mem_selectWhere.mp isRow
    obtain ⟨found', isOwn'⟩ := Db.mem_selectWhere.mp isRow'
    simp only [Bool.and_eq_true, decide_eq_true_eq] at isOwn isOwn'
    have stands : ((Db.after before).standing accountId id).isSome := by
      rw [Db.standing_eq, Db.rowOf_eq_some.mpr ⟨found, isOwn.1.1⟩]
      rfl
    have stands' : ((Db.after before).standing accountId id').isSome := by
      rw [Db.standing_eq, Db.rowOf_eq_some.mpr ⟨found', isOwn'.1.1⟩]
      rfl
    obtain rfl := distinct stands stands' same
    rw [Option.some.inj (found.symm.trans found')]

end active

/-- Whatever was delivered, the events of other accounts never made a difference to the licences of
an account exactly when every event kept it apart; and then they make none to the licence that the
account has in force. -/
theorem accounts_apart_iff (accountId : String) (delivered : List Paid) :
    ((∀ before, before <+: delivered → Alike accountId before) ↔ KeptApart accountId delivered) ∧
      (KeptApart accountId delivered → ∀ visited : String → Nat,
        Set.InjOn visited
          {licenseId | ((Db.after delivered).standing accountId licenseId).isSome} → ∀ now,
        (Db.after delivered).activeLicenseForAccount visited accountId now =
          (Db.after (ownOf accountId delivered)).activeLicenseForAccount visited accountId now) :=
  ⟨keptApart_iff, fun apart _ distinct now => apart.mirrors.activeLicense distinct now⟩

/-- Somebody else pays for a licence of his own. -/
def Paid.neighbour : Paid where
  event :=
    { eventId := "n", eventTs := 2, accountId := "b", kind := "subscription.active"
      licenseId := some "m", plan := some 2, expiresAt := some 7 }
  change := .grant "m" 2 7
  now := 3

theorem keptApart_neighbour : KeptApart "a" [Paid.firstPayment, Paid.neighbour] := by
  intro before paid isPrefix
  have length := isPrefix.length_le
  match before with
  | [] =>
      obtain ⟨rfl, -⟩ := List.cons_prefix_cons.mp isPrefix
      exact
        { others := fun isOther => absurd rfl isOther
          free := by
            intro _ _ licenseId _ row found
            cases found
          taken := fun _ known => absurd (by simp [Fresh]) known }
  | [first] =>
      obtain ⟨rfl, rest⟩ := List.cons_prefix_cons.mp isPrefix
      obtain ⟨rfl, -⟩ := List.cons_prefix_cons.mp rest
      refine { others := ?_, free := ?_, taken := ?_ }
      · rintro - - licenseId standing ⟨plan, expiresAt, grants⟩ stands
        cases grants
        exact absurd stands (by decide +revert)
      · intro own
        exact absurd own (by decide)
      · intro own
        exact absurd own (by decide)
  | _ :: _ :: _ => simp at length

theorem standing_neighbour {licenseId : String}
    (stands : ((Db.after [Paid.firstPayment, Paid.neighbour]).standing "a" licenseId).isSome) :
    licenseId = "l" := by
  obtain ⟨standing, isStanding⟩ := Option.isSome_iff_exists.mp stands
  obtain ⟨row, isRow, -⟩ := Option.map_eq_some_iff.mp isStanding
  obtain ⟨found, isOwn⟩ := Db.rowOf_eq_some.mp isRow
  have member : ⟨licenseId, row⟩ ∈ ([⟨"m", ⟨"b", 2, 7, none, 3⟩⟩, ⟨"l", ⟨"a", 1, 9, none, 3⟩⟩] :
      List (Sigma fun _ : String => LicenseRow)) := AList.mem_lookup_iff.mp found
  rcases List.mem_cons.mp member with same | member
  · cases same
    exact absurd isOwn (by decide)
  · cases List.mem_singleton.mp member
    rfl

/-- Two accounts that each pay for a licence make no difference to each other. -/
theorem neighbours_apart :
    let delivered := [Paid.firstPayment, Paid.neighbour]
    (∀ before, before <+: delivered → Alike "a" before) ∧
      (Db.after delivered).activeLicenseForAccount String.length "a" 5 =
        (Db.after (ownOf "a" delivered)).activeLicenseForAccount String.length "a" 5 :=
  have apart := accounts_apart_iff "a" [Paid.firstPayment, Paid.neighbour]
  ⟨apart.1.mpr keptApart_neighbour, apart.2 keptApart_neighbour String.length
    (fun _ stands _ stands' _ =>
      (standing_neighbour stands).trans (standing_neighbour stands').symm) 5⟩

/-- Somebody else pays for the licence of the account. -/
def Paid.intrusion : Paid where
  event :=
    { eventId := "i", eventTs := 2, accountId := "b", kind := "subscription.active"
      licenseId := some "l", plan := some 0, expiresAt := some 4 }
  change := .grant "l" 0 4
  now := 3

/-- A payment of another account cuts the licence short. -/
theorem intrusion_cuts_short :
    ¬ ∀ (accountId : String) (delivered : List Paid),
      (∀ paid ∈ delivered, paid.event.change = .ok paid.change) →
      Alike accountId delivered ∧ ∀ (visited : String → Nat) (now : UInt64),
        (Db.after delivered).activeLicenseForAccount visited accountId now =
          (Db.after (ownOf accountId delivered)).activeLicenseForAccount visited accountId now := by
  intro always
  have same := (always "a" [Paid.firstPayment, Paid.intrusion] (by decide)).1 "l"
  exact absurd same (by decide)

end Lumepeer.Broker
