import Lumepeer.Lib.Lease
import Lumepeer.Lib.Run
import Lumepeer.Net.Ticket

/-!
# Runs of the ticket registry

To each invite id its registration is a lease: it opens when the id is
registered and ends when all invites are retired or somebody presents the id
with a passed expiry. `state_eq_live_iff` says that the registry holds an id as
live exactly while that lease stands, whatever the clock does between calls.
-/

namespace Lumepeer.Net
open Lumepeer.Lib

namespace TicketRegistry

/-- A call on a registry; a claim with the reading of the wall clock it is made at. -/
inductive RegistryCall where
  | register (ticket : InviteTicket)
  | retireAll
  | claim (ticket : InviteTicket) (now : UInt64)
  deriving DecidableEq

/-- One call: what a claim answers and the registry after the call. -/
def registryStep (registry : TicketRegistry) :
    RegistryCall → Option (Except NetError Unit) × TicketRegistry
  | .register ticket => (none, registry.register ticket)
  | .retireAll => (none, registry.retireAll)
  | .claim ticket now =>
      let (answer, after) := registry.claim ticket now
      (some answer, after)

/-- The registry after a run. -/
def registryAfter (calls : List RegistryCall) : TicketRegistry := exec registryStep new calls

/-- The call registers the invite. -/
def Registers (inviteId : Bytes inviteIdBytes) : RegistryCall → Prop
  | .register ticket => ticket.inviteId = inviteId
  | _ => False

/-- The call withdraws the invite: all are retired, or it is presented with a passed expiry. -/
def Withdraws (inviteId : Bytes inviteIdBytes) : RegistryCall → Prop
  | .register _ => False
  | .retireAll => True
  | .claim ticket now => ticket.inviteId = inviteId ∧ ticket.expiresAt < now

/-- The invite was registered and not withdrawn since its last registration. -/
def Standing (inviteId : Bytes inviteIdBytes) (calls : List RegistryCall) : Prop :=
  ∃ before call after, calls = before ++ call :: after ∧ Registers inviteId call ∧
    ∀ later ∈ after, ¬ Registers inviteId later ∧ ¬ Withdraws inviteId later

/-- What a call does to the lease of an invite. -/
def inviteAct (inviteId : Bytes inviteIdBytes) : RegistryCall → LeaseAct Unit
  | .register ticket => if ticket.inviteId = inviteId then .start () else .keep
  | .retireAll => .stop
  | .claim ticket now =>
      if ticket.inviteId = inviteId ∧ ticket.expiresAt < now then .stop else .keep

section
variable {inviteId : Bytes inviteIdBytes}

theorem inviteAct_eq_start_iff (call : RegistryCall) :
    inviteAct inviteId call = .start () ↔ Registers inviteId call := by
  cases call with
  | register ticket =>
      by_cases same : ticket.inviteId = inviteId <;> simp [inviteAct, Registers, same]
  | retireAll => simp [inviteAct, Registers]
  | claim ticket now =>
      by_cases withdrawn : ticket.inviteId = inviteId ∧ ticket.expiresAt < now <;>
        simp [inviteAct, Registers, withdrawn]

theorem inviteAct_eq_stop_iff (call : RegistryCall) :
    inviteAct inviteId call = .stop ↔ Withdraws inviteId call := by
  cases call with
  | register ticket =>
      by_cases same : ticket.inviteId = inviteId <;> simp [inviteAct, Withdraws, same]
  | retireAll => simp [inviteAct, Withdraws]
  | claim ticket now =>
      by_cases withdrawn : ticket.inviteId = inviteId ∧ ticket.expiresAt < now <;>
        simp [inviteAct, Withdraws, withdrawn]

/-- Nothing parks an invite. -/
theorem inviteAct_ne_park (call : RegistryCall) : inviteAct inviteId call ≠ .park := by
  cases call with
  | register ticket => by_cases same : ticket.inviteId = inviteId <;> simp [inviteAct, same]
  | retireAll => simp [inviteAct]
  | claim ticket now =>
      by_cases withdrawn : ticket.inviteId = inviteId ∧ ticket.expiresAt < now <;>
        simp [inviteAct, withdrawn]

theorem leaseAfter_invite_iff (calls : List RegistryCall) :
    leaseAfter (inviteAct inviteId) calls = .live () ↔ Standing inviteId calls := by
  rw [leaseAfter_eq_live_iff]
  constructor
  · rintro ⟨before, call, after, split, opens, untouched, -⟩
    refine ⟨before, call, after, split, (inviteAct_eq_start_iff call).mp opens, ?_⟩
    intro later member
    obtain ⟨notStop, notStart⟩ := untouched later member
    exact ⟨fun registers => notStart () ((inviteAct_eq_start_iff later).mpr registers),
      fun withdraws => notStop ((inviteAct_eq_stop_iff later).mpr withdraws)⟩
  · rintro ⟨before, call, after, split, registers, quiet⟩
    refine ⟨before, call, after, split, (inviteAct_eq_start_iff call).mpr registers, ?_, ?_⟩
    · intro later member
      obtain ⟨notRegistered, notWithdrawn⟩ := quiet later member
      exact ⟨fun stops => notWithdrawn ((inviteAct_eq_stop_iff later).mp stops),
        fun terms starts => notRegistered ((inviteAct_eq_start_iff later).mp starts)⟩
    · intro front parked back _ parks
      exact absurd parks (inviteAct_ne_park parked)

/-! ## One call -/

theorem state_register (registry : TicketRegistry) (ticket : InviteTicket) :
    (registry.register ticket).state inviteId =
      if ticket.inviteId = inviteId then some .live else registry.state inviteId := by
  simp [register, state, HashMap.lookup_insert_eq, eq_comm]

theorem state_retireAll (registry : TicketRegistry) :
    registry.retireAll.state inviteId ≠ some .live := by
  intro live
  simp only [retireAll, state, HashMap.lookup_mapValues, Option.map_eq_some_iff] at live
  obtain ⟨was, -, became⟩ := live
  cases was <;> simp at became

/-- A claim leaves all states alone but that of an invite presented too late. -/
theorem state_claim (registry : TicketRegistry) (ticket : InviteTicket) (now : UInt64) :
    (registry.claim ticket now).2.state inviteId =
      if ticket.inviteId = inviteId ∧ ticket.expiresAt < now then
        (registry.state inviteId).map fun _ => .expired
      else registry.state inviteId := by
  unfold claim state
  by_cases same : ticket.inviteId = inviteId
  · subst same
    cases found : registry.states.lookup ticket.inviteId with
    | none => simp [found]
    | some was =>
        by_cases late : ticket.expiresAt < now
        · simp [InviteTicket.isExpiredAt, late]
        · by_cases live : was = .live <;> simp [InviteTicket.isExpiredAt, late, live, found]
  · cases found : registry.states.lookup ticket.inviteId with
    | none => simp [same]
    | some was =>
        by_cases late : ticket.expiresAt < now
        · simp [InviteTicket.isExpiredAt, late, same, Ne.symm same]
        · by_cases live : was = .live <;> simp [InviteTicket.isExpiredAt, late, live, same]

/-- What one call does to the liveness of an invite is what it does to its lease. -/
theorem state_registryStep (registry : TicketRegistry) (lease : LeaseState Unit)
    (agree : registry.state inviteId = some .live ↔ lease = .live ()) (call : RegistryCall) :
    (registryStep registry call).2.state inviteId = some .live ↔
      lease.next (inviteAct inviteId call) = .live () := by
  cases call with
  | register ticket =>
      by_cases same : ticket.inviteId = inviteId
      · simp [registryStep, state_register, inviteAct, same]
      · simp [registryStep, state_register, inviteAct, same, agree]
  | retireAll => simp [registryStep, state_retireAll, inviteAct]
  | claim ticket now =>
      by_cases withdrawn : ticket.inviteId = inviteId ∧ ticket.expiresAt < now
      · simp [registryStep, state_claim, inviteAct, withdrawn]
      · simp [registryStep, state_claim, inviteAct, withdrawn, agree]

/-! ## Runs -/

/-- The registry holds an invite as live exactly while its lease stands. -/
theorem state_eq_live_iff (calls : List RegistryCall) :
    (registryAfter calls).state inviteId = some .live ↔
      leaseAfter (inviteAct inviteId) calls = .live () := by
  induction calls using List.reverseRecOn with
  | nil => simp [registryAfter, new, state]
  | append_singleton calls call ih =>
      rw [registryAfter, exec_concat, leaseAfter_concat]
      exact state_registryStep _ _ ih call

end

theorem claim_eq_ok_iff (registry : TicketRegistry) (ticket : InviteTicket) (now : UInt64) :
    (registry.claim ticket now).1 = .ok () ↔
      registry.state ticket.inviteId = some .live ∧ now ≤ ticket.expiresAt := by
  unfold claim state
  cases found : registry.states.lookup ticket.inviteId with
  | none => simp
  | some was =>
      by_cases late : ticket.expiresAt < now
      · simp [InviteTicket.isExpiredAt, late]
      · by_cases live : was = .live <;>
          simp [InviteTicket.isExpiredAt, late, live, UInt64.not_lt.mp late]

/-- A claim is accepted or refused with one and the same error. -/
theorem claim_eq_error_iff (registry : TicketRegistry) (ticket : InviteTicket) (now : UInt64) :
    (registry.claim ticket now).1 = .error .invalidTicket ↔
      (registry.claim ticket now).1 ≠ .ok () := by
  unfold claim
  cases registry.states.lookup ticket.inviteId with
  | none => simp
  | some was =>
      by_cases late : ticket.isExpiredAt now
      · simp [late]
      · by_cases live : was = .live <;> simp [late, live]

theorem claim_registryAfter_iff (calls : List RegistryCall) (ticket : InviteTicket) (now : UInt64) :
    ((registryAfter calls).claim ticket now).1 = .ok () ↔
      Standing ticket.inviteId calls ∧ now ≤ ticket.expiresAt := by
  rw [claim_eq_ok_iff, state_eq_live_iff, leaseAfter_invite_iff]

/-- A withdrawal is undone only by a registration behind it. -/
theorem not_standing_of_withdrawn {inviteId : Bytes inviteIdBytes} {before after : List RegistryCall}
    {call : RegistryCall} (withdraws : Withdraws inviteId call)
    (quiet : ∀ later ∈ after, ¬ Registers inviteId later) :
    ¬ Standing inviteId (before ++ call :: after) := by
  rw [← leaseAfter_invite_iff, leaseAfter_stopped]
  · simp
  · exact (inviteAct_eq_stop_iff call).mpr withdraws
  · intro later member terms starts
    exact quiet later member ((inviteAct_eq_start_iff later).mp starts)

/-- A registry accepts a ticket exactly while its invite stands and its expiry has not passed, over
every run of registrations, withdrawals and claims and whatever the clock says at each: a withdrawn
invite is refused until it is registered again, and claims of other invites change no answer. -/
theorem claims_follow_the_run (calls : List RegistryCall) (ticket : InviteTicket) (now : UInt64) :
    (((registryAfter calls).claim ticket now).1 = .ok () ↔
      Standing ticket.inviteId calls ∧ now ≤ ticket.expiresAt) ∧
    (∀ before call after, calls = before ++ call :: after → Withdraws ticket.inviteId call →
      (∀ later ∈ after, ¬ Registers ticket.inviteId later) →
      ((registryAfter calls).claim ticket now).1 = .error .invalidTicket) ∧
    (∀ before after other time, calls = before ++ .claim other time :: after →
      other.inviteId ≠ ticket.inviteId →
      ((registryAfter calls).claim ticket now).1 =
        ((registryAfter (before ++ after)).claim ticket now).1) := by
  refine ⟨claim_registryAfter_iff calls ticket now, ?_, ?_⟩
  · rintro before call after rfl withdraws quiet
    rw [claim_eq_error_iff, ne_eq, claim_registryAfter_iff]
    intro accepted
    exact not_standing_of_withdrawn withdraws quiet accepted.1
  · rintro before after other time rfl different
    have same : leaseAfter (inviteAct ticket.inviteId) (before ++ .claim other time :: after) =
        leaseAfter (inviteAct ticket.inviteId) (before ++ after) := by
      simp [leaseAfter, inviteAct, different]
    have answers :
        ((registryAfter (before ++ .claim other time :: after)).claim ticket now).1 = .ok () ↔
          ((registryAfter (before ++ after)).claim ticket now).1 = .ok () := by
      rw [claim_eq_ok_iff, claim_eq_ok_iff, state_eq_live_iff, state_eq_live_iff, same]
    by_cases accepted : ((registryAfter (before ++ after)).claim ticket now).1 = .ok ()
    · rw [accepted]
      exact answers.mpr accepted
    · rw [(claim_eq_error_iff _ _ _).mpr accepted, claim_eq_error_iff]
      exact fun ok => accepted (answers.mp ok)

end TicketRegistry

end Lumepeer.Net
