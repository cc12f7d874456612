import Lumepeer.Runtime.Network.Proofs.SessionOps
import Lumepeer.Runtime.Network.Reboot

/-!
# A machine goes down for a request that stood its window

While a reboot is pending, its request is the last one that was accepted, nobody
has stopped it, and the countdowns of its number are not due before its window is
over. The session it was asked over is the same one as long as there is one. One
that ended is not found again at the end, unless its peer has been granted a new
one meanwhile: the pending reboot bears a peer, not a session.
-/

namespace Lumepeer.Runtime.Reboots
open Lumepeer.Lib Lumepeer.Core

abbrev RebootEvent := Event Reboots Happening (Option RebootAudit)

/-- The reboot grant of the session of `peer` is switched off. -/
def SwitchesOff (peer : NodeId) (e : RebootEvent) : Prop :=
  e.op = .host (.setGrant peer .reboot false)
    ∧ (e.pre.host.sessions.setGrant peer .reboot false).1.isOk

/-- The session of `peer`, which has this id. -/
def HasSession (peer : NodeId) (sessionId : SessionId) (state : Reboots) : Prop :=
  ∃ session, state.host.sessions.sessions.lookup peer = some session ∧ session.sessionId = sessionId

/-- Nothing in this step stops a request of `peer`, or is about another one. -/
structure LetsStand (peer : NodeId) (e : RebootEvent) : Prop where
  uncancelled : e.op ≠ .cancel
  granted : ¬ SwitchesOff peer e
  unstarted : ∀ audit ∈ e.out, audit.outcome ≠ .warned ∧ audit.outcome ≠ .started

/-- The last request that was accepted was for this, it has stood its window by now, and one session
of its peer has lasted since. -/
def StoodWindow (peer : NodeId) (mode : RebootMode) (events : List RebootEvent) (now : Nat) : Prop :=
  ∃ earlier accepted since sessionId, events = earlier ++ accepted :: since
    ∧ accepted.out = some { peer, mode, outcome := .warned }
    ∧ accepted.post.now + rebootWarningSecs ≤ now
    ∧ (∀ e ∈ since, LetsStand peer e)
    ∧ ∀ e ∈ accepted :: since, HasSession peer sessionId e.post

/-- The peer of a pending reboot is granted no new session after its session ended, and the number
of a request is not that of a countdown that has not reported back. -/
def Undisturbed (state : Reboots) : Happening → Prop
  | .host happening =>
      (∀ pending ∈ state.pendingReboot,
        state.host.sessions.sessions.lookup pending.peer = none →
          (state.host.step happening).1 ≠ some (.granted pending.peer))
      ∧ (state.pendingReboot = none →
        ∀ countdown ∈ state.countdowns, countdown.generation ≠ state.rebootGeneration + 1)
  | .cancel | .elapsed _ | .wait _ => True

instance (state : Reboots) : DecidablePred state.Undisturbed
  | .host _ => inferInstanceAs (Decidable (_ ∧ _))
  | .cancel | .elapsed _ | .wait _ => inferInstanceAs (Decidable True)

/-! ## Steps -/

theorem setGrant_of_error {manager sessions : SessionManager} {peer : NodeId}
    {which : IndependentGrant} {allowed : Bool} {error : CoreError}
    (refused : manager.setGrant peer which allowed = (.error error, sessions)) :
    sessions = manager := by
  unfold SessionManager.setGrant at refused
  split at refused
  · exact (Prod.mk.inj refused).2.symm
  · split at refused
    · exact (Prod.mk.inj refused).2.symm
    · cases refused

theorem onRebootCancel_host (state : Reboots) : state.onRebootCancel.2.host = state.host := by
  unfold onRebootCancel
  split <;> rfl

theorem onRebootRequest_host (state : Reboots) (peer : NodeId) (mode : RebootMode) :
    (state.onRebootRequest peer mode).2.host = state.host := by
  unfold onRebootRequest
  split
  · rfl
  · split <;> rfl

theorem onRebootCountdownElapsed_host (state : Reboots) (generation : UInt64) :
    (state.onRebootCountdownElapsed generation).2.host = state.host := by
  unfold onRebootCountdownElapsed
  split
  · rfl
  · split
    · rfl
    · dsimp only
      split <;> rfl

/-- The sessions move as the host's own step moves them. -/
theorem sessions_of_host (state : Reboots) (happening : Host.Happening) :
    (state.step (.host happening)).2.host.sessions = (state.host.step happening).2.sessions := by
  unfold step
  split
  next peer id mode verdict isHappening =>
    cases isHappening
    dsimp only
    split
    · rw [onRebootRequest_host]
    · rfl
  next peer which allowed isHappening =>
    cases isHappening
    unfold onSetGrant
    rcases moved : state.host.sessions.setGrant peer which allowed with ⟨_ | _, sessions⟩
    · simp only [Host.step, moved]
      exact (setGrant_of_error moved).symm
    · simp only [Host.step, moved]
      split
      · rw [onRebootCancel_host]
      · rfl
  next isHappening =>
    cases isHappening
    rfl
  all_goals contradiction

theorem sessions_of_other {state : Reboots} {op : Happening} (other : ∀ happening, op ≠ .host happening) :
    (state.step op).2.host.sessions = state.host.sessions := by
  cases op with
  | host happening => exact absurd rfl (other happening)
  | cancel => exact congrArg Host.sessions (onRebootCancel_host state)
  | wait secs => rfl
  | elapsed position =>
      simp only [step]
      split
      · rfl
      · split
        · rfl
        · exact congrArg Host.sessions (onRebootCountdownElapsed_host _ _)

/-- A session of the peer goes on under its id, unless it is granted in this step. -/
theorem hasSession_of_step {state : Reboots} {op : Happening} {peer : NodeId}
    {session : ActiveSession}
    (found : (state.step op).2.host.sessions.sessions.lookup peer = some session)
    (undisturbed : state.Undisturbed op)
    (pending : state.pendingReboot.any (·.peer = peer)) : HasSession peer session.sessionId state := by
  by_cases isHost : ∃ happening, op = .host happening
  · obtain ⟨happening, rfl⟩ := isHost
    rw [sessions_of_host] at found
    rcases Host.session_of_step found with earlier | ⟨absent, granted⟩
    · exact earlier
    · obtain ⟨reboot, isPending, rfl⟩ : ∃ reboot, state.pendingReboot = some reboot
          ∧ reboot.peer = peer := by
        cases isPending : state.pendingReboot with
        | none => simp [isPending] at pending
        | some reboot => exact ⟨reboot, rfl, by simpa [isPending] using pending⟩
      exact absurd granted (undisturbed.1 reboot isPending absent)
  · rw [sessions_of_other (not_exists.mp isHost)] at found
    exact ⟨session, found, rfl⟩

/-- A request is accepted in this step. -/
structure Accepts (state : Reboots) (op : Happening) (pending : PendingReboot) : Prop where
  idle : state.pendingReboot = none
  out : (state.step op).1 =
    some { peer := pending.peer, mode := pending.mode, outcome := .warned }
  number : pending.generation = state.rebootGeneration + 1
  countdowns : (state.step op).2.countdowns =
    state.countdowns ++ [{ generation := pending.generation, due := state.now + rebootWarningSecs }]
  time : (state.step op).2.now = state.now
  session : ((state.step op).2.host.sessions.sessions.lookup pending.peer).isSome
  isHost : ∃ happening, op = .host happening

/-- What is pending after a step was pending before, or is accepted in it. -/
structure Keeps (state : Reboots) (op : Happening) (pending : PendingReboot) : Prop where
  before : state.pendingReboot = some pending
  stands : LetsStand pending.peer (Event.of step state op)
  countdowns : (state.step op).2.countdowns ⊆ state.countdowns

theorem isSome_of_rebootAllows {manager : SessionManager} {peer : NodeId}
    (allowed : manager.rebootAllows peer) : (manager.sessions.lookup peer).isSome := by
  unfold SessionManager.rebootAllows at allowed
  cases found : manager.sessions.lookup peer with
  | none => simp [found] at allowed
  | some session => rfl

theorem pending_of_request {state : Reboots} {peer : NodeId} {mode : RebootMode}
    {pending : PendingReboot}
    (isPending : (state.onRebootRequest peer mode).2.pendingReboot = some pending) :
    state.pendingReboot = some pending
        ∧ (∀ audit ∈ (state.onRebootRequest peer mode).1, audit.outcome = .refused)
        ∧ (state.onRebootRequest peer mode).2.countdowns = state.countdowns
      ∨ state.pendingReboot = none
        ∧ (state.onRebootRequest peer mode).1 =
          some { peer := pending.peer, mode := pending.mode, outcome := .warned }
        ∧ pending.generation = state.rebootGeneration + 1
        ∧ (state.onRebootRequest peer mode).2.countdowns = state.countdowns ++
          [{ generation := pending.generation, due := state.now + rebootWarningSecs }]
        ∧ (state.onRebootRequest peer mode).2.now = state.now
        ∧ (state.host.sessions.sessions.lookup pending.peer).isSome := by
  unfold onRebootRequest at isPending ⊢
  split at isPending
  next refused =>
    simp only [refused, if_true]
    exact .inl ⟨isPending, by simp, trivial⟩
  next allowed =>
    simp only [allowed]
    split at isPending
    next already =>
      simp only [already, if_true]
      exact .inl ⟨isPending, by simp, by simp⟩
    next idle =>
      simp only [idle]
      obtain rfl := Option.some.inj isPending
      right
      exact ⟨by simpa using idle, rfl, rfl, rfl, rfl,
        isSome_of_rebootAllows (by simpa using allowed)⟩

theorem pending_of_elapsed {state : Reboots} {generation : UInt64} {pending : PendingReboot}
    (isPending : (state.onRebootCountdownElapsed generation).2.pendingReboot = some pending) :
    state.pendingReboot = some pending ∧ (state.onRebootCountdownElapsed generation).1 = none
      ∧ (state.onRebootCountdownElapsed generation).2.countdowns = state.countdowns := by
  unfold onRebootCountdownElapsed at isPending ⊢
  cases before : state.pendingReboot with
  | none => simp [before] at isPending
  | some reboot =>
      simp only [before] at isPending
      split at isPending
      next other =>
        rw [before] at isPending
        dsimp only
        exact ⟨isPending, by rw [if_pos other], by rw [if_pos other]⟩
      next => split at isPending <;> cases isPending

theorem keeps_of_same {state : Reboots} {op : Happening} {pending : PendingReboot}
    (isPending : (state.step op).2.pendingReboot = some pending)
    (same : (state.step op).2.pendingReboot = state.pendingReboot)
    (countdowns : (state.step op).2.countdowns ⊆ state.countdowns)
    (stands : LetsStand pending.peer (Event.of step state op)) : Keeps state op pending :=
  ⟨by rw [← same, isPending], stands, countdowns⟩

theorem keeps_or_accepts_of_request {state : Reboots} {asker : NodeId} {id : UInt64}
    {mode : RebootMode} {verdict : Host.Verdict} {pending : PendingReboot}
    (isPending : (state.step (.host (.inbound asker id (.rebootRequest mode) verdict))).2.pendingReboot
      = some pending) :
    Keeps state (.host (.inbound asker id (.rebootRequest mode) verdict)) pending
      ∨ Accepts state (.host (.inbound asker id (.rebootRequest mode) verdict)) pending := by
  by_cases delivered : state.host.delivers asker id (.rebootRequest mode)
  · have isStep : state.step (.host (.inbound asker id (.rebootRequest mode) verdict)) =
        { state with host := (state.host.step (.inbound asker id (.rebootRequest mode) verdict)).2
          }.onRebootRequest asker mode := by
      simp [step, delivered]
    rw [isStep] at isPending
    rcases pending_of_request isPending with ⟨before, refused, same⟩ |
      ⟨idle, out, number, countdowns, time, session⟩
    · left
      refine ⟨before, ⟨by simp, by simp [SwitchesOff], ?_⟩, ?_⟩
      · intro audit isOut
        rw [Event.of_out, isStep] at isOut
        have isRefused := refused audit isOut
        exact ⟨by rw [isRefused]; decide, by rw [isRefused]; decide⟩
      · rw [isStep, same]
        exact List.Subset.refl _
    · right
      exact ⟨idle, by rw [isStep, out], number, by rw [isStep, countdowns], by rw [isStep, time],
        by rw [isStep, onRebootRequest_host]; exact session, ⟨_, rfl⟩⟩
  · left
    have isStep : state.step (.host (.inbound asker id (.rebootRequest mode) verdict)) =
        (none, { state with
          host := (state.host.step (.inbound asker id (.rebootRequest mode) verdict)).2 }) := by
      simp [step, delivered]
    refine keeps_of_same isPending (by rw [isStep]) (by rw [isStep]; exact List.Subset.refl _) ?_
    exact ⟨by simp, by simp [SwitchesOff], by rw [Event.of_out, isStep]; simp⟩

theorem keeps_of_setGrant {state : Reboots} {asked : NodeId} {which : IndependentGrant}
    {allowed : Bool} {pending : PendingReboot}
    (isPending : (state.step (.host (.setGrant asked which allowed))).2.pendingReboot = some pending) :
    Keeps state (.host (.setGrant asked which allowed)) pending := by
  have isStep : state.step (.host (.setGrant asked which allowed)) =
    state.onSetGrant asked which allowed := rfl
  rw [isStep] at isPending
  unfold onSetGrant at isStep isPending
  rcases moved : state.host.sessions.setGrant asked which allowed with ⟨_ | _, sessions⟩
  · rw [moved] at isStep isPending
    refine ⟨isPending, ⟨by simp, ?_, by rw [Event.of_out, isStep]; simp⟩, ?_⟩
    · rintro ⟨isOp, isOk⟩
      obtain ⟨rfl, rfl, rfl⟩ : asked = pending.peer ∧ which = .reboot ∧ allowed = false := by
        simpa using isOp
      rw [Event.of_pre, moved] at isOk
      cases isOk
    · rw [isStep]
      exact List.Subset.refl _
  · rw [moved] at isStep isPending
    dsimp only at isStep isPending
    split at isPending
    next =>
      unfold onRebootCancel at isPending
      split at isPending
      next none_ => rw [none_] at isPending; cases isPending
      next => cases isPending
    next stays =>
      rw [if_neg stays] at isStep
      refine ⟨isPending, ⟨by simp, ?_, by rw [Event.of_out, isStep]; simp⟩, ?_⟩
      · rintro ⟨isOp, -⟩
        obtain ⟨rfl, rfl, rfl⟩ : asked = pending.peer ∧ which = .reboot ∧ allowed = false := by
          simpa using isOp
        exact stays (by simp [show state.pendingReboot = some pending from isPending])
      · rw [isStep]
        exact List.Subset.refl _

theorem keeps_or_accepts {state : Reboots} {op : Happening} {pending : PendingReboot}
    (isPending : (state.step op).2.pendingReboot = some pending) :
    Keeps state op pending ∨ Accepts state op pending := by
  cases op with
  | cancel =>
      simp only [step, onRebootCancel] at isPending
      split at isPending
      next idle => rw [idle] at isPending; cases isPending
      next => cases isPending
  | wait secs =>
      exact .inl ⟨isPending, ⟨by simp, by simp [SwitchesOff], by simp [step]⟩, List.Subset.refl _⟩
  | elapsed position =>
      left
      have isStep : state.step (.elapsed position) = state.step (.elapsed position) := rfl
      conv at isStep => rhs; unfold step
      dsimp only at isStep
      split at isStep
      next =>
        rw [isStep] at isPending
        exact ⟨isPending, ⟨by simp, by simp [SwitchesOff], by rw [Event.of_out, isStep]; simp⟩,
          by rw [isStep]; exact List.Subset.refl _⟩
      next countdown _ =>
        split at isStep
        · rw [isStep] at isPending
          exact ⟨isPending, ⟨by simp, by simp [SwitchesOff], by rw [Event.of_out, isStep]; simp⟩,
            by rw [isStep]; exact List.Subset.refl _⟩
        · rw [isStep] at isPending
          obtain ⟨before, quiet, same⟩ := pending_of_elapsed isPending
          refine ⟨before, ⟨by simp, by simp [SwitchesOff], by rw [Event.of_out, isStep, quiet]; simp⟩, ?_⟩
          rw [isStep, same]
          exact List.eraseIdx_subset ..
  | host happening =>
      by_cases request : ∃ asker id mode verdict,
          happening = .inbound asker id (.rebootRequest mode) verdict
      · obtain ⟨asker, id, mode, verdict, rfl⟩ := request
        exact keeps_or_accepts_of_request isPending
      · by_cases switch : ∃ asked which allowed, happening = .setGrant asked which allowed
        · obtain ⟨asked, which, allowed, rfl⟩ := switch
          exact .inl (keeps_of_setGrant isPending)
        · left
          have isStep : state.step (.host happening) =
              (none, { state with host := (state.host.step happening).2 }) := by
            unfold step
            split
            next isHappening => cases isHappening; exact absurd ⟨_, _, _, _, rfl⟩ request
            next isHappening => cases isHappening; exact absurd ⟨_, _, _, rfl⟩ switch
            next isHappening => cases isHappening; rfl
            all_goals contradiction
          rw [isStep] at isPending
          refine ⟨isPending, ⟨by simp, ?_, by rw [Event.of_out, isStep]; simp⟩,
            by rw [isStep]; exact List.Subset.refl _⟩
          rintro ⟨isOp, -⟩
          exact switch ⟨pending.peer, .reboot, false, by simpa using isOp⟩

/-- What `go_down` needs: a reboot that is pending, a countdown of its number that is due, and a
session. -/
theorem of_started {state : Reboots} {op : Happening} {peer : NodeId} {mode : RebootMode}
    (started : (state.step op).1 = some { peer, mode, outcome := .started }) :
    ∃ pending countdown, state.pendingReboot = some pending ∧ pending.peer = peer
      ∧ pending.mode = mode ∧ countdown ∈ state.countdowns
      ∧ countdown.generation = pending.generation ∧ countdown.due ≤ state.now
      ∧ (state.host.sessions.sessions.lookup peer).isSome := by
  cases op with
  | wait secs => cases started
  | cancel =>
      simp only [step, onRebootCancel] at started
      split at started <;> simp at started
  | host happening =>
      exfalso
      unfold step at started
      split at started
      next =>
        dsimp only at started
        split at started
        · unfold onRebootRequest at started
          split at started
          · simp at started
          · split at started <;> simp at started
        · cases started
      next =>
        unfold onSetGrant at started
        split at started
        · cases started
        · dsimp only at started
          split at started
          · unfold onRebootCancel at started
            split at started <;> simp at started
          · cases started
      next => cases started
      all_goals contradiction
  | elapsed position =>
      simp only [step] at started
      split at started
      next => cases started
      next countdown isCountdown =>
        split at started
        next => cases started
        next due =>
          unfold onRebootCountdownElapsed at started
          dsimp only at started
          split at started
          next => cases started
          next pending isPending =>
            split at started
            next => cases started
            next number =>
              split at started
              next => simp at started
              next allowed =>
                simp only [Option.some.injEq, RebootAudit.mk.injEq, and_true] at started
                obtain ⟨rfl, rfl⟩ := started
                exact ⟨pending, countdown, isPending, rfl, rfl, List.mem_of_getElem? isCountdown,
                  (Decidable.not_not.mp number).symm, by omega,
                  isSome_of_rebootAllows (by simpa using allowed)⟩

/-! ## Runs -/

/-- The last request that was accepted is the one that is pending, and its countdown is not due
before its window is over. -/
structure PendingSince (events : List RebootEvent) (state : Reboots) (pending : PendingReboot)
    (earlier : List RebootEvent) (accepted : RebootEvent) (since : List RebootEvent) : Prop where
  split : events = earlier ++ accepted :: since
  out : accepted.out = some { peer := pending.peer, mode := pending.mode, outcome := .warned }
  stands : ∀ e ∈ since, LetsStand pending.peer e
  countdowns : ∀ countdown ∈ state.countdowns, countdown.generation = pending.generation →
    accepted.post.now + rebootWarningSecs ≤ countdown.due
  /-- While there is a session, it is the one that the request was asked over. -/
  session : (state.host.sessions.sessions.lookup pending.peer).isSome →
    ∃ sessionId, HasSession pending.peer sessionId state
      ∧ ∀ e ∈ accepted :: since, HasSession pending.peer sessionId e.post

/-- Every reboot that is pending has been asked for. -/
def Asked (events : List RebootEvent) (state : Reboots) : Prop :=
  ∀ pending, state.pendingReboot = some pending →
    ∃ earlier accepted since, PendingSince events state pending earlier accepted since

theorem asked_step {events : List RebootEvent} {state : Reboots} {op : Happening}
    (asked : Asked events state) (undisturbed : state.Undisturbed op) :
    Asked (events ++ [Event.of step state op]) (state.step op).2 := by
  intro pending isPending
  rcases keeps_or_accepts isPending with keeps | accepts
  · obtain ⟨earlier, accepted, since, old⟩ := asked pending keeps.before
    refine ⟨earlier, accepted, since ++ [Event.of step state op], ?_, old.out, ?_, ?_, ?_⟩
    · rw [old.split, List.append_assoc, List.cons_append]
    · intro e member
      rcases List.mem_append.mp member with isEarlier | isLast
      · exact old.stands e isEarlier
      · rw [List.mem_singleton.mp isLast]
        exact keeps.stands
    · intro countdown member number
      exact old.countdowns countdown (keeps.countdowns member) number
    · intro there
      obtain ⟨session, found⟩ := Option.isSome_iff_exists.mp there
      have before := hasSession_of_step found undisturbed (by simp [keeps.before])
      obtain ⟨held, wasFound, sameId⟩ := before
      obtain ⟨sessionId, ⟨_, isHeld, rfl⟩, throughout⟩ := old.session (by rw [wasFound]; rfl)
      obtain rfl := Option.some.inj (wasFound.symm.trans isHeld)
      refine ⟨_, ⟨session, found, sameId.symm⟩, ?_⟩
      intro e member
      rw [← List.cons_append] at member
      rcases List.mem_append.mp member with isEarlier | isLast
      · exact throughout e isEarlier
      · rw [List.mem_singleton.mp isLast]
        exact ⟨session, found, sameId.symm⟩
  · obtain ⟨session, found⟩ := Option.isSome_iff_exists.mp accepts.session
    refine ⟨events, Event.of step state op, [], rfl, accepts.out, by simp, ?_, ?_⟩
    · intro countdown member number
      rw [accepts.countdowns] at member
      rw [Event.of_post, accepts.time]
      rcases List.mem_append.mp member with isEarlier | isLast
      · obtain ⟨happening, rfl⟩ := accepts.isHost
        exact absurd (number.trans accepts.number) (undisturbed.2 accepts.idle countdown isEarlier)
      · rw [List.mem_singleton.mp isLast]
    · intro _
      refine ⟨session.sessionId, ⟨session, found, rfl⟩, ?_⟩
      intro e member
      rw [List.mem_singleton.mp member]
      exact ⟨session, found, rfl⟩

theorem asked_run {state : Reboots} (idle : state.pendingReboot = none) (ops : List Happening)
    (undisturbed : ∀ e ∈ history step state ops, e.pre.Undisturbed e.op) :
    Asked (history step state ops) (exec step state ops) := by
  induction ops using List.reverseRecOn with
  | nil =>
      intro pending isPending
      rw [exec_nil, idle] at isPending
      cases isPending
  | append_singleton ops op ih =>
      rw [history_concat] at undisturbed ⊢
      rw [exec_concat]
      exact asked_step (ih fun e member => undisturbed e (List.mem_append_left _ member))
        (undisturbed _ (List.mem_append_right _ (List.mem_singleton_self _)))

/-- In every run in which the peer of a pending reboot is granted no new session, the machine goes
down only for a request that stood its window, and once. -/
theorem machine_goes_down_after_the_window (plan : Plan) (hosting : Bool) (ops : List Happening)
    (op : Happening) (peer : NodeId) (mode : RebootMode)
    (undisturbed : ∀ e ∈ history step (new plan hosting) ops, e.pre.Undisturbed e.op)
    (started : (step (exec step (new plan hosting) ops) op).1 =
      some { peer, mode, outcome := .started }) :
    StoodWindow peer mode (history step (new plan hosting) ops)
      (exec step (new plan hosting) ops).now := by
  obtain ⟨pending, countdown, isPending, rfl, rfl, member, number, due, there⟩ := of_started started
  obtain ⟨earlier, accepted, since, asked⟩ := asked_run rfl ops undisturbed pending isPending
  obtain ⟨sessionId, -, throughout⟩ := asked.session there
  have window := asked.countdowns countdown member number
  exact ⟨earlier, accepted, since, sessionId, asked.split, asked.out, window.trans due,
    asked.stands, throughout⟩

def sampleGrant : Happening :=
  .host (.grant Host.sampleGuest .fullControl (List.Vector.replicate 16 9))

/-- A guest that was let in asks the machine to reboot. -/
def sampleAsked : List Happening :=
  Host.sampleGranted.map .host ++
    [.host (.inbound Host.sampleGuest 1 (.rebootRequest .reboot) Host.sampleVerdict)]

/-- Nobody stops it. -/
theorem machine_goes_down_after_ten_seconds :
    StoodWindow Host.sampleGuest .reboot (history step (new .free true) (sampleAsked ++ [.wait 10]))
      (exec step (new .free true) (sampleAsked ++ [.wait 10])).now :=
  machine_goes_down_after_the_window .free true (sampleAsked ++ [.wait 10]) (.elapsed 0)
    Host.sampleGuest .reboot (by decide +kernel) (by decide +kernel)

/-- The host revokes the session after four seconds and grants a new one after eight. -/
def sampleRegranted : List Happening :=
  sampleAsked ++ [.wait 4, .host (.revoke Host.sampleGuest), .wait 4, sampleGrant, .wait 2]

/-- The machine goes down for the session that was revoked. -/
theorem machine_goes_down_for_a_revoked_session :
    ¬ ∀ (plan : Plan) (hosting : Bool) (ops : List Happening) (op : Happening) (peer : NodeId)
      (mode : RebootMode),
      (step (exec step (new plan hosting) ops) op).1 = some { peer, mode, outcome := .started } →
        StoodWindow peer mode (history step (new plan hosting) ops)
          (exec step (new plan hosting) ops).now := by
  intro all
  obtain ⟨earlier, accepted, since, sessionId, split, out, -, -, throughout⟩ :=
    all .free true sampleRegranted (.elapsed 0) Host.sampleGuest .reboot (by decide +kernel)
  -- The fourth step is the last one that accepts a request, and the sixth ends the session.
  have lastRequest : ∀ e ∈ (history step (new .free true) sampleRegranted).drop 4,
      e.out ≠ some { peer := Host.sampleGuest, mode := .reboot, outcome := .warned } := by
    decide +kernel
  have ended : ∀ e ∈ (history step (new .free true) sampleRegranted)[5]?,
      e.post.host.sessions.sessions.lookup Host.sampleGuest = none := by decide +kernel
  have early : earlier.length < 4 := by
    by_contra late
    apply lastRequest accepted _ out
    rw [split, List.drop_append_of_le_length (by omega)]
    exact List.mem_append_right _ (List.mem_cons_self ..)
  have six : 5 < (history step (new .free true) sampleRegranted).length := by decide +kernel
  obtain ⟨sixth, isSixth⟩ : ∃ sixth, (history step (new .free true) sampleRegranted)[5]? =
      some sixth := ⟨_, List.getElem?_eq_getElem six⟩
  have member : sixth ∈ accepted :: since := by
    rw [split, List.getElem?_append_right (by omega)] at isSixth
    exact List.mem_of_getElem? isSixth
  obtain ⟨session, found, -⟩ := throughout sixth member
  rw [ended sixth isSixth] at found
  cases found

end Lumepeer.Runtime.Reboots
