import Lumepeer.Core.Session
import Lumepeer.Core.Session.Proofs.Step
import Lumepeer.Lib.Lease

/-!
# Input authority over whole runs

What a guest may inject is decided by four fields of its session that different
operations write. The abstract view is a lease: a successful grant opens it
under the role, the kind and the allowlist of that moment, a disconnect parks
it, a resuming reconnect takes it up again, and a revoke, `end_all` or a
rejecting reconnect ends it. The manager simulates that lease step by step, so
`authorize_input` at the end of a run is a question about the run's events.
-/

namespace Lumepeer.Core.SessionManager
open Lumepeer.Lib

/-- A successful `grant_as` of `role` and `kind` to `p`. -/
def GrantsTo (p : NodeId) (role : Role) (kind : SessionKind) (e : SessionEvent) : Prop :=
  (∃ freshId, e.op = .grantAs p role kind freshId) ∧ e.out = .done (.ok ())

/-- A `revoke` of `p`, an `end_all`, or an `on_reconnect` of `p` that rejects. -/
def EndsSession (p : NodeId) (e : SessionEvent) : Prop :=
  e.op = .revoke p ∨ e.op = .endAll ∨
    ∃ now reason, e.op = .onReconnect p now ∧ e.out = .reconnect (.reject reason)

/-- An `on_disconnect` of `p`. -/
def Disconnects (p : NodeId) (e : SessionEvent) : Prop := ∃ now, e.op = .onDisconnect p now

/-- An `on_reconnect` of `p` that resumes. -/
def Resumes (p : NodeId) (e : SessionEvent) : Prop :=
  ∃ now sessionId, e.op = .onReconnect p now ∧ e.out = .reconnect (.resume sessionId)

/-- What a screen grant of `role` lets `p` inject while `policy` is in force. -/
def MayInject (policy : ControlPolicy) (p : NodeId) (role : Role) (event : InputEventPayload) :
    Prop :=
  role = .fullControl ∨
    role = .controlLimited ∧ ControlAction.of event ∈ policy.allowedFor p

/-- The terms of a grant: what `authorize_input` will decide on. -/
structure InputTerms where
  role : Role
  kind : SessionKind
  actions : List ControlAction

/-- An act on the lease of `peer`, seen from the lease of `p`. -/
def actOn (p peer : NodeId) (act : LeaseAct InputTerms) : LeaseAct InputTerms :=
  if peer = p then act else .keep

theorem actOn_eq_iff {p peer : NodeId} {act seen : LeaseAct InputTerms} (visible : seen ≠ .keep) :
    actOn p peer act = seen ↔ peer = p ∧ act = seen := by
  unfold actOn
  by_cases same : peer = p
  · simp [same]
  · simp [same, visible.symm]

/-- What an event does to the lease of `p`. -/
def leaseAct (p : NodeId) (e : SessionEvent) : LeaseAct InputTerms :=
  match e.op, e.out with
  | .grantAs peer role kind _, .done (.ok ()) =>
      actOn p peer (.start ⟨role, kind, e.pre.policy.allowedFor p⟩)
  | .revoke peer, _ => actOn p peer .stop
  | .endAll, _ => .stop
  | .onReconnect peer _, .reconnect (.reject _) => actOn p peer .stop
  | .onReconnect peer _, .reconnect (.resume _) => actOn p peer .resume
  | .onDisconnect peer _, _ => actOn p peer .park
  | _, _ => .keep

theorem leaseAct_start_iff {p : NodeId} {e : SessionEvent} {terms : InputTerms} :
    leaseAct p e = .start terms ↔
      GrantsTo p terms.role terms.kind e ∧ terms.actions = e.pre.policy.allowedFor p := by
  obtain ⟨role, kind, actions⟩ := terms
  constructor
  · intro opens
    unfold leaseAct at opens
    split at opens <;> simp_all [GrantsTo, actOn_eq_iff]
  · rintro ⟨⟨⟨freshId, isOp⟩, isOut⟩, isActions⟩
    simp [leaseAct, isOp, isOut, actOn, ← isActions]

theorem leaseAct_stop_iff {p : NodeId} {e : SessionEvent} :
    leaseAct p e = .stop ↔ EndsSession p e := by
  constructor
  · intro stops
    unfold leaseAct at stops
    split at stops <;> simp_all [EndsSession, actOn_eq_iff]
  · rintro (isOp | isOp | ⟨now, reason, isOp, isOut⟩)
    · simp [leaseAct, isOp, actOn]
    · simp [leaseAct, isOp]
    · simp [leaseAct, isOp, isOut, actOn]

theorem leaseAct_park_iff {p : NodeId} {e : SessionEvent} :
    leaseAct p e = .park ↔ Disconnects p e := by
  constructor
  · intro parks
    unfold leaseAct at parks
    split at parks <;> simp_all [Disconnects, actOn_eq_iff]
  · rintro ⟨now, isOp⟩
    simp [leaseAct, isOp, actOn]

theorem leaseAct_resume_iff {p : NodeId} {e : SessionEvent} :
    leaseAct p e = .resume ↔ Resumes p e := by
  constructor
  · intro resumes
    unfold leaseAct at resumes
    split at resumes <;> simp_all [Resumes, actOn_eq_iff]
  · rintro ⟨now, sessionId, isOp, isOut⟩
    simp [leaseAct, isOp, isOut, actOn]

/-- A stored session carries the terms it was granted under. -/
structure Agrees (session : ActiveSession) (terms : InputTerms) : Prop where
  role : session.role = terms.role
  kind : session.kind = terms.kind
  input : session.grants.input = (terms.kind == .screen && terms.role == .fullControl)
  actions : session.allowedActions =
    if terms.role = .controlLimited ∧ terms.kind = .screen then terms.actions else []

/-- The session a peer holds stands where its lease does. -/
def Simulates (held : Option ActiveSession) : LeaseState InputTerms → Prop
  | .absent => held = none
  | .live terms => ∃ session, held = some session ∧ session.state = .active ∧
      session.disconnectedAt = none ∧ Agrees session terms
  | .parked terms => ∃ session, held = some session ∧ session.state = .reconnecting ∧
      session.disconnectedAt.isSome ∧ Agrees session terms

/-- An update of a session that leaves its terms and its state alone keeps the simulation. -/
theorem Simulates.map {held : Option ActiveSession} {lease : LeaseState InputTerms}
    (sim : Simulates held lease) (update : ActiveSession → ActiveSession)
    (agrees : ∀ session terms, Agrees session terms → Agrees (update session) terms)
    (state : ∀ session, (update session).state = session.state)
    (stamp : ∀ session, (update session).disconnectedAt = session.disconnectedAt) :
    Simulates (held.map update) lease := by
  cases lease with
  | absent =>
      change held = none at sim
      subst sim
      rfl
  | live terms =>
      obtain ⟨session, rfl, live, unstamped, agree⟩ := sim
      exact ⟨update session, rfl, by rw [state, live], by rw [stamp, unstamped],
        agrees session terms agree⟩
  | parked terms =>
      obtain ⟨session, rfl, parked, stamped, agree⟩ := sim
      exact ⟨update session, rfl, by rw [state, parked], by rw [stamp]; exact stamped,
        agrees session terms agree⟩

theorem agrees_grantedSession (manager : SessionManager) (p : NodeId) (role : Role)
    (kind : SessionKind) (freshId : SessionId) :
    Agrees (manager.grantedSession p role kind freshId)
      ⟨role, kind, manager.policy.allowedFor p⟩ where
  role := rfl
  kind := rfl
  input := by cases kind <;> simp [grantedSession]
  actions := rfl

theorem simulates_grantAs (manager : SessionManager) (p peer : NodeId) (role : Role)
    (kind : SessionKind) (freshId : SessionId) {lease : LeaseState InputTerms}
    (sim : Simulates (manager.sessions.lookup p) lease) :
    Simulates (manager.nextSession p (.grantAs peer role kind freshId))
      (lease.next (leaseAct p (Event.of step manager (.grantAs peer role kind freshId)))) := by
  have out : (manager.step (.grantAs peer role kind freshId)).1 =
      .done (manager.grantAs peer role kind freshId).1 := rfl
  cases refusal : manager.grantRefusal peer role kind with
  | some error =>
      have refused : (manager.grantAs peer role kind freshId).1 = .error error := by
        simp [grantAs, refusal]
      simpa [nextSession, refusal, leaseAct, out, refused] using sim
  | none =>
      have granted : (manager.grantAs peer role kind freshId).1 = .ok () := by
        simp [grantAs, refusal]
      by_cases same : peer = p
      · subst same
        simp only [nextSession, refusal, leaseAct, Event.of_op, Event.of_out, Event.of_pre, out,
          granted, actOn, if_true, and_self, LeaseState.next_start]
        exact ⟨_, rfl, rfl, rfl, agrees_grantedSession manager peer role kind freshId⟩
      · simpa [nextSession, leaseAct, out, granted, actOn, same, Ne.symm same] using sim

theorem simulates_onReconnect (manager : SessionManager) (p peer : NodeId) (now : Instant)
    {lease : LeaseState InputTerms} (sim : Simulates (manager.sessions.lookup p) lease) :
    Simulates (manager.nextSession p (.onReconnect peer now))
      (lease.next (leaseAct p (Event.of step manager (.onReconnect peer now)))) := by
  have out : (manager.step (.onReconnect peer now)).1 =
      .reconnect (manager.onReconnect peer now).1 := rfl
  by_cases same : peer = p
  · subst same
    cases found : manager.sessions.lookup peer with
    | none =>
        have rejects : (manager.onReconnect peer now).1 = .reject .unknownSession := by
          simp [onReconnect, found]
        simp [nextSession, found, leaseAct, out, rejects, actOn, Simulates]
    | some session =>
        cases inside : withinWindow session now with
        | false =>
            have rejects : (manager.onReconnect peer now).1 = .reject .windowElapsed := by
              simp [onReconnect, found, inside]
            simp [nextSession, found, inside, leaseAct, out, rejects, actOn, Simulates]
        | true =>
            have resumes : (manager.onReconnect peer now).1 = .resume session.sessionId := by
              simp [onReconnect, found, inside]
            rw [found] at sim
            simp only [nextSession, found, Option.bind_some, inside, if_true, leaseAct,
              Event.of_op, Event.of_out, out, resumes, actOn]
            -- Only a parked lease can be resumed: a live session carries no stamp.
            cases lease with
            | absent => cases sim
            | live terms =>
                obtain ⟨_, same, -, unstamped, -⟩ := sim
                cases same
                rw [withinWindow_of_unstamped unstamped] at inside
                cases inside
            | parked terms =>
                obtain ⟨_, same, -, -, agree⟩ := sim
                cases same
                exact ⟨_, rfl, rfl, rfl, agree.role, agree.kind, agree.input, agree.actions⟩
  · have quiet : leaseAct p (Event.of step manager (.onReconnect peer now)) = .keep := by
      simp only [leaseAct, Event.of_op, Event.of_out, out]
      cases (manager.onReconnect peer now).1 <;> simp [actOn, same]
    simpa [nextSession, quiet, Ne.symm same] using sim

theorem simulates_onDisconnect (manager : SessionManager) (p peer : NodeId) (now : Instant)
    {lease : LeaseState InputTerms} (sim : Simulates (manager.sessions.lookup p) lease) :
    Simulates (manager.nextSession p (.onDisconnect peer now))
      (lease.next (leaseAct p (Event.of step manager (.onDisconnect peer now)))) := by
  by_cases same : peer = p
  · subst same
    simp only [nextSession, leaseAct, Event.of_op, actOn, if_true]
    cases lease with
    | absent =>
        change manager.sessions.lookup peer = none at sim
        simp [sim, LeaseState.next, Simulates]
    | live terms =>
        obtain ⟨session, found, -, -, agree⟩ := sim
        rw [found]
        exact ⟨_, rfl, rfl, rfl, agree.role, agree.kind, agree.input, agree.actions⟩
    | parked terms =>
        obtain ⟨session, found, -, -, agree⟩ := sim
        rw [found]
        exact ⟨_, rfl, rfl, rfl, agree.role, agree.kind, agree.input, agree.actions⟩
  · simpa [nextSession, leaseAct, actOn, same, Ne.symm same] using sim

/-- Every operation moves the session of `p` as its event moves the lease. -/
theorem simulates_step (manager : SessionManager) (op : SessionOp) (p : NodeId)
    {lease : LeaseState InputTerms} (sim : Simulates (manager.sessions.lookup p) lease) :
    Simulates ((manager.step op).2.sessions.lookup p)
      (lease.next (leaseAct p (Event.of step manager op))) := by
  rw [lookup_step]
  cases op with
  | requestConsentFor peer role kind checkedAt requestedAt => simpa [leaseAct, nextSession] using sim
  | forgetConsentRate peer => simpa [leaseAct, nextSession] using sim
  | grantAs peer role kind freshId => exact simulates_grantAs manager p peer role kind freshId sim
  | revoke peer =>
      by_cases same : peer = p
      · simp [leaseAct, actOn, nextSession, same, Simulates]
      · simpa [leaseAct, actOn, nextSession, same, Ne.symm same] using sim
  | setGrant peer which allowed =>
      simp only [leaseAct, Event.of_op, LeaseState.next_keep]
      apply sim.map
      · intro session terms agree
        split
        · exact ⟨agree.role, agree.kind, by simpa using agree.input, agree.actions⟩
        · exact agree
      · intro session; split <;> rfl
      · intro session; split <;> rfl
  | onReconnect peer now => exact simulates_onReconnect manager p peer now sim
  | onDisconnect peer now => exact simulates_onDisconnect manager p peer now sim
  | allowTunnelTarget peer target =>
      simp only [leaseAct, Event.of_op, LeaseState.next_keep]
      apply sim.map
      · intro session terms agree
        split
        · exact ⟨agree.role, agree.kind, agree.input, agree.actions⟩
        · exact agree
      · intro session; split <;> rfl
      · intro session; split <;> rfl
  | denyTunnelTarget peer target =>
      simp only [leaseAct, Event.of_op, LeaseState.next_keep]
      apply sim.map
      · intro session terms agree
        split
        · exact ⟨agree.role, agree.kind, agree.input, agree.actions⟩
        · exact agree
      · intro session; split <;> rfl
      · intro session; split <;> rfl
  | setPlan plan => simpa [leaseAct, nextSession] using sim
  | setControlPolicy policy => simpa [leaseAct, nextSession] using sim
  | endAll => simp [leaseAct, nextSession, Simulates]

/-- Along every run the manager stands where the lease of each peer does. -/
theorem simulates_run (plan : Plan) (ops : List SessionOp) (p : NodeId) :
    Simulates ((run plan ops).sessions.lookup p) (leaseAfter (leaseAct p) (events plan ops)) := by
  induction ops using List.reverseRecOn with
  | nil => rfl
  | append_singleton ops op ih =>
      rw [run, events, exec_concat, history_concat, leaseAfter_concat]
      exact simulates_step _ op p ih

/-- What the terms of a lease allow. -/
def InputTerms.Allow (terms : InputTerms) (event : InputEventPayload) : Prop :=
  terms.kind = .screen ∧
    (terms.role = .fullControl ∨
      terms.role = .controlLimited ∧ ControlAction.of event ∈ terms.actions)

theorem permits_iff_allow {session : ActiveSession} {terms : InputTerms}
    (agree : Agrees session terms) (event : InputEventPayload) :
    permits session event = true ↔ terms.Allow event := by
  obtain ⟨role, kind, actions⟩ := terms
  obtain ⟨isRole, -, isInput, isActions⟩ := agree
  simp only [permits, isRole]
  cases role <;> cases kind <;> simp_all [InputTerms.Allow]

/-- `authorize_input` accepts exactly what a live lease allows. -/
theorem authorizeInput_iff_live {manager : SessionManager} {p : NodeId}
    {lease : LeaseState InputTerms} (sim : Simulates (manager.sessions.lookup p) lease)
    (event : InputEventPayload) :
    manager.authorizeInput p event = .ok () ↔
      ∃ terms, lease = .live terms ∧ terms.Allow event := by
  unfold authorizeInput
  cases lease with
  | absent =>
      change manager.sessions.lookup p = none at sim
      simp [sim]
  | live terms =>
      obtain ⟨session, found, live, -, agree⟩ := sim
      have decided := permits_iff_allow agree event
      by_cases permitted : permits session event = true
      · simp [found, live, permitted, decided.mp permitted]
      · have refused : ¬ terms.Allow event := fun allow => permitted (decided.mpr allow)
        simp [found, live, permitted, refused]
  | parked terms =>
      obtain ⟨session, found, parked, -, -⟩ := sim
      simp [found, parked]

/-- The peer an operation is about; `end_all`, the plan and the policy name none. -/
def peerOf : SessionOp → Option NodeId
  | .requestConsentFor peer .. | .forgetConsentRate peer | .grantAs peer .. | .revoke peer
  | .setGrant peer .. | .onReconnect peer _ | .onDisconnect peer _ | .allowTunnelTarget peer _
  | .denyTunnelTarget peer _ => some peer
  | .setPlan _ | .setControlPolicy _ | .endAll => none

/-- A grant toggle, a policy edit, a plan change, or an operation on a peer other than `p`. -/
def Bystands (p : NodeId) (op : SessionOp) : Prop :=
  (∃ peer which allowed, op = .setGrant peer which allowed) ∨
    (∃ policy, op = .setControlPolicy policy) ∨ (∃ plan, op = .setPlan plan) ∨
    ∃ peer, peerOf op = some peer ∧ peer ≠ p

theorem leaseAct_of_bystands {p : NodeId} {op : SessionOp} (bystands : Bystands p op)
    (manager : SessionManager) : leaseAct p (Event.of step manager op) = .keep := by
  rcases bystands with ⟨peer, which, allowed, rfl⟩ | ⟨policy, rfl⟩ | ⟨plan, rfl⟩ | ⟨peer, about, other⟩
  · rfl
  · rfl
  · rfl
  · unfold leaseAct
    split <;> simp_all [peerOf, actOn]

/-- Input authority over whole runs. After any run from a new manager, `p` may inject
`event` exactly when its most recent successful grant, not undone by a revoke, `end_all` or
a rejecting reconnect, was a screen grant that allowed the event under the policy then in
force, and every disconnect of `p` since was followed by a resuming reconnect. No grant
toggle, policy edit, plan change or operation on another peer turns a refusal into an `Ok`. -/
theorem authorizeInput_iff_granted (plan : Plan) (ops : List SessionOp) (p : NodeId)
    (event : InputEventPayload) :
    ((run plan ops).authorizeInput p event = .ok () ↔
      ∃ pre grant post role, events plan ops = pre ++ grant :: post ∧
        GrantsTo p role .screen grant ∧ MayInject grant.pre.policy p role event ∧
        (∀ e ∈ post, ¬ EndsSession p e ∧ ∀ role kind, ¬ GrantsTo p role kind e) ∧
        ∀ before d after, post = before ++ d :: after → Disconnects p d →
          ∃ r ∈ after, Resumes p r) ∧
    ∀ op, Bystands p op → (run plan ops).authorizeInput p event ≠ .ok () →
      (run plan (ops ++ [op])).authorizeInput p event ≠ .ok () := by
  have sim := simulates_run plan ops p
  refine ⟨?_, ?_⟩
  · rw [authorizeInput_iff_live sim]
    constructor
    · rintro ⟨terms, live, screen, allow⟩
      obtain ⟨pre, grant, post, split, opens, untouched, resumed⟩ :=
        (leaseAfter_eq_live_iff _ terms).mp live
      obtain ⟨grants, actions⟩ := leaseAct_start_iff.mp opens
      rw [actions] at allow
      refine ⟨pre, grant, post, terms.role, split, screen ▸ grants, allow, ?_, ?_⟩
      · intro e member
        obtain ⟨notStop, notStart⟩ := untouched e member
        refine ⟨fun ends => notStop (leaseAct_stop_iff.mpr ends), ?_⟩
        intro role kind grantsAgain
        exact notStart ⟨role, kind, e.pre.policy.allowedFor p⟩
          (leaseAct_start_iff.mpr ⟨grantsAgain, rfl⟩)
      · intro before d after split parks
        obtain ⟨r, member, resumes⟩ := resumed before d after split (leaseAct_park_iff.mpr parks)
        exact ⟨r, member, leaseAct_resume_iff.mp resumes⟩
    · rintro ⟨pre, grant, post, role, split, grants, allow, untouched, resumed⟩
      refine ⟨⟨role, .screen, grant.pre.policy.allowedFor p⟩, ?_, rfl, allow⟩
      refine (leaseAfter_eq_live_iff _ _).mpr ⟨pre, grant, post, split,
        leaseAct_start_iff.mpr ⟨grants, rfl⟩, ?_, ?_⟩
      · intro e member
        obtain ⟨notEnds, notGrants⟩ := untouched e member
        refine ⟨fun stops => notEnds (leaseAct_stop_iff.mp stops), ?_⟩
        intro terms opens
        exact notGrants terms.role terms.kind (leaseAct_start_iff.mp opens).1
      · intro before d after split parks
        obtain ⟨r, member, resumes⟩ := resumed before d after split (leaseAct_park_iff.mp parks)
        exact ⟨r, member, leaseAct_resume_iff.mpr resumes⟩
  · intro op bystands refused accepted
    apply refused
    have later := simulates_step (run plan ops) op p sim
    rw [leaseAct_of_bystands bystands, LeaseState.next_keep] at later
    rw [run, exec_concat] at accepted
    exact (authorizeInput_iff_live sim event).mpr ((authorizeInput_iff_live later event).mp accepted)

end Lumepeer.Core.SessionManager

/-!
# Who could inject at all

`someone_may_inject` asks each session for its role's word without an event to
judge, `authorize_input` asks one session for its word on one event. The two
agree once every action of an allowlist has an event that asks for it.
-/

namespace Lumepeer.Core
open Lumepeer.Lib

/-- An event that asks for `action`. -/
def ControlAction.sample : ControlAction → InputEventPayload
  | .pointerMove => { logical := 0, scancode := 0, modifiers := 0, detail := .pointerMove 0 0 }
  | .pointerClick =>
      { logical := pointerButtonLogicalBase, scancode := 0, modifiers := 0, detail := .press }
  | .scroll => { logical := 0, scancode := 0, modifiers := 0, detail := .wheel 0 0 }
  | .keyPress => { logical := 0, scancode := 0, modifiers := 0, detail := .press }

/-- Every action is asked for by some event. -/
theorem ControlAction.of_sample (action : ControlAction) : of action.sample = action := by
  cases action with
  | pointerMove => rfl
  | pointerClick => rfl
  | scroll => rfl
  | keyPress => decide

namespace SessionManager

/-- A role that lets something through lets through some event, and no other role does. -/
theorem permitsSome_iff (session : ActiveSession) :
    permitsSome session = true ↔ ∃ event, permits session event = true := by
  cases role : session.role with
  | viewOnly => simp [permitsSome, permits, role]
  | fullControl =>
      simp only [permitsSome, permits, role]
      constructor
      · intro input
        exact ⟨ControlAction.pointerMove.sample, input⟩
      · rintro ⟨_, input⟩
        exact input
  | controlLimited =>
      simp only [permitsSome, permits, role, List.contains_iff_mem]
      constructor
      · intro holdsSome
        obtain ⟨action, member⟩ : ∃ action, action ∈ session.allowedActions := by
          apply List.exists_mem_of_ne_nil
          intro isEmpty
          simp [isEmpty] at holdsSome
        exact ⟨action.sample, by rw [ControlAction.of_sample]; exact member⟩
      · rintro ⟨event, member⟩
        simpa using List.ne_nil_of_mem member

/-- What `authorize_input` lets through. -/
theorem authorizeInput_eq_ok_iff {manager : SessionManager} {peer : NodeId}
    {event : InputEventPayload} :
    manager.authorizeInput peer event = .ok () ↔
      ∃ session, manager.sessions.lookup peer = some session ∧ session.state = .active ∧
        permits session event = true := by
  unfold authorizeInput
  cases found : manager.sessions.lookup peer with
  | none => simp
  | some session =>
      by_cases active : session.state = .active
      · cases word : permits session event <;> simp [active, word]
      · simp [active]

/-- Somebody may inject exactly when some peer gets some event past `authorize_input`, and the
two matches over the role agree on every session. -/
theorem someoneMayInject_iff :
    (∀ manager : SessionManager, manager.someoneMayInject = true ↔
      ∃ peer event, manager.authorizeInput peer event = .ok ()) ∧
    ∀ session : ActiveSession,
      permitsSome session = true ↔ ∃ event, permits session event = true := by
  refine ⟨fun manager => ?_, permitsSome_iff⟩
  have asked : manager.someoneMayInject = true ↔ ∃ peer session,
      manager.sessions.lookup peer = some session ∧ session.state = .active ∧
        permitsSome session = true := by
    simp only [someoneMayInject, List.any_eq_true, HashMap.mem_values, Bool.and_eq_true,
      decide_eq_true_eq]
    constructor
    · rintro ⟨session, ⟨peer, found⟩, word⟩
      exact ⟨peer, session, found, word⟩
    · rintro ⟨peer, session, found, word⟩
      exact ⟨session, ⟨peer, found⟩, word⟩
  rw [asked]
  apply exists_congr
  intro peer
  constructor
  · rintro ⟨session, found, active, word⟩
    obtain ⟨event, permitted⟩ := (permitsSome_iff session).mp word
    exact ⟨event, authorizeInput_eq_ok_iff.mpr ⟨session, found, active, permitted⟩⟩
  · rintro ⟨event, authorized⟩
    obtain ⟨session, found, active, permitted⟩ := authorizeInput_eq_ok_iff.mp authorized
    exact ⟨session, found, active, (permitsSome_iff session).mpr ⟨event, permitted⟩⟩

end SessionManager

end Lumepeer.Core
