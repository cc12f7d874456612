import Lumepeer.Core.Session.Proofs.Step

/-!
# One controller and bounded sessions

`grant_as` counts only the sessions of the asked kind that other peers hold and
skips the ceiling for a re-grant of the same kind. The invariant that survives
every order of grants, kind switches, upgrades and parked sessions is stated
over the whole session map: one screen controller at most, and each kind within
its ceiling.
-/

namespace Lumepeer.Core.SessionManager
open Lumepeer.Lib

/-- A screen session whose role is a controller role. -/
def Controls (session : ActiveSession) : Prop :=
  session.kind = .screen ∧ session.role.isController = true

/-- `p` holds a screen session whose role is a controller role. -/
def HoldsControl (manager : SessionManager) (p : NodeId) : Prop :=
  ∃ session, manager.sessions.lookup p = some session ∧ Controls session

/-- How many peers hold a session of `kind`. -/
def sessionsOf (manager : SessionManager) (kind : SessionKind) : Nat :=
  manager.sessions.countWhere fun _ session => session.kind == kind

/-- At most one peer holds control. -/
def SoleController (manager : SessionManager) : Prop :=
  ∀ p q, manager.HoldsControl p → manager.HoldsControl q → p = q

/-- The operation is a `grant_as` that will be accepted. -/
def Admits (manager : SessionManager) : SessionOp → Prop
  | .grantAs peer role kind _ => manager.grantRefusal peer role kind = none
  | _ => False

/-- Only an accepted grant gives a peer a session, a role or a kind it did not have. -/
theorem exists_of_nextSession {manager : SessionManager} {op : SessionOp}
    (notAdmits : ¬ manager.Admits op) {p : NodeId} {after : ActiveSession}
    (held : manager.nextSession p op = some after) :
    ∃ before, manager.sessions.lookup p = some before ∧ before.kind = after.kind ∧
      before.role = after.role := by
  cases op with
  | grantAs peer role kind freshId =>
      have refused : manager.grantRefusal peer role kind ≠ none := notAdmits
      simp only [nextSession, refused, and_false, if_false] at held
      exact ⟨after, held, rfl, rfl⟩
  | revoke peer =>
      simp only [nextSession] at held
      split at held
      · cases held
      · exact ⟨after, held, rfl, rfl⟩
  | setGrant peer which allowed =>
      obtain ⟨before, found, rfl⟩ := Option.map_eq_some_iff.mp held
      exact ⟨before, found, by split <;> rfl, by split <;> rfl⟩
  | onReconnect peer now =>
      obtain ⟨before, found, moved⟩ := Option.bind_eq_some_iff.mp held
      refine ⟨before, found, ?_⟩
      split at moved
      · split at moved
        · cases moved; exact ⟨rfl, rfl⟩
        · cases moved
      · cases moved; exact ⟨rfl, rfl⟩
  | onDisconnect peer now =>
      obtain ⟨before, found, rfl⟩ := Option.map_eq_some_iff.mp held
      exact ⟨before, found, by split <;> rfl, by split <;> rfl⟩
  | allowTunnelTarget peer target =>
      obtain ⟨before, found, rfl⟩ := Option.map_eq_some_iff.mp held
      exact ⟨before, found, by split <;> rfl, by split <;> rfl⟩
  | denyTunnelTarget peer target =>
      obtain ⟨before, found, rfl⟩ := Option.map_eq_some_iff.mp held
      exact ⟨before, found, by split <;> rfl, by split <;> rfl⟩
  | endAll => cases held
  | requestConsentFor peer role kind checkedAt requestedAt => exact ⟨after, held, rfl, rfl⟩
  | forgetConsentRate peer => exact ⟨after, held, rfl, rfl⟩
  | setPlan plan => exact ⟨after, held, rfl, rfl⟩
  | setControlPolicy policy => exact ⟨after, held, rfl, rfl⟩

/-- Without an accepted grant, no peer gains control. -/
theorem holdsControl_of_step {manager : SessionManager} {op : SessionOp}
    (notAdmits : ¬ manager.Admits op) {p : NodeId} (holds : (manager.step op).2.HoldsControl p) :
    manager.HoldsControl p := by
  obtain ⟨after, held, screen, controller⟩ := holds
  rw [lookup_step] at held
  obtain ⟨before, found, kind, role⟩ := exists_of_nextSession notAdmits held
  exact ⟨before, found, kind ▸ screen, role ▸ controller⟩

/-- Without an accepted grant, no kind gains sessions. -/
theorem sessionsOf_step_le {manager : SessionManager} {op : SessionOp}
    (notAdmits : ¬ manager.Admits op) (kind : SessionKind) :
    (manager.step op).2.sessionsOf kind ≤ manager.sessionsOf kind := by
  apply HashMap.countWhere_le_of_lookup
  intro p after held isKind
  rw [lookup_step] at held
  obtain ⟨before, found, same, -⟩ := exists_of_nextSession notAdmits held
  exact ⟨before, found, by simpa [same] using isKind⟩

/-- An iterator over the map finds a controller exactly when a peer holds control. -/
theorem controllerIn_eq_some {manager : SessionManager} (sole : manager.SoleController)
    {order : List (Sigma fun _ : NodeId => ActiveSession)}
    (visits : order.Perm manager.sessions.entries) (p : NodeId) :
    controllerIn order = some p ↔ manager.HoldsControl p := by
  have found (entry : Sigma fun _ : NodeId => ActiveSession)
      (member : entry ∈ order) : manager.sessions.lookup entry.1 = some entry.2 :=
    AList.mem_lookup_iff.mpr (visits.mem_iff.mp member)
  constructor
  · intro isController
    obtain ⟨entry, first, rfl⟩ := Option.map_eq_some_iff.mp isController
    have controls := List.find?_some first
    simp only [Bool.and_eq_true, beq_iff_eq] at controls
    exact ⟨entry.2, found entry (List.mem_of_find?_eq_some first), controls⟩
  · rintro ⟨session, held, screen, controls⟩
    have member : ⟨p, session⟩ ∈ order := visits.mem_iff.mpr (AList.mem_lookup_iff.mp held)
    unfold controllerIn
    cases first : order.find? fun entry =>
        entry.2.kind == .screen && entry.2.role.isController with
    | none =>
        have := List.find?_eq_none.mp first _ member
        simp [screen, controls] at this
    | some entry =>
        have visited := List.find?_some first
        simp only [Bool.and_eq_true, beq_iff_eq] at visited
        have same := sole entry.1 p ⟨entry.2, found entry (List.mem_of_find?_eq_some first), visited⟩
          ⟨session, held, screen, controls⟩
        simp [same]

theorem controllerIn_perm {manager : SessionManager} (sole : manager.SoleController)
    {order : List (Sigma fun _ : NodeId => ActiveSession)}
    (visits : order.Perm manager.sessions.entries) :
    controllerIn order = manager.controller := by
  apply Option.ext
  intro p
  rw [controllerIn_eq_some sole visits, controller, controllerIn_eq_some sole (List.Perm.refl _)]

theorem sole_of_grantAs {manager : SessionManager} (sole : manager.SoleController)
    {peer : NodeId} {role : Role} {kind : SessionKind} (freshId : SessionId)
    (admitted : manager.grantRefusal peer role kind = none) :
    (manager.step (.grantAs peer role kind freshId)).2.SoleController := by
  -- A peer other than the granted one holds what it held before.
  have before (q : NodeId) (other : q ≠ peer)
      (holds : (manager.step (.grantAs peer role kind freshId)).2.HoldsControl q) :
      manager.HoldsControl q := by
    obtain ⟨session, held, controls⟩ := holds
    rw [lookup_step] at held
    simp only [nextSession, other, false_and, if_false] at held
    exact ⟨session, held, controls⟩
  -- And it cannot hold control beside a granted controller, or the grant was refused.
  have excluded (q : NodeId) (other : q ≠ peer)
      (mine : (manager.step (.grantAs peer role kind freshId)).2.HoldsControl peer)
      (theirs : (manager.step (.grantAs peer role kind freshId)).2.HoldsControl q) : False := by
    obtain ⟨session, held, screen, controls⟩ := mine
    rw [lookup_step] at held
    simp only [nextSession, admitted, and_self, if_true, Option.some.injEq] at held
    subst held
    have isScreen : kind = .screen := screen
    have isController : role.isController = true := controls
    subst isScreen
    have holder : manager.controller = some q :=
      (controllerIn_eq_some sole (List.Perm.refl _) q).mpr (before q other theirs)
    unfold grantRefusal at admitted
    dsimp only at admitted
    split at admitted
    · cases admitted
    · simp [isController, holder, other] at admitted
  intro p q holdsP holdsQ
  by_cases isP : p = peer
  · subst isP
    by_contra different
    exact excluded q (Ne.symm different) holdsP holdsQ
  · by_cases isQ : q = peer
    · subst isQ
      exact (excluded p isP holdsQ holdsP).elim
    · exact sole p q (before p isP holdsP) (before q isQ holdsQ)

theorem soleController_step (manager : SessionManager) (op : SessionOp)
    (sole : manager.SoleController) : (manager.step op).2.SoleController := by
  by_cases admits : manager.Admits op
  · cases op with
    | grantAs peer role kind freshId => exact sole_of_grantAs sole freshId admits
    | _ => cases admits
  · intro p q holdsP holdsQ
    exact sole p q (holdsControl_of_step admits holdsP) (holdsControl_of_step admits holdsQ)

/-- An accepted grant adds one session of its kind to those of the other peers. -/
theorem sessionsOf_grantAs {manager : SessionManager} {peer : NodeId} {role : Role}
    {kind : SessionKind} (freshId : SessionId)
    (admitted : manager.grantRefusal peer role kind = none) (asked : SessionKind) :
    (manager.step (.grantAs peer role kind freshId)).2.sessionsOf asked =
      manager.sessions.countWhere (fun holder session => holder != peer && session.kind == asked) +
        if kind = asked then 1 else 0 := by
  have sessions : (manager.step (.grantAs peer role kind freshId)).2.sessions =
      manager.sessions.insert peer (manager.grantedSession peer role kind freshId) := by
    simp [step, grantAs, admitted]
  unfold sessionsOf
  rw [sessions, HashMap.countWhere_insert]
  simp [grantedSession]

/-- A ceiling the checks of `grant_as` compare against is kept by an accepted grant. -/
theorem sessionsOf_grantAs_le {manager : SessionManager} {peer : NodeId} {role : Role}
    {kind asked : SessionKind} {limit : Nat} (freshId : SessionId)
    (admitted : manager.grantRefusal peer role kind = none)
    (checked : kind = asked →
      ((manager.sessions.lookup peer).any fun session => session.kind == asked) = true ∨
        manager.sessions.countWhere (fun holder session => holder != peer && session.kind == asked)
          < limit)
    (within : manager.sessionsOf asked ≤ limit) :
    (manager.step (.grantAs peer role kind freshId)).2.sessionsOf asked ≤ limit := by
  have own := HashMap.countWhere_eq_others (fun _ session => session.kind == asked)
    manager.sessions peer
  unfold sessionsOf at within
  rw [sessionsOf_grantAs freshId admitted]
  by_cases same : kind = asked
  · rw [if_pos same]
    rcases checked same with already | room
    · rw [if_pos already] at own
      omega
    · omega
  · rw [if_neg same]
    omega

theorem terminals_step (manager : SessionManager) (op : SessionOp)
    (within : manager.sessionsOf .terminal ≤ maxTerminalSessions) :
    (manager.step op).2.sessionsOf .terminal ≤ maxTerminalSessions := by
  by_cases admits : manager.Admits op
  · cases op with
    | grantAs peer role kind freshId =>
        apply sessionsOf_grantAs_le freshId admits _ within
        rintro rfl
        have admitted : manager.grantRefusal peer role .terminal = none := admits
        simp only [grantRefusal] at admitted
        by_contra refused
        push Not at refused
        simp [refused] at admitted
    | _ => cases admits
  · exact (sessionsOf_step_le admits .terminal).trans within

theorem screens_step (manager : SessionManager) (op : SessionOp)
    (within : manager.sessionsOf .screen ≤ manager.plan.maxConcurrentGuests) :
    (manager.step op).2.sessionsOf .screen ≤ manager.plan.maxConcurrentGuests := by
  by_cases admits : manager.Admits op
  · cases op with
    | grantAs peer role kind freshId =>
        apply sessionsOf_grantAs_le freshId admits _ within
        rintro rfl
        have admitted : manager.grantRefusal peer role .screen = none := admits
        simp only [grantRefusal] at admitted
        by_contra refused
        push Not at refused
        simp [refused] at admitted
    | _ => cases admits
  · exact (sessionsOf_step_le admits .screen).trans within

/-- Only `set_plan` changes the plan. -/
theorem plan_step (manager : SessionManager) (op : SessionOp)
    (notPlan : ∀ plan, op ≠ .setPlan plan) : (manager.step op).2.plan = manager.plan := by
  cases op with
  | requestConsentFor peer role kind checkedAt requestedAt =>
      simp only [step, requestConsentFor]
      split <;> rfl
  | grantAs peer role kind freshId => simp only [step, grantAs]; split <;> rfl
  | revoke peer => simp only [step, revoke]; split <;> rfl
  | setGrant peer which allowed =>
      simp only [step, setGrant]
      split
      · rfl
      · split <;> rfl
  | onReconnect peer now =>
      simp only [step, onReconnect]
      split
      · rfl
      · split <;> rfl
  | onDisconnect peer now => simp only [step, onDisconnect]; split <;> rfl
  | allowTunnelTarget peer target =>
      simp only [step, allowTunnelTarget]
      split
      · rfl
      · split
        · rfl
        · split
          · rfl
          · split <;> rfl
  | setPlan plan => exact absurd rfl (notPlan plan)
  | forgetConsentRate peer => rfl
  | denyTunnelTarget peer target => rfl
  | setControlPolicy policy => rfl
  | endAll => rfl

/-- In every reachable state at most one peer holds a controlling screen session, whatever
order the map is iterated in `controller` names that peer, at most `MAX_TERMINAL_SESSIONS`
peers hold a terminal session and, while `set_plan` is not called, at most the plan's number
of peers hold a screen session. -/
theorem sessions_within_limits (plan : Plan) (ops : List SessionOp) :
    (run plan ops).SoleController ∧
    (∀ order, order.Perm (run plan ops).sessions.entries →
      controllerIn order = (run plan ops).controller) ∧
    (run plan ops).sessionsOf .terminal ≤ maxTerminalSessions ∧
    ((∀ op ∈ ops, ∀ other, op ≠ .setPlan other) →
      (run plan ops).sessionsOf .screen ≤ plan.maxConcurrentGuests) := by
  have sole : (run plan ops).SoleController :=
    exec_invariant soleController_step (by rintro p q ⟨_, held, -⟩; cases held) ops
  refine ⟨sole, fun order visits => controllerIn_perm sole visits, ?_, ?_⟩
  · exact exec_invariant terminals_step (Nat.zero_le _) ops
  · intro noPlan
    have keep (manager : SessionManager) (op : SessionOp)
        (inv : manager.plan = plan ∧ manager.sessionsOf .screen ≤ manager.plan.maxConcurrentGuests)
        (notPlan : ∀ other, op ≠ .setPlan other) :
        (manager.step op).2.plan = plan ∧
          (manager.step op).2.sessionsOf .screen ≤
            (manager.step op).2.plan.maxConcurrentGuests := by
      have same := plan_step manager op notPlan
      rw [same]
      exact ⟨inv.1, screens_step manager op inv.2⟩
    have start : (withPlan plan).plan = plan ∧
        (withPlan plan).sessionsOf .screen ≤ (withPlan plan).plan.maxConcurrentGuests :=
      ⟨rfl, Nat.zero_le _⟩
    obtain ⟨same, within⟩ := exec_induction keep start
      fun e member => noPlan e.op (op_mem_of_mem_history member)
    rw [same] at within
    exact within

end Lumepeer.Core.SessionManager
