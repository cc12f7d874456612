import Lumepeer.Core.Session

/-!
# What one operation does to one peer's session

`nextSession` writes the session of a peer after an operation as a function of
its session before it, and `lookup_step` proves that `step` does just that. The
invariants of the manager are derived from this one case analysis.
-/

namespace Lumepeer.Core.SessionManager
open Lumepeer.Lib

/-- The session `p` holds after `op`. -/
def nextSession (manager : SessionManager) (p : NodeId) : SessionOp → Option ActiveSession
  | .grantAs peer role kind freshId =>
      if p = peer ∧ manager.grantRefusal peer role kind = none then
        some (manager.grantedSession peer role kind freshId)
      else manager.sessions.lookup p
  | .revoke peer => if p = peer then none else manager.sessions.lookup p
  | .setGrant peer which allowed =>
      (manager.sessions.lookup p).map fun session =>
        if p = peer ∧ session.state = .active then
          { session with grants := session.grants.set which allowed }
        else session
  | .onReconnect peer now =>
      (manager.sessions.lookup p).bind fun session =>
        if p = peer then
          if withinWindow session now then
            some { session with state := .active, disconnectedAt := none }
          else none
        else some session
  | .onDisconnect peer now =>
      (manager.sessions.lookup p).map fun session =>
        if p = peer then { session with state := .reconnecting, disconnectedAt := some now }
        else session
  | .allowTunnelTarget peer target =>
      (manager.sessions.lookup p).map fun session =>
        if p = peer ∧ session.state = .active ∧ target ∉ session.allowedTargets ∧
            session.allowedTargets.length < maxTunnelTargetsPerSession then
          { session with allowedTargets := session.allowedTargets ++ [target] }
        else session
  | .denyTunnelTarget peer target =>
      (manager.sessions.lookup p).map fun session =>
        if p = peer then
          { session with allowedTargets := session.allowedTargets.filter (· ≠ target) }
        else session
  | .endAll => none
  | .requestConsentFor .. | .forgetConsentRate _ | .setPlan _ | .setControlPolicy _ =>
      manager.sessions.lookup p

theorem withinWindow_of_unstamped {session : ActiveSession}
    (unstamped : session.disconnectedAt = none) (now : Instant) :
    withinWindow session now = false := by
  simp [withinWindow, unstamped]

theorem requestConsentFor_sessions (manager : SessionManager) (peer : NodeId) (role : Role)
    (kind : SessionKind) (checkedAt requestedAt : Instant) :
    (manager.requestConsentFor peer role kind checkedAt requestedAt).2.sessions =
      manager.sessions := by
  unfold requestConsentFor
  split <;> rfl

theorem lookup_grantAs (manager : SessionManager) (p peer : NodeId) (role : Role)
    (kind : SessionKind) (freshId : SessionId) :
    (manager.grantAs peer role kind freshId).2.sessions.lookup p =
      manager.nextSession p (.grantAs peer role kind freshId) := by
  simp only [grantAs, nextSession]
  cases manager.grantRefusal peer role kind with
  | some error => simp
  | none => simp [HashMap.lookup_insert_eq]

theorem revoke_sessions (manager : SessionManager) (peer : NodeId) :
    (manager.revoke peer).2.sessions = manager.sessions.erase peer := by
  unfold revoke
  dsimp only
  split <;> rfl

theorem lookup_setGrant (manager : SessionManager) (p peer : NodeId) (which : IndependentGrant)
    (allowed : Bool) :
    (manager.setGrant peer which allowed).2.sessions.lookup p =
      manager.nextSession p (.setGrant peer which allowed) := by
  simp only [setGrant, nextSession]
  by_cases same : p = peer
  · subst same
    cases found : manager.sessions.lookup p with
    | none => simp [found]
    | some session => by_cases live : session.state = .active <;> simp [live, found]
  · have others (m : HashMap NodeId ActiveSession) (s : ActiveSession) :
        (m.insert peer s).lookup p = m.lookup p := AList.lookup_insert_ne same
    cases manager.sessions.lookup peer with
    | none => simp [same]
    | some session => by_cases live : session.state = .active <;> simp [live, same, others]

theorem lookup_onReconnect (manager : SessionManager) (p peer : NodeId) (now : Instant) :
    (manager.onReconnect peer now).2.sessions.lookup p =
      manager.nextSession p (.onReconnect peer now) := by
  simp only [onReconnect, nextSession]
  by_cases same : p = peer
  · subst same
    cases found : manager.sessions.lookup p with
    | none => simp [found]
    | some session => cases inside : withinWindow session now <;> simp [inside]
  · cases manager.sessions.lookup peer with
    | none => simp [same]
    | some session =>
        cases inside : withinWindow session now <;>
          simp [inside, same, AList.lookup_erase_ne, AList.lookup_insert_ne]

theorem lookup_onDisconnect (manager : SessionManager) (p peer : NodeId) (now : Instant) :
    (manager.onDisconnect peer now).2.sessions.lookup p =
      manager.nextSession p (.onDisconnect peer now) := by
  simp only [onDisconnect, nextSession]
  by_cases same : p = peer
  · subst same
    cases found : manager.sessions.lookup p <;> simp [found]
  · cases manager.sessions.lookup peer <;> simp [same, AList.lookup_insert_ne]

theorem lookup_allowTunnelTarget (manager : SessionManager) (p peer : NodeId)
    (target : TunnelTarget) :
    (manager.allowTunnelTarget peer target).2.sessions.lookup p =
      manager.nextSession p (.allowTunnelTarget peer target) := by
  simp only [allowTunnelTarget, nextSession]
  by_cases same : p = peer
  · subst same
    cases found : manager.sessions.lookup p with
    | none => simp [found]
    | some session =>
        by_cases live : session.state = .active
        · by_cases listed : target ∈ session.allowedTargets
          · simp [live, listed, found]
          · by_cases full : session.allowedTargets.length ≥ maxTunnelTargetsPerSession
            · simp [live, listed, full, found]
            · simp [live, listed, full]
        · simp [live, found]
  · have others (m : HashMap NodeId ActiveSession) (s : ActiveSession) :
        (m.insert peer s).lookup p = m.lookup p := AList.lookup_insert_ne same
    cases manager.sessions.lookup peer with
    | none => simp [same]
    | some session =>
        dsimp only
        split
        · simp [same]
        · split
          · simp [same]
          · split <;> simp [same, others]

theorem lookup_denyTunnelTarget (manager : SessionManager) (p peer : NodeId)
    (target : TunnelTarget) :
    (manager.denyTunnelTarget peer target).sessions.lookup p =
      manager.nextSession p (.denyTunnelTarget peer target) := by
  simp only [denyTunnelTarget, nextSession, HashMap.lookup_modify_eq]
  by_cases same : p = peer
  · subst same
    simp
  · simp [same]

/-- One operation moves the session of `p` as `nextSession` says. -/
theorem lookup_step (manager : SessionManager) (op : SessionOp) (p : NodeId) :
    (manager.step op).2.sessions.lookup p = manager.nextSession p op := by
  cases op with
  | requestConsentFor peer role kind checkedAt requestedAt =>
      exact congrArg (AList.lookup p)
        (requestConsentFor_sessions manager peer role kind checkedAt requestedAt)
  | forgetConsentRate peer => rfl
  | grantAs peer role kind freshId => exact lookup_grantAs manager p peer role kind freshId
  | revoke peer =>
      show (manager.revoke peer).2.sessions.lookup p = _
      rw [revoke_sessions, HashMap.lookup_erase_eq]
      rfl
  | setGrant peer which allowed => exact lookup_setGrant manager p peer which allowed
  | onReconnect peer now => exact lookup_onReconnect manager p peer now
  | onDisconnect peer now => exact lookup_onDisconnect manager p peer now
  | allowTunnelTarget peer target => exact lookup_allowTunnelTarget manager p peer target
  | denyTunnelTarget peer target => exact lookup_denyTunnelTarget manager p peer target
  | setPlan plan => rfl
  | setControlPolicy policy => rfl
  | endAll => rfl

end Lumepeer.Core.SessionManager
