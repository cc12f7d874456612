import Lumepeer.Core.Consent
import Lumepeer.Core.License
import Lumepeer.Core.RemotePath
import Lumepeer.Lib.Run

/-!
# The session manager

`SessionManager` of `crates/core/src/session.rs`, the owner of all session state
on the host. Clock readings and fresh session ids, which the source takes from
the operating system, are arguments of the operations that use them.
`SessionOp` collects the operations that change the manager and `step` runs
one, so that a run of the manager is a list of operations.
-/

namespace Lumepeer.Core
open Lumepeer.Lib

/-- `SessionState` (`session.rs:30-47`). -/
inductive SessionState where
  | idle
  | invited
  | connecting
  | authenticating
  | awaitingConsent
  | active
  | reconnecting
  | ended
  deriving DecidableEq, Repr

/-- `RejectReason` (`session.rs:81-86`). -/
inductive RejectReason where
  | windowElapsed
  | unknownSession
  deriving DecidableEq, Repr

/-- `ReconnectDecision` (`session.rs:66-77`). -/
inductive ReconnectDecision where
  | resume (sessionId : SessionId)
  | reject (reason : RejectReason)
  deriving DecidableEq

/-- `AuditEvent::GrantChanged`, the one audit event the manager hands back. -/
inductive AuditEvent where
  | grantChanged (grant : IndependentGrant) (enabled : Bool)
  deriving DecidableEq, Repr

/-- `TunnelTarget` (`session.rs:121-127`). -/
structure TunnelTarget where
  host : List Char
  port : UInt16
  deriving DecidableEq

/-- `ActiveSession` (`session.rs:90-114`). -/
structure ActiveSession where
  sessionId : SessionId
  role : Role
  kind : SessionKind
  grants : Grants
  allowedActions : List ControlAction
  state : SessionState
  disconnectedAt : Option Instant
  allowedTargets : List TunnelTarget
  deriving DecidableEq

/-- `SessionManager` (`session.rs:181-187`). -/
structure SessionManager where
  plan : Plan
  queue : ConsentQueue := {}
  limiter : ConsentRateLimiter := {}
  policy : ControlPolicy := .denyAll
  sessions : HashMap NodeId ActiveSession := ∅

namespace SessionManager

/-- `SessionManager::with_plan` (`session.rs:205-213`); `new` is the free plan. -/
def withPlan (plan : Plan) : SessionManager := { plan }

/-- `SessionManager::request_consent_for` (`session.rs:261-269`). The limiter and the
ticket each read the clock. -/
def requestConsentFor (manager : SessionManager) (peer : NodeId) (role : Role)
    (kind : SessionKind) (checkedAt requestedAt : Instant) :
    Except CoreError ConsentTicket × SessionManager :=
  match manager.limiter.checkAt peer checkedAt with
  | (.error error, limiter) => (.error error, { manager with limiter })
  | (.ok (), limiter) =>
      let (ticket, queue) := manager.queue.pushAs peer role kind requestedAt
      (ticket, { manager with limiter, queue })

/-- `SessionManager::forget_consent_rate` (`session.rs:278-280`). -/
def forgetConsentRate (manager : SessionManager) (peer : NodeId) : SessionManager :=
  { manager with limiter := manager.limiter.forget peer }

/-- `SessionManager::controller` (`session.rs:607-612`) over the entries in the order an
iterator visits them. -/
def controllerIn (entries : List (Sigma fun _ : NodeId => ActiveSession)) : Option NodeId :=
  (entries.find? fun entry =>
    entry.2.kind == .screen && entry.2.role.isController).map fun entry => entry.1

/-- `SessionManager::controller` (`session.rs:607-612`). -/
def controller (manager : SessionManager) : Option NodeId := controllerIn manager.sessions.entries

/-- The checks at the head of `grant_as` (`session.rs:311-342`). -/
def grantRefusal (manager : SessionManager) (peer : NodeId) (role : Role) (kind : SessionKind) :
    Option CoreError :=
  let alreadyActive := (manager.sessions.lookup peer).any fun session => session.kind == kind
  let others := manager.sessions.countWhere fun holder session =>
    holder != peer && session.kind == kind
  match kind with
  | .screen =>
      let limit := manager.plan.maxConcurrentGuests
      if !alreadyActive && others ≥ limit then some (.concurrentGuestLimit limit)
      else if role.isController && manager.controller.any (· != peer) then
        some .controllerAlreadyGranted
      else none
  | .terminal =>
      if !alreadyActive && others ≥ maxTerminalSessions then
        some (.terminalSessionLimit maxTerminalSessions)
      else none

/-- The session `grant_as` stores (`session.rs:345-379`); `freshId` is the CSPRNG's draw. -/
def grantedSession (manager : SessionManager) (peer : NodeId) (role : Role) (kind : SessionKind)
    (freshId : SessionId) : ActiveSession :=
  { sessionId := ((manager.sessions.lookup peer).map (·.sessionId)).getD freshId
    role
    kind
    grants := match kind with
      | .screen => Grants.fromRole role
      | .terminal => Grants.forTerminal role
    allowedActions :=
      if role = .controlLimited ∧ kind = .screen then manager.policy.allowedFor peer else []
    state := .active
    disconnectedAt := none
    allowedTargets := ((manager.sessions.lookup peer).map (·.allowedTargets)).getD [] }

/-- `SessionManager::grant_as` (`session.rs:310-382`). -/
def grantAs (manager : SessionManager) (peer : NodeId) (role : Role) (kind : SessionKind)
    (freshId : SessionId) : Except CoreError Unit × SessionManager :=
  match manager.grantRefusal peer role kind with
  | some error => (.error error, manager)
  | none =>
      (.ok (), { manager with
        queue := (manager.queue.remove peer).2
        sessions := manager.sessions.insert peer (manager.grantedSession peer role kind freshId) })

/-- `SessionManager::revoke` (`session.rs:389-397`). -/
def revoke (manager : SessionManager) (peer : NodeId) : Except CoreError Unit × SessionManager :=
  let hadSession := (manager.sessions.lookup peer).isSome
  let hadRequest := (manager.queue.remove peer).1.isSome
  let next := { manager with
    sessions := manager.sessions.erase peer
    queue := (manager.queue.remove peer).2 }
  if hadSession || hadRequest then (.ok (), next) else (.error .unknownPeer, next)

/-- `SessionManager::set_grant` (`session.rs:416-431`). -/
def setGrant (manager : SessionManager) (peer : NodeId) (which : IndependentGrant)
    (allowed : Bool) : Except CoreError AuditEvent × SessionManager :=
  match manager.sessions.lookup peer with
  | none => (.error .unknownPeer, manager)
  | some session =>
      if session.state ≠ .active then (.error .notPermitted, manager)
      else
        (.ok (.grantChanged which allowed), { manager with
          sessions := manager.sessions.insert peer
            { session with grants := session.grants.set which allowed } })

/-- Whether a parked session may still come back (`session.rs:447-449`). `elapsed` saturates. -/
def withinWindow (session : ActiveSession) (now : Instant) : Bool :=
  session.disconnectedAt.any fun parkedAt =>
    now - parkedAt ≤ Duration.fromSecs reconnectWindowSecs

/-- `SessionManager::on_reconnect` (`session.rs:441-462`). -/
def onReconnect (manager : SessionManager) (peer : NodeId) (now : Instant) :
    ReconnectDecision × SessionManager :=
  match manager.sessions.lookup peer with
  | none => (.reject .unknownSession, manager)
  | some session =>
      if !withinWindow session now then
        (.reject .windowElapsed, { manager with sessions := manager.sessions.erase peer })
      else
        (.resume session.sessionId, { manager with
          sessions := manager.sessions.insert peer
            { session with state := .active, disconnectedAt := none } })

/-- `SessionManager::on_disconnect` (`session.rs:468-473`). -/
def onDisconnect (manager : SessionManager) (peer : NodeId) (now : Instant) :
    Except CoreError Unit × SessionManager :=
  match manager.sessions.lookup peer with
  | none => (.error .unknownPeer, manager)
  | some session =>
      (.ok (), { manager with
        sessions := manager.sessions.insert peer
          { session with state := .reconnecting, disconnectedAt := some now } })

/-- `SessionManager::allow_tunnel_target` (`session.rs:494-508`). -/
def allowTunnelTarget (manager : SessionManager) (peer : NodeId) (target : TunnelTarget) :
    Except CoreError Unit × SessionManager :=
  match manager.sessions.lookup peer with
  | none => (.error .notPermitted, manager)
  | some session =>
      if session.state ≠ .active then (.error .notPermitted, manager)
      else if target ∈ session.allowedTargets then (.ok (), manager)
      else if session.allowedTargets.length ≥ maxTunnelTargetsPerSession then
        (.error .notPermitted, manager)
      else
        (.ok (), { manager with
          sessions := manager.sessions.insert peer
            { session with allowedTargets := session.allowedTargets ++ [target] } })

/-- `SessionManager::deny_tunnel_target` (`session.rs:515-519`). -/
def denyTunnelTarget (manager : SessionManager) (peer : NodeId) (target : TunnelTarget) :
    SessionManager :=
  { manager with
    sessions := manager.sessions.modify peer fun session =>
      { session with allowedTargets := session.allowedTargets.filter (· ≠ target) } }

/-- `SessionManager::end_all` (`session.rs:695-698`). -/
def endAll (manager : SessionManager) : SessionManager :=
  { manager with queue := {}, sessions := ∅ }

/-- `SessionManager::pending` (`session.rs:597-599`). -/
def pending (manager : SessionManager) : List ConsentTicket := manager.queue.pending

/-- The role's word on one event (`session.rs:629-635`). -/
def permits (session : ActiveSession) (event : InputEventPayload) : Bool :=
  match session.role with
  | .viewOnly => false
  | .fullControl => session.grants.input
  | .controlLimited => session.allowedActions.contains (ControlAction.of event)

/-- `SessionManager::authorize_input` (`session.rs:624-641`). -/
def authorizeInput (manager : SessionManager) (peer : NodeId) (event : InputEventPayload) :
    Except CoreError Unit :=
  match manager.sessions.lookup peer with
  | none => .error .unknownPeer
  | some session =>
      if session.state ≠ .active then .error .notPermitted
      else if permits session event then .ok ()
      else .error .notPermitted

end SessionManager

/-- The operations that change a `SessionManager`, with the values each draws from the
clock and the random generator. -/
inductive SessionOp where
  | requestConsentFor (peer : NodeId) (role : Role) (kind : SessionKind)
      (checkedAt requestedAt : Instant)
  | forgetConsentRate (peer : NodeId)
  | grantAs (peer : NodeId) (role : Role) (kind : SessionKind) (freshId : SessionId)
  | revoke (peer : NodeId)
  | setGrant (peer : NodeId) (which : IndependentGrant) (allowed : Bool)
  | onReconnect (peer : NodeId) (now : Instant)
  | onDisconnect (peer : NodeId) (now : Instant)
  | allowTunnelTarget (peer : NodeId) (target : TunnelTarget)
  | denyTunnelTarget (peer : NodeId) (target : TunnelTarget)
  | setPlan (plan : Plan)
  | setControlPolicy (policy : ControlPolicy)
  | endAll
  deriving DecidableEq

/-- What an operation returned. -/
inductive SessionOutcome where
  | ticket (result : Except CoreError ConsentTicket)
  | done (result : Except CoreError Unit)
  | audited (result : Except CoreError AuditEvent)
  | reconnect (decision : ReconnectDecision)
  | unit

namespace SessionManager

/-- One operation. -/
def step (manager : SessionManager) : SessionOp → SessionOutcome × SessionManager
  | .requestConsentFor peer role kind checkedAt requestedAt =>
      let (result, next) := manager.requestConsentFor peer role kind checkedAt requestedAt
      (.ticket result, next)
  | .forgetConsentRate peer => (.unit, manager.forgetConsentRate peer)
  | .grantAs peer role kind freshId =>
      let (result, next) := manager.grantAs peer role kind freshId
      (.done result, next)
  | .revoke peer =>
      let (result, next) := manager.revoke peer
      (.done result, next)
  | .setGrant peer which allowed =>
      let (result, next) := manager.setGrant peer which allowed
      (.audited result, next)
  | .onReconnect peer now =>
      let (decision, next) := manager.onReconnect peer now
      (.reconnect decision, next)
  | .onDisconnect peer now =>
      let (result, next) := manager.onDisconnect peer now
      (.done result, next)
  | .allowTunnelTarget peer target =>
      let (result, next) := manager.allowTunnelTarget peer target
      (.done result, next)
  | .denyTunnelTarget peer target => (.unit, manager.denyTunnelTarget peer target)
  | .setPlan plan => (.unit, { manager with plan })
  | .setControlPolicy policy => (.unit, { manager with policy })
  | .endAll => (.unit, manager.endAll)

/-- The manager a list of operations leads to from `with_plan(plan)`. -/
abbrev run (plan : Plan) (ops : List SessionOp) : SessionManager := exec step (withPlan plan) ops

/-- An event of a run of the manager. -/
abbrev SessionEvent := Event SessionManager SessionOp SessionOutcome

/-- The events of that run. -/
abbrev events (plan : Plan) (ops : List SessionOp) : List SessionEvent :=
  history step (withPlan plan) ops

end SessionManager

/-!
## Questions to the session manager

What the actor asks a `SessionManager` of `crates/core/src/session.rs` before it
acts for a peer. Each reads the one session the manager holds for the peer.
-/

/-- `char::is_whitespace`: the property `White_Space`. -/
def isWhitespace (c : Char) : Bool :=
  (0x09 ≤ c.toNat && c.toNat ≤ 0x0D) || c.toNat = 0x20 || c.toNat = 0x85 || c.toNat = 0xA0 ||
    c.toNat = 0x1680 || (0x2000 ≤ c.toNat && c.toNat ≤ 0x200A) || c.toNat = 0x2028 ||
    c.toNat = 0x2029 || c.toNat = 0x202F || c.toNat = 0x205F || c.toNat = 0x3000

/-- `TunnelTarget::named` (`session.rs:155-169`). -/
def TunnelTarget.named (host : List Char) (port : UInt16) : Option TunnelTarget :=
  if host.isEmpty || (host.map Char.utf8Size).sum > tunnelHostMaxBytes || port == 0 ||
      host.any (fun c => isControl c || isWhitespace c || c == '/' || c == '\\') then none
  else some { host := host.map Char.toLower, port }

namespace SessionManager

/-- `SessionManager::grants` (`session.rs:477-479`). -/
def grants (manager : SessionManager) (peer : NodeId) : Option Grants :=
  (manager.sessions.lookup peer).map fun session => session.grants

/-- `SessionManager::state` (`session.rs:589-593`). -/
def state (manager : SessionManager) (peer : NodeId) : SessionState :=
  ((manager.sessions.lookup peer).map fun session => session.state).getD .idle

/-- `SessionManager::tunnel_allows` (`session.rs:539-550`). -/
def tunnelAllows (manager : SessionManager) (peer : NodeId) (host : List Char) (port : UInt16) :
    Bool :=
  match manager.sessions.lookup peer with
  | none => false
  | some session =>
      if session.state ≠ .active || !session.grants.tunnel then false
      else
        match TunnelTarget.named host port with
        | none => false
        | some asked => asked ∈ session.allowedTargets

/-- `SessionManager::terminal_allows` (`session.rs:564-568`). -/
def terminalAllows (manager : SessionManager) (peer : NodeId) : Bool :=
  (manager.sessions.lookup peer).any fun session =>
    session.state = .active && session.grants.terminal

/-- `SessionManager::reboot_allows` (`session.rs:581-585`). -/
def rebootAllows (manager : SessionManager) (peer : NodeId) : Bool :=
  (manager.sessions.lookup peer).any fun session =>
    session.state = .active && session.grants.reboot

/-- The role's word on any input at all (`session.rs:650-654`). -/
def permitsSome (session : ActiveSession) : Bool :=
  match session.role with
  | .viewOnly => false
  | .fullControl => session.grants.input
  | .controlLimited => !session.allowedActions.isEmpty

/-- `SessionManager::someone_may_inject` (`session.rs:647-656`). -/
def someoneMayInject (manager : SessionManager) : Bool :=
  manager.sessions.values.any fun session => session.state = .active && permitsSome session

/-- `SessionManager::role` (`session.rs:683-685`). -/
def role (manager : SessionManager) (peer : NodeId) : Option Role :=
  (manager.sessions.lookup peer).map fun session => session.role

end SessionManager

end Lumepeer.Core
