import Lumepeer.Core.Session.Proofs.Step
import Lumepeer.Lib.Run
import Lumepeer.Runtime.Network.Sessions

/-!
# Every connection gets its own decision

A message is let through by the session of its sender, and the session is kept by
peer while connections come and go. A connection speaks for the session rightly
when the session was granted over it, or resumed by the claim it came with, and
has been in use over it ever since. That holds of every message of every run in
which no connection without a claim takes the place of one whose session is in
use; one that does is answered with the session of the one before it.
-/

namespace Lumepeer.Runtime.Host
open Lumepeer.Lib Lumepeer.Core Lumepeer.Net

abbrev HostEvent := Event Host Happening (Option Ruling)

/-- The connection `id` is the one of `peer`, and the session of `peer` is in use. -/
def Held (peer : NodeId) (id : UInt64) (host : Host) : Prop :=
  (host.connections.lookup peer).any (·.id = id) ∧ host.sessions.state peer = .active

instance (peer : NodeId) (id : UInt64) (host : Host) : Decidable (Held peer id host) :=
  inferInstanceAs (Decidable (_ ∧ _))

/-- The session of `peer` is granted, or resumed by the claim of a connection. -/
def Decides (peer : NodeId) (e : HostEvent) : Prop :=
  e.out = some (.granted peer) ∨ e.out = some (.resumed peer)

/-- The session of `peer` was granted over the connection `id`, or resumed by the claim it came with,
and has been in use over it since. -/
def Decided (peer : NodeId) (id : UInt64) (events : List HostEvent) : Prop :=
  ∃ before decision after, events = before ++ decision :: after ∧ Decides peer decision ∧
    ∀ e ∈ decision :: after, Held peer id e.post

/-- A connection without a claim would be taken in: the ticket is good, and there is a way to
admit its peer. -/
def takesIn (host : Host) (shake : Handshake) : Bool :=
  !host.restarting && host.hosting && (host.tickets.claim shake.ticket shake.unixNow).1.isOk
    && (host.mayTryUnattended shake.peer
      || host.attended
        && (host.sessions.requestConsentFor shake.peer shake.ticket.allowedRequest
          (if shake.terminalOnly then .terminal else .screen) shake.checkedAt
          shake.requestedAt).1.isOk)

/-- No connection is stored for a peer whose session is in use, unless it claims that session. -/
def NewIsNew (host : Host) : Happening → Prop
  | .handshaked shake =>
      shake.resumeClaim = none → host.takesIn shake → host.sessions.state shake.peer ≠ .active
  | .dialed peer _ => host.sessions.state peer ≠ .active
  | _ => True

instance (host : Host) : DecidablePred (NewIsNew host)
  | .handshaked _ => inferInstanceAs (Decidable (_ → _ → _))
  | .dialed .. => inferInstanceAs (Decidable (_ ≠ _))
  | .inbound .. | .closed .. | .grant .. | .revoke _ | .setGrant .. | .setTarget ..
  | .resumeWindowElapsed .. | .setPlan _ | .setControlPolicy _ | .invite _ | .trust ..
  | .attendance _ | .restart | .view .. | .letGo _ => inferInstanceAs (Decidable True)

variable {peer p : NodeId} {id : UInt64}

/-! ## Sessions that are in use -/

/-- Nothing that is done to the sessions makes one active. -/
def WakesNone (before after : SessionManager) : Prop :=
  ∀ p, after.state p = .active → before.state p = .active

theorem WakesNone.trans {first second third : SessionManager} (one : WakesNone first second)
    (two : WakesNone second third) : WakesNone first third := by
  intro p active
  exact one p (two p active)

theorem wakesNone_of_sessions {before after : SessionManager}
    (same : after.sessions = before.sessions) : WakesNone before after := by
  intro p active
  simpa only [SessionManager.state, same] using active

theorem state_eq_active_iff (manager : SessionManager) (p : NodeId) :
    manager.state p = .active ↔
      ∃ session, manager.sessions.lookup p = some session ∧ session.state = .active := by
  unfold SessionManager.state
  cases manager.sessions.lookup p <;> simp

/-- The session of a peer, if there is one, goes on in the same state. -/
theorem wakesNone_of_lookup {before after : SessionManager}
    (from_ : ∀ p session, after.sessions.lookup p = some session → session.state = .active →
      ∃ earlier, before.sessions.lookup p = some earlier ∧ earlier.state = .active) :
    WakesNone before after := by
  intro p active
  obtain ⟨session, found, inUse⟩ := (state_eq_active_iff after p).mp active
  exact (state_eq_active_iff before p).mpr (from_ p session found inUse)

theorem wakesNone_revoke (manager : SessionManager) (peer : NodeId) :
    WakesNone manager (manager.revoke peer).2 := by
  apply wakesNone_of_lookup
  intro p session found inUse
  rw [SessionManager.revoke_sessions, HashMap.lookup_erase_eq] at found
  split at found
  · cases found
  · exact ⟨session, found, inUse⟩

theorem wakesNone_onDisconnect (manager : SessionManager) (peer : NodeId) (now : Instant) :
    WakesNone manager (manager.onDisconnect peer now).2 := by
  apply wakesNone_of_lookup
  intro p session found inUse
  rw [SessionManager.lookup_onDisconnect] at found
  obtain ⟨earlier, wasFound, rfl⟩ := Option.map_eq_some_iff.mp found
  split at inUse
  · cases inUse
  · exact ⟨earlier, wasFound, inUse⟩

theorem wakesNone_setGrant (manager : SessionManager) (peer : NodeId) (which : IndependentGrant)
    (allowed : Bool) : WakesNone manager (manager.setGrant peer which allowed).2 := by
  apply wakesNone_of_lookup
  intro p session found inUse
  rw [SessionManager.lookup_setGrant] at found
  obtain ⟨earlier, wasFound, rfl⟩ := Option.map_eq_some_iff.mp found
  refine ⟨earlier, wasFound, ?_⟩
  split at inUse <;> exact inUse

theorem wakesNone_allowTunnelTarget (manager : SessionManager) (peer : NodeId)
    (target : TunnelTarget) : WakesNone manager (manager.allowTunnelTarget peer target).2 := by
  apply wakesNone_of_lookup
  intro p session found inUse
  rw [SessionManager.lookup_allowTunnelTarget] at found
  obtain ⟨earlier, wasFound, rfl⟩ := Option.map_eq_some_iff.mp found
  refine ⟨earlier, wasFound, ?_⟩
  split at inUse <;> exact inUse

theorem wakesNone_denyTunnelTarget (manager : SessionManager) (peer : NodeId)
    (target : TunnelTarget) : WakesNone manager (manager.denyTunnelTarget peer target) := by
  apply wakesNone_of_lookup
  intro p session found inUse
  rw [SessionManager.lookup_denyTunnelTarget] at found
  obtain ⟨earlier, wasFound, rfl⟩ := Option.map_eq_some_iff.mp found
  refine ⟨earlier, wasFound, ?_⟩
  split at inUse <;> exact inUse

/-- A session that is granted is the only one that becomes active. -/
theorem active_of_grantAs {manager : SessionManager} {role : Role} {kind : SessionKind}
    {freshId : SessionId} (active : (manager.grantAs peer role kind freshId).2.state p = .active) :
    manager.state p = .active
      ∨ p = peer ∧ (manager.grantAs peer role kind freshId).1 = .ok () := by
  obtain ⟨session, found, inUse⟩ := (state_eq_active_iff _ p).mp active
  rw [SessionManager.lookup_grantAs] at found
  simp only [SessionManager.nextSession] at found
  split at found
  next granted =>
    right
    exact ⟨granted.1, by simp [SessionManager.grantAs, granted.2]⟩
  next =>
    left
    exact (state_eq_active_iff manager p).mpr ⟨session, found, inUse⟩

/-- A session that comes back is the only one that becomes active. -/
theorem active_of_onReconnect {manager : SessionManager} {now : Instant}
    (active : (manager.onReconnect peer now).2.state p = .active) :
    manager.state p = .active
      ∨ p = peer ∧ (∃ sessionId, (manager.onReconnect peer now).1 = .resume sessionId)
        ∧ ∃ role, (manager.onReconnect peer now).2.role peer = some role := by
  by_cases same : p = peer
  · subst same
    cases found : manager.sessions.lookup p with
    | none =>
        left
        simpa [SessionManager.onReconnect, found] using active
    | some session =>
        cases inside : SessionManager.withinWindow session now with
        | false => simp [SessionManager.onReconnect, SessionManager.state, found, inside] at active
        | true =>
            right
            simp [SessionManager.onReconnect, SessionManager.role, found, inside]
  · left
    obtain ⟨session, found, inUse⟩ := (state_eq_active_iff _ p).mp active
    rw [SessionManager.lookup_onReconnect] at found
    obtain ⟨earlier, wasFound, same_⟩ := Option.bind_eq_some_iff.mp found
    rw [if_neg same] at same_
    obtain rfl : earlier = session := Option.some.inj same_
    exact (state_eq_active_iff manager p).mpr ⟨earlier, wasFound, inUse⟩

/-! ## Steps that give nobody anything -/

/-- Whoever holds a session over a connection held it before. -/
def GivesNobody (before after : Host) : Prop := ∀ p id, Held p id after → Held p id before

theorem GivesNobody.trans {first second third : Host} (one : GivesNobody first second)
    (two : GivesNobody second third) : GivesNobody first third := by
  intro p id held
  exact one p id (two p id held)

theorem givesNobody_of_wakesNone {before after : Host}
    (kept : after.connections = before.connections)
    (wakes : WakesNone before.sessions after.sessions) : GivesNobody before after := by
  intro p id held
  exact ⟨by simpa only [kept] using held.1, wakes p held.2⟩

theorem givesNobody_of_same {before after : Host} (kept : after.connections = before.connections)
    (same : after.sessions.sessions = before.sessions.sessions) : GivesNobody before after :=
  givesNobody_of_wakesNone kept (wakesNone_of_sessions same)

theorem givesNobody_of_erase {before after : Host} {peer : NodeId}
    (erased : after.connections = before.connections.erase peer)
    (wakes : WakesNone before.sessions after.sessions) : GivesNobody before after := by
  intro p id ⟨stored, active⟩
  rw [erased, HashMap.lookup_erase_eq] at stored
  split at stored
  · cases stored
  · exact ⟨stored, wakes p active⟩

theorem endParkedSession_spec (host : Host) (peer : NodeId) :
    (host.endParkedSession peer).connections = host.connections ∧
      WakesNone host.sessions (host.endParkedSession peer).sessions := by
  unfold endParkedSession
  dsimp only
  split
  · exact ⟨rfl, wakesNone_revoke host.sessions peer⟩
  · exact ⟨rfl, wakesNone_of_sessions rfl⟩

theorem givesNobody_endParkedSession (host : Host) (peer : NodeId) :
    GivesNobody host (host.endParkedSession peer) := by
  obtain ⟨kept, wakes⟩ := endParkedSession_spec host peer
  exact givesNobody_of_wakesNone kept wakes

/-- However a connection ended, no session is made active, and connections stay. -/
theorem endOrParkSession_spec (host : Host) (peer : NodeId) (closed : Option HostConnection)
    (ending : Ending) (now : Instant) :
    (host.endOrParkSession peer closed ending now).connections = host.connections ∧
      WakesNone host.sessions (host.endOrParkSession peer closed ending now).sessions := by
  have wakes := wakesNone_onDisconnect host.sessions peer now
  unfold endOrParkSession
  rcases dropped : host.sessions.onDisconnect peer now with ⟨_ | _, sessions⟩
  · rw [dropped] at wakes
    exact ⟨rfl, wakes.trans (wakesNone_revoke sessions peer)⟩
  · rw [dropped] at wakes
    have forgets : WakesNone host.sessions (sessions.forgetConsentRate peer) :=
      wakes.trans (wakesNone_of_sessions rfl)
    cases closed with
    | none => exact ⟨rfl, forgets⟩
    | some handle =>
        dsimp only
        split
        · exact ⟨rfl, forgets.trans (wakesNone_revoke _ peer)⟩
        · exact ⟨rfl, forgets⟩

theorem givesNobody_onClosed (host : Host) (peer : NodeId) (id : UInt64) (ending : Ending)
    (now : Instant) : GivesNobody host (host.onClosed peer id ending now) := by
  unfold onClosed
  dsimp only
  split
  · exact fun _ _ held => held
  · obtain ⟨kept, wakes⟩ := endOrParkSession_spec
      { host with
        connections := host.connections.erase peer
        unattendedPending := Function.update host.unattendedPending peer false
        unattendedProofs := Function.update host.unattendedProofs peer false
        terminalOnlyGuests := Function.update host.terminalOnlyGuests peer false }
      peer (host.connections.lookup peer) ending now
    exact givesNobody_of_erase kept wakes

theorem givesNobody_releaseConnectionClaimedBy (host : Host) (peer : NodeId) (claim : SessionId)
    (now : Instant) : GivesNobody host (host.releaseConnectionClaimedBy peer claim now) := by
  unfold releaseConnectionClaimedBy
  split
  · exact fun _ _ held => held
  · exact givesNobody_onClosed host peer _ .closedHere now

theorem givesNobody_onRevoke (host : Host) (peer : NodeId) :
    GivesNobody host (host.onRevoke peer).2 := by
  have wakes := wakesNone_revoke host.sessions peer
  unfold onRevoke
  split
  · exact givesNobody_of_same rfl rfl
  · split
    · exact givesNobody_of_erase rfl (wakesNone_of_sessions rfl)
    · rcases revoked : host.sessions.revoke peer with ⟨_ | _, sessions⟩ <;> rw [revoked] at wakes
      · exact givesNobody_of_wakesNone rfl wakes
      · exact givesNobody_of_wakesNone rfl wakes

theorem givesNobody_onResumeWindowElapsed (host : Host) (peer : NodeId) (sessionId : SessionId) :
    GivesNobody host (host.onResumeWindowElapsed peer sessionId) := by
  unfold onResumeWindowElapsed
  split
  · exact fun _ _ held => held
  · exact givesNobody_endParkedSession host peer

/-! ## Steps that give a connection a session -/

/-- Nobody but `peer` comes to hold a session, and `peer` only when the result says so. -/
def GivesOnly (peer : NodeId) (before : Host) (result : Bool × Host) : Prop :=
  ∀ p id, Held p id result.2 → Held p id before ∨ p = peer ∧ result.1 = true

theorem GivesNobody.givesOnly {before after : Host} (nobody : GivesNobody before after)
    (peer : NodeId) (decided : Bool) : GivesOnly peer before (decided, after) := by
  intro p id held
  exact .inl (nobody p id held)

theorem GivesNobody.then {first second : Host} {result : Bool × Host}
    (one : GivesNobody first second) (two : GivesOnly peer second result) :
    GivesOnly peer first result := by
  intro p id held
  exact (two p id held).imp_left (one p id)

theorem givesOnly_grantSession (host : Host) (peer : NodeId) (role : Role) (freshId : SessionId) :
    GivesOnly peer host (host.grantSession peer role freshId) := by
  unfold grantSession grantRole
  rcases granted : host.sessions.grantAs peer role (host.sessionKindAsked peer) freshId with
    ⟨_ | _, sessions⟩
  · exact fun _ _ held => .inl held
  · intro p id held
    have wakes := @active_of_grantAs peer p host.sessions role (host.sessionKindAsked peer) freshId
    rw [granted] at wakes
    rcases wakes held.2 with active | ⟨same, -⟩
    · exact .inl ⟨held.1, active⟩
    · exact .inr ⟨same, rfl⟩

theorem givesOnly_onUnattendedAuth (host : Host) (peer : NodeId) (verdict : Verdict) :
    GivesOnly peer host (host.onUnattendedAuth peer verdict) := by
  unfold onUnattendedAuth
  split
  · exact fun _ _ held => .inl held
  · split
    · exact fun _ _ held => .inl held
    · dsimp only
      split
      · exact (givesNobody_of_same rfl rfl).givesOnly peer false
      · split
        · exact (givesNobody_of_same rfl rfl).then (givesOnly_grantSession _ peer _ verdict.freshId)
        · exact (givesNobody_of_same rfl rfl).givesOnly peer false

theorem givesOnly_onUnattendedProof (host : Host) (peer : NodeId) (verdict : Verdict) :
    GivesOnly peer host (host.onUnattendedProof peer verdict) := by
  unfold onUnattendedProof
  split
  · exact fun _ _ held => .inl held
  · dsimp only
    split
    · exact (givesNobody_of_same rfl rfl).givesOnly peer false
    · split
      · exact (givesNobody_of_same rfl rfl).givesOnly peer false
      · split
        · exact (givesNobody_of_same rfl rfl).then (givesOnly_grantSession _ peer _ verdict.freshId)
        · split
          · exact (givesNobody_of_same rfl rfl).givesOnly peer false
          · exact (givesNobody_of_same rfl rfl).givesOnly peer false

theorem lookup_adopt (host : Host) (peer p : NodeId) (sessionId : SessionId) (origin : Origin) :
    (host.adopt peer sessionId origin).connections.lookup p =
      if p = peer then some { id := host.nextConnectionId + 1, origin, sessionId }
      else host.connections.lookup p :=
  HashMap.lookup_insert_eq host.connections peer p _

/-- A connection that is stored for `peer` concerns nobody else. -/
theorem held_of_adopt {host : Host} {sessionId : SessionId} {origin : Origin}
    (held : Held p id (host.adopt peer sessionId origin)) :
    Held p id host ∨ p = peer ∧ host.sessions.state peer = .active := by
  obtain ⟨stored, active⟩ := held
  rw [lookup_adopt] at stored
  split at stored
  next same =>
    subst same
    exact .inr ⟨rfl, active⟩
  next => exact .inl ⟨stored, active⟩

theorem givesNobody_adopt {host : Host} (idle : host.sessions.state peer ≠ .active)
    (sessionId : SessionId) (origin : Origin) :
    GivesNobody host (host.adopt peer sessionId origin) := by
  intro p id held
  rcases held_of_adopt held with before | ⟨-, active⟩
  · exact before
  · exact absurd active idle

/-- A claim that is refused leaves no session in use that was not. -/
theorem givesOnly_onResumeClaim (host : Host) (shake : Handshake) (claim : SessionId) :
    GivesOnly shake.peer host (host.onResumeClaim shake claim) := by
  unfold onResumeClaim
  by_cases named : host.parkedSessions.lookup shake.peer = some claim
  · simp only [named, if_true]
    have woken := fun p => @active_of_onReconnect shake.peer p host.sessions shake.resumedAt
    rcases decided : host.sessions.onReconnect shake.peer shake.resumedAt with ⟨decision, sessions⟩
    rw [decided] at woken
    dsimp only
    split
    next sessionId role _ =>
      intro p id held
      rcases held_of_adopt held with before | ⟨same, -⟩
      · rcases woken p before.2 with active | ⟨same, -⟩
        · exact .inl ⟨before.1, active⟩
        · exact .inr ⟨same, rfl⟩
      · exact .inr ⟨same, rfl⟩
    next refused =>
      apply GivesNobody.givesOnly
      refine GivesNobody.trans ?_ (givesNobody_endParkedSession _ shake.peer)
      refine givesNobody_of_wakesNone rfl ?_
      intro p active
      rcases woken p active with before | ⟨-, ⟨sessionId, resumed⟩, role, hasRole⟩
      · exact before
      · exact absurd hasRole (refused sessionId role resumed)
  · simp only [named, if_false]
    exact (givesNobody_endParkedSession _ shake.peer).givesOnly shake.peer false

theorem requestConsent_spec (host : Host) (shake : Handshake) :
    (host.requestConsent shake).2.connections = host.connections ∧
      (host.requestConsent shake).2.sessions.sessions = host.sessions.sessions := by
  unfold requestConsent
  split
  · exact ⟨rfl, SessionManager.requestConsentFor_sessions ..⟩
  · exact ⟨rfl, rfl⟩

theorem givesNobody_requestConsent (host : Host) (shake : Handshake) :
    GivesNobody host (host.requestConsent shake).2 := by
  obtain ⟨kept, same⟩ := requestConsent_spec host shake
  exact givesNobody_of_same kept same

/-- A peer that has no session in use gets none by being asked about. -/
theorem givesNobody_askOrChallenge_of_idle {host : Host} {shake : Handshake}
    (idle : host.sessions.state shake.peer ≠ .active) :
    GivesNobody host (host.askOrChallenge shake) := by
  unfold askOrChallenge
  dsimp only
  split
  · exact fun _ _ held => held
  · have asks := givesNobody_requestConsent host shake
    have stillIdle : (host.requestConsent shake).2.sessions.state shake.peer ≠ .active := by
      rwa [SessionManager.state, (requestConsent_spec host shake).2]
    rcases asked : host.requestConsent shake with ⟨consents, after⟩
    rw [asked] at asks stillIdle
    have stored := asks.trans (givesNobody_adopt stillIdle shake.sessionId .accepted)
    cases consents with
    | false =>
        dsimp only
        split
        · exact stored.trans (givesNobody_of_same rfl rfl)
        · exact asks
    | true =>
        dsimp only
        split
        · exact stored.trans (givesNobody_of_same rfl rfl)
        · exact stored

/-- A peer that there is no way to admit is not stored. -/
theorem givesNobody_askOrChallenge_of_refused {host : Host} {shake : Handshake}
    (closed : host.mayTryUnattended shake.peer = false)
    (unasked : (host.requestConsent shake).1 = false) :
    GivesNobody host (host.askOrChallenge shake) := by
  unfold askOrChallenge
  dsimp only
  split
  · exact fun _ _ held => held
  · have asks := givesNobody_requestConsent host shake
    rcases asked : host.requestConsent shake with ⟨consents, after⟩
    rw [asked] at asks unasked
    obtain rfl : consents = false := unasked
    simpa [closed] using asks

/-- A new connection gives its peer nothing, as long as its peer has no session in use. -/
theorem givesNobody_onNewConnection_of_idle {host : Host} {shake : Handshake}
    (idle : host.sessions.state shake.peer ≠ .active) :
    GivesNobody host (host.onNewConnection shake) := by
  obtain ⟨kept, wakes⟩ := endParkedSession_spec host shake.peer
  have stillIdle := fun active => idle (wakes shake.peer active)
  refine (givesNobody_endParkedSession host shake.peer).trans ?_
  unfold onNewConnection
  dsimp only
  rcases (host.endParkedSession shake.peer).tickets.claim shake.ticket shake.unixNow with
    ⟨_ | _, tickets⟩
  · exact givesNobody_of_same rfl rfl
  · exact GivesNobody.trans (givesNobody_of_same rfl rfl)
      (givesNobody_askOrChallenge_of_idle stillIdle)

/-- A peer whose session is in use has none that is parked. -/
theorem endParkedSession_of_active {host : Host} (active : host.sessions.state peer = .active) :
    host.endParkedSession peer =
      { host with parkedSessions := host.parkedSessions.erase peer } := by
  unfold endParkedSession
  simp [active]

/-- A new connection that the host does not take in gives its peer nothing. -/
theorem givesNobody_onNewConnection_of_refused {host : Host} {shake : Handshake}
    (active : host.sessions.state shake.peer = .active) (reads : host.restarting = false)
    (hosts : host.hosting = true)
    (asked : host.terminalOnlyGuests shake.peer = shake.terminalOnly)
    (refused : host.takesIn shake = false) : GivesNobody host (host.onNewConnection shake) := by
  unfold onNewConnection
  rw [endParkedSession_of_active active]
  dsimp only
  rcases claimed : host.tickets.claim shake.ticket shake.unixNow with ⟨_ | _, tickets⟩
  · exact givesNobody_of_same rfl rfl
  · have isClaimed : (host.tickets.claim shake.ticket shake.unixNow).1.isOk = true := by
      rw [claimed]
      rfl
    simp only [takesIn, reads, hosts, isClaimed, Bool.not_false, Bool.true_and,
      Bool.or_eq_false_iff] at refused
    obtain ⟨closed, unasked⟩ := refused
    refine GivesNobody.trans (givesNobody_of_same rfl rfl)
      (givesNobody_askOrChallenge_of_refused closed ?_)
    simp only [requestConsent, sessionKindAsked, asked]
    cases attended : host.attended with
    | false => rfl
    | true => simpa [attended] using unasked

/-- A handshake gives its peer a session when a claim is honoured, and else nobody. -/
theorem givesOnly_onHandshaked {host : Host} {shake : Handshake}
    (new : host.NewIsNew (.handshaked shake)) :
    GivesOnly shake.peer host (host.onHandshaked shake) := by
  unfold onHandshaked
  cases reads : host.restarting with
  | true => exact fun _ _ held => .inl held
  | false =>
      simp only [Bool.false_eq_true, if_false]
      cases claims : shake.resumeClaim with
      | none =>
          dsimp only
          split
          next => exact (givesNobody_of_same rfl rfl).givesOnly shake.peer false
          next hosts =>
            apply GivesNobody.givesOnly
            by_cases active : host.sessions.state shake.peer = .active
            · have refused : host.takesIn shake = false := by
                by_contra taken
                exact new claims (by simpa using taken) active
              exact GivesNobody.trans (givesNobody_of_same rfl rfl)
                (givesNobody_onNewConnection_of_refused active reads (by simpa using hosts)
                  (Function.update_self ..) refused)
            · exact GivesNobody.trans (givesNobody_of_same rfl rfl)
                (givesNobody_onNewConnection_of_idle active)
      | some claim =>
          dsimp only
          have releases := givesNobody_releaseConnectionClaimedBy host shake.peer claim
            shake.disconnectedAt
          have records := releases.trans (givesNobody_of_same rfl rfl)
          split
          · exact records.givesOnly shake.peer false
          · exact records.then (givesOnly_onResumeClaim _ shake claim)

/-! ## Messages that the session lets through -/

theorem active_of_authorizeInput {manager : SessionManager} {event : InputEventPayload}
    (allowed : (manager.authorizeInput peer event).isOk) : manager.state peer = .active := by
  unfold SessionManager.authorizeInput at allowed
  split at allowed
  next => cases allowed
  next session found =>
    split at allowed
    next => cases allowed
    next inUse =>
      exact (state_eq_active_iff manager peer).mpr ⟨session, found, Decidable.not_not.mp inUse⟩

theorem active_of_tunnelAllows {manager : SessionManager} {target : List Char} {port : UInt16}
    (allowed : manager.tunnelAllows peer target port) : manager.state peer = .active := by
  unfold SessionManager.tunnelAllows at allowed
  split at allowed
  next => cases allowed
  next session found =>
    split at allowed
    next => cases allowed
    next inUse =>
      have live : session.state = .active := by
        by_contra idle
        exact inUse (by simp [idle])
      exact (state_eq_active_iff manager peer).mpr ⟨session, found, live⟩

theorem active_of_any {manager : SessionManager} {granted : ActiveSession → Bool}
    (allowed : (manager.sessions.lookup peer).any fun session =>
      session.state = .active && granted session) : manager.state peer = .active := by
  cases found : manager.sessions.lookup peer with
  | none => simp [found] at allowed
  | some session =>
      simp only [found, Option.any_some, Bool.and_eq_true, decide_eq_true_eq] at allowed
      exact (state_eq_active_iff manager peer).mpr ⟨session, found, allowed.1⟩

theorem sessionRight_eq_some {allowed : Bool} {right : Right} :
    sessionRight allowed = some right ↔ allowed = true ∧ right = .session := by
  cases allowed <;> simp [sessionRight, eq_comm]

theorem active_of_transferRight {host : Host} (right : host.transferRight peer = some .session) :
    host.sessions.state peer = .active := by
  unfold transferRight at right
  split at right
  next => cases right
  next =>
    split at right
    next allowed => exact allowed.1
    next => cases right

theorem active_of_mayFetchOrPut {host : Host} (allowed : host.mayFetchOrPut peer) :
    host.sessions.state peer = .active := by
  simp only [mayFetchOrPut, Bool.and_eq_true, decide_eq_true_eq] at allowed
  exact allowed.1.2

/-- A message that the session of its sender lets through finds that session in use. -/
theorem active_of_rightFor {host : Host} {origin : Origin} {kind : MessageKind}
    (right : host.rightFor peer origin kind = some .session) :
    host.sessions.state peer = .active := by
  unfold rightFor at right
  split at right
  next => exact active_of_authorizeInput (sessionRight_eq_some.mp right).1
  next =>
    split at right
    next => split at right <;> cases right
    next => simpa using (sessionRight_eq_some.mp right).1
  next => exact active_of_transferRight right
  next => exact active_of_transferRight right
  next => exact active_of_transferRight right
  next => exact active_of_transferRight right
  next =>
    split at right
    next => exact active_of_transferRight right
    next => cases right
  next =>
    split at right
    next => exact active_of_transferRight right
    next => cases right
  next =>
    split at right
    next => exact active_of_transferRight right
    next => cases right
  next =>
    split at right
    next => exact active_of_mayFetchOrPut (sessionRight_eq_some.mp right).1
    next => cases right
  next => exact (by simpa [sessionRight_eq_some] using right : (_ ∧ _) ∧ _).1.2
  next => exact active_of_mayFetchOrPut (sessionRight_eq_some.mp right).1
  next => exact active_of_mayFetchOrPut (sessionRight_eq_some.mp right).1
  next => exact active_of_mayFetchOrPut (sessionRight_eq_some.mp right).1
  next => exact active_of_tunnelAllows (sessionRight_eq_some.mp right).1
  next => exact active_of_any (sessionRight_eq_some.mp right).1
  next => exact (by simpa [sessionRight_eq_some] using right : (_ ∧ _) ∧ _).1.2
  next => exact active_of_any (sessionRight_eq_some.mp right).1
  next => cases right

theorem granting_ne_acted (peer : NodeId) (result : Bool × Host) (right : Right) :
    (granting peer result).1 ≠ some (.acted right) := by
  rcases result with ⟨_ | _, host⟩ <;> simp [granting]

/-- A message that the session of its sender lets through comes over the connection of its sender,
and finds the session in use. -/
theorem held_of_acted {host : Host} {kind : MessageKind} {verdict : Verdict}
    (acted : (host.onInbound peer id kind verdict).1 = some (.acted .session)) :
    Held peer id host := by
  unfold onInbound at acted
  split at acted
  next => cases acted
  next handle stored =>
    obtain ⟨isStored, current⟩ := Option.filter_eq_some_iff.mp stored
    split at acted
    next => cases acted
    next =>
      split at acted
      next => exact absurd acted (granting_ne_acted peer _ .session)
      next => exact absurd acted (granting_ne_acted peer _ .session)
      next =>
        obtain ⟨right, isRight, same⟩ := Option.map_eq_some_iff.mp acted
        cases same
        exact ⟨by simpa [isStored] using current, active_of_rightFor isRight⟩

/-! ## Runs -/

theorem decides_of_granting {result : Bool × Host} (decided : result.1 = true) :
    (granting peer result).1 = some (.granted peer) := by
  rcases result with ⟨_ | _, host⟩
  · cases decided
  · rfl

theorem granting_host (peer : NodeId) (result : Bool × Host) : (granting peer result).2 = result.2 := by
  rcases result with ⟨_ | _, host⟩ <;> rfl

/-- A step that may grant the session of `peer` says so when it does. -/
theorem held_of_granting {host : Host} {result : Bool × Host}
    (only : GivesOnly peer host result) (held : Held p id (granting peer result).2) :
    Held p id host ∨ (granting peer result).1 = some (.granted p) := by
  rw [granting_host] at held
  rcases only p id held with before | ⟨rfl, decided⟩
  · exact .inl before
  · exact .inr (decides_of_granting decided)

/-- A message gives its sender a session only by a device password. -/
theorem held_of_onInbound {host : Host} {kind : MessageKind} {verdict : Verdict} {asked : UInt64}
    (held : Held p id (host.onInbound peer asked kind verdict).2) :
    Held p id host ∨ (host.onInbound peer asked kind verdict).1 = some (.granted p) := by
  revert held
  unfold onInbound
  split
  · exact fun held => .inl held
  · split
    · exact fun held => .inl held
    · split
      · exact held_of_granting (givesOnly_onUnattendedAuth host peer verdict)
      · exact held_of_granting (givesOnly_onUnattendedProof host peer verdict)
      · exact fun held => .inl held

/-- A peer holds a session over a connection only if it did before the step, or the step decided
about it. -/
theorem held_of_step {host : Host} {op : Happening} (new : NewIsNew host op)
    (held : Held p id (host.step op).2) :
    Held p id host ∨ Decides p (Event.of step host op) := by
  cases op with
  | handshaked shake =>
      have only := givesOnly_onHandshaked new
      simp only [step, Decides, Event.of_out] at held ⊢
      rcases shaken : host.onHandshaked shake with ⟨resumes, after⟩
      rw [shaken] at only held
      cases resumes with
      | false =>
          rcases only p id held with before | ⟨-, never⟩
          · exact .inl before
          · cases never
      | true =>
          rcases only p id held with before | ⟨rfl, -⟩
          · exact .inl before
          · exact .inr (.inr rfl)
  | inbound peer asked kind verdict => exact (held_of_onInbound held).imp_right .inl
  | grant peer role freshId =>
      exact (held_of_granting (givesOnly_grantSession host peer role freshId) held).imp_right .inl
  | dialed peer sessionId => exact .inl (givesNobody_adopt new sessionId .dialed p id held)
  | closed peer asked ending now => exact .inl (givesNobody_onClosed host peer asked ending now p id held)
  | revoke peer => exact .inl (givesNobody_onRevoke host peer p id held)
  | resumeWindowElapsed peer sessionId =>
      exact .inl (givesNobody_onResumeWindowElapsed host peer sessionId p id held)
  | setGrant peer which allowed =>
      have nobody : GivesNobody host (host.step (.setGrant peer which allowed)).2 :=
        givesNobody_of_wakesNone rfl (wakesNone_setGrant host.sessions peer which allowed)
      exact .inl (nobody p id held)
  | setTarget peer target allowed =>
      have nobody : GivesNobody host (host.step (.setTarget peer target allowed)).2 := by
        cases allowed with
        | false =>
            exact givesNobody_of_wakesNone rfl
              (wakesNone_denyTunnelTarget host.sessions peer target)
        | true =>
            exact givesNobody_of_wakesNone rfl
              (wakesNone_allowTunnelTarget host.sessions peer target)
      exact .inl (nobody p id held)
  | letGo peer =>
      have nobody : GivesNobody host (host.step (.letGo peer)).2 :=
        givesNobody_of_erase rfl (wakesNone_of_sessions rfl)
      exact .inl (nobody p id held)
  | setPlan _ | setControlPolicy _ | invite _ | trust _ _ | attendance _ | restart | view _ _ _ =>
      exact .inl held

/-- In every run, whoever holds a session over a connection has it decided for that connection. -/
theorem decided_of_held {host : Host} (start : ¬ Held p id host) (ops : List Happening)
    (new : ∀ e ∈ history step host ops, NewIsNew e.pre e.op)
    (held : Held p id (exec step host ops)) : Decided p id (history step host ops) := by
  induction ops using List.reverseRecOn with
  | nil => exact absurd held start
  | append_singleton ops op ih =>
      rw [exec_concat] at held
      rw [history_concat] at new ⊢
      have last := new _ (List.mem_append_right _ (List.mem_singleton_self _))
      rcases held_of_step last held with before | decides
      · obtain ⟨earlier, decision, later, split, decides, since⟩ :=
          ih (fun e member => new e (List.mem_append_left _ member)) before
        refine ⟨earlier, decision, later ++ [Event.of step (exec step host ops) op], ?_, decides, ?_⟩
        · rw [split, List.append_assoc, List.cons_append]
        · intro e member
          rw [← List.cons_append] at member
          rcases List.mem_append.mp member with earlier | isLast
          · exact since e earlier
          · rw [List.mem_singleton.mp isLast]
            exact held
      · refine ⟨history step host ops, _, [], rfl, decides, ?_⟩
        intro e member
        rw [List.mem_singleton.mp member]
        exact held

/-- In every run in which no connection without a claim takes the place of one whose session is in
use, a message is acted on for a session only when that session was granted over the connection it
came over, or was resumed by the claim of that connection. -/
theorem every_connection_gets_its_own_decision (plan : Plan) (hosting : Bool)
    (ops : List Happening) (peer : NodeId) (id : UInt64) (kind : MessageKind) (verdict : Verdict)
    (new : ∀ e ∈ history step (Host.new plan hosting) ops, NewIsNew e.pre e.op)
    (acted : (step (exec step (Host.new plan hosting) ops) (.inbound peer id kind verdict)).1 =
      some (.acted .session)) :
    Decided peer id (history step (Host.new plan hosting) ops) := by
  have nobody : ¬ Held peer id (Host.new plan hosting) := fun held => by cases held.1
  exact decided_of_held nobody ops new (held_of_acted acted)

def sampleGuest : NodeId := ⟨List.Vector.replicate 32 1⟩

def sampleTicket : InviteTicket where
  protocolMajor := 1
  nodeAddr := ⟨[], by decide⟩
  inviteId := List.Vector.replicate 16 7
  expiresAt := 1000
  allowedRequest := .fullControl
  obfuscatedAddr := none
  hostCertFingerprint := none
  signature := List.Vector.replicate 64 0

/-- A handshake of the guest, on a connection with this session id. -/
def sampleHandshake (sessionId : UInt8) (resumeClaim : Option SessionId) : Handshake where
  peer := sampleGuest
  sessionId := List.Vector.replicate 16 sessionId
  ticket := sampleTicket
  resumeClaim
  terminalOnly := false
  speaksProof := false
  unixNow := 100
  checkedAt := 0
  requestedAt := 0
  disconnectedAt := 0
  resumedAt := 0

def sampleVerdict : Verdict := ⟨.error .badPassword, List.Vector.replicate 16 0⟩

def sampleChat : MessageKind := .chat "hello"

/-- A guest is let in over its connection. -/
def sampleGranted : List Happening :=
  [.invite sampleTicket,
    .handshaked (sampleHandshake 1 none),
    .grant sampleGuest .fullControl (List.Vector.replicate 16 9)]

/-- The guest loses its connection, comes back with a claim and says something. -/
theorem resumed_guest_was_let_in :
    Decided sampleGuest 2 (history step (Host.new .free true)
      (sampleGranted ++ [.closed sampleGuest 1 .lost 0,
        .handshaked (sampleHandshake 2 (some (List.Vector.replicate 16 1)))])) :=
  every_connection_gets_its_own_decision .free true _ sampleGuest 2 sampleChat sampleVerdict
    (by decide +kernel) (by decide +kernel)

/-- The guest opens a second connection without a claim, while the session of the first is in use. -/
def sampleSecond : List Happening := sampleGranted ++ [.handshaked (sampleHandshake 2 none)]

/-- What comes over the second connection is acted on, though nothing was decided about it. -/
theorem second_connection_inherits_session :
    ¬ ∀ (plan : Plan) (hosting : Bool) (ops : List Happening) (peer : NodeId) (id : UInt64)
      (kind : MessageKind) (verdict : Verdict),
      (step (exec step (Host.new plan hosting) ops) (.inbound peer id kind verdict)).1 =
        some (.acted .session) → Decided peer id (history step (Host.new plan hosting) ops) := by
  intro all
  have decided := all .free true sampleSecond sampleGuest 2 sampleChat sampleVerdict
    (by decide +kernel)
  obtain ⟨before, decision, after, split, decides, since⟩ := decided
  have undecided : ∀ e ∈ history step (Host.new .free true) sampleSecond,
      Held sampleGuest 2 e.post →
        e.out ≠ some (.granted sampleGuest) ∧ e.out ≠ some (.resumed sampleGuest) := by
    decide +kernel
  have member : decision ∈ history step (Host.new .free true) sampleSecond := by
    rw [split]
    exact List.mem_append_right _ (List.mem_cons_self ..)
  have never := undecided decision member (since decision (List.mem_cons_self ..))
  rcases decides with granted | resumed
  · exact never.1 granted
  · exact never.2 resumed

end Lumepeer.Runtime.Host
