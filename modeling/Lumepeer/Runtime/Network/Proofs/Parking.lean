import Lumepeer.Runtime.Network.Sessions
import Lumepeer.Runtime.Network.Proofs.Parked
import Lumepeer.Runtime.Network.Proofs.SessionOps

/-!
# A dropped session is parked for as long as it can be resumed

The session manager waits for a guest exactly while the actor holds the session of
that guest parked, unless one of them is moved behind the back of the other: a
parked session is revoked or granted, or a connection ends that the actor had
already let go of. Whatever is parked has the timer of its own drop to wait for,
and each drop is resumed once at most.
-/

namespace Lumepeer.Runtime.Host
open Lumepeer.Lib Lumepeer.Core Lumepeer.Net

variable {host : Host} {peer p : NodeId}

/-- The manager waits for `p` exactly while its session is parked. -/
def ParkedTruly (p : NodeId) (host : Host) : Prop :=
  host.sessions.state p = .reconnecting ↔ (host.parkedSessions.lookup p).isSome

/-- A connection that ends is one that the actor still holds, or one of a peer without a session in
use; nobody leaves on purpose while a session of theirs is parked; and nothing is granted or revoked
that is parked. -/
def Regular (host : Host) : Happening → Prop
  | .closed peer id ending _ =>
      match host.connections.lookup peer with
      | none => host.sessions.state peer = .reconnecting ∨ host.sessions.sessions.lookup peer = none
      | some handle =>
          handle.id = id → ending = .normal → host.parkedSessions.lookup peer = none
  | .grant peer role _ =>
      (host.parkedSessions.lookup peer).isSome →
        (host.sessions.grantRefusal peer role (host.sessionKindAsked peer)).isSome
  | .revoke peer =>
      (host.parkedSessions.lookup peer).isSome → host.parkedViews peer ∨ host.views peer
  | _ => True

instance (host : Host) (op : Happening) : Decidable (Regular host op) := by
  unfold Regular
  split
  · split <;> infer_instance
  all_goals infer_instance

theorem ParkedTruly.of_same {before after : Host} (truly : ParkedTruly p before)
    (state : after.sessions.state p = before.sessions.state p)
    (parked : after.parkedSessions.lookup p = before.parkedSessions.lookup p) :
    ParkedTruly p after := by
  unfold ParkedTruly
  rw [state, parked]
  exact truly

theorem parkedTruly_of_none {host : Host} (state : host.sessions.state p ≠ .reconnecting)
    (parked : host.parkedSessions.lookup p = none) : ParkedTruly p host := by
  unfold ParkedTruly
  rw [parked]
  exact ⟨fun waits => absurd waits state, nofun⟩

/-! ## What the manager does to the state of a session -/

theorem state_of_lookup {before after : SessionManager}
    (same : after.sessions.lookup p = before.sessions.lookup p) : after.state p = before.state p := by
  unfold SessionManager.state
  rw [same]

theorem state_revoke (manager : SessionManager) (p : NodeId) :
    (manager.revoke p).2.state p = .idle := by
  unfold SessionManager.state
  rw [SessionManager.revoke_sessions, HashMap.lookup_erase_eq, if_pos rfl]
  rfl

/-- A peer with a session is waited for once it disconnects. -/
theorem state_onDisconnect {manager : SessionManager} {session : ActiveSession}
    (found : manager.sessions.lookup p = some session) (now : Instant) :
    (manager.onDisconnect p now).2.state p = .reconnecting := by
  unfold SessionManager.state
  simp [SessionManager.lookup_onDisconnect, SessionManager.nextSession, found]

theorem state_of_map {before after : SessionManager} {f : ActiveSession → ActiveSession}
    (keeps : ∀ session, (f session).state = session.state)
    (same : after.sessions.lookup p = (before.sessions.lookup p).map f) :
    after.state p = before.state p := by
  unfold SessionManager.state
  rw [same, Option.map_map]
  congr 2
  funext session
  exact keeps session

theorem state_setGrant (manager : SessionManager) (peer : NodeId) (which : IndependentGrant)
    (allowed : Bool) : (manager.setGrant peer which allowed).2.state p = manager.state p := by
  refine state_of_map (fun session => ?_) (SessionManager.lookup_setGrant ..)
  split <;> rfl

theorem state_allowTunnelTarget (manager : SessionManager) (peer : NodeId) (target : TunnelTarget) :
    (manager.allowTunnelTarget peer target).2.state p = manager.state p := by
  refine state_of_map (fun session => ?_) (SessionManager.lookup_allowTunnelTarget ..)
  split <;> rfl

theorem state_denyTunnelTarget (manager : SessionManager) (peer : NodeId) (target : TunnelTarget) :
    (manager.denyTunnelTarget peer target).state p = manager.state p := by
  refine state_of_map (fun session => ?_) (SessionManager.lookup_denyTunnelTarget ..)
  split <;> rfl

theorem state_requestConsentFor (manager : SessionManager) (peer : NodeId) (role : Role)
    (kind : SessionKind) (checkedAt requestedAt : Instant) :
    (manager.requestConsentFor peer role kind checkedAt requestedAt).2.state p = manager.state p := by
  unfold SessionManager.requestConsentFor
  rcases manager.limiter.checkAt peer checkedAt with ⟨_ | _, limiter⟩ <;> rfl

/-- A claim that is decided leaves a session in use, or none, or none that can be resumed. -/
theorem state_onReconnect (manager : SessionManager) (p : NodeId) (now : Instant) :
    (manager.onReconnect p now).2.state p ≠ .reconnecting := by
  unfold SessionManager.onReconnect
  split
  next none => simp [SessionManager.state, none]
  next session found =>
    split
    · simp [SessionManager.state]
    · simp [SessionManager.state]

/-! ## The handlers -/

theorem ParkedTruly.parked_of_state (truly : ParkedTruly p host)
    (state : host.sessions.state p ≠ .reconnecting) : host.parkedSessions.lookup p = none := by
  cases held : host.parkedSessions.lookup p with
  | none => rfl
  | some sessionId => exact absurd (truly.mpr (by rw [held]; rfl)) state

theorem state_endParkedSession
    (waits : host.sessions.state p = .reconnecting → (host.parkedSessions.lookup p).isSome) :
    (host.endParkedSession p).sessions.state p ≠ .reconnecting := by
  unfold endParkedSession
  dsimp only
  split
  · rw [state_revoke]
    intro same
    cases same
  · rename_i idle
    intro reconnecting
    exact idle (by simp [waits reconnecting, reconnecting])

theorem parkedTruly_endParkedSession (truly : ParkedTruly p host) :
    ParkedTruly p (host.endParkedSession p) :=
  parkedTruly_of_none (state_endParkedSession truly.mp) (lookup_parked_endParkedSession host p)

/-- What the end of a connection leaves of a session that was not parked behind the actor's back. -/
theorem parkedTruly_endOrParkSession {closed : Option HostConnection} {ending : Ending}
    (truly : ParkedTruly p host)
    (held : closed = none →
      host.sessions.state p = .reconnecting ∨ host.sessions.sessions.lookup p = none)
    (stays : closed.isSome → ending = .normal → host.parkedSessions.lookup p = none)
    (now : Instant) : ParkedTruly p (host.endOrParkSession p closed ending now) := by
  unfold endOrParkSession
  cases found : host.sessions.sessions.lookup p with
  | none =>
      have idle : host.sessions.state p ≠ .reconnecting := by simp [SessionManager.state, found]
      have gone : host.sessions.onDisconnect p now = (.error .unknownPeer, host.sessions) := by
        simp only [SessionManager.onDisconnect, found]
      rw [gone]
      refine parkedTruly_of_none ?_ (truly.parked_of_state idle)
      show (host.sessions.revoke p).2.state p ≠ .reconnecting
      rw [state_revoke]
      intro same
      cases same
  | some session =>
      have waits := state_onDisconnect found now
      rcases dropped : host.sessions.onDisconnect p now with ⟨_ | _, sessions⟩
      · simp [SessionManager.onDisconnect, found] at dropped
      · rw [dropped] at waits
        cases closed with
        | none =>
            have before := (held rfl).resolve_right (by rw [found]; intro same; cases same)
            exact truly.of_same (waits.trans before.symm) rfl
        | some handle =>
            dsimp only
            split
            · rename_i left_
              refine parkedTruly_of_none ?_ (stays rfl left_)
              show (SessionManager.revoke _ p).2.state p ≠ .reconnecting
              rw [state_revoke]
              intro same
              cases same
            · refine ⟨fun _ => ?_, fun _ => waits⟩
              show ((host.parkedSessions.insert p handle.sessionId).lookup p).isSome
              simp

theorem parkedTruly_onClosed {id : UInt64} {ending : Ending} {now : Instant}
    (truly : ParkedTruly p host) (regular : Regular host (.closed p id ending now)) :
    ParkedTruly p (host.onClosed p id ending now) := by
  unfold onClosed
  dsimp only
  split
  · exact truly
  · rename_i current
    simp only [Regular] at regular
    refine parkedTruly_endOrParkSession ?_ ?_ ?_ now
    · exact truly.of_same rfl rfl
    · intro gone
      rw [gone] at regular
      exact regular
    · intro here isNormal
      obtain ⟨handle, stored⟩ := Option.isSome_iff_exists.mp here
      rw [stored] at regular current
      exact regular (by simpa using current) isNormal

theorem parkedTruly_releaseConnectionClaimedBy (truly : ParkedTruly p host) (claim : SessionId)
    (now : Instant) : ParkedTruly p (host.releaseConnectionClaimedBy p claim now) := by
  unfold releaseConnectionClaimedBy
  split
  · exact truly
  · rename_i stale isStale
    apply parkedTruly_onClosed truly
    obtain ⟨stored, -⟩ := Option.filter_eq_some_iff.mp isStale
    simp only [Regular, stored]
    intro _ same
    cases same

/-- A claim, honoured or not, leaves no session that is waited for. -/
theorem parkedTruly_onResumeClaim {shake : Handshake} (truly : ParkedTruly shake.peer host)
    (claim : SessionId) : ParkedTruly shake.peer (host.onResumeClaim shake claim).2 := by
  refine parkedTruly_of_none ?_ (parked_onResumeClaim host shake claim)
  unfold onResumeClaim
  by_cases isParked : host.parkedSessions.lookup shake.peer = some claim
  · have resumed := state_onReconnect host.sessions shake.peer shake.resumedAt
    simp only [isParked, if_true]
    split
    · exact resumed
    · exact state_endParkedSession fun waits => absurd waits resumed
  · simp only [isParked, if_false]
    exact state_endParkedSession truly.mp

theorem parkedTruly_onNewConnection {shake : Handshake} (truly : ParkedTruly shake.peer host) :
    ParkedTruly shake.peer (host.onNewConnection shake) := by
  refine parkedTruly_of_none ?_ (onNewConnection_spec host shake).1
  have ended := state_endParkedSession truly.mp
  unfold onNewConnection
  dsimp only
  rcases (host.endParkedSession shake.peer).tickets.claim shake.ticket shake.unixNow with
    ⟨_ | _, tickets⟩
  · exact ended
  · dsimp only
    rcases askOrChallenge_sessions { host.endParkedSession shake.peer with tickets } shake with
      same | asked
    · rw [same]
      exact ended
    · rw [asked]
      unfold requestConsent
      split
      · dsimp only
        rw [state_requestConsentFor]
        exact ended
      · exact ended

theorem parkedTruly_onHandshaked {shake : Handshake} (truly : ParkedTruly shake.peer host) :
    ParkedTruly shake.peer (host.onHandshaked shake).2 := by
  unfold onHandshaked
  split
  · exact truly
  · cases shake.resumeClaim with
    | none =>
        dsimp only
        split
        · exact truly.of_same rfl rfl
        · exact parkedTruly_onNewConnection (truly.of_same rfl rfl)
    | some claim =>
        dsimp only
        have released := parkedTruly_releaseConnectionClaimedBy truly claim shake.disconnectedAt
        split
        · exact released.of_same rfl rfl
        · refine parkedTruly_onResumeClaim ?_ claim
          exact released.of_same rfl rfl

/-- A grant goes to a guest whose session is not parked. -/
theorem parkedTruly_of_isGrant {op : Happening} {role : Role} {freshId : SessionId}
    (isGrant : IsGrant host op p role freshId)
    (unparked : (host.step op).2.parkedSessions.lookup p = none) :
    ParkedTruly p (host.step op).2 := by
  refine parkedTruly_of_none ?_ unparked
  rw [isGrant.granted]
  unfold SessionManager.state
  rw [SessionManager.lookup_grantAs]
  simp [SessionManager.nextSession, isGrant.accepted, SessionManager.grantedSession]

/-- A device password comes over a connection that the guest opened. -/
theorem parked_of_inbound_granted {host : Host} {id : UInt64} {kind : MessageKind}
    {verdict : Verdict} (unparked : UnparkedAt p host)
    (granted : (host.step (.inbound p id kind verdict)).1 = some (.granted p)) :
    host.parkedSessions.lookup p = none := by
  simp only [step] at granted
  unfold onInbound at granted
  split at granted
  · cases granted
  · rename_i handle isHandle
    obtain ⟨stored, -⟩ := Option.filter_eq_some_iff.mp isHandle
    split at granted
    · cases granted
    · rename_i fits
      refine unparked handle stored ?_
      split at granted
      all_goals first
        | (cases isOrigin : handle.origin with
            | accepted => rfl
            | dialed => simp [isOrigin, MessageKind.direction, Origin.inbound] at fits)
        | simp at granted

/-- One step keeps it, for the peer it is about as for the others. -/
theorem parkedTruly_step {op : Happening} (truly : ParkedTruly p host)
    (unparked : UnparkedAt p host) (regular : Regular host op) :
    ParkedTruly p (host.step op).2 := by
  by_cases about : subject op = some p
  swap
  · exact truly.of_same (state_of_lookup (lookup_of_step about)) (rest_of_other about).1
  cases op with
  | handshaked shake =>
      obtain rfl := Option.some.inj about
      have isStep : (host.step (.handshaked shake)).2 = (host.onHandshaked shake).2 := by
        simp only [step]
        rcases host.onHandshaked shake with ⟨_ | _, after⟩ <;> rfl
      rw [isStep]
      exact parkedTruly_onHandshaked truly
  | inbound asker id kind verdict =>
      obtain rfl := Option.some.inj about
      obtain ⟨parked, -⟩ := onInbound_rest host asker id kind verdict
      rcases isGrant_of_inbound host asker id kind verdict with same | ⟨role, freshId, isGrant⟩
      · exact truly.of_same (by rw [same]) (by rw [← parked]; rfl)
      · refine parkedTruly_of_isGrant isGrant ?_
        show (host.onInbound asker id kind verdict).2.parkedSessions.lookup asker = none
        rw [parked]
        exact parked_of_inbound_granted unparked isGrant.ruling
  | closed asker id ending now =>
      obtain rfl := Option.some.inj about
      exact parkedTruly_onClosed truly regular
  | grant asker role freshId =>
      obtain rfl := Option.some.inj about
      obtain ⟨parked, -⟩ := grantSession_rest host asker role freshId
      have isStep : (host.step (.grant asker role freshId)).2 =
          (host.grantSession asker role freshId).2 := granting_host asker _
      rcases isGrant_of_grant host asker role freshId with same | ⟨role', freshId', isGrant⟩
      · exact truly.of_same (by rw [same]) (by rw [isStep, parked])
      · refine parkedTruly_of_isGrant isGrant ?_
        rw [isStep, parked]
        obtain rfl : role = role' := Option.some.inj isGrant.asked
        cases held : host.parkedSessions.lookup asker with
        | none => rfl
        | some sessionId =>
            have refused := regular (by rw [held]; rfl)
            rw [isGrant.accepted] at refused
            cases refused
  | revoke asker =>
      obtain rfl := Option.some.inj about
      simp only [step]
      unfold onRevoke
      split
      · exact truly.of_same rfl rfl
      · split
        · exact truly.of_same rfl rfl
        · rename_i noParkedView noView
          have parked : host.parkedSessions.lookup asker = none := by
            cases held : host.parkedSessions.lookup asker with
            | none => rfl
            | some sessionId =>
                exact ((regular (by rw [held]; rfl)).elim noParkedView noView).elim
          have ended : (host.sessions.revoke asker).2.state asker ≠ .reconnecting := by
            rw [state_revoke]
            intro same
            cases same
          rcases revoked : host.sessions.revoke asker with ⟨_ | _, sessions⟩
          all_goals
            rw [revoked] at ended
            exact parkedTruly_of_none ended parked
  | setGrant asker which allowed => exact truly.of_same (state_setGrant ..) rfl
  | setTarget asker target allowed =>
      cases allowed with
      | false => exact truly.of_same (state_denyTunnelTarget ..) rfl
      | true => exact truly.of_same (state_allowTunnelTarget ..) rfl
  | resumeWindowElapsed asker sessionId =>
      obtain rfl := Option.some.inj about
      simp only [step, onResumeWindowElapsed]
      split
      · exact truly
      · exact parkedTruly_endParkedSession truly
  | dialed _ _ | view _ _ _ | letGo _ => exact truly.of_same rfl rfl
  | setPlan _ | setControlPolicy _ | invite _ | trust _ _ | attendance _ | restart => cases about

/-! ## What is parked, and by which drop -/

theorem peer_of_parks {closed : Option HostConnection} {ending : Ending} {drop : Drop}
    (isDrop : host.parks peer closed ending = some drop) : drop.peer = peer := by
  unfold parks at isDrop
  split at isDrop
  · split at isDrop
    · cases isDrop
    · rw [← Option.some.inj isDrop]
  · cases isDrop

theorem subject_of_drops {op : Happening} {drop : Drop} (isDrop : host.drops op = some drop) :
    subject op = some drop.peer := by
  cases op with
  | closed asker id ending now =>
      simp only [drops] at isDrop
      split at isDrop
      · cases isDrop
      · rw [peer_of_parks isDrop]
        rfl
  | handshaked shake =>
      simp only [drops] at isDrop
      split at isDrop
      · split at isDrop
        · cases isDrop
        · rw [peer_of_parks isDrop]
          rfl
      · cases isDrop
  | _ => cases isDrop

/-- The drop is what `end_or_park_session` parks, and it parks nothing else. -/
theorem parked_endOrParkSession (host : Host) (peer : NodeId) (closed : Option HostConnection)
    (ending : Ending) (now : Instant) :
    (host.endOrParkSession peer closed ending now).parkedSessions =
      match host.parks peer closed ending with
      | some drop => host.parkedSessions.insert peer drop.sessionId
      | none => host.parkedSessions := by
  unfold endOrParkSession parks
  cases found : host.sessions.sessions.lookup peer with
  | none => simp only [SessionManager.onDisconnect, found]
  | some session =>
      simp only [SessionManager.onDisconnect, found]
      cases closed with
      | none => rfl
      | some handle =>
          dsimp only
          split
          · rfl
          · rfl

/-- Of the peer that a step is about, a session is parked afterwards that this step dropped, or that
was parked before and is not dropped again. -/
def ParkedSince (p : NodeId) (before after : Host) (drop : Option Drop) : Prop :=
  ∀ sessionId, after.parkedSessions.lookup p = some sessionId →
    drop = some ⟨p, sessionId⟩ ∨
      before.parkedSessions.lookup p = some sessionId ∧ ∀ other, drop = some other → other.peer ≠ p

theorem parkedSince_of_none {before after : Host} {drop : Option Drop}
    (parked : after.parkedSessions.lookup p = none) : ParkedSince p before after drop := by
  intro sessionId held
  rw [parked] at held
  cases held

theorem parkedSince_of_same {before after : Host}
    (parked : after.parkedSessions.lookup p = before.parkedSessions.lookup p) :
    ParkedSince p before after none :=
  fun sessionId held => .inr ⟨by rw [← parked]; exact held, nofun⟩

theorem parkedSince_of_parks {before after : Host} {closed : Option HostConnection}
    {ending : Ending}
    (parked : after.parkedSessions =
      match before.parks p closed ending with
      | some drop => before.parkedSessions.insert p drop.sessionId
      | none => before.parkedSessions) :
    ParkedSince p before after (before.parks p closed ending) := by
  cases isDrop : before.parks p closed ending with
  | none =>
      rw [isDrop] at parked
      exact parkedSince_of_same (by rw [parked])
  | some drop =>
      rw [isDrop] at parked
      intro sessionId held
      left
      rw [parked, AList.lookup_insert] at held
      have isPeer := peer_of_parks isDrop
      obtain ⟨_, _⟩ := drop
      cases held
      cases isPeer
      rfl

theorem parkedSince_onClosed (host : Host) (p : NodeId) (id : UInt64) (ending : Ending)
    (now : Instant) :
    ParkedSince p host (host.onClosed p id ending now) (host.drops (.closed p id ending now)) := by
  unfold onClosed
  simp only [drops]
  split
  · exact parkedSince_of_same rfl
  · apply parkedSince_of_parks
    exact parked_endOrParkSession _ p (host.connections.lookup p) ending now

/-- The connection that a claim names is ended like any other. -/
theorem parkedSince_releaseConnectionClaimedBy (host : Host) (p : NodeId) (claim : SessionId)
    (now : Instant) :
    ParkedSince p host (host.releaseConnectionClaimedBy p claim now)
      (host.parks p ((host.connections.lookup p).filter (·.sessionId = claim)) .closedHere) := by
  unfold releaseConnectionClaimedBy
  cases isStale : (host.connections.lookup p).filter (·.sessionId = claim) with
  | none =>
      have nothing : host.parks p none .closedHere = none := by
        unfold parks
        split <;> simp_all
      rw [nothing]
      exact parkedSince_of_same rfl
  | some stale =>
      obtain ⟨stored, -⟩ := Option.filter_eq_some_iff.mp isStale
      have closes := parkedSince_onClosed host p stale.id .closedHere now
      simpa [drops, stored] using closes

theorem parkedSince_step (host : Host) (op : Happening) (p : NodeId) :
    ParkedSince p host (host.step op).2 (host.drops op) := by
  by_cases about : subject op = some p
  swap
  · intro sessionId held
    rw [(rest_of_other about).1] at held
    refine .inr ⟨held, fun other isDrop same => about ?_⟩
    rw [subject_of_drops isDrop, same]
  cases op with
  | handshaked shake =>
      obtain rfl := Option.some.inj about
      have isStep : (host.step (.handshaked shake)).2 = (host.onHandshaked shake).2 := by
        simp only [step]
        rcases host.onHandshaked shake with ⟨_ | _, after⟩ <;> rfl
      rw [isStep]
      simp only [drops]
      unfold onHandshaked
      cases shake.resumeClaim with
      | none =>
          dsimp only
          split
          · exact parkedSince_of_same rfl
          · split
            · exact parkedSince_of_same rfl
            · exact parkedSince_of_none (onNewConnection_spec _ shake).1
      | some claim =>
          dsimp only
          split
          · exact parkedSince_of_same rfl
          · split
            · exact parkedSince_releaseConnectionClaimedBy host shake.peer claim _
            · exact parkedSince_of_none (parked_onResumeClaim _ shake claim)
  | closed asker id ending now =>
      obtain rfl := Option.some.inj about
      exact parkedSince_onClosed host asker id ending now
  | resumeWindowElapsed asker sessionId =>
      obtain rfl := Option.some.inj about
      simp only [step, onResumeWindowElapsed]
      split
      · exact parkedSince_of_same rfl
      · exact parkedSince_of_none (lookup_parked_endParkedSession host asker)
  | inbound asker id kind verdict =>
      exact parkedSince_of_same (by rw [← (onInbound_rest host asker id kind verdict).1]; rfl)
  | grant asker role freshId =>
      have isStep : (host.step (.grant asker role freshId)).2 =
          (host.grantSession asker role freshId).2 := granting_host asker _
      exact parkedSince_of_same (by rw [isStep, (grantSession_rest host asker role freshId).1])
  | revoke asker =>
      exact parkedSince_of_same (by rw [← (onRevoke_rest host asker).1]; rfl)
  | _ => exact parkedSince_of_same rfl

/-- A claim that is honoured is for the id that the session of its peer is parked under. -/
theorem parked_of_onResumeClaim {shake : Handshake} {claim : SessionId}
    (honoured : (host.onResumeClaim shake claim).1 = true) :
    host.parkedSessions.lookup shake.peer = some claim := by
  by_contra other
  unfold onResumeClaim at honoured
  simp [other] at honoured

theorem claim_of_onHandshaked {shake : Handshake}
    (resumed : (host.onHandshaked shake).1 = true) :
    ∃ claim, shake.resumeClaim = some claim ∧ host.restarting = false ∧
      (host.releaseConnectionClaimedBy shake.peer claim
        shake.disconnectedAt).parkedSessions.lookup shake.peer = some claim ∧
      (host.onHandshaked shake).2.parkedSessions.lookup shake.peer = none := by
  unfold onHandshaked at resumed ⊢
  split at resumed
  · cases resumed
  · rename_i stays
    cases claims : shake.resumeClaim with
    | none =>
        rw [claims] at resumed
        dsimp only at resumed
        split at resumed <;> cases resumed
    | some claim =>
        rw [claims] at resumed
        rw [if_neg stays]
        dsimp only at resumed ⊢
        split at resumed
        · cases resumed
        · rename_i hosts
          rw [if_neg hosts]
          have parked := parked_of_onResumeClaim resumed
          exact ⟨claim, rfl, by simpa using stays, parked, parked_onResumeClaim _ shake claim⟩

theorem granting_ne_resumed (asker : NodeId) (result : Bool × Host) :
    (granting asker result).1 ≠ some (.resumed p) := by
  obtain ⟨_ | _, after⟩ := result <;> nofun

/-- A claim is honoured for the id that the session of the claiming peer is parked under, by an
earlier drop or by the one that the claim brings to light; and it is parked no more. -/
theorem parked_of_resumed {op : Happening} (resumed : (host.step op).1 = some (.resumed p)) :
    ∃ shake claim, op = .handshaked shake ∧ shake.peer = p ∧ shake.resumeClaim = some claim ∧
      (host.drops op = some ⟨p, claim⟩ ∨ host.parkedSessions.lookup p = some claim ∧
        ∀ other, host.drops op = some other → other.peer ≠ p) ∧
      (host.step op).2.parkedSessions.lookup p = none := by
  cases op with
  | handshaked shake =>
      have isPeer : shake.peer = p ∧ (host.onHandshaked shake).1 = true ∧
          (host.step (.handshaked shake)).2 = (host.onHandshaked shake).2 := by
        simp only [step] at resumed ⊢
        rcases shaken : host.onHandshaked shake with ⟨_ | _, after⟩
        · rw [shaken] at resumed
          cases resumed
        · rw [shaken] at resumed
          exact ⟨Ruling.resumed.inj (Option.some.inj resumed), rfl, rfl⟩
      obtain ⟨rfl, honoured, isStep⟩ := isPeer
      obtain ⟨claim, claims, stays, parked, gone⟩ := claim_of_onHandshaked honoured
      refine ⟨shake, claim, rfl, rfl, claims, ?_, by rw [isStep, gone]⟩
      have since := parkedSince_releaseConnectionClaimedBy host shake.peer claim shake.disconnectedAt
        claim parked
      simp only [drops, claims, stays]
      exact since
  | inbound asker id kind verdict =>
      simp only [step] at resumed
      unfold onInbound at resumed
      split at resumed
      · cases resumed
      · split at resumed
        · cases resumed
        · split at resumed
          · exact absurd resumed (granting_ne_resumed asker _)
          · exact absurd resumed (granting_ne_resumed asker _)
          · simp at resumed
  | grant asker role freshId => exact absurd resumed (granting_ne_resumed asker _)
  | _ => cases resumed

end Lumepeer.Runtime.Host

namespace Lumepeer.Runtime.Parking
open Lumepeer.Lib Lumepeer.Core Lumepeer.Net

variable {parking : Parking} {op : Op} {p : NodeId}

/-- An event of the host with its timers. -/
abbrev ParkingEvent := Event Parking Op (Option Ruling)

/-- The host's step is a regular one. -/
def Regular (parking : Parking) : Op → Prop
  | .happens happening => Host.Regular parking.host happening
  | .fires _ => True

/-- No session of the peer was parked before under the id that this step parks one under. -/
def Fresh (parking : Parking) : Op → Prop
  | .happens happening =>
      match parking.host.drops happening with
      | some drop => drop ∉ parking.drops
      | none => True
  | .fires _ => True

instance (parking : Parking) (op : Op) : Decidable (Regular parking op) := by
  unfold Regular
  split <;> infer_instance

instance (parking : Parking) (op : Op) : Decidable (Fresh parking op) := by
  unfold Fresh
  split
  · split <;> infer_instance
  · infer_instance

/-- A timer that fires ends no session but one of its own drop. -/
def EndsItsOwn (e : ParkingEvent) : Prop :=
  ∀ n, e.op = .fires n → ∀ p, e.post.host.parkedSessions.lookup p ≠
    e.pre.host.parkedSessions.lookup p → e.pre.latest.lookup p = some n

/-- Once the timer of a drop fires, its session is not parked, and if it was so until then it is gone
from the session manager. -/
def OverAtTheTimer (e : ParkingEvent) : Prop :=
  ∀ n, e.op = .fires n → n ∈ e.pre.waiting → ∀ p, e.pre.latest.lookup p = some n →
    e.post.host.parkedSessions.lookup p = none ∧
    ((e.pre.host.parkedSessions.lookup p).isSome →
      e.post.host.sessions.sessions.lookup p = none)

/-- A claim that is honoured names the id that the session of the claiming peer is parked under,
by the last drop of that peer. -/
def ClaimsTheParked (e : ParkingEvent) : Prop :=
  ∀ p, e.out = some (.resumed p) → ∃ shake claim n,
    e.op = .happens (.handshaked shake) ∧ shake.peer = p ∧ shake.resumeClaim = some claim ∧
    e.post.latest.lookup p = some n ∧ e.post.drops[n]? = some ⟨p, claim⟩ ∧
    ((e.pre.host.parkedSessions.lookup p = some claim ∧ e.pre.latest.lookup p = some n) ∨
      e.pre.drops.length = n)

/-- The claim that an event honours. -/
def resumedClaim (e : ParkingEvent) : Option Drop :=
  match e.out, e.op with
  | some (.resumed peer), .happens (.handshaked shake) =>
      shake.resumeClaim.map fun claim => ⟨peer, claim⟩
  | _, _ => none

/-! ## Steps -/

/-- What a step may be. -/
inductive Moves (parking : Parking) (op : Op) : Prop
  | idle (isStep : parking.step op = (none, parking))
      (nothing : ∀ n, op = .fires n → n ∈ parking.waiting → parking.drops[n]? = none)
  | happens {happening : Host.Happening} (isOp : op = .happens happening)
      (isStep : parking.step op = ((parking.host.step happening).1,
        { parking.record (parking.host.drops happening) with
          host := (parking.host.step happening).2 }))
  | fires {n : Nat} {peer : NodeId} {sessionId : SessionId} (isOp : op = .fires n)
      (isDrop : parking.drops[n]? = some ⟨peer, sessionId⟩) (waits : n ∈ parking.waiting)
      (isStep : parking.step op = (none, { parking with
        host := parking.host.onResumeWindowElapsed peer sessionId
        waiting := parking.waiting.erase n }))

theorem moves_of_step (parking : Parking) (op : Op) : Moves parking op := by
  cases op with
  | happens happening =>
      cases happening with
      | resumeWindowElapsed _ _ => exact .idle rfl nofun
      | _ => exact .happens rfl rfl
  | fires n =>
      cases isDrop : parking.drops[n]? with
      | none =>
          refine .idle (by simp only [step, isDrop]) fun m isFires _ => ?_
          rw [← Op.fires.inj isFires, isDrop]
      | some drop =>
          obtain ⟨peer, sessionId⟩ := drop
          by_cases waits : n ∈ parking.waiting
          · exact .fires rfl isDrop waits (by simp only [step, isDrop, waits, if_true])
          · refine .idle (by simp only [step, isDrop, waits, if_false]) fun m isFires waits' => ?_
            exact absurd (Op.fires.inj isFires ▸ waits') waits

/-- A window that elapsed ends the session that is parked under its id, and no other. -/
theorem parked_onResumeWindowElapsed (host : Host) (peer : NodeId) (sessionId : SessionId)
    (p : NodeId) :
    (host.onResumeWindowElapsed peer sessionId).parkedSessions.lookup p =
      if p = peer ∧ host.parkedSessions.lookup peer = some sessionId then none
      else host.parkedSessions.lookup p := by
  unfold Host.onResumeWindowElapsed
  by_cases parked : host.parkedSessions.lookup peer = some sessionId
  · simp [parked, Host.parked_endParkedSession, HashMap.lookup_erase_eq]
  · simp [parked]

/-! ## Every parked session has its timer -/

/-- The timer of the last drop of a peer is to fire while its session is parked. -/
structure Noted (parking : Parking) : Prop where
  parked : ∀ p sessionId, parking.host.parkedSessions.lookup p = some sessionId →
    ∃ n ∈ parking.waiting, parking.latest.lookup p = some n ∧
      parking.drops[n]? = some ⟨p, sessionId⟩
  started : ∀ n ∈ parking.waiting, n < parking.drops.length
  once : parking.waiting.Nodup

theorem noted_record (noted : Noted parking) {after : Host} {drop : Option Drop}
    (since : ∀ p, Host.ParkedSince p parking.host after drop) :
    Noted { parking.record drop with host := after } := by
  cases drop with
  | none =>
      refine ⟨fun p sessionId held => ?_, noted.started, noted.once⟩
      exact noted.parked p sessionId ((since p sessionId held).resolve_left nofun).1
  | some drop =>
      refine ⟨fun p sessionId held => ?_, fun n member => ?_, ?_⟩
      · rcases since p sessionId held with isDrop | ⟨before, others⟩
        · obtain rfl := Option.some.inj isDrop
          refine ⟨parking.drops.length, List.mem_cons_self, ?_, ?_⟩
          · exact AList.lookup_insert _
          · exact List.getElem?_concat_length
        · obtain ⟨n, waits, isLatest, isDrop⟩ := noted.parked p sessionId before
          refine ⟨n, List.mem_cons_of_mem _ waits, ?_, ?_⟩
          · exact (AList.lookup_insert_ne (others drop rfl).symm).trans isLatest
          · exact (List.getElem?_append_left (noted.started n waits)).trans isDrop
      · simp only [record, List.length_append, List.length_singleton] at member ⊢
        rcases List.mem_cons.mp member with rfl | earlier
        · exact Nat.lt_succ_self _
        · exact Nat.lt_succ_of_lt (noted.started n earlier)
      · exact List.nodup_cons.mpr
          ⟨fun member => absurd (noted.started _ member) (Nat.lt_irrefl _), noted.once⟩

theorem noted_step (noted : Noted parking) (op : Op) : Noted (parking.step op).2 := by
  cases moves_of_step parking op with
  | idle isStep _ => rw [isStep]; exact noted
  | @happens happening isOp isStep =>
      rw [isStep]
      exact noted_record noted (Host.parkedSince_step parking.host happening)
  | @fires n peer sessionId isOp isDrop waits isStep =>
      rw [isStep]
      refine ⟨fun p held_ held => ?_, fun m member => ?_, noted.once.erase n⟩
      · simp only [parked_onResumeWindowElapsed] at held
        split at held
        · cases held
        · rename_i kept
          obtain ⟨m, waits', isLatest, isDrop'⟩ := noted.parked p held_ held
          refine ⟨m, (List.mem_erase_of_ne ?_).mpr waits', isLatest, isDrop'⟩
          rintro rfl
          rw [isDrop] at isDrop'
          cases isDrop'
          exact kept ⟨rfl, held⟩
      · exact noted.started m (List.mem_of_mem_erase member)

/-! ## The two tables move together -/

/-- The session manager and the table of parked sessions agree, and no guest that has a connection
is parked. -/
structure InStep (host : Host) : Prop where
  unparked : Host.Unparked host
  truly : ∀ p, Host.ParkedTruly p host

theorem inStep_step (inStep : InStep parking.host) (op : Op) (regular : Regular parking op) :
    InStep (parking.step op).2.host := by
  cases moves_of_step parking op with
  | idle isStep _ => rw [isStep]; exact inStep
  | @happens happening isOp isStep =>
      subst isOp
      rw [isStep]
      exact ⟨Host.unparked_step inStep.unparked happening,
        fun p => Host.parkedTruly_step (inStep.truly p) (inStep.unparked p) regular⟩
  | @fires n peer sessionId isOp isDrop waits isStep =>
      rw [isStep]
      exact ⟨Host.unparked_step inStep.unparked (.resumeWindowElapsed peer sessionId),
        fun p => @Host.parkedTruly_step _ p (.resumeWindowElapsed peer sessionId)
          (inStep.truly p) (inStep.unparked p) trivial⟩

theorem inStep_new (plan : Plan) (hosting : Bool) : InStep (Host.new plan hosting) :=
  ⟨fun _ => Host.unparkedAt_of_none rfl, fun _ => Host.parkedTruly_of_none nofun rfl⟩

theorem noted_new (plan : Plan) (hosting : Bool) : Noted (new plan hosting) :=
  ⟨nofun, nofun, List.nodup_nil⟩

/-- A session whose window elapsed is gone, if it was still waited for. -/
theorem gone_onResumeWindowElapsed {host : Host} {sessionId : SessionId}
    (truly : Host.ParkedTruly p host) (held : host.parkedSessions.lookup p = some sessionId) :
    (host.onResumeWindowElapsed p sessionId).sessions.sessions.lookup p = none := by
  have waits : host.sessions.state p = .reconnecting := truly.mpr (by rw [held]; rfl)
  unfold Host.onResumeWindowElapsed
  rw [if_neg (not_not_intro held)]
  unfold Host.endParkedSession
  simp only [held, waits, Option.isSome_some, decide_true, Bool.and_self, if_true,
    SessionManager.revoke_sessions, HashMap.lookup_erase_eq]

theorem overAtTheTimer_step (noted : Noted parking) (inStep : InStep parking.host) (op : Op) :
    OverAtTheTimer (Event.of step parking op) := by
  intro n isFires waits p isLatest
  cases moves_of_step parking op with
  | idle isStep nothing =>
      have started := noted.started n waits
      have none := nothing n isFires waits
      exact absurd started (Nat.not_lt.mpr (List.getElem?_eq_none_iff.mp none))
  | happens isOp isStep => exact absurd (isOp.symm.trans isFires) nofun
  | @fires m peer sessionId isOp isDrop waits' isStep =>
      obtain rfl : m = n := Op.fires.inj (isOp.symm.trans isFires)
      simp only [Event.of_post, isStep, Event.of_pre, parked_onResumeWindowElapsed]
      cases held : parking.host.parkedSessions.lookup p with
      | none => exact ⟨by split <;> rfl, nofun⟩
      | some sessionId' =>
          obtain ⟨m', -, isLatest', isDrop'⟩ := noted.parked p sessionId' held
          obtain rfl : m' = m := Option.some.inj (isLatest'.symm.trans isLatest)
          rw [isDrop] at isDrop'
          cases isDrop'
          rw [if_pos ⟨rfl, held⟩]
          exact ⟨rfl, fun _ => gone_onResumeWindowElapsed (inStep.truly p) held⟩

theorem endsItsOwn_step (noted : Noted parking) (apart : parking.drops.Nodup) (op : Op) :
    EndsItsOwn (Event.of step parking op) := by
  intro n isFires p changed
  cases moves_of_step parking op with
  | idle isStep _ =>
      rw [Event.of_post, isStep] at changed
      exact absurd rfl changed
  | happens isOp isStep => exact absurd (isOp.symm.trans isFires) nofun
  | @fires m peer sessionId isOp isDrop waits isStep =>
      obtain rfl : m = n := Op.fires.inj (isOp.symm.trans isFires)
      simp only [Event.of_post, isStep, Event.of_pre, parked_onResumeWindowElapsed] at changed
      split at changed
      · rename_i ends
        obtain ⟨rfl, held⟩ := ends
        obtain ⟨m', waits', isLatest, isDrop'⟩ := noted.parked p sessionId held
        have same : m' = m := by
          refine (List.getElem?_inj (noted.started m' waits') apart).mp ?_
          rw [isDrop, isDrop']
        rw [← same]
        exact isLatest
      · exact absurd rfl changed

theorem claimsTheParked_step (noted : Noted parking) (op : Op) :
    ClaimsTheParked (Event.of step parking op) := by
  intro p resumed
  cases moves_of_step parking op with
  | idle isStep _ =>
      rw [Event.of_out, isStep] at resumed
      cases resumed
  | fires isOp isDrop waits isStep =>
      rw [Event.of_out, isStep] at resumed
      cases resumed
  | @happens happening isOp isStep =>
      rw [Event.of_out, isStep] at resumed
      obtain ⟨shake, claim, rfl, isPeer, claims, parked, -⟩ := Host.parked_of_resumed resumed
      rw [Event.of_op, Event.of_post, Event.of_pre, isStep]
      rcases parked with isDrop | ⟨held, others⟩
      · refine ⟨shake, claim, parking.drops.length, isOp, isPeer, claims, ?_, ?_, .inr rfl⟩
        · rw [isDrop]
          exact AList.lookup_insert _
        · rw [isDrop]
          exact List.getElem?_concat_length
      · obtain ⟨n, waits, isLatest, isDrop⟩ := noted.parked p claim held
        refine ⟨shake, claim, n, isOp, isPeer, claims, ?_, ?_, .inl ⟨held, isLatest⟩⟩
        · cases drops : parking.host.drops (.handshaked shake) with
          | none => exact isLatest
          | some other => exact (AList.lookup_insert_ne (others other drops).symm).trans isLatest
        · cases drops : parking.host.drops (.handshaked shake) with
          | none => exact isDrop
          | some other =>
              exact (List.getElem?_append_left (noted.started n waits)).trans isDrop

theorem nodup_drops_step (apart : parking.drops.Nodup) {op : Op} (fresh : Fresh parking op) :
    (parking.step op).2.drops.Nodup := by
  cases moves_of_step parking op with
  | idle isStep _ => rw [isStep]; exact apart
  | fires isOp isDrop waits isStep => rw [isStep]; exact apart
  | @happens happening isOp isStep =>
      subst isOp
      rw [isStep]
      cases isDrop : parking.host.drops happening with
      | none => exact apart
      | some drop =>
          simp only [Fresh, isDrop] at fresh
          exact List.nodup_append.mpr ⟨apart, List.nodup_singleton drop,
            fun _ member _ isLast => by
              rintro rfl
              rw [List.mem_singleton.mp isLast] at member
              exact fresh member⟩

/-! ## Each claim once -/

theorem drops_grow (parking : Parking) (op : Op) {drop : Drop} (member : drop ∈ parking.drops) :
    drop ∈ (parking.step op).2.drops := by
  cases moves_of_step parking op with
  | idle isStep _ => rw [isStep]; exact member
  | fires isOp isDrop waits isStep => rw [isStep]; exact member
  | @happens happening isOp isStep =>
      rw [isStep]
      cases parking.host.drops happening with
      | none => exact member
      | some other => exact List.mem_append_left _ member

/-- What was dropped before is parked after a step only if it was before. -/
theorem parked_of_step {op : Op} (fresh : Fresh parking op) {drop : Drop}
    (dropped : drop ∈ parking.drops)
    (held : (parking.step op).2.host.parkedSessions.lookup drop.peer = some drop.sessionId) :
    parking.host.parkedSessions.lookup drop.peer = some drop.sessionId := by
  cases moves_of_step parking op with
  | idle isStep _ => rwa [isStep] at held
  | fires isOp isDrop waits isStep =>
      simp only [isStep, parked_onResumeWindowElapsed] at held
      split at held
      · cases held
      · exact held
  | @happens happening isOp isStep =>
      subst isOp
      rw [isStep] at held
      rcases Host.parkedSince_step parking.host happening drop.peer _ held with isDrop | before
      · simp only [Fresh, isDrop] at fresh
        exact absurd dropped fresh
      · exact before.1

/-- A claim that is honoured was not dropped before, or is parked until then; and it is parked no
more. -/
theorem resumedClaim_of_step (noted : Noted parking) {op : Op} (fresh : Fresh parking op)
    {drop : Drop} (resumed : resumedClaim (Event.of step parking op) = some drop) :
    (drop ∈ parking.drops →
      parking.host.parkedSessions.lookup drop.peer = some drop.sessionId) ∧
    drop ∈ (parking.step op).2.drops ∧
    (parking.step op).2.host.parkedSessions.lookup drop.peer = none := by
  unfold resumedClaim at resumed
  split at resumed
  · rename_i peer shake isOut isOp
    obtain ⟨claim, claims, rfl⟩ := Option.map_eq_some_iff.mp resumed
    obtain ⟨shake', claim', n, isOp', -, claims', -, isDrop, -⟩ :=
      claimsTheParked_step noted op peer isOut
    obtain rfl : shake' = shake :=
      Host.Happening.handshaked.inj (Op.happens.inj (isOp'.symm.trans isOp))
    obtain rfl : claim' = claim := Option.some.inj (claims'.symm.trans claims)
    refine ⟨fun dropped => ?_, List.mem_of_getElem? isDrop, ?_⟩
    all_goals
      obtain rfl : op = .happens (.handshaked shake') := isOp
      have honoured : (parking.host.step (.handshaked shake')).1 = some (.resumed peer) := isOut
      obtain ⟨_, _, same, -, claims'', parked, gone⟩ := Host.parked_of_resumed honoured
      cases same
      cases claims.symm.trans claims''
    · rcases parked with isDrop | before
      · simp only [Fresh, isDrop] at fresh
        exact absurd dropped fresh
      · exact before.1
    · exact gone
  · cases resumed

theorem resumed_once {start : Parking} (noted : Noted start) (ops : List Op)
    (fresh : ∀ e ∈ history step start ops, Fresh e.pre e.op) :
    ((history step start ops).filterMap resumedClaim).Nodup ∧
      ∀ drop ∈ (history step start ops).filterMap resumedClaim,
        drop ∈ (exec step start ops).drops ∧
          (exec step start ops).host.parkedSessions.lookup drop.peer ≠ some drop.sessionId := by
  induction ops using List.reverseRecOn with
  | nil => exact ⟨List.nodup_nil, nofun⟩
  | append_singleton ops op ih =>
      rw [history_concat] at fresh ⊢
      rw [exec_concat, List.filterMap_append]
      obtain ⟨apart, earlier⟩ := ih fun e member => fresh e (List.mem_append_left _ member)
      have last : Fresh (exec step start ops) op :=
        fresh _ (List.mem_append_right _ (List.mem_singleton_self _))
      have still : ∀ drop ∈ (history step start ops).filterMap resumedClaim,
          drop ∈ ((exec step start ops).step op).2.drops ∧
            ((exec step start ops).step op).2.host.parkedSessions.lookup drop.peer ≠
              some drop.sessionId := by
        intro drop member
        obtain ⟨dropped, notParked⟩ := earlier drop member
        exact ⟨drops_grow _ op dropped, fun held => notParked (parked_of_step last dropped held)⟩
      cases isResumed : resumedClaim (Event.of step (exec step start ops) op) with
      | none =>
          simp only [List.filterMap_cons, isResumed, List.filterMap_nil, List.append_nil]
          exact ⟨apart, still⟩
      | some drop =>
          have keep (parking : Parking) (op : Op) (noted : Noted parking) :
              Noted (parking.step op).2 := noted_step noted op
          obtain ⟨unparked, dropped, gone⟩ :=
            resumedClaim_of_step (exec_invariant keep noted ops) last isResumed
          simp only [List.filterMap_cons, isResumed, List.filterMap_nil]
          refine ⟨List.nodup_append.mpr ⟨apart, List.nodup_singleton drop, ?_⟩, ?_⟩
          · intro before member _ isLast
            rw [List.mem_singleton.mp isLast]
            rintro rfl
            obtain ⟨wasDropped, notParked⟩ := earlier before member
            exact notParked (unparked wasDropped)
          · intro other member
            rcases List.mem_append.mp member with before | isLast
            · exact still other before
            · rw [List.mem_singleton.mp isLast]
              exact ⟨dropped, by rw [gone]; nofun⟩

/-- While every step is regular, the session manager waits for a peer exactly while its session is
parked, and a session whose timer fires is gone. Whatever is parked has a timer to wait for; a timer
ends no later session, and no claim is honoured twice, while sessions are parked under ids of their
own; and a claim is honoured for what is parked only. -/
theorem parked_exactly_while_resumable (plan : Plan) (hosting : Bool) (ops : List Op) :
    ((∀ e ∈ history step (new plan hosting) ops, Regular e.pre e.op) →
      (∀ p, Host.ParkedTruly p (exec step (new plan hosting) ops).host) ∧
      ∀ e ∈ history step (new plan hosting) ops, OverAtTheTimer e) ∧
    (∀ p sessionId,
      (exec step (new plan hosting) ops).host.parkedSessions.lookup p = some sessionId →
        ∃ n ∈ (exec step (new plan hosting) ops).waiting,
          (exec step (new plan hosting) ops).drops[n]? = some ⟨p, sessionId⟩) ∧
    ((∀ e ∈ history step (new plan hosting) ops, Fresh e.pre e.op) →
      (∀ e ∈ history step (new plan hosting) ops, EndsItsOwn e) ∧
      ((history step (new plan hosting) ops).filterMap resumedClaim).Nodup) ∧
    (∀ e ∈ history step (new plan hosting) ops, ClaimsTheParked e) := by
  have keepsNoted (parking : Parking) (op : Op) (noted : Noted parking) :
      Noted (parking.step op).2 := noted_step noted op
  have noted := exec_invariant keepsNoted (noted_new plan hosting) ops
  refine ⟨fun regular => ?_, fun p sessionId held => ?_, fun fresh => ⟨?_, ?_⟩, ?_⟩
  · have keep (parking : Parking) (op : Op) (both : Noted parking ∧ InStep parking.host)
        (regular : Regular parking op) :
        Noted (parking.step op).2 ∧ InStep (parking.step op).2.host :=
      ⟨noted_step both.1 op, inStep_step both.2 op regular⟩
    have start : Noted (new plan hosting) ∧ InStep (new plan hosting).host :=
      ⟨noted_new plan hosting, inStep_new plan hosting⟩
    refine ⟨(exec_induction keep start regular).2.truly, fun e member => ?_⟩
    obtain ⟨noted, inStep⟩ := (history_induction keep start regular e member).1
    rw [eq_of_mem_history member]
    exact overAtTheTimer_step noted inStep e.op
  · obtain ⟨n, waits, -, isDrop⟩ := noted.parked p sessionId held
    exact ⟨n, waits, isDrop⟩
  · have keep (parking : Parking) (op : Op) (both : Noted parking ∧ parking.drops.Nodup)
        (fresh : Fresh parking op) :
        Noted (parking.step op).2 ∧ (parking.step op).2.drops.Nodup :=
      ⟨noted_step both.1 op, nodup_drops_step both.2 fresh⟩
    intro e member
    obtain ⟨noted, apart⟩ := (history_induction keep
      ⟨noted_new plan hosting, List.nodup_nil⟩ fresh e member).1
    rw [eq_of_mem_history member]
    exact endsItsOwn_step noted apart e.op
  · exact (resumed_once (noted_new plan hosting) ops fresh).1
  · intro e member
    have keep (parking : Parking) (op : Op) (noted : Noted parking) (_ : True) :
        Noted (parking.step op).2 := noted_step noted op
    have noted := (history_induction keep (noted_new plan hosting) (fun _ _ => trivial) e member).1
    rw [eq_of_mem_history member]
    exact claimsTheParked_step noted e.op

/-- A guest that was let in loses its connection and comes back under its claim. -/
def sampleResumed : List Host.Happening :=
  Host.sampleGranted ++ [.closed Host.sampleGuest 1 .lost 0,
    .handshaked (Host.sampleHandshake 2 (some (List.Vector.replicate 16 1)))]

/-- The timer of its drop finds nothing. -/
theorem resumed_guest_is_not_waited_for :
    Host.ParkedTruly Host.sampleGuest
      (exec step (new .free true) (sampleResumed.map .happens ++ [.fires 0])).host :=
  ((parked_exactly_while_resumable .free true _).1 (by decide +kernel)).1 Host.sampleGuest

/-- The node's own dial of its guest takes the place of the guest's connection, and is called off. -/
def sampleBehindDial : List Host.Happening :=
  Host.sampleGranted ++ [.dialed Host.sampleGuest (List.Vector.replicate 16 5),
    .letGo Host.sampleGuest, .closed Host.sampleGuest 2 .lost 0]

/-- The session is waited for then, and neither parked nor ended by any timer. -/
theorem guest_behind_a_dial_is_waited_for_ever :
    ¬ ∀ (plan : Plan) (hosting : Bool) (ops : List Op) (p : NodeId),
      Host.ParkedTruly p (exec step (new plan hosting) ops).host := by
  intro all
  have truly := all .free true (sampleBehindDial.map .happens) Host.sampleGuest
  revert truly
  unfold Host.ParkedTruly
  decide +kernel

end Lumepeer.Runtime.Parking
