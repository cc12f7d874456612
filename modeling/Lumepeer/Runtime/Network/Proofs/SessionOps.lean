import Lumepeer.Core.Session.Proofs.Authority
import Lumepeer.Runtime.Network.Proofs.Sessions

/-!
# The host drives the session manager

Every step of the host is a list of operations of its session manager, all about
the one peer that the step is about. None of them is a grant, unless the step says
that it granted. What the operations keep is therefore kept by the host: the
sessions of everybody else, and the id of a session for as long as there is one.
-/

namespace Lumepeer.Runtime.Host
open Lumepeer.Lib Lumepeer.Core Lumepeer.Net

variable {peer p : NodeId}

/-- The peer that a happening is about. -/
def subject : Happening → Option NodeId
  | .handshaked shake => some shake.peer
  | .inbound peer .. | .closed peer .. | .grant peer .. | .revoke peer | .setGrant peer ..
  | .setTarget peer .. | .resumeWindowElapsed peer _ | .dialed peer _ | .view peer .. | .letGo peer =>
      some peer
  | .setPlan _ | .setControlPolicy _ | .invite _ | .trust .. | .attendance _ | .restart => none

/-- An operation about `peer` that is no grant. -/
def Minor (peer : NodeId) (op : SessionOp) : Prop :=
  SessionManager.peerOf op = some peer ∧ ∀ role kind freshId, op ≠ .grantAs peer role kind freshId

/-- The manager got from one state to the other by operations about `peer`, none of them a grant. -/
def Driven (peer : NodeId) (before after : SessionManager) : Prop :=
  ∃ ops, after = exec SessionManager.step before ops ∧ ∀ op ∈ ops, Minor peer op

theorem Driven.refl (peer : NodeId) (manager : SessionManager) : Driven peer manager manager :=
  ⟨[], rfl, by simp⟩

theorem Driven.trans {first second third : SessionManager} (one : Driven peer first second)
    (two : Driven peer second third) : Driven peer first third := by
  obtain ⟨earlier, rfl, minor⟩ := one
  obtain ⟨later, rfl, minor'⟩ := two
  refine ⟨earlier ++ later, (exec_append first earlier later).symm, ?_⟩
  intro op member
  rcases List.mem_append.mp member with isEarlier | isLater
  · exact minor op isEarlier
  · exact minor' op isLater

theorem Driven.one {manager : SessionManager} {op : SessionOp} (minor : Minor peer op) :
    Driven peer manager (manager.step op).2 := by
  refine ⟨[op], rfl, ?_⟩
  intro other member
  rwa [List.mem_singleton.mp member]

theorem driven_revoke (manager : SessionManager) (peer : NodeId) :
    Driven peer manager (manager.revoke peer).2 :=
  @Driven.one peer manager (.revoke peer) ⟨rfl, by simp⟩

theorem driven_onDisconnect (manager : SessionManager) (peer : NodeId) (now : Instant) :
    Driven peer manager (manager.onDisconnect peer now).2 :=
  @Driven.one peer manager (.onDisconnect peer now) ⟨rfl, by simp⟩

theorem driven_onReconnect (manager : SessionManager) (peer : NodeId) (now : Instant) :
    Driven peer manager (manager.onReconnect peer now).2 :=
  @Driven.one peer manager (.onReconnect peer now) ⟨rfl, by simp⟩

theorem driven_forgetConsentRate (manager : SessionManager) (peer : NodeId) :
    Driven peer manager (manager.forgetConsentRate peer) :=
  @Driven.one peer manager (.forgetConsentRate peer) ⟨rfl, by simp⟩

theorem driven_requestConsentFor (manager : SessionManager) (peer : NodeId) (role : Role)
    (kind : SessionKind) (checkedAt requestedAt : Instant) :
    Driven peer manager (manager.requestConsentFor peer role kind checkedAt requestedAt).2 :=
  @Driven.one peer manager (.requestConsentFor peer role kind checkedAt requestedAt) ⟨rfl, by simp⟩

theorem driven_setGrant (manager : SessionManager) (peer : NodeId) (which : IndependentGrant)
    (allowed : Bool) : Driven peer manager (manager.setGrant peer which allowed).2 :=
  @Driven.one peer manager (.setGrant peer which allowed) ⟨rfl, by simp⟩

theorem driven_allowTunnelTarget (manager : SessionManager) (peer : NodeId)
    (target : TunnelTarget) : Driven peer manager (manager.allowTunnelTarget peer target).2 :=
  @Driven.one peer manager (.allowTunnelTarget peer target) ⟨rfl, by simp⟩

theorem driven_denyTunnelTarget (manager : SessionManager) (peer : NodeId)
    (target : TunnelTarget) : Driven peer manager (manager.denyTunnelTarget peer target) :=
  @Driven.one peer manager (.denyTunnelTarget peer target) ⟨rfl, by simp⟩

/-! ## The handlers -/

theorem driven_endParkedSession (host : Host) (peer : NodeId) :
    Driven peer host.sessions (host.endParkedSession peer).sessions := by
  unfold endParkedSession
  dsimp only
  split
  · exact driven_revoke host.sessions peer
  · exact Driven.refl peer host.sessions

theorem driven_endOrParkSession (host : Host) (peer : NodeId) (closed : Option HostConnection)
    (ending : Ending) (now : Instant) :
    Driven peer host.sessions (host.endOrParkSession peer closed ending now).sessions := by
  have drops := driven_onDisconnect host.sessions peer now
  unfold endOrParkSession
  rcases dropped : host.sessions.onDisconnect peer now with ⟨_ | _, sessions⟩
  · rw [dropped] at drops
    exact drops.trans (driven_revoke sessions peer)
  · rw [dropped] at drops
    have forgets := drops.trans (driven_forgetConsentRate sessions peer)
    cases closed with
    | none => exact forgets
    | some handle =>
        dsimp only
        split
        · exact forgets.trans (driven_revoke _ peer)
        · exact forgets

theorem driven_onClosed (host : Host) (peer : NodeId) (id : UInt64) (ending : Ending)
    (now : Instant) : Driven peer host.sessions (host.onClosed peer id ending now).sessions := by
  unfold onClosed
  dsimp only
  split
  · exact Driven.refl peer host.sessions
  · exact driven_endOrParkSession _ peer _ ending now

theorem driven_releaseConnectionClaimedBy (host : Host) (peer : NodeId) (claim : SessionId)
    (now : Instant) :
    Driven peer host.sessions (host.releaseConnectionClaimedBy peer claim now).sessions := by
  unfold releaseConnectionClaimedBy
  split
  · exact Driven.refl peer host.sessions
  · exact driven_onClosed host peer _ .closedHere now

theorem driven_onRevoke (host : Host) (peer : NodeId) :
    Driven peer host.sessions (host.onRevoke peer).2.sessions := by
  have revokes := driven_revoke host.sessions peer
  unfold onRevoke
  split
  · exact Driven.refl peer host.sessions
  · split
    · exact Driven.refl peer host.sessions
    · rcases revoked : host.sessions.revoke peer with ⟨_ | _, sessions⟩ <;> rw [revoked] at revokes <;>
        exact revokes

theorem driven_onResumeClaim (host : Host) (shake : Handshake) (claim : SessionId) :
    Driven shake.peer host.sessions (host.onResumeClaim shake claim).2.sessions := by
  unfold onResumeClaim
  by_cases named : host.parkedSessions.lookup shake.peer = some claim
  · simp only [named, if_true]
    have reconnects := driven_onReconnect host.sessions shake.peer shake.resumedAt
    rcases decided : host.sessions.onReconnect shake.peer shake.resumedAt with ⟨decision, sessions⟩
    rw [decided] at reconnects
    dsimp only
    split
    · exact reconnects
    · exact reconnects.trans (driven_endParkedSession { host with sessions } shake.peer)
  · simp only [named, if_false]
    exact driven_endParkedSession host shake.peer

theorem driven_requestConsent (host : Host) (shake : Handshake) :
    Driven shake.peer host.sessions (host.requestConsent shake).2.sessions := by
  unfold requestConsent
  split
  · exact driven_requestConsentFor ..
  · exact Driven.refl shake.peer host.sessions

theorem askOrChallenge_sessions (host : Host) (shake : Handshake) :
    (host.askOrChallenge shake).sessions = host.sessions ∨
      (host.askOrChallenge shake).sessions = (host.requestConsent shake).2.sessions := by
  unfold askOrChallenge
  dsimp only
  split
  · exact .inl rfl
  · right
    rcases host.requestConsent shake with ⟨_ | _, asked⟩ <;> dsimp only <;> split <;> rfl

theorem driven_askOrChallenge (host : Host) (shake : Handshake) :
    Driven shake.peer host.sessions (host.askOrChallenge shake).sessions := by
  rcases askOrChallenge_sessions host shake with same | asked
  · rw [same]
    exact Driven.refl shake.peer host.sessions
  · rw [asked]
    exact driven_requestConsent host shake

theorem driven_onNewConnection (host : Host) (shake : Handshake) :
    Driven shake.peer host.sessions (host.onNewConnection shake).sessions := by
  refine (driven_endParkedSession host shake.peer).trans ?_
  unfold onNewConnection
  dsimp only
  rcases (host.endParkedSession shake.peer).tickets.claim shake.ticket shake.unixNow with
    ⟨_ | _, tickets⟩
  · exact Driven.refl shake.peer _
  · exact driven_askOrChallenge { host.endParkedSession shake.peer with tickets } shake

theorem driven_onHandshaked (host : Host) (shake : Handshake) :
    Driven shake.peer host.sessions (host.onHandshaked shake).2.sessions := by
  unfold onHandshaked
  split
  · exact Driven.refl shake.peer host.sessions
  · cases shake.resumeClaim with
    | none =>
        dsimp only
        split
        · exact Driven.refl shake.peer host.sessions
        · exact driven_onNewConnection
            { host with
              terminalOnlyGuests :=
                Function.update host.terminalOnlyGuests shake.peer shake.terminalOnly } shake
    | some claim =>
        dsimp only
        have releases := driven_releaseConnectionClaimedBy host shake.peer claim
          shake.disconnectedAt
        split
        · exact releases
        · exact releases.trans (driven_onResumeClaim _ shake claim)

/-- What a step that may grant a role and a kind of session does to the sessions. -/
inductive Grants (peer : NodeId) (asked : Option Role) (kind : SessionKind)
    (before : SessionManager) : Bool → SessionManager → Prop
  | refused : Grants peer asked kind before false before
  | granted {role : Role} {freshId : SessionId} (isAsked : asked = some role)
      (accepted : before.grantRefusal peer role kind = none) :
      Grants peer asked kind before true (before.grantAs peer role kind freshId).2

theorem grants_grantSession {host : Host} {before : SessionManager} {kind : SessionKind}
    (same : host.sessions = before) (isKind : host.sessionKindAsked peer = kind) (role : Role)
    (freshId : SessionId) :
    Grants peer (some role) kind before (host.grantSession peer role freshId).1
      (host.grantSession peer role freshId).2.sessions := by
  subst same isKind
  unfold grantSession grantRole
  cases refusal : host.sessions.grantRefusal peer role (host.sessionKindAsked peer) with
  | some error =>
      simp only [SessionManager.grantAs, refusal]
      exact .refused
  | none =>
      have granted := @Grants.granted peer (some role) (host.sessionKindAsked peer) host.sessions role
        freshId rfl refusal
      simp only [SessionManager.grantAs, refusal] at granted ⊢
      exact granted

theorem grants_onUnattendedAuth (host : Host) (peer : NodeId) (verdict : Verdict) :
    Grants peer verdict.result.toOption (host.sessionKindAsked peer) host.sessions
      (host.onUnattendedAuth peer verdict).1 (host.onUnattendedAuth peer verdict).2.sessions := by
  have nothing : Grants peer verdict.result.toOption (host.sessionKindAsked peer) host.sessions false
    host.sessions := .refused
  unfold onUnattendedAuth
  split
  · exact nothing
  · split
    · exact nothing
    · dsimp only
      split
      · exact nothing
      · split
        next role isRole =>
          rw [isRole]
          apply grants_grantSession
          · rfl
          · rfl
        next => exact nothing

theorem grants_onUnattendedProof (host : Host) (peer : NodeId) (verdict : Verdict) :
    Grants peer verdict.result.toOption (host.sessionKindAsked peer) host.sessions
      (host.onUnattendedProof peer verdict).1 (host.onUnattendedProof peer verdict).2.sessions := by
  have nothing : Grants peer verdict.result.toOption (host.sessionKindAsked peer) host.sessions false
    host.sessions := .refused
  unfold onUnattendedProof
  split
  · exact nothing
  · dsimp only
    split
    · exact nothing
    · split
      · exact nothing
      · split
        next role isRole =>
          rw [isRole]
          apply grants_grantSession
          · rfl
          · rfl
        next => split <;> exact nothing

/-! ## Steps -/

/-- The role that a step may grant. -/
def roleAsked : Happening → Option Role
  | .grant _ role _ => some role
  | .inbound _ _ _ verdict => verdict.result.toOption
  | _ => none

/-- The step grants the session of `peer`, and says so. -/
structure IsGrant (host : Host) (op : Happening) (peer : NodeId) (role : Role)
    (freshId : SessionId) : Prop where
  about : subject op = some peer
  asked : roleAsked op = some role
  ruling : (host.step op).1 = some (.granted peer)
  accepted : host.sessions.grantRefusal peer role (host.sessionKindAsked peer) = none
  granted : (host.step op).2.sessions =
    (host.sessions.grantAs peer role (host.sessionKindAsked peer) freshId).2

/-- What a step does to the sessions: nothing, operations about its peer, or a grant. -/
inductive Moves (host : Host) (op : Happening) : Prop
  | idle (same : (host.step op).2.sessions.sessions = host.sessions.sessions)
  | drives {peer : NodeId} (about : subject op = some peer)
      (driven : Driven peer host.sessions (host.step op).2.sessions)
  | grants {peer : NodeId} {role : Role} {freshId : SessionId}
      (isGrant : IsGrant host op peer role freshId)

theorem isGrant_of_granting {host : Host} {op : Happening} {result : Bool × Host}
    (about : subject op = some peer) (isStep : host.step op = granting peer result)
    (grants : Grants peer (roleAsked op) (host.sessionKindAsked peer) host.sessions result.1
      result.2.sessions) :
    (host.step op).2.sessions = host.sessions ∨ ∃ role freshId, IsGrant host op peer role freshId := by
  rcases result with ⟨decided, after⟩
  generalize isAfter : (decided, after).2.sessions = sessions at grants
  generalize isDecided : (decided, after).1 = ruled at grants
  obtain rfl : decided = ruled := isDecided
  cases grants with
  | refused =>
      left
      rw [isStep]
      exact isAfter
  | @granted role freshId isAsked accepted =>
      refine .inr ⟨role, freshId, about, isAsked, ?_, accepted, ?_⟩
      · rw [isStep]
        rfl
      · rw [isStep]
        exact isAfter

theorem isGrant_of_grant (host : Host) (peer : NodeId) (role : Role) (freshId : SessionId) :
    (host.step (.grant peer role freshId)).2.sessions = host.sessions
      ∨ ∃ role' freshId', IsGrant host (.grant peer role freshId) peer role' freshId' :=
  isGrant_of_granting rfl rfl (grants_grantSession rfl rfl role freshId)

/-- A message moves no session, unless it is a device password that grants. -/
theorem isGrant_of_inbound (host : Host) (peer : NodeId) (id : UInt64) (kind : MessageKind)
    (verdict : Verdict) :
    (host.step (.inbound peer id kind verdict)).2.sessions = host.sessions
      ∨ ∃ role freshId, IsGrant host (.inbound peer id kind verdict) peer role freshId := by
  have isStep : host.step (.inbound peer id kind verdict) = host.onInbound peer id kind verdict := rfl
  unfold onInbound at isStep
  split at isStep
  · exact .inl (by rw [isStep])
  · split at isStep
    · exact .inl (by rw [isStep])
    · split at isStep
      · exact isGrant_of_granting rfl isStep (grants_onUnattendedAuth host peer verdict)
      · exact isGrant_of_granting rfl isStep (grants_onUnattendedProof host peer verdict)
      · exact .inl (by rw [isStep])

theorem moves_of_isGrant {host : Host} {op : Happening}
    (moves : (host.step op).2.sessions = host.sessions ∨ ∃ role freshId, IsGrant host op peer role freshId) :
    Moves host op := by
  rcases moves with same | ⟨role, freshId, isGrant⟩
  · exact .idle (by rw [same])
  · exact .grants isGrant

theorem moves_of_step (host : Host) (op : Happening) : Moves host op := by
  cases op with
  | handshaked shake =>
      refine @Moves.drives host _ shake.peer rfl ?_
      have driven := driven_onHandshaked host shake
      simp only [step]
      rcases shaken : host.onHandshaked shake with ⟨_ | _, after⟩ <;> rw [shaken] at driven <;>
        exact driven
  | inbound peer id kind verdict => exact moves_of_isGrant (isGrant_of_inbound host peer id kind verdict)
  | closed peer id ending now =>
      exact .drives rfl (driven_onClosed host peer id ending now)
  | grant peer role freshId =>
      exact moves_of_isGrant (isGrant_of_grant host peer role freshId)
  | revoke peer => exact .drives rfl (driven_onRevoke host peer)
  | setGrant peer which allowed =>
      exact .drives rfl (driven_setGrant host.sessions peer which allowed)
  | setTarget peer target allowed =>
      refine @Moves.drives host _ peer rfl ?_
      cases allowed with
      | false => exact driven_denyTunnelTarget host.sessions peer target
      | true => exact driven_allowTunnelTarget host.sessions peer target
  | resumeWindowElapsed peer sessionId =>
      refine @Moves.drives host _ peer rfl ?_
      show Driven peer host.sessions (host.onResumeWindowElapsed peer sessionId).sessions
      unfold onResumeWindowElapsed
      split
      · exact Driven.refl peer host.sessions
      · exact driven_endParkedSession host peer
  | dialed _ _ | view _ _ _ | letGo _ | setPlan _ | setControlPolicy _ | invite _ | trust _ _
  | attendance _ | restart => exact .idle rfl

/-! ## What the steps keep -/

/-- An operation that is no grant makes no session, and keeps the id of the one there is. -/
theorem sessionId_of_minor {manager : SessionManager} {op : SessionOp} (minor : Minor peer op)
    {session : ActiveSession} (found : (manager.step op).2.sessions.lookup p = some session) :
    ∃ earlier, manager.sessions.lookup p = some earlier ∧ earlier.sessionId = session.sessionId := by
  rw [SessionManager.lookup_step] at found
  obtain ⟨about, noGrant⟩ := minor
  cases op with
  | requestConsentFor _ _ _ _ _ | forgetConsentRate _ | setPlan _ | setControlPolicy _ =>
      exact ⟨session, found, rfl⟩
  | endAll => cases found
  | grantAs other role kind freshId =>
      cases about
      exact absurd rfl (noGrant role kind freshId)
  | revoke other =>
      simp only [SessionManager.nextSession] at found
      split at found
      · cases found
      · exact ⟨session, found, rfl⟩
  | setGrant _ _ _ | onDisconnect _ _ | allowTunnelTarget _ _ | denyTunnelTarget _ _ =>
      obtain ⟨earlier, wasFound, rfl⟩ := Option.map_eq_some_iff.mp found
      refine ⟨earlier, wasFound, ?_⟩
      split <;> rfl
  | onReconnect other now =>
      obtain ⟨earlier, wasFound, isNext⟩ := Option.bind_eq_some_iff.mp found
      refine ⟨earlier, wasFound, ?_⟩
      split at isNext
      · split at isNext
        · obtain rfl := Option.some.inj isNext
          rfl
        · cases isNext
      · obtain rfl := Option.some.inj isNext
        rfl

/-- Operations about one peer leave the session of another alone. -/
theorem lookup_of_minor {manager : SessionManager} {op : SessionOp} (minor : Minor peer op)
    (other : p ≠ peer) : (manager.step op).2.sessions.lookup p = manager.sessions.lookup p := by
  rw [SessionManager.lookup_step]
  obtain ⟨about, -⟩ := minor
  cases op with
  | setPlan _ | setControlPolicy _ | endAll => cases about
  | requestConsentFor _ _ _ _ _ | forgetConsentRate _ => rfl
  | grantAs holder _ _ _ | revoke holder =>
      cases about
      simp [SessionManager.nextSession, other]
  | setGrant holder _ _ | onDisconnect holder _ | allowTunnelTarget holder _
  | denyTunnelTarget holder _ | onReconnect holder _ =>
      cases about
      cases found : manager.sessions.lookup p <;> simp [SessionManager.nextSession, other, found]

theorem sessionId_of_driven {before after : SessionManager} (driven : Driven peer before after)
    {session : ActiveSession} (found : after.sessions.lookup p = some session) :
    ∃ earlier, before.sessions.lookup p = some earlier ∧ earlier.sessionId = session.sessionId := by
  obtain ⟨ops, rfl, minor⟩ := driven
  induction ops using List.reverseRecOn generalizing session with
  | nil => exact ⟨session, found, rfl⟩
  | append_singleton ops op ih =>
      rw [exec_concat] at found
      obtain ⟨between, wasFound, same⟩ := sessionId_of_minor (minor op (by simp)) found
      obtain ⟨earlier, isFirst, sameId⟩ :=
        ih (fun other member => minor other (List.mem_append_left _ member)) wasFound
      exact ⟨earlier, isFirst, sameId.trans same⟩

theorem lookup_of_driven {before after : SessionManager} (driven : Driven peer before after)
    (other : p ≠ peer) : after.sessions.lookup p = before.sessions.lookup p := by
  obtain ⟨ops, rfl, minor⟩ := driven
  induction ops using List.reverseRecOn with
  | nil => rfl
  | append_singleton ops op ih =>
      rw [exec_concat, lookup_of_minor (minor op (by simp)) other]
      exact ih (fun other member => minor other (List.mem_append_left _ member))

/-- A session goes on under its id, unless it was granted in this step. -/
theorem session_of_step {host : Host} {op : Happening} {session : ActiveSession}
    (found : (host.step op).2.sessions.sessions.lookup p = some session) :
    (∃ earlier, host.sessions.sessions.lookup p = some earlier ∧
        earlier.sessionId = session.sessionId)
      ∨ host.sessions.sessions.lookup p = none ∧ (host.step op).1 = some (.granted p) := by
  cases moves_of_step host op with
  | idle same => exact .inl ⟨session, by rwa [← same], rfl⟩
  | drives about driven => exact .inl (sessionId_of_driven driven found)
  | @grants peer role freshId isGrant =>
      rw [isGrant.granted, SessionManager.lookup_grantAs] at found
      simp only [SessionManager.nextSession, isGrant.accepted, and_true] at found
      split at found
      next same =>
        subst same
        obtain rfl := Option.some.inj found
        cases held : host.sessions.sessions.lookup p with
        | none => exact .inr ⟨rfl, isGrant.ruling⟩
        | some earlier =>
            left
            exact ⟨earlier, rfl, by simp [SessionManager.grantedSession, held]⟩
      next => exact .inl ⟨session, found, rfl⟩

/-- A step about one peer leaves the session of another alone. -/
theorem lookup_of_step {host : Host} {op : Happening} (other : subject op ≠ some p) :
    (host.step op).2.sessions.sessions.lookup p = host.sessions.sessions.lookup p := by
  cases moves_of_step host op with
  | idle same => rw [same]
  | @drives peer about driven =>
      exact lookup_of_driven driven (fun same => other (same ▸ about))
  | @grants peer role freshId isGrant =>
      have differs : p ≠ peer := fun same => other (same ▸ isGrant.about)
      rw [isGrant.granted, SessionManager.lookup_grantAs]
      simp [SessionManager.nextSession, differs]

end Lumepeer.Runtime.Host
