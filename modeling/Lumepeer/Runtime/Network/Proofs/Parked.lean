import Lumepeer.Runtime.Network.Proofs.SessionOps

/-!
# Parked sessions and connections

A session is parked when its connection ends, and no longer once a connection of
the same guest is taken in. So the guest of a connection that came in has no
session that is parked, and a step about one peer leaves the connection and the
parked session of another alone.
-/

namespace Lumepeer.Runtime.Host
open Lumepeer.Lib Lumepeer.Core Lumepeer.Net

variable {peer p : NodeId}

/-- Whoever else has a connection or a parked session has the same afterwards. -/
def OthersKept (peer : NodeId) (before after : Host) : Prop :=
  ∀ p, p ≠ peer → after.parkedSessions.lookup p = before.parkedSessions.lookup p
    ∧ after.connections.lookup p = before.connections.lookup p

/-- The guest of this connection has no session that is parked. -/
def UnparkedAt (peer : NodeId) (host : Host) : Prop :=
  ∀ handle, host.connections.lookup peer = some handle → handle.origin = .accepted →
    host.parkedSessions.lookup peer = none

/-- No guest that has a connection has a session that is parked. -/
def Unparked (host : Host) : Prop := ∀ peer, UnparkedAt peer host

theorem OthersKept.trans {first second third : Host} (one : OthersKept peer first second)
    (two : OthersKept peer second third) : OthersKept peer first third := by
  intro p other
  exact ⟨(two p other).1.trans (one p other).1, (two p other).2.trans (one p other).2⟩

theorem othersKept_of_same {before after : Host}
    (parked : after.parkedSessions = before.parkedSessions)
    (connections : after.connections = before.connections) : OthersKept peer before after := by
  intro p other
  rw [parked, connections]
  exact ⟨rfl, rfl⟩

theorem unparkedAt_of_none {host : Host} (unparked : host.parkedSessions.lookup peer = none) :
    UnparkedAt peer host := fun _ _ _ => unparked

theorem unparkedAt_of_gone {host : Host} (gone : host.connections.lookup peer = none) :
    UnparkedAt peer host := by
  intro handle stored
  rw [gone] at stored
  cases stored

theorem UnparkedAt.of_same {before after : Host} (unparked : UnparkedAt peer before)
    (parked : after.parkedSessions = before.parkedSessions)
    (connections : after.connections = before.connections) : UnparkedAt peer after := by
  intro handle stored accepted
  rw [parked]
  rw [connections] at stored
  exact unparked handle stored accepted

theorem parked_endParkedSession (host : Host) (peer : NodeId) :
    (host.endParkedSession peer).parkedSessions = host.parkedSessions.erase peer := by
  unfold endParkedSession
  dsimp only
  split <;> rfl

theorem lookup_parked_endParkedSession (host : Host) (peer : NodeId) :
    (host.endParkedSession peer).parkedSessions.lookup peer = none := by
  rw [parked_endParkedSession, HashMap.lookup_erase_eq, if_pos rfl]

theorem othersKept_endParkedSession (host : Host) (peer : NodeId) :
    OthersKept peer host (host.endParkedSession peer) := by
  intro p other
  rw [parked_endParkedSession, (endParkedSession_spec host peer).1, HashMap.lookup_erase_eq,
    if_neg other]
  exact ⟨rfl, rfl⟩

theorem othersKept_endOrParkSession (host : Host) (peer : NodeId) (closed : Option HostConnection)
    (ending : Ending) (now : Instant) :
    OthersKept peer host (host.endOrParkSession peer closed ending now) := by
  unfold endOrParkSession
  split
  · exact othersKept_of_same rfl rfl
  · dsimp only
    split
    · exact othersKept_of_same rfl rfl
    · split
      · exact othersKept_of_same rfl rfl
      · intro p other
        exact ⟨AList.lookup_insert_ne other, rfl⟩

theorem othersKept_erase (host : Host) (peer : NodeId) :
    OthersKept peer host { host with connections := host.connections.erase peer } := by
  intro p other
  exact ⟨rfl, AList.lookup_erase_ne other⟩

theorem othersKept_onClosed (host : Host) (peer : NodeId) (id : UInt64) (ending : Ending)
    (now : Instant) : OthersKept peer host (host.onClosed peer id ending now) := by
  unfold onClosed
  dsimp only
  split
  · exact othersKept_of_same rfl rfl
  · have drops := othersKept_endOrParkSession
      { host with
        connections := host.connections.erase peer
        unattendedPending := Function.update host.unattendedPending peer false
        unattendedProofs := Function.update host.unattendedProofs peer false
        terminalOnlyGuests := Function.update host.terminalOnlyGuests peer false }
      peer (host.connections.lookup peer) ending now
    exact ((othersKept_erase host peer).trans (othersKept_of_same rfl rfl)).trans drops

/-- The connection that is taken down is gone, and one that is not is as before. -/
theorem unparkedAt_onClosed {host : Host} {id : UInt64} {ending : Ending} {now : Instant}
    (unparked : UnparkedAt peer host) : UnparkedAt peer (host.onClosed peer id ending now) := by
  unfold onClosed
  dsimp only
  split
  · exact unparked
  · apply unparkedAt_of_gone
    rw [(endOrParkSession_spec _ peer _ ending now).1, HashMap.lookup_erase_eq, if_pos rfl]

theorem othersKept_releaseConnectionClaimedBy (host : Host) (peer : NodeId) (claim : SessionId)
    (now : Instant) : OthersKept peer host (host.releaseConnectionClaimedBy peer claim now) := by
  unfold releaseConnectionClaimedBy
  split
  · exact othersKept_of_same rfl rfl
  · exact othersKept_onClosed host peer _ .closedHere now

theorem othersKept_adopt (host : Host) (peer : NodeId) (sessionId : SessionId) (origin : Origin) :
    OthersKept peer host (host.adopt peer sessionId origin) := by
  intro p other
  rw [lookup_adopt, if_neg other]
  exact ⟨rfl, rfl⟩

/-- A claim, honoured or not, leaves no session of its guest parked. -/
theorem parked_onResumeClaim (host : Host) (shake : Handshake) (claim : SessionId) :
    (host.onResumeClaim shake claim).2.parkedSessions.lookup shake.peer = none := by
  unfold onResumeClaim
  split
  dsimp only
  split
  · show AList.lookup shake.peer (AList.erase shake.peer _) = none
    rw [HashMap.lookup_erase_eq, if_pos rfl]
  · exact lookup_parked_endParkedSession _ shake.peer

theorem othersKept_onResumeClaim (host : Host) (shake : Handshake) (claim : SessionId) :
    OthersKept shake.peer host (host.onResumeClaim shake claim).2 := by
  unfold onResumeClaim
  split
  dsimp only
  split
  · refine OthersKept.trans ?_ (othersKept_adopt _ shake.peer shake.sessionId .accepted)
    intro p other
    exact ⟨AList.lookup_erase_ne other, rfl⟩
  · exact OthersKept.trans (othersKept_of_same rfl rfl) (othersKept_endParkedSession _ shake.peer)

/-- Asking about a guest leaves what is parked, and stores a connection of that guest at most. -/
theorem askOrChallenge_spec (host : Host) (shake : Handshake) :
    (host.askOrChallenge shake).parkedSessions = host.parkedSessions
      ∧ ∀ p, p ≠ shake.peer →
        (host.askOrChallenge shake).connections.lookup p = host.connections.lookup p := by
  unfold askOrChallenge
  dsimp only
  split
  · exact ⟨rfl, fun _ _ => rfl⟩
  · have asks := (requestConsent_spec host shake).1
    have parked : (host.requestConsent shake).2.parkedSessions = host.parkedSessions := by
      unfold requestConsent
      split <;> rfl
    rcases asked : host.requestConsent shake with ⟨consents, after⟩
    rw [asked] at asks parked
    have stored : ∀ p, p ≠ shake.peer →
        (after.adopt shake.peer shake.sessionId .accepted).connections.lookup p =
          host.connections.lookup p := by
      intro p other
      rw [lookup_adopt, if_neg other, asks]
    cases consents with
    | false =>
        dsimp only
        split
        · exact ⟨parked, stored⟩
        · exact ⟨parked, fun p _ => by rw [asks]⟩
    | true =>
        dsimp only
        split
        · exact ⟨parked, stored⟩
        · exact ⟨parked, stored⟩

theorem onNewConnection_spec (host : Host) (shake : Handshake) :
    (host.onNewConnection shake).parkedSessions.lookup shake.peer = none
      ∧ OthersKept shake.peer host (host.onNewConnection shake) := by
  have unparked := lookup_parked_endParkedSession host shake.peer
  have others := othersKept_endParkedSession host shake.peer
  unfold onNewConnection
  dsimp only
  rcases (host.endParkedSession shake.peer).tickets.claim shake.ticket shake.unixNow with
    ⟨_ | _, tickets⟩
  · exact ⟨unparked, others.trans (othersKept_of_same rfl rfl)⟩
  · obtain ⟨parked, kept⟩ :=
      askOrChallenge_spec { host.endParkedSession shake.peer with tickets } shake
    refine ⟨by rw [parked]; exact unparked, others.trans ?_⟩
    intro p other
    exact ⟨by rw [parked], kept p other⟩

theorem othersKept_onHandshaked (host : Host) (shake : Handshake) :
    OthersKept shake.peer host (host.onHandshaked shake).2 := by
  unfold onHandshaked
  split
  · exact othersKept_of_same rfl rfl
  · cases shake.resumeClaim with
    | none =>
        dsimp only
        split
        · exact othersKept_of_same rfl rfl
        · exact OthersKept.trans (othersKept_of_same rfl rfl) (onNewConnection_spec _ shake).2
    | some claim =>
        dsimp only
        have releases := othersKept_releaseConnectionClaimedBy host shake.peer claim
          shake.disconnectedAt
        have records := releases.trans (othersKept_of_same rfl rfl)
        split
        · exact records
        · exact records.trans (othersKept_onResumeClaim _ shake claim)

theorem unparkedAt_onHandshaked {host : Host} {shake : Handshake}
    (unparked : UnparkedAt shake.peer host) : UnparkedAt shake.peer (host.onHandshaked shake).2 := by
  unfold onHandshaked
  split
  · exact unparked
  · cases shake.resumeClaim with
    | none =>
        dsimp only
        split
        · exact unparked
        · exact unparkedAt_of_none (onNewConnection_spec _ shake).1
    | some claim =>
        dsimp only
        split
        · unfold releaseConnectionClaimedBy
          split
          · exact unparked
          · exact UnparkedAt.of_same (unparkedAt_onClosed unparked) rfl rfl
        · exact unparkedAt_of_none (parked_onResumeClaim _ shake claim)

/-! ## Grants and messages -/

/-- A grant moves neither connections nor parked sessions. -/
theorem grantSession_rest (host : Host) (peer : NodeId) (role : Role) (freshId : SessionId) :
    (host.grantSession peer role freshId).2.parkedSessions = host.parkedSessions
      ∧ (host.grantSession peer role freshId).2.connections = host.connections := by
  unfold grantSession grantRole
  rcases host.sessions.grantAs peer role (host.sessionKindAsked peer) freshId with ⟨_ | _, sessions⟩
  · exact ⟨rfl, rfl⟩
  · exact ⟨rfl, rfl⟩

theorem onUnattendedAuth_rest (host : Host) (peer : NodeId) (verdict : Verdict) :
    (host.onUnattendedAuth peer verdict).2.parkedSessions = host.parkedSessions
      ∧ (host.onUnattendedAuth peer verdict).2.connections = host.connections := by
  unfold onUnattendedAuth
  split
  · exact ⟨rfl, rfl⟩
  · split
    · exact ⟨rfl, rfl⟩
    · dsimp only
      split
      · exact ⟨rfl, rfl⟩
      · split
        · exact grantSession_rest _ peer _ verdict.freshId
        · exact ⟨rfl, rfl⟩

theorem onUnattendedProof_rest (host : Host) (peer : NodeId) (verdict : Verdict) :
    (host.onUnattendedProof peer verdict).2.parkedSessions = host.parkedSessions
      ∧ (host.onUnattendedProof peer verdict).2.connections = host.connections := by
  unfold onUnattendedProof
  split
  · exact ⟨rfl, rfl⟩
  · dsimp only
    split
    · exact ⟨rfl, rfl⟩
    · split
      · exact ⟨rfl, rfl⟩
      · split
        · exact grantSession_rest _ peer _ verdict.freshId
        · split <;> exact ⟨rfl, rfl⟩

theorem onInbound_rest (host : Host) (peer : NodeId) (id : UInt64) (kind : MessageKind)
    (verdict : Verdict) :
    (host.onInbound peer id kind verdict).2.parkedSessions = host.parkedSessions
      ∧ (host.onInbound peer id kind verdict).2.connections = host.connections := by
  unfold onInbound
  split
  · exact ⟨rfl, rfl⟩
  · split
    · exact ⟨rfl, rfl⟩
    · split
      · rw [granting_host]
        exact onUnattendedAuth_rest host peer verdict
      · rw [granting_host]
        exact onUnattendedProof_rest host peer verdict
      · exact ⟨rfl, rfl⟩

theorem onRevoke_rest (host : Host) (peer : NodeId) :
    (host.onRevoke peer).2.parkedSessions = host.parkedSessions
      ∧ ((host.onRevoke peer).2.connections = host.connections
        ∨ (host.onRevoke peer).2.connections = host.connections.erase peer) := by
  unfold onRevoke
  split
  · exact ⟨rfl, .inl rfl⟩
  · split
    · exact ⟨rfl, .inr rfl⟩
    · rcases host.sessions.revoke peer with ⟨_ | _, sessions⟩
      · exact ⟨rfl, .inl rfl⟩
      · exact ⟨rfl, .inl rfl⟩

/-! ## Steps -/

theorem unparkedAt_of_rest {before after : Host} (unparked : UnparkedAt peer before)
    (parked : after.parkedSessions = before.parkedSessions)
    (connections : after.connections = before.connections
      ∨ after.connections = before.connections.erase peer) : UnparkedAt peer after := by
  rcases connections with same | erased
  · exact unparked.of_same parked same
  · apply unparkedAt_of_gone
    rw [erased, HashMap.lookup_erase_eq, if_pos rfl]

theorem othersKept_of_rest {before after : Host}
    (parked : after.parkedSessions = before.parkedSessions)
    (connections : after.connections = before.connections
      ∨ after.connections = before.connections.erase peer) : OthersKept peer before after := by
  rcases connections with same | erased
  · exact othersKept_of_same parked same
  · intro p other
    rw [parked, erased, AList.lookup_erase_ne other]
    exact ⟨rfl, rfl⟩

/-- A step about `peer` leaves what the others have, and keeps it true of `peer` that a guest with a
connection has no session that is parked. -/
theorem step_about {host : Host} {op : Happening} (about : subject op = some peer) :
    OthersKept peer host (host.step op).2
      ∧ (UnparkedAt peer host → UnparkedAt peer (host.step op).2) := by
  have ofRest {after : Host} (parked : after.parkedSessions = host.parkedSessions)
      (connections : after.connections = host.connections
        ∨ after.connections = host.connections.erase peer) :
      OthersKept peer host after ∧ (UnparkedAt peer host → UnparkedAt peer after) :=
    ⟨othersKept_of_rest parked connections, fun unparked => unparkedAt_of_rest unparked parked connections⟩
  cases op with
  | handshaked shake =>
      obtain rfl := Option.some.inj about
      have isStep : (host.step (.handshaked shake)).2 = (host.onHandshaked shake).2 := by
        simp only [step]
        rcases host.onHandshaked shake with ⟨_ | _, after⟩ <;> rfl
      rw [isStep]
      exact ⟨othersKept_onHandshaked host shake, unparkedAt_onHandshaked⟩
  | inbound asker id kind verdict =>
      obtain rfl := Option.some.inj about
      obtain ⟨parked, connections⟩ := onInbound_rest host asker id kind verdict
      exact ofRest parked (.inl connections)
  | closed asker id ending now =>
      obtain rfl := Option.some.inj about
      exact ⟨othersKept_onClosed host asker id ending now, unparkedAt_onClosed⟩
  | grant asker role freshId =>
      obtain rfl := Option.some.inj about
      obtain ⟨parked, connections⟩ := grantSession_rest host asker role freshId
      have isStep : (host.step (.grant asker role freshId)).2 = (host.grantSession asker role freshId).2 :=
        granting_host asker _
      rw [isStep]
      exact ofRest parked (.inl connections)
  | revoke asker =>
      obtain rfl := Option.some.inj about
      obtain ⟨parked, connections⟩ := onRevoke_rest host asker
      exact ofRest parked connections
  | setGrant _ _ _ | setTarget _ _ _ | view _ _ _ => exact ofRest rfl (.inl rfl)
  | resumeWindowElapsed asker sessionId =>
      obtain rfl := Option.some.inj about
      simp only [step, onResumeWindowElapsed]
      split
      · exact ofRest rfl (.inl rfl)
      · exact ⟨othersKept_endParkedSession host asker,
          fun _ => unparkedAt_of_none (lookup_parked_endParkedSession host asker)⟩
  | dialed asker sessionId =>
      obtain rfl := Option.some.inj about
      refine ⟨othersKept_adopt host asker sessionId .dialed, ?_⟩
      intro _ handle stored accepted
      simp only [step, lookup_adopt, if_true, Option.some.injEq] at stored
      rw [← stored] at accepted
      cases accepted
  | letGo asker =>
      obtain rfl := Option.some.inj about
      exact ofRest rfl (.inr rfl)
  | setPlan _ | setControlPolicy _ | invite _ | trust _ _ | attendance _ | restart => cases about

theorem step_about_nobody {host : Host} {op : Happening} (nobody : subject op = none) :
    (host.step op).2.parkedSessions = host.parkedSessions
      ∧ (host.step op).2.connections = host.connections := by
  cases op with
  | setPlan _ | setControlPolicy _ | invite _ | trust _ _ | attendance _ | restart => exact ⟨rfl, rfl⟩
  | handshaked _ | inbound _ _ _ _ | closed _ _ _ _ | grant _ _ _ | revoke _ | setGrant _ _ _
  | setTarget _ _ _ | resumeWindowElapsed _ _ | dialed _ _ | view _ _ _ | letGo _ => cases nobody

/-- A step about somebody else leaves the connection and the parked session of `p`. -/
theorem rest_of_other {host : Host} {op : Happening} (other : subject op ≠ some p) :
    (host.step op).2.parkedSessions.lookup p = host.parkedSessions.lookup p
      ∧ (host.step op).2.connections.lookup p = host.connections.lookup p := by
  cases about : subject op with
  | none =>
      obtain ⟨parked, connections⟩ := @step_about_nobody host op about
      rw [parked, connections]
      exact ⟨rfl, rfl⟩
  | some peer => exact (step_about about).1 p (fun same => other (same ▸ about))

theorem unparked_step {host : Host} (unparked : Unparked host) (op : Happening) :
    Unparked (host.step op).2 := by
  intro p
  by_cases about : subject op = some p
  · exact (step_about about).2 (unparked p)
  · obtain ⟨parked, connections⟩ := @rest_of_other p host op about
    intro handle stored accepted
    rw [connections] at stored
    rw [parked]
    exact unparked p handle stored accepted

end Lumepeer.Runtime.Host
