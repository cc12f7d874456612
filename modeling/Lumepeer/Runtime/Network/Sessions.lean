import Lumepeer.Core.Session
import Lumepeer.Net.Ticket
import Lumepeer.Runtime.Network.Connect

/-!
# The host's connections and sessions

How `crates/runtime/src/network.rs` takes in the connections of guests, keeps one
for each peer, decides about sessions and looks at them when a message comes in.
The session manager holds a session for a peer and knows nothing of connections.
What a guest's `Hello` advertises is taken to be everything, the verdict on a
device password comes with the message that brings it, and the node's own views of
other hosts come and go at any time.
-/

namespace Lumepeer.Runtime
open Lumepeer.Lib Lumepeer.Core Lumepeer.Net

/-- `ConnectionHandle` (`network.rs:4241-4292`), as far as the host reads it. -/
structure HostConnection where
  id : UInt64
  origin : Origin
  sessionId : SessionId
  deriving DecidableEq

/-- The actor's side of its guests. -/
structure Host where
  sessions : SessionManager
  tickets : TicketRegistry := .new
  connections : HashMap NodeId HostConnection := ∅
  nextConnectionId : UInt64 := 0
  parkedSessions : HashMap NodeId SessionId := ∅
  unattendedPending : NodeId → Bool := fun _ => false
  unattendedProofs : NodeId → Bool := fun _ => false
  terminalOnlyGuests : NodeId → Bool := fun _ => false
  /-- The hosts that this node watches, or waits for. -/
  views : NodeId → Bool := fun _ => false
  parkedViews : NodeId → Bool := fun _ => false
  hosting : Bool := true
  restarting : Bool := false
  /-- `HostAttendance::Attended`. -/
  attended : Bool := true
  /-- The devices that may try the device password (`network.rs:11810-11814`). -/
  mayTryUnattended : NodeId → Bool := fun _ => false

/-- What the handshake of a guest brings, and the clocks that are read for it. -/
structure Handshake where
  peer : NodeId
  sessionId : SessionId
  ticket : InviteTicket
  resumeClaim : Option SessionId
  terminalOnly : Bool
  /-- The challenge for the device password is for a proof. -/
  speaksProof : Bool
  unixNow : UInt64
  checkedAt : Instant
  requestedAt : Instant
  disconnectedAt : Instant
  resumedAt : Instant

/-- Why a message is acted on: the session of its sender, or this node's view of it. -/
inductive Right where
  | session
  | view
  deriving DecidableEq

/-- What a step does about a peer's session. -/
inductive Ruling where
  /-- `grant_role` returns `Ok`. -/
  | granted (peer : NodeId)
  /-- A resume claim is honoured, for the connection that carried it. -/
  | resumed (peer : NodeId)
  /-- The message of this step is acted on. -/
  | acted (right : Right)
  deriving DecidableEq

namespace Host

/-- The actor when it starts. -/
def new (plan : Plan) (hosting : Bool) : Host := { sessions := .withPlan plan, hosting }

/-- `Actor::adopt` (`network.rs:9762-9843`). -/
def adopt (host : Host) (peer : NodeId) (sessionId : SessionId) (origin : Origin) : Host :=
  let id := host.nextConnectionId + 1
  { host with
    nextConnectionId := id
    connections := host.connections.insert peer { id, origin, sessionId } }

/-! ## Sessions end -/

/-- `Actor::end_parked_session` (`network.rs:11487-11495`). -/
def endParkedSession (host : Host) (peer : NodeId) : Host :=
  let parked := (host.parkedSessions.lookup peer).isSome
  let host := { host with parkedSessions := host.parkedSessions.erase peer }
  if parked && host.sessions.state peer = .reconnecting then
    { host with sessions := (host.sessions.revoke peer).2 }
  else host

/-- `Actor::end_or_park_session` (`network.rs:11418-11466`). -/
def endOrParkSession (host : Host) (peer : NodeId) (closed : Option HostConnection)
    (ending : Ending) (now : Instant) : Host :=
  match host.sessions.onDisconnect peer now with
  | (.error _, sessions) => { host with sessions := (sessions.revoke peer).2 }
  | (.ok (), sessions) =>
      let sessions := sessions.forgetConsentRate peer
      match closed with
      | none => { host with sessions }
      | some handle =>
          if ending = .normal then { host with sessions := (sessions.revoke peer).2 }
          else
            { host with
              sessions
              parkedSessions := host.parkedSessions.insert peer handle.sessionId }

/-- `Actor::on_closed` (`network.rs:12587-12789`), as far as connections and sessions go. -/
def onClosed (host : Host) (peer : NodeId) (id : UInt64) (ending : Ending) (now : Instant) : Host :=
  let closed := host.connections.lookup peer
  if closed.any (·.id ≠ id) then host
  else
    let host := { host with
      connections := host.connections.erase peer
      unattendedPending := Function.update host.unattendedPending peer false
      unattendedProofs := Function.update host.unattendedProofs peer false
      terminalOnlyGuests := Function.update host.terminalOnlyGuests peer false }
    host.endOrParkSession peer closed ending now

/-- `Actor::on_revoke` (`network.rs:16159-16188`), as far as connections and sessions go. The window
of a host that this node watches is left, with the connection under it. -/
def onRevoke (host : Host) (peer : NodeId) : Except CoreError Unit × Host :=
  if host.parkedViews peer then
    (.ok (), { host with parkedViews := Function.update host.parkedViews peer false })
  else if host.views peer then
    (.ok (), { host with
      views := Function.update host.views peer false
      connections := host.connections.erase peer })
  else
    match host.sessions.revoke peer with
    | (.error error, sessions) => (.error error, { host with sessions })
    | (.ok (), sessions) =>
        (.ok (), { host with
          sessions
          unattendedPending := Function.update host.unattendedPending peer false
          unattendedProofs := Function.update host.unattendedProofs peer false })

/-! ## Sessions begin -/

/-- `Actor::session_kind_asked` (`network.rs:16083-16089`). -/
def sessionKindAsked (host : Host) (peer : NodeId) : SessionKind :=
  if host.terminalOnlyGuests peer then .terminal else .screen

/-- `Actor::grant_role` (`network.rs:16053-16080`); `freshId` is what the manager draws. -/
def grantRole (host : Host) (peer : NodeId) (role : Role) (freshId : SessionId) :
    Except CoreError Unit × Host :=
  match host.sessions.grantAs peer role (host.sessionKindAsked peer) freshId with
  | (.error error, _) => (.error error, host)
  | (.ok (), sessions) =>
      (.ok (), { host with
        sessions
        unattendedPending := Function.update host.unattendedPending peer false
        unattendedProofs := Function.update host.unattendedProofs peer false })

/-- `grant_role`, and whether it grants. -/
def grantSession (host : Host) (peer : NodeId) (role : Role) (freshId : SessionId) : Bool × Host :=
  match host.grantRole peer role freshId with
  | (.ok (), host) => (true, host)
  | (.error _, host) => (false, host)

/-- `Actor::offer_credential_challenge` (`network.rs:11598-11644`), for a stored hash that a proof
can be run against. -/
def offerCredentialChallenge (host : Host) (peer : NodeId) (speaksProof : Bool) : Host :=
  { host with
    unattendedPending := Function.update host.unattendedPending peer true
    unattendedProofs := if speaksProof then Function.update host.unattendedProofs peer true
      else host.unattendedProofs }

/-- `Actor::release_connection_claimed_by` (`network.rs:11518-11536`). -/
def releaseConnectionClaimedBy (host : Host) (peer : NodeId) (claim : SessionId) (now : Instant) :
    Host :=
  match (host.connections.lookup peer).filter (·.sessionId = claim) with
  | none => host
  | some stale => host.onClosed peer stale.id .closedHere now

/-- `Actor::on_resume_claim` (`network.rs:11552-11590`), and whether the claim is honoured. -/
def onResumeClaim (host : Host) (shake : Handshake) (claim : SessionId) : Bool × Host :=
  let (decision, sessions) :=
    if host.parkedSessions.lookup shake.peer = some claim then
      host.sessions.onReconnect shake.peer shake.resumedAt
    else (.reject .unknownSession, host.sessions)
  let host := { host with sessions }
  match decision, host.sessions.role shake.peer with
  | .resume _, some _ =>
      (true, { host with parkedSessions := host.parkedSessions.erase shake.peer }.adopt shake.peer
        shake.sessionId .accepted)
  | _, _ => (false, host.endParkedSession shake.peer)

/-- The request for consent of a new connection (`network.rs:11346-11385`): whether somebody is asked. -/
def requestConsent (host : Host) (shake : Handshake) : Bool × Host :=
  if host.attended then
    let (ticket, sessions) := host.sessions.requestConsentFor shake.peer
      shake.ticket.allowedRequest (host.sessionKindAsked shake.peer) shake.checkedAt
      shake.requestedAt
    (ticket.isOk, { host with sessions })
  else (false, host)

/-- What `on_handshaked` does once the ticket is claimed (`network.rs:11328-11413`). -/
def askOrChallenge (host : Host) (shake : Handshake) : Host :=
  let challenge := host.mayTryUnattended shake.peer
  -- `Admission::refuses`
  if !host.attended && !challenge then host
  else
    match host.requestConsent shake with
    | (false, host) =>
        if challenge then
          (host.adopt shake.peer shake.sessionId .accepted).offerCredentialChallenge shake.peer
            shake.speaksProof
        else host
    | (true, host) =>
        let host := host.adopt shake.peer shake.sessionId .accepted
        if challenge then host.offerCredentialChallenge shake.peer shake.speaksProof else host

/-- A connection that claims no session (`network.rs:11302-11413`). -/
def onNewConnection (host : Host) (shake : Handshake) : Host :=
  let host := host.endParkedSession shake.peer
  match host.tickets.claim shake.ticket shake.unixNow with
  | (.error _, tickets) => { host with tickets }
  | (.ok (), tickets) => { host with tickets }.askOrChallenge shake

/-- `ActorEvent::Handshaked` and `Actor::on_handshaked` (`network.rs:9888-10048`, `11270-11414`),
and whether a session is resumed. -/
def onHandshaked (host : Host) (shake : Handshake) : Bool × Host :=
  if host.restarting then (false, host)
  else
    let host := match shake.resumeClaim with
      | some claim => host.releaseConnectionClaimedBy shake.peer claim shake.disconnectedAt
      | none => host
    let host := { host with
      terminalOnlyGuests := Function.update host.terminalOnlyGuests shake.peer shake.terminalOnly }
    if !host.hosting then (false, host)
    else
      match shake.resumeClaim with
      | some claim => host.onResumeClaim shake claim
      | none => (false, host.onNewConnection shake)

/-! ## Messages -/

/-- `Actor::may_transfer_files` (`network.rs:14687-14696`). -/
def transferRight (host : Host) (peer : NodeId) : Option Right :=
  if host.views peer then some .view
  else if host.sessions.state peer = .active
      ∧ (host.sessions.grants peer).any (·.fileTransfer) then some .session
  else none

/-- A check that only asks for the session. -/
def sessionRight (allowed : Bool) : Option Right := if allowed then some .session else none

/-- `Actor::may_fetch_or_put` (`network.rs:7460-7467`). -/
def mayFetchOrPut (host : Host) (peer : NodeId) : Bool :=
  (host.connections.lookup peer).isSome && host.sessions.state peer = .active
    && (host.sessions.grants peer).any fun grants => grants.fileBrowse && grants.fileTransfer

/-- What lets a message through, if anything does: the checks of the handlers that need a granted
session. An answer that declines, and a message that ends or resizes what is there, is checked by
none. -/
def rightFor (host : Host) (peer : NodeId) (origin : Origin) : MessageKind → Option Right
  -- `inject` (`network.rs:11028-11033`)
  | .inputEvent event => sessionRight (host.sessions.authorizeInput peer event).isOk
  -- `network.rs:12005-12011`
  | .chat _ =>
      match origin with
      | .dialed => if host.views peer then some .view else none
      | .accepted => sessionRight (host.sessions.state peer = .active)
  | .fileOffer .. | .fileTransferStart .. | .clipboardFileOffer _ | .dirOffer _ none _ =>
      host.transferRight peer
  | .fileAccept accepted | .clipboardFileAccept accepted | .dirAccept accepted =>
      if accepted then host.transferRight peer else none
  -- `on_dir_offer_inbound` (`network.rs:7944-7978`) checks both.
  | .dirOffer _ (some _) _ =>
      if (host.transferRight peer).isSome then sessionRight (host.mayFetchOrPut peer) else none
  -- `network.rs:7279-7281`
  | .dirListRequest _ =>
      sessionRight ((host.connections.lookup peer).isSome && host.sessions.state peer = .active
        && (host.sessions.grants peer).any (·.fileBrowse))
  | .fileFetchRequest _ | .filePutOffer .. | .fileOpRequest .. =>
      sessionRight (host.mayFetchOrPut peer)
  | .tunnelOpenRequest target port _ =>
      sessionRight (host.sessions.tunnelAllows peer target.toList port)
  | .terminalOpenRequest _ _ => sessionRight (host.sessions.terminalAllows peer)
  -- `network.rs:9533-9535`
  | .displaySetMode _ =>
      sessionRight ((host.connections.lookup peer).isSome && host.sessions.state peer = .active
        && (host.sessions.grants peer).any (·.displayMode))
  | .rebootRequest _ => sessionRight (host.sessions.rebootAllows peer)
  | _ => none

/-- What the host says to a device password: `UnattendedAccess::admit` or `admit_proof`, with the id
that a granted session draws. -/
structure Verdict where
  result : Except UnattendedError Role
  freshId : SessionId

/-- `Actor::on_unattended_auth` (`network.rs:11822-11873`), and whether a session is granted. -/
def onUnattendedAuth (host : Host) (peer : NodeId) (verdict : Verdict) : Bool × Host :=
  if host.unattendedProofs peer then (false, host)
  else if !host.unattendedPending peer then (false, host)
  else
    let host := { host with unattendedPending := Function.update host.unattendedPending peer false }
    if !host.mayTryUnattended peer then (false, host)
    else
      match verdict.result with
      | .ok role => host.grantSession peer role verdict.freshId
      | .error _ =>
          (false, { host with
            unattendedPending := Function.update host.unattendedPending peer true })

/-- The error is one that the guest may try again after (`rejection_of`). -/
def mayTryAgain : UnattendedError → Bool
  | .badPassword | .missingPassword | .badCode | .missingCode | .lockedOut _ => true
  | _ => false

/-- `Actor::on_unattended_proof` (`network.rs:11651-11695`), and whether a session is granted. -/
def onUnattendedProof (host : Host) (peer : NodeId) (verdict : Verdict) : Bool × Host :=
  if !host.unattendedProofs peer then (false, host)
  else
    let host := { host with unattendedProofs := Function.update host.unattendedProofs peer false }
    if !host.unattendedPending peer then (false, host)
    else
      let host := { host with unattendedPending := Function.update host.unattendedPending peer false }
      if !host.mayTryUnattended peer then (false, host)
      else
        match verdict.result with
        | .ok role => host.grantSession peer role verdict.freshId
        | .error error =>
            (false, if mayTryAgain error then host.offerCredentialChallenge peer true else host)

/-- A step that may grant the session of a peer. -/
def granting (peer : NodeId) : Bool × Host → Option Ruling × Host
  | (true, host) => (some (.granted peer), host)
  | (false, host) => (none, host)

/-- `on_inbound` hands the message to its handler: it comes over the connection of its sender, in a
direction that fits (`network.rs:11881-11909`). -/
def delivers (host : Host) (peer : NodeId) (id : UInt64) (kind : MessageKind) : Bool :=
  ((host.connections.lookup peer).filter (·.id = id)).any fun handle =>
    !kind.direction.any (· ≠ handle.origin.inbound)

/-- `Actor::on_inbound` (`network.rs:11880-12560`), as far as it decides about sessions or asks for
one. -/
def onInbound (host : Host) (peer : NodeId) (id : UInt64) (kind : MessageKind)
    (verdict : Verdict) : Option Ruling × Host :=
  match (host.connections.lookup peer).filter (·.id = id) with
  | none => (none, host)
  | some handle =>
      if kind.direction.any (· ≠ handle.origin.inbound) then (none, host)
      else
        match kind with
        | .unattendedAuth .. => granting peer (host.onUnattendedAuth peer verdict)
        | .unattendedProof .. => granting peer (host.onUnattendedProof peer verdict)
        | _ => ((host.rightFor peer handle.origin kind).map .acted, host)

/-! ## Runs -/

/-- What happens at the host. -/
inductive Happening where
  | handshaked (shake : Handshake)
  | inbound (peer : NodeId) (id : UInt64) (kind : MessageKind) (verdict : Verdict)
  | closed (peer : NodeId) (id : UInt64) (ending : Ending) (now : Instant)
  | grant (peer : NodeId) (role : Role) (freshId : SessionId)
  | revoke (peer : NodeId)
  | setGrant (peer : NodeId) (which : IndependentGrant) (allowed : Bool)
  | setTarget (peer : NodeId) (target : TunnelTarget) (allowed : Bool)
  | resumeWindowElapsed (peer : NodeId) (sessionId : SessionId)
  | setPlan (plan : Plan)
  | setControlPolicy (policy : ControlPolicy)
  | invite (ticket : InviteTicket)
  | trust (peer : NodeId) (mayTry : Bool)
  | attendance (attended : Bool)
  | restart
  /-- This node's own dial of a host is answered. -/
  | dialed (peer : NodeId) (sessionId : SessionId)
  /-- A window onto a host opens, waits or closes. -/
  | view (peer : NodeId) (watched parked : Bool)
  /-- This node lets go of a host that it has dialed. -/
  | letGo (peer : NodeId)

/-- `Actor::on_resume_window_elapsed` (`network.rs:11500-11509`). -/
def onResumeWindowElapsed (host : Host) (peer : NodeId) (sessionId : SessionId) : Host :=
  if host.parkedSessions.lookup peer ≠ some sessionId then host else host.endParkedSession peer

/-- One step of the host. -/
def step (host : Host) : Happening → Option Ruling × Host
  | .handshaked shake =>
      match host.onHandshaked shake with
      | (true, host) => (some (.resumed shake.peer), host)
      | (false, host) => (none, host)
  | .inbound peer id kind verdict => host.onInbound peer id kind verdict
  | .closed peer id ending now => (none, host.onClosed peer id ending now)
  | .grant peer role freshId => granting peer (host.grantSession peer role freshId)
  | .revoke peer => (none, (host.onRevoke peer).2)
  | .setGrant peer which allowed =>
      (none, { host with sessions := (host.sessions.setGrant peer which allowed).2 })
  | .setTarget peer target allowed =>
      (none, { host with
        sessions := if allowed then (host.sessions.allowTunnelTarget peer target).2
          else host.sessions.denyTunnelTarget peer target })
  | .resumeWindowElapsed peer sessionId => (none, host.onResumeWindowElapsed peer sessionId)
  | .setPlan plan => (none, { host with sessions := { host.sessions with plan } })
  | .setControlPolicy policy => (none, { host with sessions := { host.sessions with policy } })
  | .invite ticket => (none, { host with tickets := host.tickets.retireAll.register ticket })
  | .trust peer mayTry =>
      (none, { host with mayTryUnattended := Function.update host.mayTryUnattended peer mayTry })
  | .attendance attended => (none, { host with attended })
  | .restart => (none, { host with restarting := true })
  | .dialed peer sessionId => (none, host.adopt peer sessionId .dialed)
  | .view peer watched parked =>
      (none, { host with
        views := Function.update host.views peer watched
        parkedViews := Function.update host.parkedViews peer parked })
  | .letGo peer => (none, { host with connections := host.connections.erase peer })

end Host

/-!
## The windows of dropped sessions

Every drop that parks a session starts a timer of its own, which brings back the
peer and the id that the session was parked under (`park_session`). The host knows
a parked session by its id alone: which drop parked it, and which timers are still
to fire, is what this module keeps beside it.
-/

/-- A session is parked: the peer and the id that its timer brings back. -/
structure Drop where
  peer : NodeId
  sessionId : SessionId
  deriving DecidableEq

namespace Host

/-- Whether `end_or_park_session` parks (`network.rs:11434-11465`). -/
def parks (host : Host) (peer : NodeId) (closed : Option HostConnection) (ending : Ending) :
    Option Drop :=
  match host.sessions.sessions.lookup peer, closed with
  | some _, some handle => if ending = .normal then none else some ⟨peer, handle.sessionId⟩
  | _, _ => none

/-- The drop that a step parks a session for: the end of a connection, or a claim that finds the
connection it names still there (`network.rs:11517-11536`). -/
def drops (host : Host) : Happening → Option Drop
  | .closed peer id ending _ =>
      if (host.connections.lookup peer).any (·.id ≠ id) then none
      else host.parks peer (host.connections.lookup peer) ending
  | .handshaked shake =>
      match shake.resumeClaim with
      | some claim =>
          if host.restarting then none
          else
            host.parks shake.peer
              ((host.connections.lookup shake.peer).filter (·.sessionId = claim)) .closedHere
      | none => none
  | _ => none

end Host

/-- The host with its drops, oldest first, those whose timers are to fire, and the last drop of each
peer. -/
structure Parking where
  host : Host
  drops : List Drop := []
  waiting : List Nat := []
  latest : HashMap NodeId Nat := ∅

namespace Parking

/-- The host when it starts. -/
def new (plan : Plan) (hosting : Bool) : Parking := { host := .new plan hosting }

inductive Op where
  | happens (happening : Host.Happening)
  /-- The timer of a drop fires. -/
  | fires (drop : Nat)

/-- A session is parked and its timer started (`network.rs:11470-11479`). -/
def record (parking : Parking) : Option Drop → Parking
  | none => parking
  | some drop =>
      { parking with
        drops := parking.drops ++ [drop]
        waiting := parking.drops.length :: parking.waiting
        latest := parking.latest.insert drop.peer parking.drops.length }

/-- One step of the host. Only a timer says that a window elapsed. -/
def step (parking : Parking) : Op → Option Ruling × Parking
  | .happens (.resumeWindowElapsed ..) => (none, parking)
  | .happens happening =>
      let (ruling, host) := parking.host.step happening
      (ruling, { parking.record (parking.host.drops happening) with host })
  | .fires drop =>
      match parking.drops[drop]? with
      | some ⟨peer, sessionId⟩ =>
          if drop ∈ parking.waiting then
            (none, { parking with
              host := parking.host.onResumeWindowElapsed peer sessionId
              waiting := parking.waiting.erase drop })
          else (none, parking)
      | none => (none, parking)

end Parking

end Lumepeer.Runtime
