import Lumepeer.Core.Message
import Lumepeer.Core.Unattended
import Lumepeer.Lib.HashMap

/-!
# The guest's side of connecting

The connect form of `crates/runtime/src/network.rs`, the waits for hosts that went
away, and the credentials that a host asks for. Invite codes, the keystore, timers
and the network are the environment: a dial that was started and a timer that was
armed report back in any order, and a host sends what it likes. Surfaces, windows,
addresses and device names are left out, as is the host's side of the actor.

A password carries the host that the form was about when it was typed. Nothing
here reads that; it is there for statements about where passwords go.
-/

namespace Lumepeer.Runtime
open Lumepeer.Lib Lumepeer.Core

/-- `Origin` (`network.rs:4223-4228`). -/
inductive Origin where
  | dialed
  | accepted
  deriving DecidableEq

/-- `Origin::inbound` (`network.rs:4232-4237`). -/
def Origin.inbound : Origin → Direction
  | .dialed => .hostToGuest
  | .accepted => .guestToHost

/-- `ConnectionHandle` (`network.rs:4241-4292`). -/
structure ConnectionHandle where
  id : UInt64
  origin : Origin
  peerMinor : UInt16
  sessionId : SessionId
  lastHeard : Nat
  deriving DecidableEq

/-- `SESSION_RESUME_MINOR` (`network.rs:226`). -/
def sessionResumeMinor : UInt16 := 18

/-- `ConnectPhase` (`network.rs:1058-1104`). -/
inductive ConnectPhase where
  | idle
  | dialing
  | awaitingConsent
  | awaitingCredentials
  | connected
  | waitingForHost
  | resuming
  | denied
  | failed
  deriving DecidableEq

/-- `ConnectPhase::is_pending` (`network.rs:1110-1119`). -/
def ConnectPhase.isPending : ConnectPhase → Bool
  | .dialing | .awaitingConsent | .awaitingCredentials | .waitingForHost | .resuming => true
  | .idle | .connected | .denied | .failed => false

/-- The errors of a dial: the verdicts of a host and what is left. -/
inductive DialError where
  | invalidTicket
  | malformedTicket
  | alreadyConnected
  | reconnectRejected
  | consentUnavailable
  | incompatibleVersion
  | dial
  | offline
  | io
  | other
  deriving DecidableEq

/-- `is_verdict` (`network.rs:19343-19353`). -/
def DialError.isVerdict : DialError → Bool
  | .invalidTicket | .malformedTicket | .alreadyConnected | .reconnectRejected
  | .consentUnavailable | .incompatibleVersion => true
  | .dial | .offline | .io | .other => false

/-- `net_error_code` (`net_errors.rs:25-67`). -/
def DialError.code : DialError → String
  | .malformedTicket | .invalidTicket => "BAD_TICKET"
  | .alreadyConnected => "ALREADY_CONNECTED"
  | .dial => "DIAL_FAILED"
  | .offline => "OFFLINE"
  | .incompatibleVersion => "INCOMPATIBLE_VERSION"
  | .io => "TRANSPORT_LOST"
  | .reconnectRejected | .consentUnavailable | .other => "REJECTED"

/-- `HistoryEntry` (`connection_history.rs:33-125`). -/
structure HistoryEntry where
  peerLabel : String
  code : String
  trusted : Bool
  deriving DecidableEq

/-- `ConnectionHistory` (`connection_history.rs:129-133`): the rows, newest first. -/
abbrev ConnectionHistory := List HistoryEntry

namespace ConnectionHistory

/-- `MAX_ENTRIES` (`connection_history.rs:29`). -/
def maxEntries : Nat := 50

/-- `ConnectionHistory::code_of` (`connection_history.rs:170-175`). -/
def codeOf (rows : ConnectionHistory) (label : String) : Option String :=
  (rows.find? (·.peerLabel = label)).map (·.code)

/-- `ConnectionHistory::is_trusted` (`connection_history.rs:333-337`). -/
def isTrusted (rows : ConnectionHistory) (label : String) : Bool :=
  rows.any fun entry => entry.peerLabel = label && entry.trusted

/-- `ConnectionHistory::record` (`connection_history.rs:218-270`). -/
def record (rows : ConnectionHistory) (label code : String) : ConnectionHistory :=
  ({ peerLabel := label, code, trusted := rows.isTrusted label }
    :: rows.filter (·.peerLabel ≠ label)).take maxEntries

/-- `ConnectionHistory::set_trusted` (`connection_history.rs:346-360`). -/
def setTrusted (label : String) (trusted : Bool) : ConnectionHistory → ConnectionHistory
  | [] => []
  | entry :: rows =>
      if entry.peerLabel = label then { entry with trusted } :: rows
      else entry :: setTrusted label trusted rows

/-- `ConnectionHistory::remove` (`connection_history.rs:367-375`). -/
def remove (rows : ConnectionHistory) (label : String) : ConnectionHistory :=
  rows.filter (·.peerLabel ≠ label)

end ConnectionHistory

/-- `ReconnectWait` (`network.rs:6238-6275`). -/
structure ReconnectWait where
  peer : NodeId
  hostTag : String
  startedAt : Nat
  generation : UInt64
  resume : Option SessionId
  dialing : Bool
  dialSeq : UInt64
  refused : Bool

/-- `ConnectRetry` (`network.rs:6317-6328`). -/
structure ConnectRetry where
  peer : NodeId
  code : String
  generation : UInt64
  rounds : UInt32

/-- The text of a password, and the host that the form was about when it was typed. -/
structure Password where
  text : String
  shown : Option NodeId
  deriving DecidableEq

/-- What the guest does with a password. -/
inductive Deed where
  /-- `UnattendedAuth` goes out. -/
  | auth (host : NodeId) (password : Password) (code : Option String)
  /-- `answer_proof` runs, for a message to this host. -/
  | proof (host : NodeId) (password : Password)
  /-- The keystore takes it. -/
  | saved (tag : String) (password : Password)
  deriving DecidableEq

/-- What the guest's side takes from elsewhere. -/
structure GuestEnv where
  crates : Crates
  /-- `host_tag` (`network.rs:3579-3582`): hex digits of a BLAKE3 hash. -/
  hostTag : NodeId → String
  /-- The host that an invite code names, if it decodes and the host has signed it
  (`network.rs:17737-17742`). -/
  issuer : String → Except DialError NodeId
  /-- The identity of this node. -/
  nodeId : NodeId

/-- The actor's side of the hosts that it connects to. -/
structure Guest where
  connectPhase : ConnectPhase := .idle
  connectPeer : Option NodeId := none
  connectFailure : Option String := none
  connectCodeRequired : Bool := false
  connectRetrySecs : Option UInt64 := none
  connectCredentialsAuto : Bool := false
  proofChallenge : Option (NodeId × ProofKdf × List UInt8) := none
  proofHost : Option NodeId := none
  queuedProof : Option (Password × Option String × Bool) := none
  pendingRemember : Option Password := none
  rememberedPasswords : HashMap String Password := ∅
  rememberedPasswordTags : String → Bool := fun _ => false
  /-- The keystore does what it is asked. -/
  keystoreAnswers : Bool := true
  connectionHistory : ConnectionHistory := []
  hostInvites : HashMap NodeId String := ∅
  hostDialers : NodeId → Bool := fun _ => false
  connections : HashMap NodeId ConnectionHandle := ∅
  nextConnectionId : UInt64 := 0
  views : NodeId → Bool := fun _ => false
  parkedViews : NodeId → Bool := fun _ => false
  reconnectWaits : HashMap NodeId ReconnectWait := ∅
  reconnectWaitGeneration : UInt64 := 0
  leaving : HashMap NodeId UInt64 := ∅
  connectRetry : Option ConnectRetry := none
  connectRetryGeneration : UInt64 := 0
  dialSeq : UInt64 := 0
  /-- Seconds since the actor has started. -/
  now : Nat := 0

/-- A control connection that a handshake has made. -/
structure Control where
  peer : NodeId
  peerMinor : UInt16
  sessionId : SessionId

/-- How a connection ended. -/
inductive Ending where
  | lost
  | closedHere
  /-- The peer has closed it, with `CLOSE_NORMAL`, `CLOSE_RESUME_REFUSED`, `CLOSE_RESTARTING` or
  another code. -/
  | normal
  | resumeRefused
  | restarting
  | otherCode
  deriving DecidableEq

/-- `PeerConnection::closed_by_peer`. -/
def Ending.byPeer : Ending → Bool
  | .normal | .resumeRefused | .restarting | .otherCode => true
  | .lost | .closedHere => false

namespace Guest

/-- The actor when it starts, with the rows of its history and what the keystore has. -/
def new (rows : ConnectionHistory) (stored : List (String × String)) : Guest where
  connectionHistory := rows
  rememberedPasswords := stored.foldl (fun passwords (tag, text) =>
    passwords.insert tag { text, shown := none }) ∅
  rememberedPasswordTags tag := rows.any (·.peerLabel = tag) && stored.any (·.1 = tag)

/-! ## The form -/

/-- `Actor::stop_connect_retry` (`network.rs:17223-17227`). -/
def stopConnectRetry (guest : Guest) : Guest :=
  if guest.connectRetry.isSome then
    { guest with
      connectRetry := none
      connectRetryGeneration := guest.connectRetryGeneration + 1 }
  else guest

/-- `Actor::settle_connect` (`network.rs:10993-11021`). -/
def settleConnect (guest : Guest) (peer : NodeId) (outcome : ConnectPhase) : Guest :=
  if guest.connectPeer ≠ some peer then guest
  else if guest.connectPhase = .dialing ∧ outcome ≠ .connected then guest
  else
    let guest := guest.stopConnectRetry
    if outcome = .connected then { guest with connectPhase := .connected }
    else
      { guest with
        connectPhase := if guest.connectPhase.isPending then outcome else .idle
        connectPeer := none }

/-- `Actor::retry_connect_soon` (`network.rs:17172-17215`); the timer is armed elsewhere. -/
def retryConnectSoon (guest : Guest) (peer : NodeId) : Bool × Guest :=
  match guest.connectRetry.filter (·.peer = peer) with
  | none => (false, guest)
  | some retry =>
      let generation := guest.connectRetryGeneration + 1
      -- `saturating_add`
      let rounds := if retry.rounds + 1 = 0 then retry.rounds else retry.rounds + 1
      (true, { guest with
        connectRetryGeneration := generation
        connectRetry := some { retry with generation, rounds }
        connectPhase := .dialing
        connectPeer := some peer
        connectFailure := none })

/-- `Actor::form_is_free_for_wait` (`network.rs:17335-17344`). -/
def formIsFreeForWait (guest : Guest) (peer : NodeId) : Bool :=
  match guest.connectPeer with
  | none => true
  | some shown =>
      shown = peer || ((guest.reconnectWaits.lookup shown).isSome
        && (guest.connectPhase = .resuming || guest.connectPhase = .waitingForHost))

/-- `Actor::show_wait_in_form` (`network.rs:17348-17355`). -/
def showWaitInForm (guest : Guest) (peer : NodeId) (phase : ConnectPhase) : Bool × Guest :=
  if guest.formIsFreeForWait peer then
    (true, { guest with connectPhase := phase, connectPeer := some peer })
  else (false, guest)

/-! ## Windows and waits -/

/-- `Actor::close_parked_view` (`network.rs:10915-10930`). -/
def closeParkedView (guest : Guest) (peer : NodeId) : Guest :=
  { guest with parkedViews := Function.update guest.parkedViews peer false }

/-- `Actor::close_parked_view_without_a_wait` (`network.rs:10939-10949`). -/
def closeParkedViewWithoutAWait (guest : Guest) : Guest :=
  { guest with
    parkedViews := fun peer =>
      guest.parkedViews peer && (guest.reconnectWaits.lookup peer).isSome }

/-- `Actor::finish_reconnect_wait` (`network.rs:17318-17320`). -/
def finishReconnectWait (guest : Guest) (peer : NodeId) : Guest :=
  { guest with reconnectWaits := guest.reconnectWaits.erase peer }

/-- `Actor::stop_reconnect_wait` (`network.rs:17301-17308`). -/
def stopReconnectWait (guest : Guest) (peer : NodeId) : Guest :=
  (guest.finishReconnectWait peer).closeParkedView peer

/-- A row for a host, if its invite code is known (`network.rs:10757-10766`, `11941-11949`). -/
def recordVisit (env : GuestEnv) (guest : Guest) (peer : NodeId) : Guest :=
  match guest.hostInvites.lookup peer with
  | some code =>
      { guest with connectionHistory := guest.connectionHistory.record (env.hostTag peer) code }
  | none => guest

/-- `Actor::end_view` (`network.rs:10732-10819`); `parks` says whether the window stays. -/
def endView (env : GuestEnv) (guest : Guest) (peer : NodeId) (parks : Bool) : Guest :=
  if guest.views peer then
    let guest := { guest with views := Function.update guest.views peer false }.recordVisit env peer
    if parks then { guest with parkedViews := Function.update guest.parkedViews peer true }
    else guest
  else guest

/-- `Actor::start_view` (`network.rs:10533-10682`). -/
def startView (env : GuestEnv) (guest : Guest) (peer : NodeId) (role : Role) : Guest :=
  if !(Grants.fromRole role).view then guest.endView env peer false
  else if guest.views peer then guest
  else if guest.parkedViews peer then
    { guest with
      parkedViews := Function.update guest.parkedViews peer false
      views := Function.update guest.views peer true }
  else if guest.hostDialers peer then
    { guest with views := Function.update guest.views peer true }
  else guest

/-- `Actor::start_reconnect_wait` (`network.rs:16928-16981`). -/
def startReconnectWait (env : GuestEnv) (guest : Guest) (peer : NodeId) (resume : Option SessionId)
    (sessionOver : Bool) : Guest :=
  let generation := guest.reconnectWaitGeneration + 1
  let wait : ReconnectWait :=
    { peer, hostTag := env.hostTag peer, startedAt := guest.now, generation, resume
      dialing := false, dialSeq := 0, refused := sessionOver }
  let guest := { guest with
    reconnectWaitGeneration := generation
    reconnectWaits := guest.reconnectWaits.insert peer wait
    leaving := guest.leaving.erase peer }
  let phase := if resume.isSome then .resuming else .waitingForHost
  match guest.showWaitInForm peer phase with
  | (true, guest) =>
      { guest with
        connectFailure := none
        connectCodeRequired := false
        connectRetrySecs := none
        connectCredentialsAuto := false }
  | (false, guest) => guest

/-- `Actor::on_resume_refused` (`network.rs:16992-17023`). -/
def onResumeRefused (guest : Guest) (peer : NodeId) : Guest :=
  match guest.reconnectWaits.lookup peer with
  | none => guest
  | some wait =>
      let guest := { guest with
        reconnectWaits := guest.reconnectWaits.insert peer
          { wait with resume := none, dialing := false, refused := true } }
      if (guest.connectionHistory.codeOf wait.hostTag).isSome then
        match guest.showWaitInForm peer .waitingForHost with
        | (true, guest) => { guest with connectFailure := none }
        | (false, guest) => guest
      else
        let shown := guest.formIsFreeForWait peer
        let guest := guest.stopReconnectWait peer
        if shown then
          { guest with
            connectPhase := .failed
            connectFailure := some "SESSION_NOT_RESUMED"
            connectPeer := none }
        else guest

/-! ## Dialing -/

/-- `Actor::spawn_dial_as` (`network.rs:17731-17875`); the dial itself runs elsewhere. -/
def spawnDialAs (env : GuestEnv) (guest : Guest) (raw : String) (resume : Option SessionId) :
    Except DialError Unit × Guest :=
  match env.issuer raw with
  | .error error => (.error error, guest)
  | .ok host =>
      if (guest.connections.lookup host).isSome then (.error .alreadyConnected, guest)
      else
        let wait := guest.reconnectWaits.lookup host
        let busy := match wait with
          | some wait => wait.dialing
          | none => guest.connectPhase = ConnectPhase.dialing
        if busy then (.error .alreadyConnected, guest)
        else
          let seq := guest.dialSeq + 1
          let guest := { guest with
            dialSeq := seq
            reconnectWaits := HashMap.modify host
              (fun wait => { wait with dialing := true, dialSeq := seq }) guest.reconnectWaits }
          let phase : ConnectPhase := if resume.isSome then .resuming else .dialing
          let (onForm, guest) :=
            if wait.isSome then guest.showWaitInForm host phase
            else (true, { guest with connectPhase := phase })
          let rounds := ((guest.connectRetry.filter (·.peer = host)).map (·.rounds)).getD 0
          let guest :=
            if wait.isSome then guest
            else
              { guest with
                connectRetry := some
                  { peer := host, code := raw, generation := guest.connectRetryGeneration, rounds } }
          if onForm then
            (.ok (), { guest with
              connectPeer := some host
              connectFailure := none
              pendingRemember := none
              connectCredentialsAuto := false })
          else (.ok (), guest)

/-- `Actor::on_dial_failed` (`network.rs:17114-17157`). -/
def onDialFailed (guest : Guest) (peer : NodeId) (error : DialError) (resuming : Bool) : Guest :=
  let guest := if error.isVerdict && (guest.reconnectWaits.lookup peer).isSome then
    guest.stopReconnectWait peer else guest
  if (guest.reconnectWaits.lookup peer).isSome then
    (guest.showWaitInForm peer (if resuming then .resuming else .waitingForHost)).2
  else
    match if error.isVerdict then (false, guest) else guest.retryConnectSoon peer with
    | (true, guest) => guest
    | (false, guest) =>
        { guest.stopConnectRetry with
          connectFailure := some error.code
          connectPhase := .failed
          connectPeer := none }

/-- `Actor::adopt` (`network.rs:9762-9843`). -/
def adopt (guest : Guest) (control : Control) (peer : NodeId) (origin : Origin) : Guest :=
  let id := guest.nextConnectionId + 1
  { guest with
    nextConnectionId := id
    connections := guest.connections.insert peer
      { id, origin, peerMinor := control.peerMinor, sessionId := control.sessionId
        lastHeard := guest.now } }

/-- The rest of `on_dialed`, once the dial is known to be wanted (`network.rs:17923-18068`). -/
def onConnected (guest : Guest) (peer : NodeId) (code : String)
    (result : Except DialError Control) (forWait : Bool) : Guest :=
  let resuming := (guest.reconnectWaits.lookup peer).any (·.resume.isSome)
  let guest := { guest with
    reconnectWaits := HashMap.modify peer (fun wait => { wait with dialing := false })
      guest.reconnectWaits }
  match result with
  | .error .reconnectRejected =>
      if resuming then guest.onResumeRefused peer
      else guest.onDialFailed peer .reconnectRejected resuming
  | .error error => guest.onDialFailed peer error resuming
  | .ok control =>
      if control.peer ≠ peer then guest.onDialFailed peer .invalidTicket resuming
      else
        let onForm := !forWait || guest.formIsFreeForWait peer
        let guest := if !resuming then guest.finishReconnectWait peer else guest
        let guest := { guest with
          hostDialers := Function.update guest.hostDialers peer true
          hostInvites := guest.hostInvites.insert peer code }
        let guest := if onForm then
          { guest with
            connectPhase := if resuming then .resuming else .awaitingConsent
            connectPeer := some peer }
          else guest
        guest.adopt control peer .dialed

/-- `Actor::on_dialed` (`network.rs:17887-18069`). -/
def onDialed (guest : Guest) (peer : NodeId) (seq : UInt64) (code : String)
    (result : Except DialError Control) : Guest :=
  if guest.leaving.lookup peer = some seq then
    { guest with leaving := guest.leaving.erase peer }
  else
    let forWait := (guest.reconnectWaits.lookup peer).any fun wait =>
      wait.dialing && wait.dialSeq = seq
    if !forWait && guest.connectPeer ≠ some peer then guest
    else guest.onConnected peer code result forWait

/-! ## Timers -/

/-- `Actor::on_connect_retry_tick` (`network.rs:17236-17282`). -/
def onConnectRetryTick (env : GuestEnv) (guest : Guest) (generation : UInt64) : Guest :=
  match guest.connectRetry with
  | none => guest
  | some retry =>
      if retry.generation ≠ generation then guest
      else if guest.connectPeer ≠ some retry.peer then guest.stopConnectRetry
      else if (guest.connections.lookup retry.peer).isSome then guest.stopConnectRetry
      else
        match { guest with connectPhase := .idle }.spawnDialAs env retry.code none with
        | (.ok (), guest) => guest
        | (.error _, guest) =>
            match guest.retryConnectSoon retry.peer with
            | (true, guest) => guest
            | (false, guest) => guest.settleConnect retry.peer .failed

/-- `Actor::resume_tick` (`network.rs:17031-17070`). -/
def resumeTick (env : GuestEnv) (guest : Guest) (wait : ReconnectWait) : Bool × Guest :=
  if guest.now - wait.startedAt ≥ reconnectWindowSecs then
    let guest := { guest with
      reconnectWaits := HashMap.modify wait.peer (fun wait => { wait with resume := none })
        guest.reconnectWaits }
    if guest.connectPeer = some wait.peer ∧ guest.connectPhase = .resuming then
      (false, { guest with connectPhase := .waitingForHost })
    else (false, guest)
  else if wait.dialing || (guest.connections.lookup wait.peer).isSome then (true, guest)
  else
    match guest.connectionHistory.codeOf wait.hostTag with
    | none =>
        let guest := guest.stopReconnectWait wait.peer
        if guest.connectPeer = some wait.peer ∧ guest.connectPhase = .resuming then
          (true, { guest with connectPhase := .idle, connectPeer := none })
        else (true, guest)
    | some code => (true, (guest.spawnDialAs env code wait.resume).2)

/-- A wait for a new session, one tick of it (`network.rs:17463-17553`). -/
def waitTick (env : GuestEnv) (guest : Guest) (wait : ReconnectWait) : Guest :=
  if guest.connectPeer = some wait.peer ∧ (guest.connectPhase = .denied
      ∨ guest.connectPhase = .failed ∨ guest.connectFailure.isSome) then
    guest.stopReconnectWait wait.peer
  else if !wait.refused && guest.now - wait.startedAt < reconnectWindowSecs then guest
  else if guest.now - wait.startedAt ≥ rebootWaitCeilingSecs then
    let guest := guest.stopReconnectWait wait.peer
    if guest.connectPeer = some wait.peer ∧ guest.connectPhase = .waitingForHost then
      { guest with
        connectPhase := .failed
        connectFailure := some "HOST_DID_NOT_RETURN"
        connectPeer := none }
    else guest
  else if wait.dialing || (guest.connections.lookup wait.peer).isSome then guest
  else
    match guest.connectionHistory.codeOf wait.hostTag with
    | none =>
        let guest := guest.stopReconnectWait wait.peer
        if guest.connectPeer = some wait.peer ∧ guest.connectPhase = .waitingForHost then
          { guest with connectPhase := .idle, connectPeer := none }
        else guest
    | some code => (guest.spawnDialAs env code none).2

/-- `Actor::on_reconnect_wait_tick` (`network.rs:17453-17553`). -/
def onReconnectWaitTick (env : GuestEnv) (guest : Guest) (generation : UInt64) : Guest :=
  match guest.reconnectWaits.entries.find? (·.2.generation = generation) with
  | none => guest
  | some ⟨_, wait⟩ =>
      if wait.resume.isSome then
        match guest.resumeTick env wait with
        | (true, guest) => guest
        | (false, guest) => guest.waitTick env wait
      else guest.waitTick env wait

end Guest

end Lumepeer.Runtime
