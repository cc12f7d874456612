import Lumepeer.Lib.Run
import Lumepeer.Runtime.Network.Connect

/-!
# The credentials of a guest

What a guest does with the passwords its user types: the answers to the challenges
of hosts, the password that waits for a grant to be remembered, and every other
event of the connect form, in `crates/runtime/src/network.rs`. The user's own
submission of a password marks it with the host that the form is about.
-/

namespace Lumepeer.Runtime
open Lumepeer.Lib Lumepeer.Core

namespace Guest

/-- `ActorError`, as far as it is returned here. -/
inductive ActorError where
  | net (error : DialError)
  | notPermitted
  | unknownPeer
  deriving DecidableEq

/-- What a step returns to the user, and what it has done with passwords. -/
structure Reply where
  result : Except ActorError Unit := .ok ()
  deeds : List Deed := []

variable (env : GuestEnv)

/-! ## The keystore -/

/-- `Actor::remember_password` (`network.rs:6373-6380`). -/
def rememberPassword (guest : Guest) (tag : String) (password : Password) : List Deed × Guest :=
  if guest.keystoreAnswers then
    ([.saved tag password], { guest with
      rememberedPasswords := guest.rememberedPasswords.insert tag password
      rememberedPasswordTags := Function.update guest.rememberedPasswordTags tag true })
  else ([], guest)

/-- `Actor::forget_password` (`network.rs:6388-6393`). -/
def forgetPassword (guest : Guest) (tag : String) : Guest :=
  { guest with
    rememberedPasswords :=
      if guest.keystoreAnswers then guest.rememberedPasswords.erase tag
      else guest.rememberedPasswords
    rememberedPasswordTags := Function.update guest.rememberedPasswordTags tag false }

/-- `RememberedPasswordStore::load` (`remembered_password.rs:49-56`). -/
def loadPassword (guest : Guest) (tag : String) : Option Password :=
  if guest.keystoreAnswers then guest.rememberedPasswords.lookup tag else none

/-- `Actor::may_return_without_asking` (`network.rs:16900-16905`). -/
def mayReturnWithoutAsking (guest : Guest) (tag : String) : Bool :=
  guest.connectionHistory.isTrusted tag && guest.rememberedPasswordTags tag

/-! ## Submitting -/

/-- The answer to a challenge for a proof (`network.rs:16610-16645`); `draw` is the scalar that
`answer_proof` draws. -/
def answerChallenge (guest : Guest) (peer : NodeId) (kdf : ProofKdf) (hostMessage : List UInt8)
    (password : Password) (code : Option String) (remember : Bool) (draw : List UInt8) :
    Reply × Guest :=
  match guest.connections.lookup peer with
  | none => ({ result := .error .unknownPeer }, guest)
  | some handle =>
      match answerProof env.crates password.text code kdf hostMessage peer env.nodeId
          handle.sessionId draw with
      | .error _ =>
          ({ deeds := [.proof peer password] }, { guest with
            connectFailure := some "UNATTENDED_UNAVAILABLE"
            connectPhase := .failed
            connectPeer := none })
      | .ok _ =>
          ({ deeds := [.proof peer password] }, { guest with
            pendingRemember := if remember then some password else none })

/-- The password itself goes out (`network.rs:16657-16679`). -/
def sendPassword (guest : Guest) (peer : NodeId) (password : Password) (code : Option String)
    (remember : Bool) : Reply × Guest :=
  if (guest.connectionHistory.codeOf (env.hostTag peer)).isNone then
    ({}, { guest with
      pendingRemember := none
      connectFailure := some "UNATTENDED_HOST_OUTDATED" })
  else
    -- `send_to` needs a connection.
    ({ deeds := if (guest.connections.lookup peer).isSome then [.auth peer password code] else [] },
      { guest with pendingRemember := if remember then some password else none })

/-- `Actor::on_unattended_submit` (`network.rs:16594-16679`). -/
def onUnattendedSubmit (guest : Guest) (password : Password) (code : Option String)
    (remember : Bool) (draw : List UInt8) : Reply × Guest :=
  if guest.connectPhase ≠ .awaitingCredentials then ({ result := .error .notPermitted }, guest)
  else
    match guest.connectPeer with
    | none => ({ result := .error .unknownPeer }, guest)
    | some peer =>
        let challenge := guest.proofChallenge.filter (·.1 = peer)
        let guest := { guest with
          connectFailure := none
          connectRetrySecs := none
          proofChallenge := none }
        match challenge with
        | some (_, kdf, hostMessage) =>
            answerChallenge env guest peer kdf hostMessage password code remember draw
        | none =>
            if guest.proofHost = some peer then
              ({}, { guest with queuedProof := some (password, code, remember) })
            else sendPassword env guest peer password code remember

/-- `Actor::on_credential_challenge` (`network.rs:11739-11770`). -/
def onCredentialChallenge (guest : Guest) (peer : NodeId) (codeRequired : Bool)
    (draw : List UInt8) : List Deed × Guest :=
  let guest := { guest with
    connectPhase := .awaitingCredentials
    connectCodeRequired := codeRequired
    connectFailure := none
    connectRetrySecs := none
    connectCredentialsAuto := false }
  let unasked := (guest.reconnectWaits.lookup peer).isSome
  if !codeRequired && (!unasked || guest.mayReturnWithoutAsking (env.hostTag peer)) then
    match guest.loadPassword (env.hostTag peer) with
    | some password =>
        let (reply, guest) := onUnattendedSubmit env { guest with connectCredentialsAuto := true }
          password none false draw
        (reply.deeds, guest)
    | none => ([], guest)
  else ([], guest)

/-- `Actor::forget_credential_exchange` (`network.rs:11699-11716`). -/
def forgetCredentialExchange (guest : Guest) (peer : NodeId) : Guest :=
  let guest := if guest.proofChallenge.any (·.1 = peer) then { guest with proofChallenge := none }
    else guest
  if guest.proofHost = some peer then { guest with proofHost := none, queuedProof := none }
  else guest

/-! ## Messages of hosts -/

/-- The password that waits for a grant is remembered (`network.rs:11961-11963`). -/
def rememberPending (guest : Guest) (peer : NodeId) : List Deed × Guest :=
  match guest.pendingRemember with
  | some password =>
      { guest with pendingRemember := none }.rememberPassword (env.hostTag peer) password
  | none => ([], guest)

/-- `ConsentGrant` (`network.rs:11916-11966`). -/
def onConsentGrant (guest : Guest) (peer : NodeId) (role : Role) : List Deed × Guest :=
  let guest := (guest.finishReconnectWait peer).settleConnect peer .connected
  let (deeds, guest) := rememberPending env (guest.recordVisit env peer) peer
  (deeds, { guest with connectCredentialsAuto := false }.startView env peer role)

/-- `ConsentRevoke` (`network.rs:11967-11992`). -/
def onConsentRevoke (guest : Guest) (peer : NodeId) : Guest :=
  let dialed := guest.hostDialers peer
  let guest := if !guest.views peer && (guest.reconnectWaits.lookup peer).isSome then
    guest.stopReconnectWait peer else guest
  let guest := (guest.settleConnect peer .denied).endView env peer false
  if dialed then { guest with connections := guest.connections.erase peer } else guest

/-- `UnattendedChallenge` (`network.rs:12328-12338`). -/
def onUnattendedChallenge (guest : Guest) (peer : NodeId) (codeRequired : Bool)
    (draw : List UInt8) : List Deed × Guest :=
  if guest.connectPeer ≠ some peer then ([], guest)
  else
    onCredentialChallenge env { guest with
      proofChallenge := none
      proofHost := none
      queuedProof := none } peer codeRequired draw

/-- `UnattendedProofChallenge` (`network.rs:12359-12380`). -/
def onUnattendedProofChallenge (guest : Guest) (peer : NodeId) (codeRequired : Bool)
    (kdf : ProofKdf) (hostMessage : List UInt8) (draw : List UInt8) : List Deed × Guest :=
  if guest.connectPeer ≠ some peer then ([], guest)
  else
    let guest := { guest with
      proofChallenge := some (peer, kdf, hostMessage)
      proofHost := some peer }
    if guest.connectPhase = .awaitingCredentials then
      let guest := { guest with connectCodeRequired := codeRequired }
      match guest.queuedProof with
      | some (password, code, remember) =>
          let (reply, guest) := onUnattendedSubmit env { guest with queuedProof := none }
            password code remember draw
          (reply.deeds, guest)
      | none => ([], guest)
    else onCredentialChallenge env guest peer codeRequired draw

/-- The code of a refusal (`network.rs:12412-12419`). -/
def rejectionCode : UnattendedRejection → String × Option UInt64
  | .badPassword => ("UNATTENDED_BAD_PASSWORD", none)
  | .badCode => ("UNATTENDED_BAD_CODE", none)
  | .lockedOut remainingSecs => ("UNATTENDED_LOCKED_OUT", some remainingSecs)
  | .unavailable => ("UNATTENDED_UNAVAILABLE", none)

/-- A refused password is not remembered, and forgotten if it was (`network.rs:12407-12411`). -/
def dropRefused (guest : Guest) (peer : NodeId) : Guest :=
  let guest := { guest with pendingRemember := none }
  if guest.connectCredentialsAuto then
    { guest with connectCredentialsAuto := false }.forgetPassword (env.hostTag peer)
  else guest

/-- `UnattendedReject` (`network.rs:12398-12429`). -/
def onUnattendedReject (guest : Guest) (peer : NodeId) (reason : UnattendedRejection) : Guest :=
  if guest.connectPeer ≠ some peer then guest
  else
    let guest := { dropRefused env guest peer with
      connectFailure := some (rejectionCode reason).1
      connectRetrySecs := (rejectionCode reason).2 }
    if reason = .unavailable then { guest with connectPhase := .failed, connectPeer := none }
    else { guest with connectPhase := .awaitingCredentials }

/-- `Actor::on_inbound` (`network.rs:11880-12447`), as far as a host's messages are about
connecting. -/
def onInbound (guest : Guest) (peer : NodeId) (id : UInt64) (kind : MessageKind)
    (draw : List UInt8) : List Deed × Guest :=
  match (guest.connections.lookup peer).filter (·.id = id) with
  | none => ([], guest)
  | some handle =>
      let guest := { guest with
        connections := guest.connections.insert peer { handle with lastHeard := guest.now } }
      if kind.direction.any (· ≠ handle.origin.inbound) then ([], guest)
      else
        match kind with
        | .consentGrant role => onConsentGrant env guest peer role
        | .consentRevoke => ([], onConsentRevoke env guest peer)
        | .unattendedChallenge codeRequired =>
            onUnattendedChallenge env guest peer codeRequired draw
        | .unattendedProofChallenge codeRequired kdf hostMessage =>
            onUnattendedProofChallenge env guest peer codeRequired kdf hostMessage draw
        | .unattendedReject reason => ([], onUnattendedReject env guest peer reason)
        | _ => ([], guest)

/-! ## Endings -/

/-- `slept_past_resume` (`network.rs:4303-4311`). -/
def sleptPastResume (lastHeard now : Nat) : Bool :=
  now - lastHeard > reconnectWindowSecs + quicMaxIdleTimeoutSecs + pingIntervalSecs

/-- `Actor::connect_is_still_unanswered` (`network.rs:17080-17106`). -/
def connectIsStillUnanswered (guest : Guest) (peer : NodeId) (wasWatching : Bool)
    (closedByPeer : Bool) : Bool :=
  !wasWatching && !closedByPeer && guest.connectFailure.isNone && guest.connectPeer = some peer
    && guest.connectPhase.isPending && (guest.reconnectWaits.lookup peer).isNone
    && guest.connectRetry.any (·.peer = peer)

/-- What the form makes of a connection that has ended (`network.rs:12714-12718`). -/
def settleClosed (guest : Guest) (peer : NodeId) (wasWatching closedByPeer : Bool) : Guest :=
  if guest.connectIsStillUnanswered peer wasWatching closedByPeer then
    match guest.retryConnectSoon peer with
    | (true, guest) => guest
    | (false, guest) => guest.settleConnect peer .failed
  else guest.settleConnect peer .failed

/-- What is waited for after a connection has ended (`network.rs:12739-12776`). -/
def waitAfterClose (guest : Guest) (peer : NodeId) (resume : Option SessionId)
    (wasWatching sessionOver hostRestarting resumingOverThis resumeRefused : Bool) : Guest :=
  if wasWatching then
    (guest.endView env peer true).startReconnectWait env peer
      (if sessionOver then none else resume) sessionOver
  else
    let guest := guest.endView env peer false
    if hostRestarting && ((guest.reconnectWaits.lookup peer).isSome || guest.parkedViews peer) then
      guest.startReconnectWait env peer none true
    else if resumeRefused then guest.onResumeRefused peer
    else if resumingOverThis then (guest.showWaitInForm peer .resuming).2
    else guest

/-- `Actor::on_closed` (`network.rs:12587-12789`). A connection that this side has already let go of
is not there to be asked how it ended. -/
def onClosed (guest : Guest) (peer : NodeId) (id : UInt64) (ending : Ending) : Guest :=
  let closed := guest.connections.lookup peer
  if closed.any (·.id ≠ id) then guest
  else
    let guest := { guest with connections := guest.connections.erase peer }
    let guest := guest.forgetCredentialExchange peer
    let wasWatching := guest.views peer
    let resumingOverThis :=
      !wasWatching && (guest.reconnectWaits.lookup peer).any (·.resume.isSome)
    let resumeRefused := resumingOverThis && closed.isSome && ending = .resumeRefused
    let hostRestarting := closed.isSome && ending = .restarting
    let sessionOver := hostRestarting || closed.any (sleptPastResume ·.lastHeard guest.now)
    let guest := guest.settleClosed peer wasWatching (closed.isSome && ending.byPeer)
    let resume := (closed.filter (·.peerMinor ≥ sessionResumeMinor)).map (·.sessionId)
    let guest := waitAfterClose env guest peer resume wasWatching sessionOver hostRestarting
      resumingOverThis resumeRefused
    guest.closeParkedViewWithoutAWait

/-- The waits that a cancel calls off (`network.rs:16558-16565`): the one that the form shows, or all
of them. -/
def callOffWaits (guest : Guest) : Guest :=
  match guest.connectPeer with
  | some peer => guest.stopReconnectWait peer
  | none =>
      { guest with
        parkedViews := fun peer =>
          guest.parkedViews peer && (guest.reconnectWaits.lookup peer).isNone
        reconnectWaits := ∅ }

/-- `Actor::on_connect_cancel` (`network.rs:16549-16585`). -/
def onConnectCancel (guest : Guest) : Guest :=
  let guest := guest.callOffWaits.stopConnectRetry
  match guest.connectPeer with
  | none => guest
  | some peer =>
      let closes := guest.connectPhase = .awaitingConsent
        ∨ guest.connectPhase = .awaitingCredentials ∨ guest.connectPhase = .resuming
      { guest with
        connections := if closes then guest.connections.erase peer else guest.connections
        connectPeer := none
        connectPhase := .idle
        connectFailure := none
        connectCodeRequired := false
        connectRetrySecs := none
        pendingRemember := none
        connectCredentialsAuto := false }

/-- `Actor::say_goodbye` (`network.rs:17403-17446`); what it dials only leaves again. -/
def sayGoodbye (guest : Guest) (peer : NodeId) : Guest :=
  match guest.reconnectWaits.lookup peer with
  | some wait =>
      if wait.resume.isSome && wait.dialing then
        { guest with leaving := guest.leaving.insert peer wait.dialSeq }
      else guest
  | none => guest

/-- `Actor::leave_view` (`network.rs:17359-17389`). -/
def leaveView (guest : Guest) (peer : NodeId) : Except ActorError Unit × Guest :=
  if guest.parkedViews peer then
    let guest := ((guest.sayGoodbye peer).stopReconnectWait peer).settleConnect peer .idle
    (.ok (), { guest with hostDialers := Function.update guest.hostDialers peer false })
  else if guest.views peer then
    let guest := (guest.settleConnect peer .idle).endView env peer false
    (.ok (), { guest with
      hostDialers := Function.update guest.hostDialers peer false
      connections := guest.connections.erase peer })
  else (.error .unknownPeer, guest)

/-! ## Runs -/

/-- What happens at the guest. -/
inductive Happening where
  | dial (raw : String)
  | historyConnect (label : String)
  | submit (password : String) (code : Option String) (remember : Bool) (draw : List UInt8)
  | cancel
  | leaveView (peer : NodeId)
  | historyRemove (label : String)
  | historyForgetPassword (label : String)
  | historySetTrusted (label : String) (trusted : Bool)
  | dialed (peer : NodeId) (seq : UInt64) (code : String) (result : Except DialError Control)
  | inbound (peer : NodeId) (id : UInt64) (kind : MessageKind) (draw : List UInt8)
  | closed (peer : NodeId) (id : UInt64) (ending : Ending)
  | connectRetryTick (generation : UInt64)
  | reconnectWaitTick (generation : UInt64)
  /-- A guest connects to this node. -/
  | accepted (control : Control)
  | keystore (answers : Bool)
  | elapse (secs : Nat)

/-- The result of a dial that the user has asked for. -/
def dialReply : Except DialError Unit → Reply
  | .ok () => {}
  | .error error => { result := .error (.net error) }

/-- One step of the guest (`network.rs:9886-10531`, `12797-13275`). -/
def step (guest : Guest) : Happening → Reply × Guest
  | .dial raw =>
      let (result, guest) := guest.spawnDialAs env raw none
      (dialReply result, guest)
  | .historyConnect label =>
      match guest.connectionHistory.codeOf label with
      | some code =>
          let (result, guest) := guest.spawnDialAs env code none
          (dialReply result, guest)
      | none => ({ result := .error .unknownPeer }, guest)
  | .submit password code remember draw =>
      onUnattendedSubmit env guest { text := password, shown := guest.connectPeer } code remember draw
  | .cancel => ({}, guest.onConnectCancel)
  | .leaveView peer =>
      let (result, guest) := leaveView env guest peer
      ({ result }, guest)
  | .historyRemove label =>
      let guest := guest.forgetPassword label
      ({}, { guest with connectionHistory := guest.connectionHistory.remove label })
  | .historyForgetPassword label => ({}, guest.forgetPassword label)
  | .historySetTrusted label trusted =>
      ({}, { guest with connectionHistory := guest.connectionHistory.setTrusted label trusted })
  | .dialed peer seq code result => ({}, guest.onDialed peer seq code result)
  | .inbound peer id kind draw =>
      let (deeds, guest) := onInbound env guest peer id kind draw
      ({ deeds }, guest)
  | .closed peer id ending => ({}, onClosed env guest peer id ending)
  | .connectRetryTick generation => ({}, guest.onConnectRetryTick env generation)
  | .reconnectWaitTick generation => ({}, guest.onReconnectWaitTick env generation)
  | .accepted control => ({}, guest.adopt control control.peer .accepted)
  | .keystore answers => ({}, { guest with keystoreAnswers := answers })
  | .elapse secs => ({}, { guest with now := guest.now + secs })

end Guest

/-!
## Dials in flight

A dial runs outside of the actor and reports back whenever it is done. The actor
knows the outcome by the host that was dialed, and by a number that it only looks
at where a wait or a goodbye carries it. This module keeps the dials that are in
flight beside the guest, and which of them the connect form has started last.
-/

/-- A dial that has not reported back (`network.rs:17860-17873`), by the order it was started in. -/
structure Flight where
  number : Nat
  peer : NodeId
  seq : UInt64
  code : String
  deriving DecidableEq

namespace Guest

/-- The invite code that an event dials with, if it dials. -/
def dialCode (guest : Guest) : Happening → Option String
  | .dial raw => some raw
  | .historyConnect label => guest.connectionHistory.codeOf label
  | .connectRetryTick _ => guest.connectRetry.map (·.code)
  | .reconnectWaitTick generation =>
      (guest.reconnectWaits.entries.find? (·.2.generation = generation)).bind fun entry =>
        guest.connectionHistory.codeOf entry.2.hostTag
  | _ => none

/-- The dial that an event starts: `spawn_dial_as` takes a number for each. -/
def starts (env : GuestEnv) (guest : Guest) (happening : Happening) : Option (NodeId × String) :=
  if (guest.step env happening).2.dialSeq = guest.dialSeq then none
  else
    (guest.dialCode happening).bind fun code =>
      (env.issuer code).toOption.map fun host => (host, code)

end Guest

/-- The guest with its dials: those in flight, how many were started, and which was the last that
was the connect form's own. -/
structure Dials where
  guest : Guest
  flights : List Flight := []
  started : Nat := 0
  formLatest : Option Nat := none

namespace Dials

/-- The guest when it starts. -/
def new (rows : ConnectionHistory) (stored : List (String × String)) : Dials :=
  { guest := .new rows stored }

inductive Op where
  | happens (happening : Guest.Happening)
  /-- A dial in flight reports back. -/
  | lands (number : Nat) (result : Except DialError Control)

/-- The guest after an event, with the dial that it has started. A dial of a host that is waited for
is that wait's, any other is the form's (`network.rs:17755`). -/
def launch (dials : Dials) (guest : Guest) : Option (NodeId × String) → Dials
  | none => { dials with guest }
  | some (host, code) =>
      { guest
        flights := { number := dials.started, peer := host, seq := guest.dialSeq, code }
          :: dials.flights
        started := dials.started + 1
        formLatest :=
          if (guest.reconnectWaits.lookup host).isSome then dials.formLatest
          else some dials.started }

/-- The dial in flight with this number. -/
def flight (dials : Dials) (number : Nat) : Option Flight :=
  dials.flights.find? (·.number = number)

/-- One step of the guest. Only a dial in flight reports back. -/
def step (env : GuestEnv) (dials : Dials) : Op → Guest.Reply × Dials
  | .happens (.dialed ..) => ({}, dials)
  | .happens happening =>
      let (reply, guest) := dials.guest.step env happening
      (reply, dials.launch guest (dials.guest.starts env happening))
  | .lands number result =>
      match dials.flight number with
      | some flight =>
          ({}, { dials with
            guest := dials.guest.onDialed flight.peer flight.seq flight.code result
            flights := dials.flights.erase flight })
      | none => ({}, dials)

end Dials

end Lumepeer.Runtime
