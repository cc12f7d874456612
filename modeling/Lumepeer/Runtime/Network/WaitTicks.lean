import Lumepeer.Runtime.Network.Credentials

/-!
# The ticks of the waits

The timers that `crates/runtime/src/network.rs` arms for the waits of a guest: for
each function that arms one, which it arms, read off the same state as the function
itself, and the machine of a guest and its armed timers. A timer fires once, when it
is due or later, and there are no other ticks.
-/

namespace Lumepeer.Runtime
open Lumepeer.Lib Lumepeer.Core

/-- `REBOOT_WAIT_RETRY_SECS` (`constants.rs:1384`). -/
def rebootWaitRetrySecs : Nat := 15

/-- `HOST_RESTART_REDIAL_SECS` (`constants.rs:1415`). -/
def hostRestartRedialSecs : Nat := 2

/-- `RESUME_RETRY_SECS` (`constants.rs:1432`). -/
def resumeRetrySecs : Nat := 3

/-- A `ReconnectWaitTick` that is armed, and the second it is due in. -/
structure WaitTimer where
  generation : UInt64
  due : Nat
  deriving DecidableEq

namespace Guest

/-- `Actor::arm_reconnect_wait` (`network.rs:17285-17293`). -/
def armReconnectWait (guest : Guest) (generation : UInt64) (afterSecs : Nat) : WaitTimer where
  generation := generation
  due := guest.now + afterSecs

/-- What `start_reconnect_wait` arms (`network.rs:16967-16980`). -/
def startArms (guest : Guest) (resume : Option SessionId) (sessionOver : Bool) : List WaitTimer :=
  let firstAttemptSecs :=
    if sessionOver then hostRestartRedialSecs
    else if resume.isSome then resumeRetrySecs
    else reconnectWindowSecs
  [guest.armReconnectWait (guest.reconnectWaitGeneration + 1) firstAttemptSecs]

/-- What `on_resume_refused` arms (`network.rs:16992-17011`). -/
def refusedArms (guest : Guest) (peer : NodeId) : List WaitTimer :=
  match guest.reconnectWaits.lookup peer with
  | none => []
  | some wait =>
      if (guest.connectionHistory.codeOf wait.hostTag).isSome then
        [guest.armReconnectWait wait.generation 1]
      else []

/-- What `resume_tick` arms (`network.rs:17031-17070`). -/
def resumeTickArms (guest : Guest) (wait : ReconnectWait) : List WaitTimer :=
  if guest.now - wait.startedAt ≥ reconnectWindowSecs then []
  else if wait.dialing || (guest.connections.lookup wait.peer).isSome then
    [guest.armReconnectWait wait.generation resumeRetrySecs]
  else if (guest.connectionHistory.codeOf wait.hostTag).isSome then
    [guest.armReconnectWait wait.generation resumeRetrySecs]
  else []

/-- What the rest of a tick arms (`network.rs:17472-17552`). -/
def waitTickArms (guest : Guest) (wait : ReconnectWait) : List WaitTimer :=
  if guest.connectPeer = some wait.peer ∧ (guest.connectPhase = .denied
      ∨ guest.connectPhase = .failed ∨ guest.connectFailure.isSome) then []
  else if !wait.refused && guest.now - wait.startedAt < reconnectWindowSecs then
    [guest.armReconnectWait wait.generation
      (max (reconnectWindowSecs - (guest.now - wait.startedAt)) 1)]
  else if guest.now - wait.startedAt ≥ rebootWaitCeilingSecs then []
  else if wait.dialing || (guest.connections.lookup wait.peer).isSome then
    [guest.armReconnectWait wait.generation rebootWaitRetrySecs]
  else if (guest.connectionHistory.codeOf wait.hostTag).isSome then
    [guest.armReconnectWait wait.generation rebootWaitRetrySecs]
  else []

/-- What `on_reconnect_wait_tick` arms (`network.rs:17453-17553`). -/
def tickArms (env : GuestEnv) (guest : Guest) (generation : UInt64) : List WaitTimer :=
  match guest.reconnectWaits.entries.find? (·.2.generation = generation) with
  | none => []
  | some ⟨_, wait⟩ =>
      if wait.resume.isSome then
        match guest.resumeTick env wait with
        | (true, _) => guest.resumeTickArms wait
        | (false, guest) => guest.waitTickArms wait
      else guest.waitTickArms wait

/-- What the end of a connection arms once the form is settled (`network.rs:12739-12776`). -/
def waitAfterCloseArms (env : GuestEnv) (guest : Guest) (peer : NodeId) (resume : Option SessionId)
    (wasWatching sessionOver hostRestarting resumeRefused : Bool) : List WaitTimer :=
  if wasWatching then
    (guest.endView env peer true).startArms (if sessionOver then none else resume) sessionOver
  else
    let guest := guest.endView env peer false
    if hostRestarting && ((guest.reconnectWaits.lookup peer).isSome || guest.parkedViews peer) then
      guest.startArms none true
    else if resumeRefused then guest.refusedArms peer
    else []

/-- What `on_closed` arms (`network.rs:12587-12789`). -/
def closedArms (env : GuestEnv) (guest : Guest) (peer : NodeId) (id : UInt64) (ending : Ending) :
    List WaitTimer :=
  let closed := guest.connections.lookup peer
  if closed.any (·.id ≠ id) then []
  else
    let guest := { guest with connections := guest.connections.erase peer }
    let guest := guest.forgetCredentialExchange peer
    let wasWatching := guest.views peer
    let resumingOverThis :=
      !wasWatching && (guest.reconnectWaits.lookup peer).any (·.resume.isSome)
    let resumeRefused := resumingOverThis && closed.isSome && ending = .resumeRefused
    let hostRestarting := closed.isSome && ending = .restarting
    let sessionOver := hostRestarting || closed.any (sleptPastResume ·.lastHeard guest.now)
    let guest := guest.settleClosed peer wasWatching (closed.isSome && ending.byPeer)
    let resume := (closed.filter (·.peerMinor ≥ sessionResumeMinor)).map (·.sessionId)
    waitAfterCloseArms env guest peer resume wasWatching sessionOver hostRestarting resumeRefused

/-- What `on_dialed` arms for a dial that is wanted (`network.rs:17923-17935`). -/
def connectedArms (guest : Guest) (peer : NodeId) (result : Except DialError Control) :
    List WaitTimer :=
  let resuming := (guest.reconnectWaits.lookup peer).any (·.resume.isSome)
  let guest := { guest with
    reconnectWaits := HashMap.modify peer (fun wait => { wait with dialing := false })
      guest.reconnectWaits }
  match result with
  | .error .reconnectRejected => if resuming then guest.refusedArms peer else []
  | _ => []

/-- What `on_dialed` arms (`network.rs:17887-18069`). -/
def dialedArms (guest : Guest) (peer : NodeId) (seq : UInt64) (result : Except DialError Control) :
    List WaitTimer :=
  if guest.leaving.lookup peer = some seq then []
  else
    let forWait := (guest.reconnectWaits.lookup peer).any fun wait =>
      wait.dialing && wait.dialSeq = seq
    if !forWait && guest.connectPeer ≠ some peer then [] else guest.connectedArms peer result

/-- What a step of the guest arms. -/
def arms (env : GuestEnv) (guest : Guest) : Happening → List WaitTimer
  | .dialed peer seq _ result => guest.dialedArms peer seq result
  | .closed peer id ending => closedArms env guest peer id ending
  | .reconnectWaitTick generation => guest.tickArms env generation
  | .dial _ | .historyConnect _ | .submit .. | .cancel | .leaveView _ | .historyRemove _
  | .historyForgetPassword _ | .historySetTrusted .. | .inbound .. | .connectRetryTick _
  | .accepted _ | .keystore _ | .elapse _ => []

end Guest

namespace WaitTicks

/-- A guest and the timers that are armed for its waits. -/
structure World where
  guest : Guest
  timers : List WaitTimer := []

/-- What happens: something at the guest other than a tick, or a timer fires. -/
inductive Op where
  | happens (happening : Guest.Happening)
  | fires (timer : WaitTimer)

/-- A guest when it starts. -/
def World.start (rows : ConnectionHistory) (stored : List (String × String)) : World where
  guest := Guest.new rows stored

/-- Something happens at the guest. -/
def World.next (env : GuestEnv) (world : World) (happening : Guest.Happening) :
    List WaitTimer × World :=
  let arms := world.guest.arms env happening
  (arms, { guest := (Guest.step env world.guest happening).2, timers := world.timers ++ arms })

/-- One step; it answers with the timers that it arms. -/
def World.step (env : GuestEnv) (world : World) : Op → List WaitTimer × World
  | .happens (.reconnectWaitTick _) => ([], world)
  | .happens happening => world.next env happening
  | .fires timer =>
      if timer ∈ world.timers ∧ timer.due ≤ world.guest.now then
        { world with timers := world.timers.erase timer }.next env
          (.reconnectWaitTick timer.generation)
      else ([], world)

end WaitTicks

end Lumepeer.Runtime
