import Lumepeer.Lib.Run
import Lumepeer.Runtime.Network.Sessions

/-!
# Guests that ask the machine to go down

The one reboot that may be pending at a host of `crates/runtime/src/network.rs`,
from the message that asks for it over the warning window to the call of
`system_power::go_down`. Time passes in steps of its own and a countdown reports
back at any time after it is due.
-/

namespace Lumepeer.Runtime
open Lumepeer.Lib Lumepeer.Core

/-- `RebootOutcome` (`core/src/audit.rs:19-32`), as far as the window of a reboot goes. -/
inductive RebootOutcome where
  | refused
  | warned
  | cancelled
  /-- `go_down` is called. -/
  | started
  deriving DecidableEq

/-- What `audit_reboot` writes down. -/
structure RebootAudit where
  peer : NodeId
  mode : RebootMode
  outcome : RebootOutcome
  deriving DecidableEq

/-- `PendingReboot` (`network.rs:6163-6175`). -/
structure PendingReboot where
  peer : NodeId
  mode : RebootMode
  generation : UInt64
  deriving DecidableEq

/-- A task of `arm_reboot_countdown` (`network.rs:16755-16763`), with the second it is due. -/
structure RebootCountdown where
  generation : UInt64
  due : Nat
  deriving DecidableEq

/-- The host and the reboot that is pending. -/
structure Reboots where
  host : Host
  pendingReboot : Option PendingReboot := none
  rebootGeneration : UInt64 := 0
  countdowns : List RebootCountdown := []
  /-- The seconds that have passed. -/
  now : Nat := 0

namespace Reboots

/-- The actor when it starts. -/
def new (plan : Plan) (hosting : Bool) : Reboots := { host := .new plan hosting }

/-- `Actor::on_reboot_request` (`network.rs:16711-16748`). -/
def onRebootRequest (state : Reboots) (peer : NodeId) (mode : RebootMode) :
    Option RebootAudit × Reboots :=
  if !state.host.sessions.rebootAllows peer then
    (some { peer, mode, outcome := .refused }, state)
  else if state.pendingReboot.isSome then (none, state)
  else
    let generation := state.rebootGeneration + 1
    (some { peer, mode, outcome := .warned }, { state with
      rebootGeneration := generation
      pendingReboot := some { peer, mode, generation }
      countdowns := state.countdowns ++ [{ generation, due := state.now + rebootWarningSecs }] })

/-- `Actor::on_reboot_countdown_elapsed` (`network.rs:16770-16808`). -/
def onRebootCountdownElapsed (state : Reboots) (generation : UInt64) :
    Option RebootAudit × Reboots :=
  match state.pendingReboot with
  | none => (none, state)
  | some pending =>
      if pending.generation ≠ generation then (none, state)
      else
        let state := { state with pendingReboot := none }
        if !state.host.sessions.rebootAllows pending.peer then
          (some { peer := pending.peer, mode := pending.mode, outcome := .cancelled }, state)
        else (some { peer := pending.peer, mode := pending.mode, outcome := .started }, state)

/-- `Actor::on_reboot_cancel` (`network.rs:16829-16841`). -/
def onRebootCancel (state : Reboots) : Option RebootAudit × Reboots :=
  match state.pendingReboot with
  | none => (none, state)
  | some pending =>
      (some { peer := pending.peer, mode := pending.mode, outcome := .cancelled }, { state with
        pendingReboot := none
        rebootGeneration := state.rebootGeneration + 1 })

/-- `Actor::on_set_grant` (`network.rs:16205-16328`), as far as reboots go. -/
def onSetGrant (state : Reboots) (peer : NodeId) (which : IndependentGrant) (allowed : Bool) :
    Option RebootAudit × Reboots :=
  match state.host.sessions.setGrant peer which allowed with
  | (.error _, _) => (none, state)
  | (.ok _, sessions) =>
      let state := { state with host := { state.host with sessions } }
      if !allowed && which = .reboot && state.pendingReboot.any (·.peer = peer) then
        state.onRebootCancel
      else (none, state)

/-- What happens. -/
inductive Happening where
  /-- Something happens to the connections and sessions, or a message comes in. -/
  | host (happening : Host.Happening)
  /-- The person at the machine stops the reboot. -/
  | cancel
  /-- A countdown that is due reports back. -/
  | elapsed (position : Nat)
  | wait (secs : Nat)

/-- One step of the actor. -/
def step (state : Reboots) : Happening → Option RebootAudit × Reboots
  | .host (.inbound peer id (.rebootRequest mode) verdict) =>
      let after := { state with
        host := (state.host.step (.inbound peer id (.rebootRequest mode) verdict)).2 }
      if state.host.delivers peer id (.rebootRequest mode) then after.onRebootRequest peer mode
      else (none, after)
  | .host (.setGrant peer which allowed) => state.onSetGrant peer which allowed
  | .host happening => (none, { state with host := (state.host.step happening).2 })
  | .cancel => state.onRebootCancel
  | .elapsed position =>
      match state.countdowns[position]? with
      | none => (none, state)
      | some countdown =>
          if state.now < countdown.due then (none, state)
          else
            { state with countdowns := state.countdowns.eraseIdx position }.onRebootCountdownElapsed
              countdown.generation
  | .wait secs => (none, { state with now := state.now + secs })

end Reboots

end Lumepeer.Runtime
