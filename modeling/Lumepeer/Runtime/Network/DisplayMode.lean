import Lumepeer.Lib.Run
import Lumepeer.Runtime.Network.Sessions

/-!
# Guests that switch the monitor to another mode

The one switch of the monitor's mode that may stand at a host of
`crates/runtime/src/network.rs`, and what undoes it. The monitor changes its mode
when `set_display_mode` is called and succeeds, and at no other time. A switch
bears a number that the source does not have and that nothing here reads.
-/

namespace Lumepeer.Runtime
open Lumepeer.Lib Lumepeer.Core

/-- `DisplayMode` (`media/src/capture/mod.rs:267-274`). -/
structure DisplayMode where
  width : UInt32
  height : UInt32
  refreshHz : UInt32
  deriving DecidableEq

/-- `DisplayModeState` (`network.rs:4620-4638`). -/
structure DisplayModeState where
  original : DisplayMode
  owner : NodeId
  generation : UInt64
  switch : Nat
  deriving DecidableEq

/-- A task of `arm_display_mode_confirm_timeout` (`network.rs:9596-9604`). -/
structure ConfirmTimeout where
  generation : UInt64
  switch : Nat
  deriving DecidableEq

/-- What the platform answers during one step. -/
structure Platform where
  /-- `display_modes`. -/
  modes : List DisplayMode := []
  /-- `current_display_mode` can be read. -/
  reads : Bool := true
  /-- A mode that a guest asks for can be set. -/
  applies : Bool := true
  /-- The original mode can be set again. -/
  restores : Bool := true

/-- The host, its monitor and the switch that stands. -/
structure Displays where
  host : Host
  monitor : DisplayMode
  displayModeState : Option DisplayModeState := none
  displayModeGeneration : UInt64 := 0
  timeouts : List ConfirmTimeout := []
  /-- How many switches there were. -/
  switches : Nat := 0

/-- `should_auto_revert_display_mode` (`network.rs:325-331`). -/
def shouldAutoRevertDisplayMode (currentGeneration : Option UInt64) (timedOutGeneration : UInt64)
    (healthySinceArmed : Bool) : Bool :=
  currentGeneration = some timedOutGeneration && !healthySinceArmed

namespace Displays

/-- The actor when it starts. -/
def new (plan : Plan) (hosting : Bool) (monitor : DisplayMode) : Displays :=
  { host := .new plan hosting, monitor }

/-- `Actor::restore_display_mode` (`network.rs:9643-9659`). -/
def restoreDisplayMode (state : Displays) (platform : Platform) : Displays :=
  match state.displayModeState with
  | none => state
  | some switched =>
      { state with
        displayModeState := none
        monitor := if platform.restores then switched.original else state.monitor }

/-- The mode that a switch is undone to (`network.rs:9556-9567`). -/
def originalMode (state : Displays) (platform : Platform) : Option DisplayMode :=
  match state.displayModeState with
  | some switched => some switched.original
  | none => if platform.reads then some state.monitor else none

/-- `Actor::on_display_set_mode` (`network.rs:9520-9586`). -/
def onDisplaySetMode (state : Displays) (peer : NodeId) (modeId : UInt32) (platform : Platform) :
    Displays :=
  let granted := (state.host.connections.lookup peer).isSome
    && state.host.sessions.state peer = .active
    && (state.host.sessions.grants peer).any (·.displayMode)
  if !granted then state
  else
    match platform.modes[modeId.toNat]? with
    | none => state
    | some mode =>
        match state.originalMode platform with
        | none => state
        | some original =>
            if !platform.applies then state
            else
              let generation := state.displayModeGeneration + 1
              { state with
                monitor := mode
                displayModeGeneration := generation
                switches := state.switches + 1
                displayModeState :=
                  some { original, owner := peer, generation, switch := state.switches + 1 }
                timeouts := state.timeouts ++ [{ generation, switch := state.switches + 1 }] }

/-- `Actor::on_display_mode_confirm_timeout` (`network.rs:9615-9634`). -/
def onDisplayModeConfirmTimeout (state : Displays) (generation : UInt64) (healthy : Bool)
    (platform : Platform) : Displays :=
  let healthy := state.displayModeState.isSome && healthy
  if !shouldAutoRevertDisplayMode (state.displayModeState.map (·.generation)) generation healthy then
    state
  else state.restoreDisplayMode platform

/-- The switch of a peer that loses its connection or its grant is undone (`network.rs:12648-12654`,
`16288-16295`). -/
def restoreIfOwner (state : Displays) (peer : NodeId) (platform : Platform) : Displays :=
  if state.displayModeState.any (·.owner = peer) then state.restoreDisplayMode platform else state

/-- `Actor::on_set_grant` (`network.rs:16205-16328`), as far as the monitor goes. -/
def onSetGrant (state : Displays) (peer : NodeId) (which : IndependentGrant) (allowed : Bool)
    (platform : Platform) : Displays :=
  match state.host.sessions.setGrant peer which allowed with
  | (.error _, _) => state
  | (.ok _, sessions) =>
      let state := { state with host := { state.host with sessions } }
      if !allowed && which = .displayMode then state.restoreIfOwner peer platform else state

/-- The peer whose connection `on_closed` takes down. -/
def closes (host : Host) : Host.Happening → Option NodeId
  | .closed peer id _ _ => if (host.connections.lookup peer).any (·.id ≠ id) then none else some peer
  | .handshaked shake =>
      if host.restarting then none
      else
        match shake.resumeClaim with
        | none => none
        | some claim =>
            if (host.connections.lookup shake.peer).any (·.sessionId = claim) then some shake.peer
            else none
  | _ => none

/-- What happens. -/
inductive Happening where
  | host (happening : Host.Happening) (platform : Platform)
  /-- A timeout of a switch reports back; `healthy` is what `healthy_since` answers. -/
  | confirmTimeout (position : Nat) (healthy : Bool) (platform : Platform)

/-- What the platform answers in a step. -/
def Happening.platform : Happening → Platform
  | .host _ platform | .confirmTimeout _ _ platform => platform

/-- One step of the actor. -/
def step (state : Displays) : Happening → Unit × Displays
  | .host (.inbound peer id (.displaySetMode modeId) verdict) platform =>
      let after := { state with
        host := (state.host.step (.inbound peer id (.displaySetMode modeId) verdict)).2 }
      ((), if state.host.delivers peer id (.displaySetMode modeId) then
          after.onDisplaySetMode peer modeId platform
        else after)
  | .host (.setGrant peer which allowed) platform => ((), state.onSetGrant peer which allowed platform)
  | .host happening platform =>
      let after := { state with host := (state.host.step happening).2 }
      ((), match closes state.host happening with
        | none => after
        | some peer => after.restoreIfOwner peer platform)
  | .confirmTimeout position healthy platform =>
      match state.timeouts[position]? with
      | none => ((), state)
      | some timeout =>
          ((), { state with timeouts := state.timeouts.eraseIdx position }.onDisplayModeConfirmTimeout
            timeout.generation healthy platform)

end Displays

end Lumepeer.Runtime
