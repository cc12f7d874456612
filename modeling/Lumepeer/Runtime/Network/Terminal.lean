import Lumepeer.Core.Message
import Lumepeer.Lib.Bytes
import Lumepeer.Lib.HashMap
import Lumepeer.Lib.Run

/-!
# Shells of a host in the windows of a guest

A guest asks its host for shells on the control connection and reads what they
print on `rd/term/1` (`crates/runtime/src/network.rs`). Each of the two connections
keeps its order and neither waits for the other. What is typed into a shell, its
size and the loss of a connection are left out.

`Ask` names what the wire does not: the ask that a shell was started for. It
travels with every message about the shell, and no function of the source reads
it.
-/

namespace Lumepeer.Runtime
open Lumepeer.Lib Lumepeer.Core

/-- `ShellId` (`net/src/terminal.rs:44`). -/
abbrev ShellId := UInt32

/-- `TerminalWindow` (`view.rs:1128-1136`). -/
inductive TerminalWindow where
  | session
  | beside
  deriving DecidableEq

/-- `#[default]` (`view.rs:1131`). -/
instance : Inhabited TerminalWindow := ⟨.session⟩

/-- One ask of a window for a shell. -/
structure Ask where
  number : Nat
  window : TerminalWindow
  /-- How many windows of this kind had closed before. -/
  opening : Nat
  deriving DecidableEq

/-- `TerminalRecord` (`network.rs:4065-4072`), with the ask of its shell. -/
structure TerminalRecord where
  shell : ShellId
  event : UInt8
  payload : List UInt8
  ask : Option Ask
  deriving DecidableEq

/-- `TERMINAL_EVENT_OPENED` (`network.rs:4075`). -/
def terminalEventOpened : UInt8 := 1

/-- `TERMINAL_EVENT_CLOSED` (`network.rs:4077`). -/
def terminalEventClosed : UInt8 := 2

/-- `TERMINAL_EVENT_OUTPUT` (`network.rs:4079`). -/
def terminalEventOutput : UInt8 := 0

/-- `terminal_refusal_event` (`network.rs:4095-4102`). -/
def terminalRefusalEvent : TerminalRefusal → UInt8
  | .notGranted => 3
  | .tooMany => 4
  | .cannotDropPrivileges => 5
  | .unavailable => 6

/-- `ShellError` (`terminal/src/lib.rs:95-106`). -/
inductive ShellError where
  | cannotDropPrivileges
  | unavailable
  deriving DecidableEq

/-- A message of the guest about shells. -/
inductive ToHost where
  | openRequest (cols rows : UInt16) (ask : Ask)
  | close (sessionId : ShellId)
  deriving DecidableEq

/-- A message of the host about shells. -/
inductive ToGuest where
  | openResponse (sessionId : ShellId) (refused : Option TerminalRefusal) (ask : Ask)
  | close (sessionId : ShellId) (ask : Ask)
  deriving DecidableEq

/-- `TerminalWrite` (`network.rs:4025-4030`). -/
inductive TerminalWrite where
  | data (shell : ShellId) (payload : List UInt8) (ask : Ask)
  | close (shell : ShellId)
  deriving DecidableEq

/-- A value of `shell_windows`, with the ask of the shell. -/
structure ShellWindow where
  window : TerminalWindow
  ask : Ask
  deriving DecidableEq

/-- The guest's side. -/
structure TerminalGuest where
  /-- `terminal_to_host`. -/
  terminalToHost : Bool := true
  /-- `terminal_asks`. -/
  asks : List (Option TerminalWindow) := []
  shellWindows : HashMap ShellId ShellWindow := ∅
  /-- `terminal_pending`; a window without a queue has an empty one. -/
  pending : TerminalWindow → List TerminalRecord := fun _ => []
  /-- The terminal connection was dialed. -/
  dialed : Bool := false
  /-- How many asks there were. -/
  asked : Nat := 0
  /-- How many windows of each kind have closed. -/
  openings : TerminalWindow → Nat := fun _ => 0
  /-- Every shell that was opened for a window, newest first. -/
  opened : List (ShellId × Ask) := []

namespace TerminalGuest

/-- The record is output of `shell`. -/
def isOutput (shell : ShellId) (record : TerminalRecord) : Bool :=
  record.shell = shell && record.event = terminalEventOutput

/-- The bytes of `shell` in a queue (`network.rs:9237-9241`). -/
def heldBytes (shell : ShellId) (queue : List TerminalRecord) : Nat :=
  ((queue.filter (isOutput shell)).map (·.payload.length)).sum

/-- The loop that drops the oldest output of a shell (`network.rs:9247-9255`). -/
def scrollOff (shell : ShellId) : Nat → List TerminalRecord → List TerminalRecord
  | _, [] => []
  | held, record :: queue =>
      if held ≤ terminalScrollbackBytes then record :: queue
      else if isOutput shell record then scrollOff shell (held - record.payload.length) queue
      else record :: scrollOff shell held queue

/-- `Actor::queue_terminal` (`network.rs:9223-9251`). -/
def queueTerminal (guest : TerminalGuest) (window : TerminalWindow) (record : TerminalRecord) :
    TerminalGuest :=
  let queue := guest.pending window ++ [record]
  { guest with
    pending := Function.update guest.pending window
      (scrollOff record.shell (heldBytes record.shell queue) queue) }

/-- `Actor::window_of_shell` (`network.rs:9285-9290`). -/
def windowOfShell (guest : TerminalGuest) (shell : ShellId) : TerminalWindow :=
  ((guest.shellWindows.lookup shell).map (·.window)).getD default

/-- `Actor::queue_terminal_closed` (`network.rs:9294-9300`). -/
def queueTerminalClosed (guest : TerminalGuest) (shell : ShellId) (ask : Option Ask) :
    TerminalGuest :=
  { guest with shellWindows := guest.shellWindows.erase shell }.queueTerminal
    (guest.windowOfShell shell) { shell, event := terminalEventClosed, payload := [], ask }

/-- `Actor::on_terminal_frame` (`network.rs:9165-9176`), where this node runs no shell itself. -/
def onTerminalFrame (guest : TerminalGuest) (shell : ShellId) (payload : List UInt8) (ask : Ask) :
    TerminalGuest :=
  guest.queueTerminal (guest.windowOfShell shell)
    { shell, event := terminalEventOutput, payload, ask := some ask }

/-- `Actor::on_terminal_open_response` (`network.rs:9179-9214`). -/
def onTerminalOpenResponse (guest : TerminalGuest) (sessionId : ShellId)
    (refused : Option TerminalRefusal) (ask : Ask) : List ToHost × TerminalGuest :=
  let guest' := { guest with asks := guest.asks.tail }
  match guest.asks.head?.getD (some default) with
  | none => (if refused.isNone then [.close sessionId] else [], guest')
  | some window =>
      match refused with
      | some reason =>
          ([], guest'.queueTerminal window
            { shell := 0, event := terminalRefusalEvent reason, payload := [], ask := some ask })
      | none =>
          ([], { guest' with
            dialed := true
            shellWindows := guest.shellWindows.insert sessionId { window, ask }
            opened := (sessionId, ask) :: guest.opened }.queueTerminal window
              { shell := sessionId, event := terminalEventOpened, payload := [], ask := some ask })

/-- `Actor::on_terminal_open` (`network.rs:9381-9408`). -/
def onTerminalOpen (guest : TerminalGuest) (window : TerminalWindow) (cols rows : UInt16) :
    List ToHost × TerminalGuest :=
  if !guest.terminalToHost then ([], guest)
  else
    match checkTerminalSize cols rows with
    | .error _ => ([], guest)
    | .ok _ =>
        ([.openRequest cols rows
            { number := guest.asked, window, opening := guest.openings window }],
          { guest with asks := guest.asks ++ [some window], asked := guest.asked + 1 })

/-- `Actor::on_terminal_close` (`network.rs:9495-9500`). -/
def onTerminalClose (guest : TerminalGuest) (shell : ShellId) : List ToHost × TerminalGuest :=
  ([.close shell], guest.queueTerminalClosed shell (guest.opened.lookup shell))

/-- `Actor::on_terminal_window_closed` (`network.rs:9469-9492`). -/
def onTerminalWindowClosed (guest : TerminalGuest) (window : TerminalWindow) :
    List ToHost × TerminalGuest :=
  (((guest.shellWindows.entries.filter (·.2.window = window)).map (·.1)).map .close,
    { guest with
      shellWindows := guest.shellWindows.retain (fun _ held => held.window ≠ window)
      asks := guest.asks.map fun asked => if asked = some window then none else asked
      pending := Function.update guest.pending window []
      openings := Function.update guest.openings window (guest.openings window + 1) })

/-- The records that `terminal_drain` returns (`network.rs:9265-9272`). -/
def drained (guest : TerminalGuest) (window : TerminalWindow) : List TerminalRecord :=
  (guest.pending window).take
    (if (guest.pending window).length < 2 ^ 16 then (guest.pending window).length else 2 ^ 16 - 1)

/-- One record as `terminal_drain` writes it (`network.rs:9273-9277`). -/
def recordBytes (record : TerminalRecord) : List UInt8 :=
  let length := if record.payload.length < 2 ^ 32 then record.payload.length else 0
  toLeBytes32 record.shell ++ [record.event] ++ toLeBytes32 (UInt32.ofNat length) ++ record.payload

/-- `Actor::terminal_drain` (`network.rs:9259-9280`). -/
def terminalDrain (guest : TerminalGuest) (window : TerminalWindow) : List UInt8 × TerminalGuest :=
  (toLeBytes16 (UInt16.ofNat (guest.drained window).length) ++
      (guest.drained window).flatMap recordBytes,
    { guest with pending := Function.update guest.pending window [] })

end TerminalGuest

/-- The host's side, as far as this guest goes. -/
structure TerminalHost where
  /-- `speaks_terminal`. -/
  speaksTerminal : Bool := true
  /-- `shells`, each with the ask it was started for. -/
  shells : HashMap ShellId Ask := ∅
  nextShell : ShellId := 1
  /-- The threads that read from a shell (`network.rs:9135-9155`). -/
  readers : List (ShellId × Ask) := []
  /-- The `ShellEnded` events on their way to the actor. -/
  ended : List ShellId := []

/-- What a step of the host puts on the two connections. -/
structure HostOut where
  sent : List ToGuest := []
  frames : List TerminalWrite := []

namespace TerminalHost

/-- `next_shell.wrapping_add(1).max(1)` (`network.rs:9090`). -/
def advance (id : ShellId) : ShellId := max (id + 1) 1

/-- `Actor::end_shell` (`network.rs:9320-9339`). -/
def endShell (host : TerminalHost) (shell : ShellId) (announce : Bool) : HostOut × TerminalHost :=
  match host.shells.lookup shell with
  | none => ({}, host)
  | some ask =>
      ({ sent := if announce then [.close shell ask] else []
         frames := [.close shell] },
        { host with shells := host.shells.erase shell })

/-- `Actor::on_terminal_open_request` (`network.rs:9057-9102`); `granted` is what `terminal_allows`
answers and `spawned` what `spawn_shell` does. -/
def onTerminalOpenRequest (host : TerminalHost) (ask : Ask) (granted : Bool)
    (spawned : Except ShellError Unit) : HostOut × TerminalHost :=
  if !host.speaksTerminal then ({}, host)
  else if !granted then ({ sent := [.openResponse 0 (some .notGranted) ask] }, host)
  else if host.shells.entries.length ≥ maxTerminalsPerSession then
    ({ sent := [.openResponse 0 (some .tooMany) ask] }, host)
  else
    match spawned with
    | .error .cannotDropPrivileges =>
        ({ sent := [.openResponse 0 (some .cannotDropPrivileges) ask] }, host)
    | .error .unavailable => ({ sent := [.openResponse 0 (some .unavailable) ask] }, host)
    | .ok _ =>
        ({ sent := [.openResponse host.nextShell none ask] },
          { host with
            nextShell := advance host.nextShell
            shells := host.shells.insert host.nextShell ask
            readers := host.readers ++ [(host.nextShell, ask)] })

end TerminalHost

/-- The guest and the host, and what is on its way between them. -/
structure Terminals where
  guest : TerminalGuest := {}
  host : TerminalHost := {}
  toHost : List ToHost := []
  toGuest : List ToGuest := []
  /-- On the terminal connection, or waiting for it. -/
  frames : List TerminalWrite := []
  /-- What the shells have printed so far. -/
  printed : List (Ask × List UInt8) := []
  /-- What each window has read since it opened. -/
  read : TerminalWindow → List TerminalRecord := fun _ => []

namespace Terminals

/-- What happens. -/
inductive Happening where
  | opens (window : TerminalWindow) (cols rows : UInt16)
  | drains (window : TerminalWindow)
  | closes (shell : ShellId)
  | windowCloses (window : TerminalWindow)
  /-- The next control message reaches the guest. -/
  | guestReads
  /-- The next frame reaches the guest. -/
  | frame
  /-- The next control message reaches the host. -/
  | hostReads (granted : Bool) (spawned : Except ShellError Unit)
  /-- A thread reads what its shell printed. -/
  | prints (reader : Nat) (payload : List UInt8)
  /-- A thread reads the end of its shell. -/
  | exits (reader : Nat)
  /-- The host hears of the end of a shell. -/
  | shellEnded (position : Nat)
  /-- A shell is started for another guest. -/
  | otherShell

/-- The guest has taken a step. -/
def guestSends (state : Terminals) (result : List ToHost × TerminalGuest) : Terminals :=
  { state with guest := result.2, toHost := state.toHost ++ result.1 }

/-- The host has taken a step. -/
def hostSends (state : Terminals) (result : HostOut × TerminalHost) : Terminals :=
  { state with
    host := result.2
    toGuest := state.toGuest ++ result.1.sent
    frames := state.frames ++ result.1.frames }

/-- One step, and what a drain returns in it. -/
def step (state : Terminals) : Happening → List TerminalRecord × Terminals
  | .opens window cols rows => ([], state.guestSends (state.guest.onTerminalOpen window cols rows))
  | .drains window =>
      (state.guest.drained window,
        { state with
          guest := (state.guest.terminalDrain window).2
          read := Function.update state.read window
            (state.read window ++ state.guest.drained window) })
  | .closes shell => ([], state.guestSends (state.guest.onTerminalClose shell))
  | .windowCloses window =>
      ([], { state.guestSends (state.guest.onTerminalWindowClosed window) with
        read := Function.update state.read window [] })
  | .guestReads =>
      match state.toGuest with
      | [] => ([], state)
      | .openResponse sessionId refused ask :: rest =>
          ([], { state with toGuest := rest }.guestSends
            (state.guest.onTerminalOpenResponse sessionId refused ask))
      | .close sessionId ask :: rest =>
          ([], { state with
            toGuest := rest
            guest := state.guest.queueTerminalClosed sessionId (some ask) })
  | .frame =>
      if !state.guest.dialed then ([], state)
      else
        match state.frames with
        | [] => ([], state)
        | .data shell payload ask :: rest =>
            ([], { state with
              frames := rest
              guest := state.guest.onTerminalFrame shell payload ask })
        -- The end of a shell that the guest does not run.
        | .close _ :: rest => ([], { state with frames := rest })
  | .hostReads granted spawned =>
      match state.toHost with
      | [] => ([], state)
      | .openRequest _ _ ask :: rest =>
          ([], { state with toHost := rest }.hostSends
            (state.host.onTerminalOpenRequest ask granted spawned))
      | .close sessionId :: rest =>
          ([], { state with toHost := rest }.hostSends (state.host.endShell sessionId false))
  | .prints reader payload =>
      match state.host.readers[reader]? with
      | none => ([], state)
      | some (shell, ask) =>
          -- A read of nothing is the end of the shell, and the buffer bounds what one read takes.
          if payload = [] ∨ terminalOutputMaxBytes < payload.length then ([], state)
          else
            ([], { state with
              frames := state.frames ++ [.data shell payload ask]
              printed := state.printed ++ [(ask, payload)] })
  | .exits reader =>
      match state.host.readers[reader]? with
      | none => ([], state)
      | some (shell, _) =>
          ([], { state with
            frames := state.frames ++ [.close shell]
            host := { state.host with
              readers := state.host.readers.eraseIdx reader
              ended := state.host.ended ++ [shell] } })
  | .shellEnded position =>
      match state.host.ended[position]? with
      | none => ([], state)
      | some shell =>
          ([], { state with host := { state.host with ended := state.host.ended.eraseIdx position } }.hostSends
            ({ state.host with ended := state.host.ended.eraseIdx position }.endShell shell true))
  | .otherShell =>
      ([], { state with
        host := { state.host with nextShell := TerminalHost.advance state.host.nextShell } })

end Terminals

end Lumepeer.Runtime
