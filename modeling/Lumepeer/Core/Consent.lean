import Mathlib.Data.List.Sort
import Lumepeer.Core.Basic
import Lumepeer.Lib.HashMap

/-!
# Roles, grants, consent queue and rate limit

The consent model of `crates/core/src/consent.rs`. A function that takes
`&mut self` returns what it returns beside the next state, and one that reads
the monotonic clock takes the reading as an argument.
-/

namespace Lumepeer.Core
open Lumepeer.Lib

/-- `Role` (`consent.rs:20-27`). -/
inductive Role where
  | viewOnly
  | controlLimited
  | fullControl
  deriving DecidableEq, Repr

/-- `Role::is_controller` (`consent.rs:32-34`). -/
def Role.isController : Role → Bool
  | .viewOnly => false
  | .controlLimited => true
  | .fullControl => true

/-- `SessionKind` (`consent.rs:47-53`). -/
inductive SessionKind where
  | screen
  | terminal
  deriving DecidableEq, Repr

/-- `Grants` (`consent.rs:63-163`); every flag defaults to `false`. -/
structure Grants where
  view : Bool := false
  input : Bool := false
  clipboardRead : Bool := false
  clipboardWrite : Bool := false
  fileTransfer : Bool := false
  fileBrowse : Bool := false
  recording : Bool := false
  displayMode : Bool := false
  secureDesktop : Bool := false
  tunnel : Bool := false
  terminal : Bool := false
  secureDesktopInput : Bool := false
  reboot : Bool := false
  deriving DecidableEq, Repr

/-- `IndependentGrant` (`consent.rs:173-197`). -/
inductive IndependentGrant where
  | clipboardRead
  | clipboardWrite
  | fileTransfer
  | fileBrowse
  | recording
  | displayMode
  | secureDesktop
  | secureDesktopInput
  | tunnel
  | terminal
  | reboot
  deriving DecidableEq, Repr

namespace Grants

/-- `Grants::from_role` (`consent.rs:224-261`). -/
def fromRole (role : Role) : Grants :=
  let full := role == .fullControl
  { view := true
    input := full
    clipboardRead := full
    clipboardWrite := full
    fileTransfer := full
    fileBrowse := full
    recording := full
    displayMode := full
    tunnel := full
    terminal := full
    secureDesktop := true
    secureDesktopInput := full
    reboot := full }

/-- `Grants::for_terminal` (`consent.rs:293-298`). -/
def forTerminal (role : Role) : Grants := { terminal := (fromRole role).terminal }

/-- `Grants::get` (`consent.rs:265-281`). -/
def get (grants : Grants) : IndependentGrant → Bool
  | .clipboardRead => grants.clipboardRead
  | .clipboardWrite => grants.clipboardWrite
  | .fileTransfer => grants.fileTransfer
  | .fileBrowse => grants.fileBrowse
  | .recording => grants.recording
  | .displayMode => grants.displayMode
  | .secureDesktop => grants.secureDesktop
  | .secureDesktopInput => grants.secureDesktopInput
  | .tunnel => grants.tunnel
  | .terminal => grants.terminal
  | .reboot => grants.reboot

/-- `Grants::set` (`consent.rs:301-315`). -/
def set (grants : Grants) (which : IndependentGrant) (allowed : Bool) : Grants :=
  match which with
  | .clipboardRead => { grants with clipboardRead := allowed }
  | .clipboardWrite => { grants with clipboardWrite := allowed }
  | .fileTransfer => { grants with fileTransfer := allowed }
  | .fileBrowse => { grants with fileBrowse := allowed }
  | .recording => { grants with recording := allowed }
  | .displayMode => { grants with displayMode := allowed }
  | .secureDesktop => { grants with secureDesktop := allowed }
  | .secureDesktopInput => { grants with secureDesktopInput := allowed }
  | .tunnel => { grants with tunnel := allowed }
  | .terminal => { grants with terminal := allowed }
  | .reboot => { grants with reboot := allowed }

@[simp] theorem set_view (grants : Grants) (which : IndependentGrant) (allowed : Bool) :
    (grants.set which allowed).view = grants.view := by
  cases which <;> rfl

@[simp] theorem set_input (grants : Grants) (which : IndependentGrant) (allowed : Bool) :
    (grants.set which allowed).input = grants.input := by
  cases which <;> rfl

/-- `set` moves the grant it names and no other. -/
theorem get_set (grants : Grants) (which other : IndependentGrant) (allowed : Bool) :
    (grants.set which allowed).get other =
      if other = which then allowed else grants.get other := by
  cases which <;> cases other <;> rfl

@[simp] theorem fromRole_input (role : Role) :
    (fromRole role).input = (role == .fullControl) := rfl

@[simp] theorem forTerminal_input (role : Role) : (forTerminal role).input = false := rfl

end Grants

/-- `ControlAction` (`consent.rs:325-334`). -/
inductive ControlAction where
  | pointerMove
  | pointerClick
  | scroll
  | keyPress
  deriving DecidableEq, Repr

/-- The derived `Ord` of `ControlAction`: declaration order. -/
def ControlAction.rank : ControlAction → Nat
  | .pointerMove => 0
  | .pointerClick => 1
  | .scroll => 2
  | .keyPress => 3

/-- `ControlAction::of` (`consent.rs:339-352`). -/
def ControlAction.of (event : InputEventPayload) : ControlAction :=
  match event.detail with
  | .pointerMove _ _ => .pointerMove
  | .wheel _ _ => .scroll
  | .press | .release =>
      if event.logical ≥ pointerButtonLogicalBase then .pointerClick else .keyPress

/-- `PolicyPeer` (`consent.rs:377-382`). -/
structure PolicyPeer where
  peer : List Char
  allow : List ControlAction := []
  deriving DecidableEq

/-- `ControlPolicy` with its `PolicyDefaults` (`consent.rs:363-374`). -/
structure ControlPolicy where
  defaultsAllow : List ControlAction := []
  peers : List PolicyPeer := []
  deriving DecidableEq

/-- `ControlPolicy::deny_all` (`consent.rs:387-389`). -/
def ControlPolicy.denyAll : ControlPolicy := {}

/-- `str::eq_ignore_ascii_case`. -/
def eqIgnoreAsciiCase (a b : List Char) : Bool := a.map Char.toLower == b.map Char.toLower

/-- `ControlPolicy::allowed_for` (`consent.rs:403-414`): the defaults and every rule
that names the peer, sorted and without repeats. -/
def ControlPolicy.allowedFor (policy : ControlPolicy) (peer : NodeId) : List ControlAction :=
  let hex := peer.toHex
  let allowed := policy.peers.foldl
    (fun allowed rule => if eqIgnoreAsciiCase rule.peer hex then allowed ++ rule.allow else allowed)
    policy.defaultsAllow
  (allowed.insertionSort fun a b => a.rank ≤ b.rank).destutter (· ≠ ·)

/-- `ConsentTicket` (`consent.rs:422-433`). -/
structure ConsentTicket where
  peer : NodeId
  requestedRole : Role
  kind : SessionKind
  requestedAt : Instant
  queuePosition : Nat
  deriving DecidableEq

/-- `ConsentQueue` (`consent.rs:438-440`). -/
structure ConsentQueue where
  pending : List ConsentTicket := []
  deriving DecidableEq

namespace ConsentQueue

/-- `u8::try_from(position).unwrap_or(u8::MAX)`. -/
def positionByte (position : Nat) : Nat := if position ≤ 255 then position else 255

/-- `ConsentQueue::push_as` (`consent.rs:479-497`). -/
def pushAs (queue : ConsentQueue) (peer : NodeId) (requestedRole : Role) (kind : SessionKind)
    (now : Instant) : Except CoreError ConsentTicket × ConsentQueue :=
  if queue.pending.length ≥ maxPendingConsents then
    (.error .pendingConsentQueueFull, queue)
  else
    let ticket : ConsentTicket :=
      { peer, requestedRole, kind, requestedAt := now
        queuePosition := positionByte queue.pending.length }
    (.ok ticket, ⟨queue.pending ++ [ticket]⟩)

/-- The renumbering loop of `ConsentQueue::remove` (`consent.rs:503-505`). -/
def renumber (pending : List ConsentTicket) : List ConsentTicket :=
  pending.mapIdx fun position ticket => { ticket with queuePosition := positionByte position }

/-- `ConsentQueue::remove` (`consent.rs:500-507`): the first ticket of `peer`. -/
def remove (queue : ConsentQueue) (peer : NodeId) : Option ConsentTicket × ConsentQueue :=
  match queue.pending.find? fun ticket => ticket.peer == peer with
  | none => (none, queue)
  | some removed =>
      (some removed, ⟨renumber (queue.pending.eraseP fun ticket => ticket.peer == peer)⟩)

/-- `ConsentQueue::contains` (`consent.rs:511-513`). -/
def contains (queue : ConsentQueue) (peer : NodeId) : Bool :=
  queue.pending.any fun ticket => ticket.peer == peer

/-- `ConsentQueue::clear` (`consent.rs:522-524`). -/
def clear (_queue : ConsentQueue) : ConsentQueue := ⟨[]⟩

end ConsentQueue

/-- `ConsentRateLimiter` (`consent.rs:534-536`). -/
structure ConsentRateLimiter where
  hits : HashMap NodeId (List Instant) := ∅

/-- `ConsentRateLimiter::check_at` (`consent.rs:561-570`). `duration_since` saturates at zero. -/
def ConsentRateLimiter.checkAt (limiter : ConsentRateLimiter) (peer : NodeId) (now : Instant) :
    Except CoreError Unit × ConsentRateLimiter :=
  let window := Duration.fromSecs 60
  let hits := ((limiter.hits.lookup peer).getD []).filter fun hit => now - hit < window
  if hits.length ≥ consentRatePerMinute then
    (.error .consentRateLimited, ⟨limiter.hits.insert peer hits⟩)
  else
    (.ok (), ⟨limiter.hits.insert peer (hits ++ [now])⟩)

/-- `ConsentRateLimiter::forget` (`consent.rs:573-575`). -/
def ConsentRateLimiter.forget (limiter : ConsentRateLimiter) (peer : NodeId) :
    ConsentRateLimiter := ⟨limiter.hits.erase peer⟩

end Lumepeer.Core
