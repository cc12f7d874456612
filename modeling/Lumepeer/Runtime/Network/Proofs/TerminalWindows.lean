import Lumepeer.Runtime.Network.Terminal

/-!
# A shell is read in the window that opened it

What a shell prints reaches the guest on another connection than the answer that
names the shell, and its end on another than its last output. A frame or a close
for a shell that no window holds goes to the window of the session. While that
happens only to shells of that window, every window reads its own shells.
-/

namespace Lumepeer.Runtime
open Lumepeer.Lib Lumepeer.Core

namespace TerminalGuest

/-- The window that asked is still open. -/
def Current (guest : TerminalGuest) (ask : Ask) : Prop := ask.opening = guest.openings ask.window

/-- What is queued about `shell` goes to the window that asked for it: the window is on record, or
it is the default one. -/
def Known (guest : TerminalGuest) (shell : ShellId) (ask : Ask) : Prop :=
  (guest.shellWindows.lookup shell).isSome
    ∨ (shell, ask) ∈ guest.opened ∧ ask.window = default ∧ guest.Current ask

instance (guest : TerminalGuest) (ask : Ask) : Decidable (guest.Current ask) :=
  inferInstanceAs (Decidable (_ = _))

instance (guest : TerminalGuest) (shell : ShellId) (ask : Ask) : Decidable (guest.Known shell ask) :=
  inferInstanceAs (Decidable (_ ∨ _))

end TerminalGuest

namespace Terminals

abbrev ShellEvent := Event Terminals Happening (List TerminalRecord)

/-- The shell of a frame with output. -/
def ofFrame : TerminalWrite → Option (ShellId × Ask)
  | .data shell _ ask => some (shell, ask)
  | .close _ => none

/-- The shell that a message names. -/
def ofMessage : ToGuest → Option (ShellId × Ask)
  | .openResponse shell none ask | .close shell ask => some (shell, ask)
  | .openResponse _ (some _) _ => none

/-- The shell whose output a record is. -/
def ofRecord (record : TerminalRecord) : Option (ShellId × Ask) :=
  if record.event = terminalEventOutput then record.ask.map (record.shell, ·) else none

/-- The numbers in use, each with the ask of its shell. -/
def inUse (state : Terminals) : List (ShellId × Ask) :=
  state.host.shells.entries.map (fun entry => (entry.1, entry.2)) ++ state.host.readers
    ++ state.frames.filterMap ofFrame ++ state.toGuest.filterMap ofMessage
    ++ state.guest.shellWindows.entries.map (fun entry => (entry.1, entry.2.ask))
    ++ (state.guest.pending .session).filterMap ofRecord
    ++ (state.guest.pending .beside).filterMap ofRecord

/-- The message is an ask. -/
def asks : ToHost → Bool
  | .openRequest .. => true
  | .close _ => false

/-- The host starts a shell when it reads its next message. -/
def Starts (state : Terminals) (granted : Bool) (spawned : Except ShellError Unit) : Prop :=
  state.toHost.head?.any asks ∧ state.host.speaksTerminal ∧ granted
    ∧ state.host.shells.entries.length < maxTerminalsPerSession ∧ spawned.toBool

/-- The message is an answer, or says of a shell that the guest knows that it is over. -/
def MessageInTime (guest : TerminalGuest) : ToGuest → Prop
  | .openResponse .. => True
  | .close shell ask => guest.Known shell ask

/-- The frame is output of a shell that the guest knows, or says nothing to it. -/
def FrameInTime (guest : TerminalGuest) : TerminalWrite → Prop
  | .data shell _ ask => guest.Known shell ask
  | .close _ => True

/-- What the guest hears is about a shell that a window holds, or that was opened for the default
window; a shell is given a number that is not in use; and no window is behind by more records than a
drain can count. -/
def InTime (state : Terminals) : Happening → Prop
  | .guestReads => ∀ message ∈ state.toGuest.head?, MessageInTime state.guest message
  | .frame => state.guest.dialed → ∀ frame ∈ state.frames.head?, FrameInTime state.guest frame
  | .closes shell => ∃ ask ∈ state.guest.opened.lookup shell, state.guest.Known shell ask
  | .hostReads granted spawned =>
      state.Starts granted spawned → ∀ entry ∈ state.inUse, entry.1 ≠ state.host.nextShell
  | .drains window => (state.guest.pending window).length < 2 ^ 16
  | .opens .. | .windowCloses _ | .prints .. | .exits _ | .shellEnded _ | .otherShell => True

instance (guest : TerminalGuest) : DecidablePred (MessageInTime guest)
  | .openResponse .. => inferInstanceAs (Decidable True)
  | .close shell ask => inferInstanceAs (Decidable (guest.Known shell ask))

instance (guest : TerminalGuest) : DecidablePred (FrameInTime guest)
  | .data shell _ ask => inferInstanceAs (Decidable (guest.Known shell ask))
  | .close _ => inferInstanceAs (Decidable True)

instance (state : Terminals) (granted : Bool) (spawned : Except ShellError Unit) :
    Decidable (state.Starts granted spawned) :=
  inferInstanceAs (Decidable (_ ∧ _))

instance (state : Terminals) : DecidablePred state.InTime
  | .guestReads => inferInstanceAs (Decidable (∀ message ∈ state.toGuest.head?, _))
  | .frame => inferInstanceAs (Decidable (_ → ∀ frame ∈ state.frames.head?, _))
  | .closes _ => inferInstanceAs (Decidable (∃ ask ∈ _, _))
  | .hostReads .. => inferInstanceAs (Decidable (_ → ∀ entry ∈ state.inUse, _))
  | .drains _ => inferInstanceAs (Decidable (_ < _))
  | .opens .. | .windowCloses _ | .prints .. | .exits _ | .shellEnded _ | .otherShell =>
      inferInstanceAs (Decidable True)

/-- All that a window was told since it opened. -/
def told (state : Terminals) (window : TerminalWindow) : List TerminalRecord :=
  state.read window ++ state.guest.pending window

/-- What the records say that the shell of `ask` printed. -/
def outputs (ask : Ask) (records : List TerminalRecord) : List (List UInt8) :=
  records.filterMap fun record =>
    if record.event = terminalEventOutput ∧ record.ask = some ask then some record.payload else none

/-- What is on its way of what the shell of `ask` printed. -/
def inFlight (state : Terminals) (ask : Ask) : List (List UInt8) :=
  state.frames.filterMap fun frame =>
    match frame with
    | .data _ payload owner => if owner = ask then some payload else none
    | .close _ => none

/-- All that the shell of `ask` printed. -/
def printedBy (state : Terminals) (ask : Ask) : List (List UInt8) :=
  state.printed.filterMap fun entry => if entry.1 = ask then some entry.2 else none

/-- An `opened` record of a shell stands before all its output. -/
def OpenedFirst (records : List TerminalRecord) : Prop :=
  ∀ before record after, records = before ++ record :: after →
    record.event = terminalEventOutput →
      ∃ opened ∈ before, opened.event = terminalEventOpened ∧ opened.shell = record.shell
        ∧ opened.ask = record.ask

/-- The window has drained only records of shells that it asked for since it opened. -/
def DrainsItsOwn (e : ShellEvent) : Prop :=
  ∀ window, e.op = .drains window → ∀ record ∈ e.out,
    ∃ ask, record.ask = some ask ∧ ask.window = window ∧ e.pre.guest.Current ask

/-- The next frame, if it is output of the shell of `ask`, leaves its window with no more than
`TERMINAL_SCROLLBACK_BYTES` of it. -/
def Fits (ask : Ask) (e : ShellEvent) : Prop :=
  e.op = .frame → ∀ shell payload, e.pre.frames.head? = some (.data shell payload ask) →
    TerminalGuest.heldBytes shell (e.pre.guest.pending (e.pre.guest.windowOfShell shell))
      + payload.length ≤ terminalScrollbackBytes

/-- A running shell whose window has closed is answered or ended by a message on its way. -/
def EndsUnwanted (state : Terminals) : Prop :=
  ∀ shell ask, state.host.shells.lookup shell = some ask → ¬ state.guest.Current ask →
    .openResponse shell none ask ∈ state.toGuest ∨ .close shell ∈ state.toHost

/-- The answers on their way and the asks before them, oldest first. -/
def awaited (state : Terminals) : List Ask :=
  (state.toGuest.filterMap fun message =>
      match message with
      | .openResponse _ _ ask => some ask
      | .close .. => none)
    ++ state.toHost.filterMap fun message =>
      match message with
      | .openRequest _ _ ask => some ask
      | .close _ => none

/-- What stands in `terminal_asks` for an ask. -/
def expected (guest : TerminalGuest) (ask : Ask) : Option TerminalWindow :=
  if guest.Current ask then some ask.window else none

/-- The ask is on its way, its shell's number is in use, or its shell was opened or has printed. -/
def Seen (state : Terminals) (ask : Ask) : Prop :=
  ask ∈ state.awaited ∨ (∃ shell, (shell, ask) ∈ state.inUse)
    ∨ (∃ shell, (shell, ask) ∈ state.guest.opened) ∨ ∃ payload, (ask, payload) ∈ state.printed

/-- What the windows were told. -/
structure Told (guest : TerminalGuest) (read : TerminalWindow → List TerminalRecord) : Prop where
  own : ∀ window, ∀ record ∈ read window ++ guest.pending window,
    ∃ ask, record.ask = some ask ∧ ask.window = window ∧ guest.Current ask
  announced : ∀ entry ∈ guest.opened, guest.Current entry.2 →
    ∃ record ∈ read entry.2.window ++ guest.pending entry.2.window,
      record.event = terminalEventOpened ∧ record.shell = entry.1 ∧ record.ask = some entry.2
  first : ∀ window, OpenedFirst (read window ++ guest.pending window)
  bounded : ∀ window shell,
    TerminalGuest.heldBytes shell (guest.pending window) ≤ terminalScrollbackBytes
  held : ∀ shell held, guest.shellWindows.lookup shell = some held →
    held.ask.window = held.window ∧ guest.Current held.ask
      ∧ guest.opened.lookup shell = some held.ask

/-- What every state keeps. -/
structure Sound (state : Terminals) : Prop where
  told : Told state.guest state.read
  paired : state.guest.asks = state.awaited.map (expected state.guest)
  agree : ∀ p ∈ state.inUse, ∀ q ∈ state.inUse, p.1 = q.1 → p.2 = q.2
  /-- An ask is no older than its window. -/
  born : ∀ ask, state.Seen ask → ask.opening ≤ state.guest.openings ask.window
  /-- A running shell is answered, ended or held by a window. -/
  running : ∀ shell ask, state.host.shells.lookup shell = some ask →
    .openResponse shell none ask ∈ state.toGuest ∨ .close shell ∈ state.toHost
      ∨ (state.guest.shellWindows.lookup shell).isSome
  /-- What the host has announced as over does not run. -/
  gone : ∀ shell ask, .close shell ask ∈ state.toGuest → state.host.shells.lookup shell = none
  speaks : state.host.speaksTerminal = true

end Terminals

namespace TerminalGuest
open Terminals

section queue
variable {shell : ShellId} {queue : List TerminalRecord}

theorem scrollOff_sublist (shell : ShellId) (held : Nat) (queue : List TerminalRecord) :
    (scrollOff shell held queue).Sublist queue := by
  induction queue generalizing held with
  | nil => exact List.Sublist.refl _
  | cons record queue ih =>
      unfold scrollOff
      split
      · exact List.Sublist.refl _
      · split
        · exact (ih _).cons _
        · exact (ih _).cons_cons _

/-- Only output of the shell is dropped. -/
theorem mem_scrollOff {record : TerminalRecord} (held : Nat) (member : record ∈ queue)
    (kept : isOutput shell record = false) : record ∈ scrollOff shell held queue := by
  induction queue generalizing held with
  | nil => exact absurd member List.not_mem_nil
  | cons head queue ih =>
      unfold scrollOff
      rcases List.mem_cons.mp member with rfl | later
      · rw [kept]
        split
        · exact List.mem_cons_self
        · exact List.mem_cons_self
      · split
        · exact List.mem_cons_of_mem _ later
        · split
          · exact ih _ later
          · exact List.mem_cons_of_mem _ (ih _ later)

/-- Nothing is dropped within the bound. -/
theorem scrollOff_of_le (held : Nat) (fits : held ≤ terminalScrollbackBytes) :
    scrollOff shell held queue = queue := by
  cases queue with
  | nil => rfl
  | cons record queue => rw [scrollOff, if_pos fits]

@[simp] theorem heldBytes_nil : heldBytes shell [] = 0 := rfl

theorem heldBytes_cons (record : TerminalRecord) :
    heldBytes shell (record :: queue) =
      (if isOutput shell record then record.payload.length else 0) + heldBytes shell queue := by
  unfold heldBytes
  cases output : isOutput shell record with
  | true => simp [output]
  | false => simp [output]

theorem heldBytes_append (later : List TerminalRecord) :
    heldBytes shell (queue ++ later) = heldBytes shell queue + heldBytes shell later := by
  simp [heldBytes]

theorem heldBytes_le_of_sublist {fewer : List TerminalRecord} (sub : fewer.Sublist queue) :
    heldBytes shell fewer ≤ heldBytes shell queue := by
  induction sub with
  | slnil => exact Nat.le_refl _
  | cons record _ ih =>
      rw [heldBytes_cons]
      exact Nat.le_add_left_of_le ih
  | cons_cons record _ ih =>
      rw [heldBytes_cons, heldBytes_cons]
      exact Nat.add_le_add_left ih _

/-- What is dropped is enough. -/
theorem heldBytes_scrollOff_le (held : Nat) (exact : heldBytes shell queue ≤ held) :
    heldBytes shell (scrollOff shell held queue) ≤ terminalScrollbackBytes := by
  induction queue generalizing held with
  | nil => exact Nat.zero_le _
  | cons record queue ih =>
      rw [heldBytes_cons] at exact
      unfold scrollOff
      split
      next fits =>
        rw [heldBytes_cons]
        exact exact.trans fits
      next =>
        split
        next output =>
          rw [if_pos output] at exact
          exact ih _ (by omega)
        next kept =>
          rw [heldBytes_cons, if_neg kept, Nat.zero_add]
          rw [if_neg kept, Nat.zero_add] at exact
          exact ih _ exact

end queue

section
variable {guest : TerminalGuest} {window : TerminalWindow} {record : TerminalRecord}

@[simp] theorem queueTerminal_openings :
    (guest.queueTerminal window record).openings = guest.openings := rfl

@[simp] theorem queueTerminal_shellWindows :
    (guest.queueTerminal window record).shellWindows = guest.shellWindows := rfl

@[simp] theorem queueTerminal_opened :
    (guest.queueTerminal window record).opened = guest.opened := rfl

@[simp] theorem queueTerminal_asks : (guest.queueTerminal window record).asks = guest.asks := rfl

theorem queueTerminal_pending (other : TerminalWindow) :
    (guest.queueTerminal window record).pending other =
      if other = window then
        scrollOff record.shell (heldBytes record.shell (guest.pending window ++ [record]))
          (guest.pending window ++ [record])
      else guest.pending other := by
  simp only [queueTerminal, Function.update_apply]

theorem queueTerminal_pending_sublist (other : TerminalWindow) :
    ((guest.queueTerminal window record).pending other).Sublist
      (guest.pending other ++ if other = window then [record] else []) := by
  rw [queueTerminal_pending]
  split
  next same =>
    subst same
    exact scrollOff_sublist ..
  next => rw [List.append_nil]

theorem isOutput_of_ne (other : record.event ≠ terminalEventOutput) (shell : ShellId) :
    isOutput shell record = false := by
  simp [isOutput, other]

/-- A record that is no output displaces nothing. -/
theorem queueTerminal_pending_of_ne (other : record.event ≠ terminalEventOutput)
    (bounded : heldBytes record.shell (guest.pending window) ≤ terminalScrollbackBytes)
    (which : TerminalWindow) :
    (guest.queueTerminal window record).pending which =
      guest.pending which ++ if which = window then [record] else [] := by
  rw [queueTerminal_pending]
  split
  next same =>
    subst same
    apply scrollOff_of_le
    rw [heldBytes_append, heldBytes_cons, isOutput_of_ne other]
    simpa using bounded
  next => rw [List.append_nil]

/-- Output that fits displaces nothing. -/
theorem queueTerminal_pending_of_fits
    (fits : heldBytes record.shell (guest.pending window) + record.payload.length
      ≤ terminalScrollbackBytes) (which : TerminalWindow) :
    (guest.queueTerminal window record).pending which =
      guest.pending which ++ if which = window then [record] else [] := by
  rw [queueTerminal_pending]
  split
  next same =>
    subst same
    apply scrollOff_of_le
    rw [heldBytes_append, heldBytes_cons]
    split
    · simpa using fits
    · simp only [heldBytes_nil, Nat.add_zero]
      omega
  next => rw [List.append_nil]

theorem heldBytes_queueTerminal
    (bounded : ∀ which shell, heldBytes shell (guest.pending which) ≤ terminalScrollbackBytes)
    (which : TerminalWindow) (shell : ShellId) :
    heldBytes shell ((guest.queueTerminal window record).pending which) ≤ terminalScrollbackBytes := by
  rw [queueTerminal_pending]
  split
  next same =>
    subst same
    by_cases mine : shell = record.shell
    · rw [mine]
      exact heldBytes_scrollOff_le _ (Nat.le_refl _)
    · refine (heldBytes_le_of_sublist (scrollOff_sublist ..)).trans ?_
      have foreign : isOutput shell record = false := by
        simp [isOutput, Ne.symm mine]
      rw [heldBytes_append, heldBytes_cons, foreign]
      simpa using bounded which shell
  next => exact bounded which shell

end

end TerminalGuest

namespace Terminals

section first
variable {records queue : List TerminalRecord}

theorem openedFirst_nil : OpenedFirst [] := by
  intro before record after split
  simp at split

/-- Output may go. -/
theorem OpenedFirst.drop {front back : List TerminalRecord} {gone : TerminalRecord}
    (first : OpenedFirst (front ++ gone :: back)) (output : gone.event = terminalEventOutput) :
    OpenedFirst (front ++ back) := by
  intro before record after split isOutput
  rcases List.append_eq_append_iff.mp split with ⟨middle, rfl, rest⟩ | ⟨middle, rfl, rest⟩
  · obtain ⟨opened, member, isOpened, same⟩ :=
      first (front ++ gone :: middle) record after (by rw [rest]; simp) isOutput
    refine ⟨opened, ?_, isOpened, same⟩
    rcases List.mem_append.mp member with inFront | inBack
    · exact List.mem_append_left _ inFront
    · rcases List.mem_cons.mp inBack with rfl | later
      · exact absurd (output.symm.trans isOpened) (by decide)
      · exact List.mem_append_right _ later
  · cases middle with
    | nil =>
        simp only [List.nil_append] at rest
        obtain ⟨opened, member, isOpened, same⟩ :=
          first (before ++ [gone]) record after (by rw [← rest]; simp) isOutput
        refine ⟨opened, ?_, isOpened, same⟩
        rcases List.mem_append.mp member with inFront | inBack
        · exact inFront
        · rcases List.mem_cons.mp inBack with rfl | later
          · exact absurd (output.symm.trans isOpened) (by decide)
          · exact absurd later List.not_mem_nil
    | cons head middle =>
        simp only [List.cons_append, List.cons.injEq] at rest
        obtain ⟨rfl, rfl⟩ := rest
        exact first before record (middle ++ gone :: back) (by simp) isOutput

theorem OpenedFirst.scrollOff {front : List TerminalRecord} {shell : ShellId} (held : Nat)
    (first : OpenedFirst (front ++ queue)) :
    OpenedFirst (front ++ TerminalGuest.scrollOff shell held queue) := by
  induction queue generalizing front held with
  | nil => exact first
  | cons record queue ih =>
      unfold TerminalGuest.scrollOff
      split
      · exact first
      · split
        next output =>
          have isOutput : record.event = terminalEventOutput := by
            simp [TerminalGuest.isOutput] at output
            exact output.2
          exact ih _ (first.drop isOutput)
        next =>
          have regrouped := @ih (front ++ [record]) held (by simpa using first)
          simpa using regrouped

theorem OpenedFirst.concat {record : TerminalRecord} (first : OpenedFirst records)
    (known : record.event = terminalEventOutput →
      ∃ opened ∈ records, opened.event = terminalEventOpened ∧ opened.shell = record.shell
        ∧ opened.ask = record.ask) :
    OpenedFirst (records ++ [record]) := by
  intro before other after split isOutput
  rcases List.append_eq_append_iff.mp split with ⟨middle, rfl, rest⟩ | ⟨middle, rfl, rest⟩
  · cases middle with
    | nil =>
        simp only [List.nil_append, List.cons.injEq] at rest
        obtain ⟨rfl, rfl⟩ := rest
        simpa using known isOutput
    | cons head middle => simp at rest
  · cases middle with
    | nil =>
        simp only [List.nil_append, List.cons.injEq] at rest
        obtain ⟨rfl, rfl⟩ := rest
        simpa using known isOutput
    | cons head middle =>
        simp only [List.cons_append, List.cons.injEq] at rest
        obtain ⟨rfl, rfl⟩ := rest
        exact first before other middle (by simp) isOutput

end first

section told
variable {guest : TerminalGuest} {read : TerminalWindow → List TerminalRecord}

/-- A record of a shell of the window is queued for it. -/
theorem Told.queue {window : TerminalWindow} {record : TerminalRecord} {ask : Ask}
    (told : Told guest read) (isAsk : record.ask = some ask) (mine : ask.window = window)
    (current : guest.Current ask)
    (known : record.event = terminalEventOutput → (record.shell, ask) ∈ guest.opened) :
    Told (guest.queueTerminal window record) read := by
  refine ⟨?_, ?_, ?_, TerminalGuest.heldBytes_queueTerminal told.bounded, told.held⟩
  · intro which other member
    rcases List.mem_append.mp member with wasRead | queued
    · exact told.own which other (List.mem_append_left _ wasRead)
    · rcases List.mem_append.mp
        ((TerminalGuest.queueTerminal_pending_sublist which).subset queued) with old | new
      · exact told.own which other (List.mem_append_right _ old)
      · split at new
        next same =>
          obtain rfl := List.mem_singleton.mp new
          exact ⟨ask, isAsk, mine.trans same.symm, current⟩
        next => exact absurd new List.not_mem_nil
  · intro entry member isCurrent
    obtain ⟨opened, found, isOpened, same⟩ := told.announced entry member isCurrent
    refine ⟨opened, ?_, isOpened, same⟩
    rcases List.mem_append.mp found with wasRead | queued
    · exact List.mem_append_left _ wasRead
    · apply List.mem_append_right
      rw [TerminalGuest.queueTerminal_pending]
      split
      next isWindow =>
        apply TerminalGuest.mem_scrollOff
        · rw [← isWindow]
          exact List.mem_append_left _ queued
        · exact TerminalGuest.isOutput_of_ne (by rw [isOpened]; decide) _
      next => exact queued
  · intro which
    rw [TerminalGuest.queueTerminal_pending]
    split
    next same =>
      subst same
      apply OpenedFirst.scrollOff
      rw [← List.append_assoc]
      apply (told.first which).concat
      intro output
      obtain ⟨opened, found, isOpened, isShell, itsAsk⟩ :=
        told.announced _ (known output) current
      exact ⟨opened, mine ▸ found, isOpened, isShell, itsAsk.trans isAsk.symm⟩
    next => exact told.first which

/-- What the guest hears of a shell it knows is for the window that asked for it. -/
theorem Told.window_of_known {shell : ShellId} {ask : Ask} (told : Told guest read)
    (known : guest.Known shell ask)
    (agree : ∀ held, guest.shellWindows.lookup shell = some held → held.ask = ask) :
    ask.window = guest.windowOfShell shell ∧ guest.Current ask ∧ (shell, ask) ∈ guest.opened := by
  unfold TerminalGuest.windowOfShell
  cases onRecord : guest.shellWindows.lookup shell with
  | some held =>
      obtain ⟨isWindow, current, opened⟩ := told.held shell held onRecord
      obtain rfl := agree held onRecord
      obtain ⟨front, back, split, -⟩ := List.lookup_eq_some_iff.mp opened
      exact ⟨isWindow, current, by simp [split]⟩
  | none =>
      rcases known with held | ⟨opened, isDefault, current⟩
      · rw [onRecord] at held
        cases held
      · exact ⟨isDefault, current, opened⟩

/-- Only the queues, the openings and the shells of windows matter. -/
theorem Told.congr {guest' : TerminalGuest} (told : Told guest read)
    (pending : guest'.pending = guest.pending) (openings : guest'.openings = guest.openings)
    (opened : guest'.opened = guest.opened)
    (fewer : ∀ shell held, guest'.shellWindows.lookup shell = some held →
      guest.shellWindows.lookup shell = some held) : Told guest' read := by
  obtain ⟨_, _, shellWindows, _, _, _, _, _⟩ := guest'
  subst pending openings opened
  exact ⟨told.own, told.announced, told.first, told.bounded,
    fun shell held onRecord => told.held shell held (fewer shell held onRecord)⟩

theorem lookup_of_lookup_erase {map : HashMap ShellId ShellWindow} {shell which : ShellId}
    {held : ShellWindow} (onRecord : (map.erase shell).lookup which = some held) :
    which ≠ shell ∧ map.lookup which = some held := by
  rw [HashMap.lookup_erase_eq] at onRecord
  split at onRecord
  next => cases onRecord
  next other => exact ⟨other, onRecord⟩

theorem Told.closed {shell : ShellId} {ask : Ask} (told : Told guest read)
    (known : guest.Known shell ask)
    (agree : ∀ held, guest.shellWindows.lookup shell = some held → held.ask = ask) :
    Told (guest.queueTerminalClosed shell (some ask)) read := by
  obtain ⟨isWindow, current, -⟩ := told.window_of_known known agree
  have forgotten : Told { guest with shellWindows := guest.shellWindows.erase shell } read :=
    told.congr rfl rfl rfl (fun _ _ onRecord => (lookup_of_lookup_erase onRecord).2)
  exact forgotten.queue rfl isWindow current
    (fun output => absurd output (show terminalEventClosed ≠ _ by decide))

theorem Told.frame {shell : ShellId} {payload : List UInt8} {ask : Ask} (told : Told guest read)
    (known : guest.Known shell ask)
    (agree : ∀ held, guest.shellWindows.lookup shell = some held → held.ask = ask) :
    Told (guest.onTerminalFrame shell payload ask) read := by
  obtain ⟨isWindow, current, opened⟩ := told.window_of_known known agree
  exact told.queue rfl isWindow current (fun _ => opened)

theorem terminalRefusalEvent_ne (reason : TerminalRefusal) :
    terminalRefusalEvent reason ≠ terminalEventOutput := by
  cases reason <;> decide

theorem Told.refused {ask : Ask} (told : Told guest read) (current : guest.Current ask)
    (reason : TerminalRefusal) :
    Told (guest.queueTerminal ask.window
      { shell := 0, event := terminalRefusalEvent reason, payload := [], ask := some ask }) read := by
  exact told.queue rfl rfl current (fun output => absurd output (terminalRefusalEvent_ne reason))

/-- A shell is opened for the window that asked for it. -/
theorem Told.opened {ask : Ask} {shell : ShellId} (told : Told guest read)
    (current : guest.Current ask) :
    Told ({ guest with
      dialed := true
      shellWindows := guest.shellWindows.insert shell { window := ask.window, ask }
      opened := (shell, ask) :: guest.opened }.queueTerminal ask.window
        { shell, event := terminalEventOpened, payload := [], ask := some ask }) read := by
  have queued := @Told.queue guest read ask.window
    { shell, event := terminalEventOpened, payload := [], ask := some ask } ask told rfl rfl current
    (fun output => absurd output (show terminalEventOpened ≠ _ by decide))
  have pending := @TerminalGuest.queueTerminal_pending_of_ne guest ask.window
    { shell, event := terminalEventOpened, payload := [], ask := some ask }
    (show terminalEventOpened ≠ _ by decide) (told.bounded _ _)
  refine ⟨queued.own, ?_, queued.first, queued.bounded, ?_⟩
  · intro entry member isCurrent
    rcases List.mem_cons.mp member with rfl | old
    · refine ⟨{ shell, event := terminalEventOpened, payload := [], ask := some ask },
        List.mem_append_right _ ?_, rfl, rfl, rfl⟩
      show _ ∈ (guest.queueTerminal ask.window _).pending ask.window
      rw [pending, if_pos rfl]
      simp
    · exact queued.announced entry old isCurrent
  · intro which held onRecord
    simp only [TerminalGuest.queueTerminal_shellWindows, HashMap.lookup_insert_eq] at onRecord
    simp only [TerminalGuest.queueTerminal_opened, List.lookup_cons]
    split at onRecord
    next same =>
      obtain rfl := Option.some.inj onRecord
      subst same
      exact ⟨rfl, current, by simp⟩
    next other =>
      obtain ⟨isWindow, isCurrent, found⟩ := told.held which held onRecord
      refine ⟨isWindow, isCurrent, ?_⟩
      rw [beq_false_of_ne other]
      exact found

/-- A drain that counts all records moves them from the queue to the window. -/
theorem Told.drained {window : TerminalWindow} (told : Told guest read)
    (counted : (guest.pending window).length < 2 ^ 16) :
    Told (guest.terminalDrain window).2
      (Function.update read window (read window ++ guest.drained window)) := by
  have all : guest.drained window = guest.pending window := by
    rw [TerminalGuest.drained, if_pos counted, List.take_length]
  have same : ∀ which, Function.update read window (read window ++ guest.drained window) which
      ++ (guest.terminalDrain window).2.pending which = read which ++ guest.pending which := by
    intro which
    rw [all]
    simp only [TerminalGuest.terminalDrain, Function.update_apply]
    split
    next isWindow => rw [isWindow, List.append_nil]
    next => rfl
  refine ⟨?_, ?_, ?_, ?_, told.held⟩
  · intro which
    rw [same]
    exact told.own which
  · intro entry
    rw [same]
    exact told.announced entry
  · intro which
    rw [same]
    exact told.first which
  · intro which shell
    simp only [TerminalGuest.terminalDrain, Function.update_apply]
    split
    · exact Nat.zero_le _
    · exact told.bounded which shell

theorem current_windowClosed {window : TerminalWindow} {ask : Ask} :
    (guest.onTerminalWindowClosed window).2.Current ask ↔
      if ask.window = window then ask.opening = guest.openings window + 1
      else guest.Current ask := by
  simp only [TerminalGuest.Current, TerminalGuest.onTerminalWindowClosed, Function.update_apply]
  split <;> rfl

/-- A window that closes leaves nothing behind, and nothing that was asked before is current for the
next one. -/
theorem Told.windowClosed {window : TerminalWindow} (told : Told guest read)
    (born : ∀ entry ∈ guest.opened, entry.2.opening ≤ guest.openings entry.2.window) :
    Told (guest.onTerminalWindowClosed window).2 (Function.update read window []) := by
  have others : ∀ which, which ≠ window →
      Function.update read window [] which ++ (guest.onTerminalWindowClosed window).2.pending which
        = read which ++ guest.pending which := by
    intro which other
    simp [TerminalGuest.onTerminalWindowClosed, Function.update_of_ne other]
  have closed : Function.update read window [] window
      ++ (guest.onTerminalWindowClosed window).2.pending window = [] := by
    simp [TerminalGuest.onTerminalWindowClosed]
  refine ⟨?_, ?_, ?_, ?_, ?_⟩
  · intro which record member
    by_cases same : which = window
    · rw [same, closed] at member
      exact absurd member List.not_mem_nil
    · rw [others which same] at member
      obtain ⟨ask, isAsk, isWindow, current⟩ := told.own which record member
      refine ⟨ask, isAsk, isWindow, ?_⟩
      rw [current_windowClosed, if_neg (isWindow ▸ same)]
      exact current
  · intro entry member current
    rw [current_windowClosed] at current
    split at current
    next same =>
      have bound := born entry member
      rw [same] at bound
      omega
    next other =>
      rw [others _ other]
      exact told.announced entry member current
  · intro which
    by_cases same : which = window
    · rw [same, closed]
      exact openedFirst_nil
    · rw [others which same]
      exact told.first which
  · intro which shell
    simp only [TerminalGuest.onTerminalWindowClosed, Function.update_apply]
    split
    · exact Nat.zero_le _
    · exact told.bounded which shell
  · intro shell held onRecord
    simp only [TerminalGuest.onTerminalWindowClosed, HashMap.lookup_retain,
      Option.filter_eq_some_iff] at onRecord
    obtain ⟨found, other⟩ := onRecord
    obtain ⟨isWindow, current, opened⟩ := told.held shell held found
    refine ⟨isWindow, ?_, opened⟩
    rw [current_windowClosed, if_neg (by rw [isWindow]; simpa using other)]
    exact current

end told

end Terminals

end Lumepeer.Runtime
