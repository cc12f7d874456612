import Lumepeer.Lib.Run
import Lumepeer.Runtime.HistoryFile

/-!
# The remembered-hosts list

`ConnectionHistory` of `crates/runtime/src/connection_history.rs:127-435`: the
rows in memory, newest first, and the file that every change is written to. The
clock of `record` and how the write ends are arguments.
-/

namespace Lumepeer.Runtime.HistoryFile
open Lumepeer.Core

/-- `ConnectionHistory` (`connection_history.rs:129-133`). -/
structure ConnectionHistory where
  place : ListPlace
  entries : List HistoryEntry
  deriving DecidableEq, Repr

namespace ConnectionHistory

/-- `ConnectionHistory::transport_of` (`connection_history.rs:180-185`). -/
def transportOf (history : ConnectionHistory) (label : String) : Option TransportKind :=
  (rowOf history.entries label).bind HistoryEntry.transport

/-- `ConnectionHistory::addrs_of` (`connection_history.rs:190-196`). -/
def addrsOf (history : ConnectionHistory) (label : String) : List String :=
  ((rowOf history.entries label).map HistoryEntry.addrs).getD []

/-- `ConnectionHistory::is_trusted` (`connection_history.rs:333-337`). -/
def isTrusted (history : ConnectionHistory) (label : String) : Bool :=
  history.entries.any fun entry => entry.peerLabel == label && entry.trusted

/-- `ConnectionHistory::save` (`connection_history.rs:415-431`). -/
def saved (history : ConnectionHistory) (outcome : WriteOutcome) : ConnectionHistory :=
  match history.place with
  | .nowhere => history
  | .path file => { history with place := .path (save file history.entries outcome) }

/-- `ConnectionHistory::record` (`connection_history.rs:218-270`). -/
def record (history : ConnectionHistory) (label : String) (role : Role) (code : String)
    (transport : Option TransportKind) (addrs : List String) (now : UInt64)
    (outcome : WriteOutcome) : ConnectionHistory :=
  let row :=
    { peerLabel := label, role, lastSeenAt := now, code
      transport := transport.or (history.transportOf label)
      addrs := if addrs.isEmpty then history.addrsOf label else addrs
      trusted := history.isTrusted label
      device := (rowOf history.entries label).bind HistoryEntry.device }
  let others := history.entries.filter fun entry => entry.peerLabel != label
  { history with entries := (row :: others).take maxEntries }.saved outcome

/-- `iter_mut().find(..)`: changes the first row of a label. -/
def alter (label : String) (change : HistoryEntry → HistoryEntry) :
    List HistoryEntry → List HistoryEntry
  | [] => []
  | entry :: entries =>
      if entry.peerLabel == label then change entry :: entries
      else entry :: alter label change entries

/-- `ConnectionHistory::set_device` (`connection_history.rs:278-291`). -/
def setDevice (history : ConnectionHistory) (label : String) (device : PeerDevice)
    (outcome : WriteOutcome) : Bool × ConnectionHistory :=
  match rowOf history.entries label with
  | none => (false, history)
  | some entry =>
      if entry.device ≠ some device then
        let entries := alter label (fun entry => { entry with device := some device })
          history.entries
        (true, { history with entries }.saved outcome)
      else (true, history)

/-- `ConnectionHistory::remember_addrs` (`connection_history.rs:310-327`). -/
def rememberAddrs (history : ConnectionHistory) (label : String) (addrs : List String)
    (outcome : WriteOutcome) : Bool × ConnectionHistory :=
  if addrs.isEmpty then (false, history)
  else
    match rowOf history.entries label with
    | none => (false, history)
    | some entry =>
        if entry.addrs = addrs then (false, history)
        else
          let entries := alter label (fun entry => { entry with addrs }) history.entries
          (true, { history with entries }.saved outcome)

/-- `ConnectionHistory::set_trusted` (`connection_history.rs:346-360`). -/
def setTrusted (history : ConnectionHistory) (label : String) (trusted : Bool)
    (outcome : WriteOutcome) : Bool × ConnectionHistory :=
  match rowOf history.entries label with
  | none => (false, history)
  | some entry =>
      if entry.trusted = trusted then (true, history)
      else
        let entries := alter label (fun entry => { entry with trusted }) history.entries
        (true, { history with entries }.saved outcome)

/-- `ConnectionHistory::remove` (`connection_history.rs:367-375`). -/
def remove (history : ConnectionHistory) (label : String) (outcome : WriteOutcome) :
    Bool × ConnectionHistory :=
  let entries := history.entries.filter fun entry => entry.peerLabel != label
  if entries.length ≠ history.entries.length then
    (true, { history with entries }.saved outcome)
  else (false, { history with entries })

/-- `ConnectionHistory::adopt` (`connection_history.rs:388-410`). -/
def adopt (history : ConnectionHistory) (rows : List HistoryEntry) (outcome : WriteOutcome) :
    Bool × ConnectionHistory :=
  match history.place with
  | .nowhere => (false, history)
  | .path file =>
      let joined := join history.entries rows
      if joined.length = history.entries.length then (true, history)
      else
        let entries := (newestFirst joined).take maxEntries
        let file := save file entries outcome
        ((load file).length == entries.length, { place := .path file, entries })

/-- A change of the list. -/
inductive Op where
  | record (label : String) (role : Role) (code : String) (transport : Option TransportKind)
      (addrs : List String) (now : UInt64) (outcome : WriteOutcome)
  | setDevice (label : String) (device : PeerDevice) (outcome : WriteOutcome)
  | rememberAddrs (label : String) (addrs : List String) (outcome : WriteOutcome)
  | setTrusted (label : String) (trusted : Bool) (outcome : WriteOutcome)
  | remove (label : String) (outcome : WriteOutcome)
  | adopt (rows : List HistoryEntry) (outcome : WriteOutcome)

/-- A change that answers. -/
def answers (result : Bool × ConnectionHistory) : Option Bool × ConnectionHistory :=
  (some result.1, result.2)

/-- One change; `record` answers nothing. -/
def step (history : ConnectionHistory) : Op → Option Bool × ConnectionHistory
  | .record label role code transport addrs now outcome =>
      (none, history.record label role code transport addrs now outcome)
  | .setDevice label device outcome => answers (history.setDevice label device outcome)
  | .rememberAddrs label addrs outcome => answers (history.rememberAddrs label addrs outcome)
  | .setTrusted label trusted outcome => answers (history.setTrusted label trusted outcome)
  | .remove label outcome => answers (history.remove label outcome)
  | .adopt rows outcome => answers (history.adopt rows outcome)

@[simp] theorem saved_entries (history : ConnectionHistory) (outcome : WriteOutcome) :
    (history.saved outcome).entries = history.entries := by
  unfold saved
  split
  · rfl
  · rfl

/-- `set_device` alters a row's device at most. -/
theorem setDevice_entries (history : ConnectionHistory) (label : String) (device : PeerDevice)
    (outcome : WriteOutcome) :
    (history.setDevice label device outcome).2.entries = history.entries ∨
      (history.setDevice label device outcome).2.entries =
        alter label (fun entry => { entry with device := some device }) history.entries := by
  unfold setDevice
  split
  · exact .inl rfl
  · split
    · exact .inr (saved_entries _ outcome)
    · exact .inl rfl

/-- `remember_addrs` alters a row's addresses at most. -/
theorem rememberAddrs_entries (history : ConnectionHistory) (label : String) (addrs : List String)
    (outcome : WriteOutcome) :
    (history.rememberAddrs label addrs outcome).2.entries = history.entries ∨
      (history.rememberAddrs label addrs outcome).2.entries =
        alter label (fun entry => { entry with addrs }) history.entries := by
  unfold rememberAddrs
  split
  · exact .inl rfl
  · split
    · exact .inl rfl
    · split
      · exact .inl rfl
      · exact .inr (saved_entries _ outcome)

/-- `set_trusted` alters a row's mark, unless it is as wanted. -/
theorem setTrusted_entries (history : ConnectionHistory) (label : String) (trusted : Bool)
    (outcome : WriteOutcome) :
    ((history.setTrusted label trusted outcome).2.entries = history.entries ∧
        ∀ row, rowOf history.entries label = some row → row.trusted = trusted) ∨
      (history.setTrusted label trusted outcome).2.entries =
        alter label (fun entry => { entry with trusted }) history.entries := by
  unfold setTrusted
  cases rowOf history.entries label with
  | none => exact .inl ⟨rfl, nofun⟩
  | some entry =>
      by_cases same : entry.trusted = trusted
      · refine .inl ⟨by simp only [if_pos same], fun row isRow => ?_⟩
        obtain rfl := Option.some.inj isRow
        exact same
      · refine .inr ?_
        simp only [if_neg same]
        exact saved_entries _ outcome

theorem remove_entries (history : ConnectionHistory) (label : String) (outcome : WriteOutcome) :
    (history.remove label outcome).2.entries =
      history.entries.filter fun entry => entry.peerLabel != label := by
  unfold remove
  simp only
  split
  · exact saved_entries _ outcome
  · rfl

/-- The rows that `adopt` leaves in a list with a path. -/
def adopted (entries rows : List HistoryEntry) : List HistoryEntry :=
  (newestFirst (join entries rows)).take maxEntries

theorem adopt_of_nowhere {history : ConnectionHistory} {rows : List HistoryEntry}
    {outcome : WriteOutcome} (nowhere : history.place = .nowhere) :
    history.adopt rows outcome = (false, history) := by
  rw [adopt, nowhere]

theorem adopt_of_same {history : ConnectionHistory} {rows : List HistoryEntry}
    {outcome : WriteOutcome} {file : Option ListFile} (place : history.place = .path file)
    (same : (join history.entries rows).length = history.entries.length) :
    history.adopt rows outcome = (true, history) := by
  rw [adopt, place]
  exact if_pos same

theorem adopt_of_new {history : ConnectionHistory} {rows : List HistoryEntry}
    {outcome : WriteOutcome} {file : Option ListFile} (place : history.place = .path file)
    (new : (join history.entries rows).length ≠ history.entries.length) :
    history.adopt rows outcome =
      ((load (save file (adopted history.entries rows) outcome)).length ==
          (adopted history.entries rows).length,
        { place := .path (save file (adopted history.entries rows) outcome)
          entries := adopted history.entries rows }) := by
  rw [adopt, place]
  exact if_neg new

/-- `adopt` leaves the rows, or the newest of them and those that join. -/
theorem adopt_entries (history : ConnectionHistory) (rows : List HistoryEntry)
    (outcome : WriteOutcome) :
    (history.adopt rows outcome).2.entries = history.entries ∨
      (history.adopt rows outcome).2.entries = adopted history.entries rows := by
  cases place : history.place with
  | nowhere =>
      rw [adopt_of_nowhere place]
      exact .inl rfl
  | path file =>
      by_cases same : (join history.entries rows).length = history.entries.length
      · rw [adopt_of_same place same]
        exact .inl rfl
      · rw [adopt_of_new place same]
        exact .inr rfl

end ConnectionHistory

end Lumepeer.Runtime.HistoryFile
