import Lumepeer.Core.Consent

/-!
# The remembered-hosts list in its file

`crates/runtime/src/connection_history.rs`: the hosts this node has connected
to, newest first, as they stand in a JSON file. A file is what its bytes parse
to. The rows are whole here, less the two fields that are never written to it,
`has_password` and `online`.
-/

namespace Lumepeer.Runtime.HistoryFile
open Lumepeer.Core

/-- `TransportKind` (`network.rs:636-642`). -/
inductive TransportKind where
  | iroh
  | obfuscated
  deriving DecidableEq, Repr

/-- `PeerDevice` (`network.rs:799-805`). -/
structure PeerDevice where
  name : String
  os : Option String
  deriving DecidableEq, Repr

/-- `HistoryEntry` (`connection_history.rs:33-125`). -/
structure HistoryEntry where
  peerLabel : String
  role : Role
  lastSeenAt : UInt64
  code : String
  transport : Option TransportKind
  addrs : List String
  trusted : Bool
  device : Option PeerDevice
  deriving DecidableEq, Repr

/-- What the file of a list parses to. -/
inductive ListFile where
  | rows (entries : List HistoryEntry)
  | unreadable
  deriving DecidableEq, Repr

/-- Where a list is kept: `path` is `None`, or there is a path and perhaps a file. -/
inductive ListPlace where
  | nowhere
  | path (file : Option ListFile)
  deriving DecidableEq, Repr

/-- How `fs::write` ends: it may fail before the file is opened, or when it is already cut. -/
inductive WriteOutcome where
  | written
  | refused
  | torn
  deriving DecidableEq, Repr

/-- `MAX_ENTRIES` (`connection_history.rs:29`). -/
def maxEntries : Nat := 50

/-- `ConnectionHistory::load` (`connection_history.rs:146-160`). -/
def load : Option ListFile → List HistoryEntry
  | none => []
  | some (.rows entries) => entries
  | some .unreadable => []

/-- The entries of `ConnectionHistory::open` (`connection_history.rs:141-144`). -/
def openEntries : ListPlace → List HistoryEntry
  | .nowhere => []
  | .path file => load file

/-- `ConnectionHistory::save` at a path (`connection_history.rs:415-431`). -/
def save (file : Option ListFile) (entries : List HistoryEntry) : WriteOutcome → Option ListFile
  | .written => some (.rows entries)
  | .refused => file
  | .torn => some .unreadable

/-- The loop of `adopt`: the rows whose host is not listed join the list. -/
def join (entries : List HistoryEntry) : List HistoryEntry → List HistoryEntry
  | [] => entries
  | row :: rows =>
      if entries.any fun entry => entry.peerLabel == row.peerLabel then join entries rows
      else join (entries ++ [row]) rows

/-- `sort_by_key(|entry| Reverse(entry.last_seen_at))`, stable. -/
def newestFirst (entries : List HistoryEntry) : List HistoryEntry :=
  entries.insertionSort fun one two => two.lastSeenAt ≤ one.lastSeenAt

/-- `ConnectionHistory::open(place).adopt(rows)` (`connection_history.rs:388-410`): its answer and
the file it leaves. -/
def adopt (place : ListPlace) (rows : List HistoryEntry) (outcome : WriteOutcome) :
    Bool × ListPlace :=
  match place with
  | .nowhere => (false, place)
  | .path file =>
      let entries := load file
      let joined := join entries rows
      if joined.length = entries.length then (true, place)
      else
        let kept := (newestFirst joined).take maxEntries
        let saved := save file kept outcome
        ((load saved).length == kept.length, .path saved)

/-- The list has a row for the host. -/
def Lists (entries : List HistoryEntry) (label : String) : Prop :=
  ∃ entry ∈ entries, entry.peerLabel = label

instance (entries : List HistoryEntry) (label : String) : Decidable (Lists entries label) := by
  unfold Lists
  infer_instance

/-- The row by which a list knows a host: the first of its label, as every lookup finds it. -/
def rowOf (entries : List HistoryEntry) (label : String) : Option HistoryEntry :=
  entries.find? fun entry => entry.peerLabel == label

section Join
variable {entries rows : List HistoryEntry} {row : HistoryEntry} {label : String}

theorem lists_iff : Lists entries label ↔
    (entries.any fun entry => entry.peerLabel == label) = true := by
  simp [Lists]

/-- The rows that join a list stand after its own. -/
theorem prefix_join (entries rows : List HistoryEntry) : entries <+: join entries rows := by
  induction rows generalizing entries with
  | nil => exact List.prefix_rfl
  | cons row rows ih =>
      rw [join]
      split
      · exact ih entries
      · exact (List.prefix_append entries [row]).trans (ih _)

theorem lists_join (member : row ∈ rows) : Lists (join entries rows) row.peerLabel := by
  induction rows generalizing entries with
  | nil => cases member
  | cons head rows ih =>
      rw [join]
      rcases List.mem_cons.mp member with rfl | later
      · split
        · rename_i listed
          obtain ⟨entry, isEntry, same⟩ := lists_iff.mpr listed
          exact ⟨entry, (prefix_join _ _).subset isEntry, same⟩
        · exact ⟨row, (prefix_join _ _).subset (by simp), rfl⟩
      · split
        · exact ih later
        · exact ih later

/-- A row that joins a list is the one its host was handed over with, and its host is new. -/
theorem mem_join (member : row ∈ join entries rows) :
    row ∈ entries ∨ ¬ Lists entries row.peerLabel ∧ rowOf rows row.peerLabel = some row := by
  induction rows generalizing entries with
  | nil => exact .inl member
  | cons head rows ih =>
      rw [join] at member
      split at member
      · rename_i listed
        rcases ih member with old | ⟨fresh, isRow⟩
        · exact .inl old
        · have other : (head.peerLabel == row.peerLabel) = false := by
            refine beq_eq_false_iff_ne.mpr fun same => fresh ?_
            rw [← same]
            exact lists_iff.mpr listed
          refine .inr ⟨fresh, ?_⟩
          rw [rowOf, List.find?_cons_of_neg (by simp [other])]
          exact isRow
      · rename_i unlisted
        rcases ih member with old | ⟨fresh, isRow⟩
        · rcases List.mem_append.mp old with old | new
          · exact .inl old
          · rw [List.mem_singleton.mp new]
            exact .inr ⟨fun listed => unlisted (lists_iff.mp listed),
              List.find?_cons_of_pos (by simp)⟩
        · refine .inr ⟨fun ⟨entry, isEntry, same⟩ => fresh ⟨entry, by simp [isEntry], same⟩, ?_⟩
          have other : (head.peerLabel == row.peerLabel) = false :=
            beq_eq_false_iff_ne.mpr fun same => fresh ⟨head, by simp, same⟩
          rw [rowOf, List.find?_cons_of_neg (by simp [other])]
          exact isRow

theorem mem_newestFirst : row ∈ newestFirst entries ↔ row ∈ entries :=
  (List.perm_insertionSort _ entries).mem_iff

theorem length_newestFirst : (newestFirst entries).length = entries.length :=
  (List.perm_insertionSort _ entries).length_eq

end Join

/-- What `adopt` takes for granted of its list, the rows and the write: nothing joins the list, or
what joins it is within the bound when it is written, the list left by a refused write is not as
long as a full one, and a write that stops halfway has no row to destroy. -/
def Safe (entries hosts : List HistoryEntry) (outcome : WriteOutcome) : Prop :=
  (join entries hosts).length = entries.length ∨
    match outcome with
    | .written => (join entries hosts).length ≤ maxEntries
    | .refused => entries.length ≠ maxEntries
    | .torn => entries = []

instance (entries hosts : List HistoryEntry) (outcome : WriteOutcome) :
    Decidable (Safe entries hosts outcome) := by
  unfold Safe
  cases outcome <;> infer_instance

/-- The list on disk keeps its rows, gains only rows that join it, and gains all of them if the
answer is yes. -/
theorem adopt_spec {place : ListPlace} {hosts : List HistoryEntry} {outcome : WriteOutcome}
    (safe : Safe (openEntries place) hosts outcome) :
    (∀ row ∈ openEntries place, row ∈ openEntries (adopt place hosts outcome).2) ∧
    (∀ row ∈ openEntries (adopt place hosts outcome).2, row ∈ join (openEntries place) hosts) ∧
    ((adopt place hosts outcome).1 = true →
      ∀ row ∈ join (openEntries place) hosts, row ∈ openEntries (adopt place hosts outcome).2) := by
  cases place with
  | nowhere => exact ⟨fun _ => id, fun row member => (List.not_mem_nil member).elim, nofun⟩
  | path file =>
      have safe : Safe (load file) hosts outcome := safe
      have own := prefix_join (load file) hosts
      by_cases same : (join (load file) hosts).length = (load file).length
      · have isJoin := own.eq_of_length same.symm
        have unchanged : adopt (.path file) hosts outcome = (true, .path file) := if_pos same
        rw [unchanged]
        refine ⟨fun _ => id, fun row member => own.subset member, fun _ row member => ?_⟩
        rw [openEntries, isJoin]
        exact member
      · have safe := safe.resolve_left same
        have longer := lt_of_le_of_ne own.length_le (Ne.symm same)
        have saved : adopt (.path file) hosts outcome =
            (let kept := (newestFirst (join (load file) hosts)).take maxEntries
             ((load (save file kept outcome)).length == kept.length,
              .path (save file kept outcome))) := if_neg same
        rw [saved]
        cases outcome with
        | written =>
            have whole : (newestFirst (join (load file) hosts)).take maxEntries =
                newestFirst (join (load file) hosts) :=
              List.take_of_length_le (length_newestFirst.trans_le safe)
            rw [whole]
            exact ⟨fun row member => mem_newestFirst.mpr (own.subset member),
              fun row => mem_newestFirst.mp, fun _ row => mem_newestFirst.mpr⟩
        | refused =>
            -- The file is as it was, and not as long as the list: the answer is no.
            refine ⟨fun _ => id, fun row member => own.subset member, fun yes => ?_⟩
            have counted : (load file).length =
                min maxEntries (newestFirst (join (load file) hosts)).length :=
              (beq_iff_eq.mp yes).trans List.length_take
            rw [length_newestFirst] at counted
            have full : (load file).length ≠ maxEntries := safe
            omega
        | torn =>
            have nothing : load file = [] := safe
            refine ⟨fun row member => ?_, fun row member => (List.not_mem_nil member).elim,
              fun yes => ?_⟩
            · rw [openEntries, nothing] at member
              cases member
            · have counted : 0 = min maxEntries (newestFirst (join (load file) hosts)).length :=
                (beq_iff_eq.mp yes).trans List.length_take
              rw [length_newestFirst, maxEntries] at counted
              omega

end Lumepeer.Runtime.HistoryFile
