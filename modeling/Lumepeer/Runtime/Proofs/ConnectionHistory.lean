import Lumepeer.Lib.Ranking
import Lumepeer.Runtime.ConnectionHistory

/-!
# What the remembered-hosts list remembers

The labels stay distinct and the list within its bound whatever is done to it,
and a host is trusted as `set_trusted` or the `adopt` that listed it decided
last. A row that was listed outlives `adopt` as long as the list and the rows
that are newer than one of its own fit the bound together: the list is sorted by
time and cut, and its own rows are cut like any other.
-/

namespace Lumepeer.Runtime.HistoryFile.ConnectionHistory
open Lumepeer.Lib Lumepeer.Core

/-- Distinct labels and no more rows than the bound. -/
structure Sound (entries : List HistoryEntry) : Prop where
  distinct : (entries.map HistoryEntry.peerLabel).Nodup
  bounded : entries.length ≤ maxEntries

/-! ## Rows by their label -/

section Rows
variable {entries rows : List HistoryEntry} {row : HistoryEntry} {label : String}
  {change : HistoryEntry → HistoryEntry}

theorem eq_of_mem (distinct : (entries.map HistoryEntry.peerLabel).Nodup) {other : HistoryEntry}
    (member : row ∈ entries) (member' : other ∈ entries) (same : row.peerLabel = other.peerLabel) :
    row = other :=
  List.inj_on_of_nodup_map distinct member member' same

theorem isTrusted_eq {history : ConnectionHistory}
    (distinct : (history.entries.map HistoryEntry.peerLabel).Nodup)
    (member : row ∈ history.entries) :
    history.isTrusted row.peerLabel = row.trusted := by
  rw [isTrusted, Bool.eq_iff_iff, List.any_eq_true]
  constructor
  · rintro ⟨other, member', trusted⟩
    obtain ⟨same, trusted⟩ := Bool.and_eq_true_iff.mp trusted
    rw [eq_of_mem distinct member member' (beq_iff_eq.mp same).symm]
    exact trusted
  · intro trusted
    exact ⟨row, member, by rw [trusted, beq_self_eq_true]; rfl⟩

theorem isTrusted_of_not_lists {history : ConnectionHistory}
    (unlisted : ¬Lists history.entries label) : history.isTrusted label = false := by
  rw [isTrusted, List.any_eq_false]
  intro entry member trusted
  exact unlisted ⟨entry, member, beq_iff_eq.mp (Bool.and_eq_true_iff.mp trusted).1⟩

theorem mem_alter (member : row ∈ alter label change entries) :
    row ∈ entries ∨ ∃ old, rowOf entries label = some old ∧ row = change old := by
  induction entries with
  | nil => cases member
  | cons entry entries ih =>
      rw [alter] at member
      rw [rowOf, List.find?_cons]
      split at member
      · rename_i here
        rw [here]
        rcases List.mem_cons.mp member with rfl | later
        · exact .inr ⟨entry, rfl, rfl⟩
        · exact .inl (List.mem_cons_of_mem _ later)
      · rename_i other
        rw [Bool.not_eq_true] at other
        rw [other]
        rcases List.mem_cons.mp member with rfl | later
        · exact .inl List.mem_cons_self
        · exact (ih later).imp (List.mem_cons_of_mem _) id

theorem change_mem_alter {old : HistoryEntry} (isRow : rowOf entries label = some old) :
    change old ∈ alter label change entries := by
  induction entries with
  | nil => cases isRow
  | cons entry entries ih =>
      rw [rowOf, List.find?_cons] at isRow
      rw [alter]
      split at isRow
      · rename_i here
        obtain rfl := Option.some.inj isRow
        rw [if_pos here]
        exact List.mem_cons_self
      · rename_i other
        rw [if_neg (by simp [other])]
        exact List.mem_cons_of_mem _ (ih isRow)

theorem labels_alter (keeps : ∀ entry, (change entry).peerLabel = entry.peerLabel) :
    (alter label change entries).map HistoryEntry.peerLabel =
      entries.map HistoryEntry.peerLabel := by
  induction entries with
  | nil => rfl
  | cons entry entries ih =>
      rw [alter]
      split
      · rw [List.map_cons, List.map_cons, keeps]
      · rw [List.map_cons, List.map_cons, ih]

theorem rowOf_label {old : HistoryEntry} (isRow : rowOf entries label = some old) :
    old ∈ entries ∧ old.peerLabel = label := by
  unfold rowOf at isRow
  have found := List.find?_some isRow
  exact ⟨List.mem_of_find?_eq_some isRow, beq_iff_eq.mp found⟩

theorem rowOf_of_mem (distinct : (entries.map HistoryEntry.peerLabel).Nodup)
    (member : row ∈ entries) (isLabel : row.peerLabel = label) : rowOf entries label = some row := by
  cases found : rowOf entries label with
  | none =>
      unfold rowOf at found
      exact absurd (List.find?_eq_none.mp found row member) (by simp [isLabel])
  | some other =>
      obtain ⟨member', isLabel'⟩ := rowOf_label found
      rw [eq_of_mem distinct member member' (isLabel.trans isLabel'.symm)]

theorem distinct_join (distinct : (entries.map HistoryEntry.peerLabel).Nodup) :
    ((join entries rows).map HistoryEntry.peerLabel).Nodup := by
  induction rows generalizing entries with
  | nil => exact distinct
  | cons row rows ih =>
      rw [join]
      split
      · exact ih distinct
      · rename_i unlisted
        apply ih
        rw [List.map_append, List.map_singleton, List.nodup_append]
        refine ⟨distinct, List.nodup_singleton _, ?_⟩
        rintro label member other isOther rfl
        obtain rfl := List.mem_singleton.mp isOther
        obtain ⟨entry, isEntry, same⟩ := List.mem_map.mp member
        exact unlisted (lists_iff.mp ⟨entry, isEntry, same⟩)

end Rows

/-! ## One change -/

theorem Sound.of_sublist {entries fewer : List HistoryEntry} (sound : Sound entries)
    (sub : fewer.Sublist entries) : Sound fewer :=
  ⟨sound.distinct.sublist (sub.map _), sub.length_le.trans sound.bounded⟩

theorem Sound.alter {entries : List HistoryEntry} {change : HistoryEntry → HistoryEntry}
    (sound : Sound entries) (keeps : ∀ entry, (change entry).peerLabel = entry.peerLabel)
    (label : String) : Sound (alter label change entries) := by
  have labels : (ConnectionHistory.alter label change entries).map HistoryEntry.peerLabel =
      entries.map HistoryEntry.peerLabel := labels_alter keeps
  refine ⟨?_, ?_⟩
  · rw [labels]
    exact sound.distinct
  · have same := congrArg List.length labels
    rw [List.length_map, List.length_map] at same
    rw [same]
    exact sound.bounded

theorem sound_adopted {entries : List HistoryEntry} (rows : List HistoryEntry)
    (sound : Sound entries) : Sound (adopted entries rows) := by
  refine ⟨?_, List.length_take_le _ _⟩
  apply List.Nodup.sublist ((List.take_sublist _ _).map _)
  have perm := (List.perm_insertionSort
    (fun one two : HistoryEntry => two.lastSeenAt ≤ one.lastSeenAt) (join entries rows)).map
    HistoryEntry.peerLabel
  exact perm.nodup_iff.mpr (distinct_join sound.distinct)

/-- Every change keeps the labels distinct and the list within its bound. -/
theorem sound_step {history : ConnectionHistory} (op : Op) (sound : Sound history.entries) :
    Sound (history.step op).2.entries := by
  cases op with
  | record label role code transport addrs now outcome =>
      simp only [step, record, saved_entries]
      refine ⟨?_, List.length_take_le _ _⟩
      apply List.Nodup.sublist ((List.take_sublist _ _).map _)
      rw [List.map_cons, List.nodup_cons]
      refine ⟨?_, (sound.of_sublist List.filter_sublist).distinct⟩
      intro member
      obtain ⟨entry, isEntry, same⟩ := List.mem_map.mp member
      obtain ⟨-, other⟩ := List.mem_filter.mp isEntry
      exact bne_iff_ne.mp other same
  | setDevice label device outcome =>
      simp only [step, answers]
      rcases history.setDevice_entries label device outcome with same | altered
      · rwa [same]
      · rw [altered]
        refine sound.alter ?_ label
        exact fun _ => rfl
  | rememberAddrs label addrs outcome =>
      simp only [step, answers]
      rcases history.rememberAddrs_entries label addrs outcome with same | altered
      · rwa [same]
      · rw [altered]
        refine sound.alter ?_ label
        exact fun _ => rfl
  | setTrusted label trusted outcome =>
      simp only [step, answers]
      rcases history.setTrusted_entries label trusted outcome with ⟨same, -⟩ | altered
      · rwa [same]
      · rw [altered]
        refine sound.alter ?_ label
        exact fun _ => rfl
  | remove label outcome =>
      simp only [step, answers, remove_entries]
      exact sound.of_sublist List.filter_sublist
  | adopt rows outcome =>
      simp only [step, answers]
      rcases history.adopt_entries rows outcome with same | isAdopted
      · rwa [same]
      · rw [isAdopted]
        exact sound_adopted rows sound

/-! ## Who is trusted -/

/-- An executed change. -/
abbrev Change := Event ConnectionHistory Op (Option Bool)

/-- The mark of a host after a change, by the mark before it: a host without a row has none, and
only `set_trusted` and the `adopt` that lists the host decide it. -/
def decision (label : String) (mark : Bool) (e : Change) : Bool :=
  if Lists e.post.entries label then
    match e.op with
    | .setTrusted host trusted _ => if host = label then trusted else mark
    | .adopt rows _ =>
        if Lists e.pre.entries label then mark
        else ((rowOf rows label).map HistoryEntry.trusted).getD false
    | .record .. | .setDevice .. | .rememberAddrs .. | .remove .. => mark
  else false

/-- The mark that the last decision about the row of a host gave it. -/
def lastDecision (label : String) (changes : List Change) : Bool :=
  changes.foldl (decision label) false

/-- Of rows that stand in the list before with the same mark nothing new is known. -/
theorem trusted_of_old {history : ConnectionHistory} (sound : Sound history.entries)
    {row old : HistoryEntry} (member : old ∈ history.entries)
    (label : old.peerLabel = row.peerLabel) (same : old.trusted = row.trusted) :
    row.trusted = history.isTrusted row.peerLabel := by
  rw [← label, isTrusted_eq sound.distinct member, same]

theorem decision_step {history : ConnectionHistory} (op : Op) (sound : Sound history.entries)
    (label : String) :
    (history.step op).2.isTrusted label =
      decision label (history.isTrusted label) (Event.of step history op) := by
  unfold decision
  rw [Event.of_post, Event.of_op, Event.of_pre]
  by_cases listed : Lists (history.step op).2.entries label
  · rw [if_pos listed]
    obtain ⟨row, member, rfl⟩ := listed
    have distinct := (sound_step op sound).distinct
    rw [isTrusted_eq distinct member]
    have kept (member : row ∈ history.entries) : row.trusted = history.isTrusted row.peerLabel :=
      (isTrusted_eq sound.distinct member).symm
    cases op with
    | record label role code transport addrs now outcome =>
        simp only [step, record, saved_entries] at member
        rcases List.mem_cons.mp (List.mem_of_mem_take member) with rfl | other
        · rfl
        · exact kept (List.mem_filter.mp other).1
    | setDevice label device outcome =>
        simp only [step, answers] at member
        rcases history.setDevice_entries label device outcome with same | altered
        · exact kept (same ▸ member)
        · rw [altered] at member
          rcases mem_alter member with old | ⟨old, isOld, rfl⟩
          · exact kept old
          · exact trusted_of_old sound (rowOf_label isOld).1 rfl rfl
    | rememberAddrs label addrs outcome =>
        simp only [step, answers] at member
        rcases history.rememberAddrs_entries label addrs outcome with same | altered
        · exact kept (same ▸ member)
        · rw [altered] at member
          rcases mem_alter member with old | ⟨old, isOld, rfl⟩
          · exact kept old
          · exact trusted_of_old sound (rowOf_label isOld).1 rfl rfl
    | setTrusted label trusted outcome =>
        simp only [step, answers] at member distinct
        rcases history.setTrusted_entries label trusted outcome with ⟨same, as_wanted⟩ | altered
        · rw [same] at member
          simp only
          by_cases here : label = row.peerLabel
          · rw [if_pos here]
            exact as_wanted row (rowOf_of_mem sound.distinct member here.symm)
          · rw [if_neg here]
            exact kept member
        · rw [altered] at member distinct
          simp only
          by_cases here : label = row.peerLabel
          · rw [if_pos here]
            rcases mem_alter member with old | ⟨old, -, rfl⟩
            · -- The row that was altered has the label too, so it is this one.
              have isRow := rowOf_of_mem sound.distinct old here.symm
              have isChanged : { row with trusted } ∈
                  alter label (fun entry => { entry with trusted }) history.entries :=
                change_mem_alter isRow
              exact congrArg HistoryEntry.trusted (eq_of_mem distinct member isChanged rfl)
            · rfl
          · rw [if_neg here]
            rcases mem_alter member with old | ⟨old, isOld, rfl⟩
            · exact kept old
            · exact absurd (rowOf_label isOld).2.symm here
    | remove label outcome =>
        simp only [step, answers, remove_entries] at member
        exact kept (List.mem_filter.mp member).1
    | adopt rows outcome =>
        simp only [step, answers] at member
        simp only
        rcases history.adopt_entries rows outcome with same | isAdopted
        · rw [same] at member
          rw [if_pos ⟨row, member, rfl⟩]
          exact kept member
        · rw [isAdopted] at member
          rcases mem_join (mem_newestFirst.mp (List.mem_of_mem_take member)) with old | ⟨new, isRow⟩
          · rw [if_pos ⟨row, old, rfl⟩]
            exact kept old
          · rw [if_neg new, isRow]
            rfl
  · rw [if_neg listed]
    exact isTrusted_of_not_lists listed

/-! ## What `adopt` keeps -/

/-- The rows that join a list. -/
def joining (entries rows : List HistoryEntry) : List HistoryEntry :=
  (join entries rows).drop entries.length

theorem join_eq (entries rows : List HistoryEntry) :
    join entries rows = entries ++ joining entries rows := by
  obtain ⟨new, isJoin⟩ := prefix_join entries rows
  rw [joining, ← isJoin, List.drop_left]

/-- There is no path to keep a list at, or the list fits the bound together with the rows that join
it and are newer than one of its own. -/
def Fits (history : ConnectionHistory) (rows : List HistoryEntry) : Prop :=
  history.place = .nowhere ∨
    history.entries.length + (joining history.entries rows).countP (fun row =>
      history.entries.any fun entry => entry.lastSeenAt < row.lastSeenAt) ≤ maxEntries

/-- The listed rows outlive `adopt` if and only if those that go before one of them fit. -/
theorem keeps_iff_fits {history : ConnectionHistory} (sound : Sound history.entries)
    (rows : List HistoryEntry) (outcome : WriteOutcome) :
    (∀ row ∈ history.entries, row ∈ (history.adopt rows outcome).2.entries) ↔
      Fits history rows := by
  cases place : history.place with
  | nowhere =>
      rw [adopt_of_nowhere place]
      exact ⟨fun _ => .inl place, fun _ row member => member⟩
  | path file =>
      by_cases same : (join history.entries rows).length = history.entries.length
      · have none : joining history.entries rows = [] := by
          rw [joining, List.drop_eq_nil_iff, same]
        rw [adopt_of_same place same, Fits, none, List.countP_nil]
        exact ⟨fun _ => .inr sound.bounded, fun _ row member => member⟩
      · rw [adopt_of_new place same, Fits, adopted, newestFirst, join_eq]
        have nodup : (history.entries ++ joining history.entries rows).Nodup := by
          rw [← join_eq]
          exact (distinct_join sound.distinct).of_map
        have total : Std.Total fun one two : HistoryEntry => two.lastSeenAt ≤ one.lastSeenAt :=
          ⟨fun one two => UInt64.le_total two.lastSeenAt one.lastSeenAt⟩
        have trans : IsTrans HistoryEntry fun one two => two.lastSeenAt ≤ one.lastSeenAt :=
          ⟨fun _ _ _ first second => UInt64.le_trans second first⟩
        have ranks : Ranking.ranksAbove
            (fun one two : HistoryEntry => two.lastSeenAt ≤ one.lastSeenAt) history.entries =
            fun row => history.entries.any fun entry => entry.lastSeenAt < row.lastSeenAt := by
          funext row
          simp only [Ranking.ranksAbove, UInt64.not_le]
        rw [Ranking.forall_mem_take_iff nodup, ranks]
        exact ⟨.inr, fun fits => fits.resolve_left (by rw [place]; intro same; cases same)⟩

/-! ## Whole runs -/

/-- What holds after a change. -/
structure Remembers (before : List Change) (e : Change) : Prop where
  distinct : (e.post.entries.map HistoryEntry.peerLabel).Nodup
  bounded : e.post.entries.length ≤ maxEntries
  decided : ∀ label, e.post.isTrusted label = lastDecision label (before ++ [e])
  earned : ∀ label, e.post.isTrusted label = true →
    (match e.op with
      | .record .. | .setDevice .. | .rememberAddrs .. => e.pre.isTrusted label = true
      | .setTrusted .. | .remove .. | .adopt .. => True)
  kept : ∀ rows outcome, e.op = .adopt rows outcome →
    ∀ row ∈ e.pre.entries, row ∈ e.post.entries

/-- In every run from an empty list. -/
def AlwaysRemembers (place : ListPlace) (ops : List Op) : Prop :=
  ∀ before e after, history step { place, entries := [] } ops = before ++ e :: after →
    Remembers before e

theorem sound_exec (place : ListPlace) (ops : List Op) :
    Sound (exec step { place, entries := [] } ops).entries := by
  have keep (history : ConnectionHistory) (op : Op) (sound : Sound history.entries) :
      Sound (history.step op).2.entries := sound_step op sound
  apply exec_invariant keep
  exact ⟨List.nodup_nil, Nat.zero_le _⟩

theorem isTrusted_exec (place : ListPlace) (ops : List Op) (label : String) :
    (exec step { place, entries := [] } ops).isTrusted label =
      lastDecision label (history step { place, entries := [] } ops) := by
  induction ops using List.reverseRecOn with
  | nil => rfl
  | append_singleton ops op ih =>
      rw [exec_concat, history_concat, decision_step op (sound_exec place ops), ih, lastDecision,
        lastDecision, List.foldl_append, List.foldl_cons, List.foldl_nil]

/-- A mark that a visit, a device or addresses leave is one that was there. -/
theorem isTrusted_of_decision {e : Change} {label : String} {mark : Bool}
    (trusted : decision label mark e = true) :
    match e.op with
    | .record .. | .setDevice .. | .rememberAddrs .. => mark = true
    | .setTrusted .. | .remove .. | .adopt .. => True := by
  unfold decision at trusted
  split at trusted
  · cases isOp : e.op <;> simp_all
  · cases trusted

/-- In every run: the labels are distinct, the list is bounded, the marks are as they were decided
last and none comes with a visit, a device or addresses, and no listed row is lost to `adopt`, if
and only if every `adopt` finds room for the list and the rows that go before one of its own. -/
theorem remembers_iff (place : ListPlace) (ops : List Op) :
    AlwaysRemembers place ops ↔
      ∀ e ∈ history step { place, entries := [] } ops,
        ∀ rows outcome, e.op = .adopt rows outcome → Fits e.pre rows := by
  constructor
  · intro remembers e member rows outcome isOp
    obtain ⟨before, after, split⟩ := List.append_of_mem member
    have kept := (remembers before e after split).kept rows outcome isOp
    obtain ⟨first, second, -, -, isEvent⟩ := history_split split
    rw [isEvent, isOp] at kept
    rw [isEvent]
    exact (keeps_iff_fits (sound_exec place first) rows outcome).mp kept
  · intro fits before e after split
    have member : e ∈ history step { place, entries := [] } ops := by simp [split]
    obtain ⟨first, second, -, isBefore, isEvent⟩ := history_split split
    have sound := sound_exec place first
    have isPost : e.post = (step (exec step { place, entries := [] } first) e.op).2 := by
      rw [isEvent]
      rfl
    have isPre : e.pre = exec step { place, entries := [] } first := by
      rw [isEvent]
      rfl
    have sound' := sound_step e.op sound
    rw [← isPost] at sound'
    have decided (label : String) :
        e.post.isTrusted label = decision label (e.pre.isTrusted label) e := by
      rw [isPost, decision_step e.op sound label, isPre, ← isEvent]
    refine ⟨sound'.distinct, sound'.bounded, fun label => ?_, fun label trusted => ?_, ?_⟩
    · rw [decided, isPre, isTrusted_exec, lastDecision, lastDecision, List.foldl_append, isBefore]
      rfl
    · rw [decided] at trusted
      exact isTrusted_of_decision trusted
    · intro rows outcome isOp
      have here := fits e member rows outcome isOp
      rw [isPre] at here ⊢
      rw [isPost, isOp]
      exact (keeps_iff_fits sound rows outcome).mpr here

/-- A host that was last seen at this moment. -/
def host (label : Nat) (lastSeenAt : UInt64) : HistoryEntry :=
  { peerLabel := toString label, role := .viewOnly, lastSeenAt, code := "", transport := none
    addrs := [], trusted := false, device := none }

/-- A list that is full, and a row from elsewhere that is newer. -/
def fullList : List Op :=
  [.adopt ((List.range maxEntries).map fun label => host label 10) .written,
    .adopt [host maxEntries 11] .written]

/-- The last row of a full list goes when a newer one joins. -/
theorem listed_row_lost : ¬∀ place ops, AlwaysRemembers place ops := by
  intro always
  have kept := (always (.path none) fullList
    [Event.of step { place := .path none, entries := [] }
      (.adopt ((List.range maxEntries).map fun label => host label 10) .written)]
    (Event.of step (exec step { place := .path none, entries := [] }
      [.adopt ((List.range maxEntries).map fun label => host label 10) .written])
      (.adopt [host maxEntries 11] .written)) [] rfl).kept [host maxEntries 11] .written rfl
  have listed : host 49 10 ∈ (exec step { place := .path none, entries := [] }
      [.adopt ((List.range maxEntries).map fun label => host label 10) .written]).entries := by
    decide +kernel
  have lost : host 49 10 ∉ (exec step { place := .path none, entries := [] } fullList).entries := by
    decide +kernel
  exact lost (kept _ listed)

end Lumepeer.Runtime.HistoryFile.ConnectionHistory
