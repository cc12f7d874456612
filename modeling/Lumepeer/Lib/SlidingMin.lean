import Mathlib.Data.List.DropRight
import Mathlib.Order.Bounds.Basic

/-!
# The least value of a sliding window

Values are noted one after the other, each at its time, and the least of those
that are not older than a window is asked for. The queue keeps only values that
can still be the least: a new value removes from the back those that it is not
greater than, and the ones that are too old leave at the front when somebody
asks. `Tracks` relates the queue to everything that was ever noted: what is
missing is too old or hides behind a later value that is not greater.
-/

namespace Lumepeer.Lib.SlidingMin

universe u
variable {α : Type u} [LinearOrder α] {window t now : Nat} {notes queue : List (Nat × α)}

/-- Puts a value at the back, in place of those that it is not greater than. -/
def note (queue : List (Nat × α)) (time : Nat) (value : α) : List (Nat × α) :=
  queue.rdropWhile (fun entry => value ≤ entry.2) ++ [(time, value)]

/-- Removes what is too old from the front. -/
def prune (window now : Nat) (queue : List (Nat × α)) : List (Nat × α) :=
  queue.dropWhile fun entry => window < now - entry.1

omit [LinearOrder α] in
/-- At the start of time nothing is too old. -/
theorem prune_zero : prune window 0 queue = queue := by
  unfold prune
  cases queue with
  | nil => rfl
  | cons first queue => simp

omit [LinearOrder α] in
/-- What two moments leave, in whatever order, is what the later of them leaves. -/
theorem prune_prune (first second : Nat) :
    prune window second (prune window first queue) = prune window (max first second) queue := by
  unfold prune
  induction queue with
  | nil => rfl
  | cons entry queue ih =>
      simp only [List.dropWhile_cons, decide_eq_true_eq]
      by_cases old : window < first - entry.1
      · have older : window < max first second - entry.1 := by omega
        rw [if_pos old, if_pos older]
        exact ih
      · rw [if_neg old, List.dropWhile_cons]
        by_cases late : window < second - entry.1
        · -- The second moment is the later one.
          have later : max first second = second := by omega
          rw [later, if_pos (decide_eq_true late), if_pos late]
        · have young : ¬window < max first second - entry.1 := by omega
          rw [if_neg (by simpa using late), if_neg young]

/-- The values that were noted in the window. -/
def recent (window now : Nat) (notes : List (Nat × α)) : Set α :=
  {value | ∃ entry ∈ notes, now - entry.1 ≤ window ∧ entry.2 = value}

/-- The queue stands for the notes taken until `t`. -/
structure Tracks (window : Nat) (notes queue : List (Nat × α)) (t : Nat) : Prop where
  noted : ∀ entry ∈ queue, entry ∈ notes
  until_ : ∀ entry ∈ queue, entry.1 ≤ t
  ordered : queue.Pairwise fun earlier later => earlier.1 ≤ later.1 ∧ earlier.2 < later.2
  hidden : ∀ entry ∈ notes, window < t - entry.1 ∨
    ∃ kept ∈ queue, entry.1 ≤ kept.1 ∧ kept.2 ≤ entry.2

theorem tracks_nil : Tracks window ([] : List (Nat × α)) [] t :=
  { noted := by simp, until_ := by simp, ordered := List.Pairwise.nil, hidden := by simp }

/-- Time passes. -/
theorem Tracks.mono (tracks : Tracks window notes queue t) (le : t ≤ now) :
    Tracks window notes queue now where
  noted := tracks.noted
  until_ entry member := (tracks.until_ entry member).trans le
  ordered := tracks.ordered
  hidden entry member := (tracks.hidden entry member).imp (fun old => by omega) id

omit [LinearOrder α] in
/-- What the back loses meets the condition. -/
theorem mem_rdropWhile_or {p : Nat × α → Bool} {entry : Nat × α} (member : entry ∈ queue) :
    entry ∈ queue.rdropWhile p ∨ p entry = true := by
  have whole : queue.rdropWhile p ++ queue.rtakeWhile p = queue := List.rdropWhile_append_rtakeWhile
  rw [← whole, List.mem_append] at member
  exact member.imp id fun dropped => List.mem_rtakeWhile_imp dropped

/-- What a new value leaves is smaller than it. -/
theorem lt_of_mem_rdropWhile {value : α} {entry : Nat × α}
    (ordered : queue.Pairwise fun earlier later => earlier.1 ≤ later.1 ∧ earlier.2 < later.2)
    (member : entry ∈ queue.rdropWhile (fun entry => value ≤ entry.2)) : entry.2 < value := by
  induction queue using List.reverseRecOn with
  | nil => simp at member
  | append_singleton queue last ih =>
      rw [List.rdropWhile_concat] at member
      rw [List.pairwise_append] at ordered
      split at member
      · exact ih ordered.1 member
      · rename_i smaller
        have below : last.2 < value := by simpa using smaller
        rcases List.mem_append.mp member with earlier | isLast
        · exact (ordered.2.2 entry earlier last (by simp)).2.trans below
        · rw [List.mem_singleton] at isLast
          rwa [isLast]

/-- A new note keeps the queue in step with the notes. -/
theorem Tracks.note (tracks : Tracks window notes queue t) (value : α) (le : t ≤ now) :
    Tracks window (notes ++ [(now, value)]) (SlidingMin.note queue now value) now := by
  have kept : ∀ entry ∈ queue.rdropWhile (fun entry => value ≤ entry.2), entry ∈ queue :=
    fun entry member => (List.rdropWhile_prefix _ queue).subset member
  have early : ∀ entry ∈ queue, entry.1 ≤ now := (tracks.mono le).until_
  refine { noted := ?_, until_ := ?_, ordered := ?_, hidden := ?_ }
  · intro entry member
    rcases List.mem_append.mp member with earlier | isNew
    · exact List.mem_append_left _ (tracks.noted entry (kept entry earlier))
    · exact List.mem_append_right _ isNew
  · intro entry member
    rcases List.mem_append.mp member with earlier | isNew
    · exact early entry (kept entry earlier)
    · rw [List.mem_singleton] at isNew
      simp [isNew]
  · refine List.pairwise_append.mpr ⟨?_, List.pairwise_singleton _ _, ?_⟩
    · exact tracks.ordered.sublist (List.rdropWhile_prefix _ queue).sublist
    · intro earlier member later isNew
      rw [List.mem_singleton] at isNew
      subst isNew
      exact ⟨early earlier (kept earlier member), lt_of_mem_rdropWhile tracks.ordered member⟩
  · have newest : (now, value) ∈ SlidingMin.note queue now value := by simp [SlidingMin.note]
    intro entry member
    rcases List.mem_append.mp member with earlier | isNew
    · rcases (tracks.mono le).hidden entry earlier with old | ⟨hides, isKept, later, smaller⟩
      · exact .inl old
      · refine .inr ?_
        rcases mem_rdropWhile_or isKept with stays | dropped
        · exact ⟨hides, List.mem_append_left _ stays, later, smaller⟩
        · exact ⟨_, newest, later.trans (early hides isKept),
            le_trans (of_decide_eq_true dropped) smaller⟩
    · rw [List.mem_singleton] at isNew
      subst isNew
      exact .inr ⟨_, newest, le_rfl, le_rfl⟩

/-- In an ordered queue the entries that are too old are those at the front. -/
theorem mem_prune {entry : Nat × α}
    (ordered : queue.Pairwise fun earlier later => earlier.1 ≤ later.1 ∧ earlier.2 < later.2) :
    entry ∈ prune window now queue ↔ entry ∈ queue ∧ now - entry.1 ≤ window := by
  unfold prune
  induction queue with
  | nil => simp
  | cons first queue ih =>
      rw [List.pairwise_cons] at ordered
      rw [List.dropWhile_cons]
      split
      · rename_i old
        have tooOld : window < now - first.1 := of_decide_eq_true old
        rw [ih ordered.2, List.mem_cons]
        constructor
        · rintro ⟨member, young⟩
          exact ⟨.inr member, young⟩
        · rintro ⟨rfl | member, young⟩
          · omega
          · exact ⟨member, young⟩
      · rename_i young
        have fresh : now - first.1 ≤ window := by simpa using young
        constructor
        · intro member
          refine ⟨member, ?_⟩
          rcases List.mem_cons.mp member with rfl | later
          · exact fresh
          · have := (ordered.1 entry later).1
            omega
        · exact fun both => both.1

theorem Tracks.prune (tracks : Tracks window notes queue t) (le : t ≤ now) :
    Tracks window notes (SlidingMin.prune window now queue) now where
  noted entry member := tracks.noted entry ((mem_prune tracks.ordered).mp member).1
  until_ entry member := (tracks.mono le).until_ entry ((mem_prune tracks.ordered).mp member).1
  ordered := tracks.ordered.sublist (List.dropWhile_sublist _)
  hidden entry member := by
    rcases (tracks.mono le).hidden entry member with old | ⟨kept, isKept, later, smaller⟩
    · exact .inl old
    · by_cases young : now - kept.1 ≤ window
      · exact .inr ⟨kept, (mem_prune tracks.ordered).mpr ⟨isKept, young⟩, later, smaller⟩
      · exact .inl (by omega)

/-- The front of the pruned queue is the least value that was noted in the window. -/
theorem Tracks.front_eq_some (tracks : Tracks window notes queue t) (le : t ≤ now) {value : α} :
    (SlidingMin.prune window now queue).head?.map Prod.snd = some value ↔
      IsLeast (recent window now notes) value := by
  have pruned := tracks.prune le
  have least : ∀ entry ∈ (SlidingMin.prune window now queue).head?,
      IsLeast (recent window now notes) entry.2 := by
    intro entry isFirst
    rw [Option.mem_def] at isFirst
    have member := List.mem_of_head? isFirst
    obtain ⟨inQueue, young⟩ := (mem_prune tracks.ordered).mp member
    refine ⟨⟨entry, pruned.noted entry member, young, rfl⟩, ?_⟩
    rintro other ⟨note, noted, fresh, rfl⟩
    obtain old | ⟨kept, isKept, -, smaller⟩ := pruned.hidden note noted
    · omega
    · -- The first entry of an ordered queue is the smallest.
      refine le_trans ?_ smaller
      obtain ⟨rest, split⟩ := List.head?_eq_some_iff.mp isFirst
      have ordered := pruned.ordered
      rw [split] at isKept ordered
      rw [List.pairwise_cons] at ordered
      rcases List.mem_cons.mp isKept with rfl | later
      · exact le_rfl
      · exact (ordered.1 kept later).2.le
  constructor
  · intro isFront
    obtain ⟨entry, isFirst, rfl⟩ := Option.map_eq_some_iff.mp isFront
    exact least entry isFirst
  · intro isLeast
    obtain ⟨note, noted, fresh, isValue⟩ := isLeast.1
    obtain old | ⟨kept, isKept, -, -⟩ := pruned.hidden note noted
    · omega
    · obtain ⟨first, isFirst⟩ : ∃ first, (SlidingMin.prune window now queue).head? = some first := by
        cases found : SlidingMin.prune window now queue with
        | nil => simp [found] at isKept
        | cons first rest => exact ⟨first, rfl⟩
      rw [isFirst, Option.map_some, (least first isFirst).unique isLeast]

theorem Tracks.front_eq_none (tracks : Tracks window notes queue t) (le : t ≤ now) :
    (SlidingMin.prune window now queue).head?.map Prod.snd = none ↔
      recent window now notes = ∅ := by
  have pruned := tracks.prune le
  rw [Option.map_eq_none_iff, List.head?_eq_none_iff, Set.eq_empty_iff_forall_notMem]
  constructor
  · rintro nothing value ⟨note, noted, fresh, -⟩
    obtain old | ⟨kept, isKept, -, -⟩ := pruned.hidden note noted
    · omega
    · simp [nothing] at isKept
  · intro nothing
    rw [List.eq_nil_iff_forall_not_mem]
    intro entry member
    exact nothing entry.2 ⟨entry, pruned.noted entry member,
      ((mem_prune tracks.ordered).mp member).2, rfl⟩

end Lumepeer.Lib.SlidingMin
