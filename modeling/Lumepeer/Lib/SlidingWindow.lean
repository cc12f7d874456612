import Mathlib.Data.List.Induction
import Mathlib.Data.List.Basic

/-!
# Counting in a sliding window

Times are kept as long as they can still count: whoever asks at `now` counts
those that are less than a window old, and drops the rest for good. A pruned
list stands for the full one because time does not run backwards, and a rule
that lets a time in only while fewer than a limit count bounds every interval
of the window's length.
-/

namespace Lumepeer.Lib.SlidingWindow

variable {window limit t now start : Nat} {times kept : List Nat}

/-- The times that are less than a window old. -/
def recent (window now : Nat) (times : List Nat) : List Nat :=
  times.filter fun time => now - time < window

@[simp] theorem recent_nil : recent window now [] = [] := rfl

@[simp] theorem recent_append (first second : List Nat) :
    recent window now (first ++ second) = recent window now first ++ recent window now second :=
  List.filter_append ..

/-- Pruning early drops nothing that counts later. -/
theorem recent_recent (le : t ≤ now) :
    recent window now (recent window t times) = recent window now times := by
  unfold recent
  rw [List.filter_filter]
  apply List.filter_congr
  intro time _
  by_cases young : now - time < window
  · have younger : t - time < window := by omega
    simp [young, younger]
  · simp [young]

/-- From `t` on the two lists count the same. -/
def StandsFor (window t : Nat) (kept times : List Nat) : Prop :=
  ∀ now, t ≤ now → recent window now kept = recent window now times

/-- Every time was let in while fewer than `limit` counted. -/
def Rationed (window limit : Nat) (times : List Nat) : Prop :=
  ∀ before time after, times = before ++ time :: after →
    (recent window time before).length < limit

theorem Rationed.initial {last : Nat} (rationed : Rationed window limit (times ++ [last])) :
    Rationed window limit times := by
  intro before time after split
  exact rationed before time (after ++ [last]) (by simp [split])

theorem rationed_nil : Rationed window limit [] := by
  intro before time after split
  simp at split

/-- A time is let in by the rule. -/
theorem Rationed.append {time : Nat} (rationed : Rationed window limit times)
    (admitted : (recent window time times).length < limit) :
    Rationed window limit (times ++ [time]) := by
  intro before inner after split
  rcases List.eq_nil_or_concat after with rfl | ⟨shorter, last, rfl⟩
  · obtain ⟨rfl, isTime⟩ := List.append_inj' split rfl
    obtain rfl : time = inner := by simpa using isTime
    exact admitted
  · apply rationed before inner shorter
    rw [List.concat_eq_append, ← List.cons_append, ← List.append_assoc] at split
    exact (List.append_inj' split rfl).1

/-- No half-open interval of the window's length holds more than `limit` of the times. -/
theorem Rationed.length_between_le (rationed : Rationed window limit times)
    (ordered : times.Pairwise (· ≤ ·)) :
    (times.filter fun time => start ≤ time ∧ time < start + window).length ≤ limit := by
  -- Times are let in at the end; the last one in the interval has counted all the others.
  induction times using List.reverseRecOn with
  | nil => simp
  | append_singleton earlier last ih =>
      rw [List.pairwise_append] at ordered
      obtain ⟨earlierOrdered, -, upToLast⟩ := ordered
      have soFar := ih rationed.initial earlierOrdered
      rw [List.filter_append, List.length_append]
      by_cases inside : start ≤ last ∧ last < start + window
      · have counted : (earlier.filter fun time => start ≤ time ∧ time < start + window).length ≤
            (recent window last earlier).length := by
          apply List.Sublist.length_le
          apply List.monotone_filter_right
          intro time
          simp only [decide_eq_true_eq]
          omega
        have admitted := rationed earlier last [] rfl
        simp only [inside, List.filter_cons, List.filter_nil]
        simp only [and_self, decide_true, if_true, List.length_singleton]
        omega
      · simpa [inside] using soFar

/-- What is kept at `t` stands for the times let in by then, in order and by the rule. -/
structure Tracks (window limit t : Nat) (kept times : List Nat) : Prop where
  stands : StandsFor window t kept times
  rationed : Rationed window limit times
  ordered : times.Pairwise (· ≤ ·)
  until_ : ∀ time ∈ times, time ≤ t

theorem tracks_nil : Tracks window limit t [] [] where
  stands _ _ := rfl
  rationed := rationed_nil
  ordered := .nil
  until_ := by simp

/-- Time passes. -/
theorem Tracks.wait (tracks : Tracks window limit t kept times) (le : t ≤ now) :
    Tracks window limit now kept times where
  stands later isLater := tracks.stands later (Nat.le_trans le isLater)
  rationed := tracks.rationed
  ordered := tracks.ordered
  until_ time member := Nat.le_trans (tracks.until_ time member) le

/-- Somebody counts, and what is too old leaves. -/
theorem Tracks.prune (tracks : Tracks window limit t kept times) (le : t ≤ now) :
    Tracks window limit now (recent window now kept) times where
  stands later isLater := by
    rw [recent_recent isLater]
    exact tracks.stands later (Nat.le_trans le isLater)
  rationed := tracks.rationed
  ordered := tracks.ordered
  until_ := (tracks.wait le).until_

/-- Somebody counts fewer than the limit and is let in. -/
theorem Tracks.admit (tracks : Tracks window limit t kept times) (le : t ≤ now)
    (room : (recent window now kept).length < limit) :
    Tracks window limit now (recent window now kept ++ [now]) (times ++ [now]) where
  stands later isLater := by
    simp only [recent_append, (tracks.prune le).stands later isLater]
  rationed := by
    rw [tracks.stands now le] at room
    exact tracks.rationed.append room
  ordered := by
    rw [List.pairwise_append]
    exact ⟨tracks.ordered, List.pairwise_singleton .., by simpa using (tracks.wait le).until_⟩
  until_ time member := by
    rcases List.mem_append.mp member with earlier | isLast
    · exact (tracks.wait le).until_ time earlier
    · exact Nat.le_of_eq (List.mem_singleton.mp isLast)

end Lumepeer.Lib.SlidingWindow
