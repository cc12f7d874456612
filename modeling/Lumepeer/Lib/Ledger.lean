import Mathlib.Data.List.Pairwise
import Mathlib.Tactic.Tauto

/-!
# Requests answered in the order in which they came

Requests come in with growing numbers and wait until they are answered, or are
dropped together. `Ledger` says of a run so far that every request that came in
was answered once, waits or was dropped, and that the answers came in the order of
the requests. `Move` is a step that keeps it so: what is answered is the oldest
request that waits, or the new one where none waits.
-/

namespace Lumepeer.Lib

/-- The requests that came in, the answers given (with the request each is for, if there is one),
the requests that wait and those that were dropped; later requests are numbered from `next`. -/
structure Ledger (arrivals : List Nat) (answers : List (Option Nat)) (pending dropped : List Nat)
    (next : Nat) : Prop where
  once : ∃ answered : List Nat, answers = answered.map some ∧
    (answered ++ pending).Pairwise (· < ·) ∧
    (∀ n, n ∈ arrivals ↔ n ∈ answered ∨ n ∈ pending ∨ n ∈ dropped) ∧
    ∀ n ∈ dropped, n ∉ answered ++ pending
  below : ∀ n ∈ arrivals, n < next

/-- A step from `pending` to `after`, with what comes in, is answered and is dropped in it. -/
inductive Move (next : Nat) (pending : List Nat) :
    (after arrivals : List Nat) → (answers : List (Option Nat)) → (dropped : List Nat) → Prop
  | quiet : Move next pending pending [] [] []
  | queued {new : List Nat} (ordered : new.Pairwise (· < ·)) (fresh : ∀ n ∈ new, next ≤ n) :
      Move next pending (pending ++ new) new [] []
  | atOnce {n : Nat} (nothing : pending = []) (fresh : next ≤ n) :
      Move next pending [] [n] [some n] []
  | decided {n : Nat} {rest : List Nat} (oldest : pending = n :: rest) :
      Move next pending rest [] [some n] []
  | dropped : Move next pending [] [] [] pending

namespace Ledger
variable {arrivals new pending after dropped gone : List Nat} {answers given : List (Option Nat)}
  {next later : Nat}

theorem nil : Ledger [] [] [] [] next :=
  { once := ⟨[], rfl, List.Pairwise.nil, by simp, by simp⟩, below := by simp }

/-- A move keeps the ledger. -/
theorem move (ledger : Ledger arrivals answers pending dropped next)
    (moves : Move next pending after new given gone) (bound : ∀ n ∈ new, n < later)
    (le : next ≤ later) :
    Ledger (arrivals ++ new) (answers ++ given) after (dropped ++ gone) later := by
  obtain ⟨⟨answered, rfl, ordered, known, apart⟩, below⟩ := ledger
  have stillBelow : ∀ n ∈ arrivals ++ new, n < later := by
    intro n member
    rcases List.mem_append.mp member with old | isNew
    · exact Nat.lt_of_lt_of_le (below n old) le
    · exact bound n isNew
  have old : ∀ n ∈ answered ++ pending, n < next := by
    intro n member
    refine below n ((known n).mpr ?_)
    rcases List.mem_append.mp member with isAnswered | isPending
    · exact .inl isAnswered
    · exact .inr (.inl isPending)
  refine { once := ?_, below := stillBelow }
  cases moves with
  | quiet => exact ⟨answered, by simp, ordered, by simpa using known, by simpa using apart⟩
  | queued isOrdered fresh =>
      refine ⟨answered, by simp, ?_, ?_, ?_⟩
      · rw [← List.append_assoc]
        refine List.pairwise_append.mpr ⟨ordered, isOrdered, ?_⟩
        intro n member m isNew
        exact Nat.lt_of_lt_of_le (old n member) (fresh m isNew)
      · intro n
        simp only [List.mem_append, known]
        tauto
      · intro n member again
        rw [List.append_nil] at member
        rw [← List.append_assoc, List.mem_append] at again
        rcases again with before | isNew
        · exact apart n member before
        · have := below n ((known n).mpr (.inr (.inr member)))
          have := fresh n isNew
          omega
  | @atOnce m nothing fresh =>
      subst nothing
      rw [List.append_nil] at ordered old apart
      refine ⟨answered ++ [m], by simp, ?_, ?_, ?_⟩
      · rw [List.append_nil]
        refine List.pairwise_append.mpr ⟨ordered, List.pairwise_singleton _ _, ?_⟩
        intro n member l isNew
        rw [List.mem_singleton] at isNew
        exact Nat.lt_of_lt_of_le (old n member) (isNew ▸ fresh)
      · intro n
        simp only [List.mem_append, known, List.mem_singleton, List.not_mem_nil]
        tauto
      · intro n member again
        rw [List.append_nil] at member again
        rcases List.mem_append.mp again with before | isNew
        · exact apart n member before
        · rw [List.mem_singleton] at isNew
          have := below n ((known n).mpr (.inr (.inr member)))
          omega
  | @decided m rest oldest =>
      subst oldest
      refine ⟨answered ++ [m], by simp, by simpa using ordered, ?_, ?_⟩
      · intro n
        simp only [List.append_nil, known, List.mem_append, List.mem_cons, List.not_mem_nil]
        tauto
      · intro n member
        rw [List.append_nil] at member
        simpa using apart n member
  | dropped =>
      refine ⟨answered, by simp, ?_, ?_, ?_⟩
      · rw [List.append_nil]
        exact (List.pairwise_append.mp ordered).1
      · intro n
        simp only [List.append_nil, known, List.mem_append, List.not_mem_nil]
        tauto
      · intro n member again
        rw [List.append_nil] at again
        rcases List.mem_append.mp member with before | isGone
        · exact apart n before (List.mem_append_left _ again)
        · exact absurd ((List.pairwise_append.mp ordered).2.2 n again n isGone) (Nat.lt_irrefl n)

end Ledger

end Lumepeer.Lib
