import Mathlib.Init

/-!
# Programs that are cut off

A program is a tree of calls: an operation, and how it goes on from the answer.
What the environment does to each call is a list that stands beside the program,
and a program for which the list is too short is cut off where it stands.
-/

namespace Lumepeer.Lib

universe u
variable {ω ρ α β φ σ : Type u}

/-- A program that calls operations `ω`, which answer with a `ρ`, and returns an `α`. -/
inductive Calls (ω ρ α : Type u) where
  | done (value : α)
  | call (op : ω) (next : ρ → Calls ω ρ α)

namespace Calls

/-- One program after another. -/
def andThen : Calls ω ρ α → (α → Calls ω ρ β) → Calls ω ρ β
  | done value, next => next value
  | call op rest, next => call op fun answer => (rest answer).andThen next

/-- Runs a program, each call with what the environment does to it; what is returned, with what the
environment has left, unless the program was cut off. -/
def run (perform : ω → φ → σ → ρ × σ) : Calls ω ρ α → List φ → σ → Option (α × List φ) × σ
  | done value, faults, s => (some (value, faults), s)
  | call _ _, [], s => (none, s)
  | call op next, fault :: faults, s =>
      run perform (next (perform op fault s).1) faults (perform op fault s).2

variable {perform : ω → φ → σ → ρ × σ} {s : σ} {faults : List φ}

@[simp] theorem run_done (value : α) :
    (done value : Calls ω ρ α).run perform faults s = (some (value, faults), s) := by
  unfold run
  rfl

@[simp] theorem run_call_nil (op : ω) (next : ρ → Calls ω ρ α) :
    (call op next).run perform [] s = (none, s) := rfl

@[simp] theorem run_call_cons (op : ω) (next : ρ → Calls ω ρ α) (fault : φ) :
    (call op next).run perform (fault :: faults) s =
      (next (perform op fault s).1).run perform faults (perform op fault s).2 := rfl

/-- A program goes on after another one where that returned, and not at all where it was cut off. -/
theorem run_andThen (program : Calls ω ρ α) (next : α → Calls ω ρ β) :
    (program.andThen next).run perform faults s =
      match program.run perform faults s with
      | (some (value, faults), s) => (next value).run perform faults s
      | (none, s) => (none, s) := by
  induction program generalizing faults s with
  | done value => rw [andThen, run_done]
  | call op rest ih =>
      cases faults with
      | nil => rfl
      | cons fault faults => exact ih (perform op fault s).1

end Calls

end Lumepeer.Lib
