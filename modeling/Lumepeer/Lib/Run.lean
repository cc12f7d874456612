import Mathlib.Data.List.Induction

/-!
# Runs of a deterministic machine

A machine is a step function `σ → ι → ο × σ` that answers every input with an
output and a next state. `exec` is the state a list of inputs leads to and
`history` is the list of events of that run, each with the state before it, the
input, the output and the state after it. Properties of whole runs are stated
over `history` and proved from one lemma about a single step.
-/

namespace Lumepeer.Lib

universe u v w
variable {σ : Type u} {ι : Type v} {ο : Type w}

/-- One executed input. -/
structure Event (σ : Type u) (ι : Type v) (ο : Type w) where
  pre : σ
  op : ι
  out : ο
  post : σ

/-- The event of one step. -/
def Event.of (step : σ → ι → ο × σ) (s : σ) (op : ι) : Event σ ι ο :=
  ⟨s, op, (step s op).1, (step s op).2⟩

/-- The state a list of inputs leads to. -/
def exec (step : σ → ι → ο × σ) : σ → List ι → σ
  | s, [] => s
  | s, op :: ops => exec step (step s op).2 ops

/-- The events of a run, oldest first. -/
def history (step : σ → ι → ο × σ) : σ → List ι → List (Event σ ι ο)
  | _, [] => []
  | s, op :: ops => Event.of step s op :: history step (step s op).2 ops

section
variable {step : σ → ι → ο × σ}

@[simp] theorem Event.of_pre (s : σ) (op : ι) : (Event.of step s op).pre = s := rfl
@[simp] theorem Event.of_op (s : σ) (op : ι) : (Event.of step s op).op = op := rfl
@[simp] theorem Event.of_out (s : σ) (op : ι) : (Event.of step s op).out = (step s op).1 := rfl
@[simp] theorem Event.of_post (s : σ) (op : ι) : (Event.of step s op).post = (step s op).2 := rfl

@[simp] theorem exec_nil (s : σ) : exec step s [] = s := rfl

@[simp] theorem exec_cons (s : σ) (op : ι) (ops : List ι) :
    exec step s (op :: ops) = exec step (step s op).2 ops := rfl

@[simp] theorem history_nil (s : σ) : history step s [] = [] := rfl

@[simp] theorem history_cons (s : σ) (op : ι) (ops : List ι) :
    history step s (op :: ops) = Event.of step s op :: history step (step s op).2 ops := rfl

theorem exec_append (s : σ) (first second : List ι) :
    exec step s (first ++ second) = exec step (exec step s first) second := by
  induction first generalizing s with
  | nil => rfl
  | cons op ops ih => exact ih _

theorem history_append (s : σ) (first second : List ι) :
    history step s (first ++ second) =
      history step s first ++ history step (exec step s first) second := by
  induction first generalizing s with
  | nil => rfl
  | cons op ops ih => simp [ih]

/-- Runs grow at the end: the state after one more input. -/
theorem exec_concat (s : σ) (ops : List ι) (op : ι) :
    exec step s (ops ++ [op]) = (step (exec step s ops) op).2 := by
  simp [exec_append]

/-- Runs grow at the end: the events after one more input. -/
theorem history_concat (s : σ) (ops : List ι) (op : ι) :
    history step s (ops ++ [op]) =
      history step s ops ++ [Event.of step (exec step s ops) op] := by
  simp [history_append]

/-- What stands before an event of a run is the run of a prefix, and the event is the next step. -/
theorem history_split {s : σ} {ops : List ι} {before after : List (Event σ ι ο)} {e : Event σ ι ο}
    (split : history step s ops = before ++ e :: after) :
    ∃ first second, ops = first ++ e.op :: second ∧ before = history step s first ∧
      e = Event.of step (exec step s first) e.op := by
  induction before generalizing s ops with
  | nil =>
      cases ops with
      | nil => simp at split
      | cons op ops =>
          simp only [history_cons, List.nil_append, List.cons.injEq] at split
          obtain ⟨rfl, -⟩ := split
          exact ⟨[], ops, rfl, rfl, rfl⟩
  | cons head before ih =>
      cases ops with
      | nil => simp at split
      | cons op ops =>
          simp only [history_cons, List.cons_append, List.cons.injEq] at split
          obtain ⟨rfl, rest⟩ := split
          obtain ⟨first, second, rfl, rfl, isEvent⟩ := ih rest
          exact ⟨op :: first, second, rfl, rfl, isEvent⟩

/-- Every event of a run is one step from the state some prefix of it reached. -/
theorem exists_prefix_of_mem_history {s : σ} {ops : List ι} {e : Event σ ι ο}
    (member : e ∈ history step s ops) :
    ∃ before after, ops = before ++ e.op :: after ∧
      e = Event.of step (exec step s before) e.op := by
  obtain ⟨earlier, later, split⟩ := List.append_of_mem member
  obtain ⟨before, after, isOps, -, isEvent⟩ := history_split split
  exact ⟨before, after, isOps, isEvent⟩

/-- The event of a step is the one from the state that the inputs before it lead to. -/
theorem getElem?_history (s : σ) (ops : List ι) (k : Nat) :
    (history step s ops)[k]? = ops[k]?.map (Event.of step (exec step s (ops.take k))) := by
  induction ops generalizing s k with
  | nil => simp
  | cons op ops ih =>
      cases k with
      | zero => simp
      | succ k => simp [ih]

/-- The events of a run answer its inputs in order. -/
theorem map_op_history (s : σ) (ops : List ι) : (history step s ops).map Event.op = ops := by
  induction ops generalizing s with
  | nil => rfl
  | cons op ops ih => simp [ih]

theorem op_mem_of_mem_history {s : σ} {ops : List ι} {e : Event σ ι ο}
    (member : e ∈ history step s ops) : e.op ∈ ops := by
  obtain ⟨before, after, split, -⟩ := exists_prefix_of_mem_history member
  simp [split]

theorem eq_of_mem_history {s : σ} {ops : List ι} {e : Event σ ι ο}
    (member : e ∈ history step s ops) : e = Event.of step e.pre e.op := by
  obtain ⟨before, after, -, isEvent⟩ := exists_prefix_of_mem_history member
  rw [isEvent]
  rfl

theorem post_of_mem_history {s : σ} {ops : List ι} {e : Event σ ι ο}
    (member : e ∈ history step s ops) : e.post = (step e.pre e.op).2 :=
  congrArg Event.post (eq_of_mem_history member)

/-- A state predicate kept by every step of a run that meets `ok` holds at its end. -/
theorem exec_induction {Inv : σ → Prop} {ok : σ → ι → Prop} {s : σ} {ops : List ι}
    (keep : ∀ s op, Inv s → ok s op → Inv (step s op).2)
    (start : Inv s) (allowed : ∀ e ∈ history step s ops, ok e.pre e.op) :
    Inv (exec step s ops) := by
  induction ops generalizing s with
  | nil => exact start
  | cons op ops ih =>
      apply ih (keep s op start (allowed (Event.of step s op) (by simp)))
      intro e member
      exact allowed e (by simp [member])

/-- ... and after every step of it. -/
theorem history_induction {Inv : σ → Prop} {ok : σ → ι → Prop} {s : σ} {ops : List ι}
    (keep : ∀ s op, Inv s → ok s op → Inv (step s op).2)
    (start : Inv s) (allowed : ∀ e ∈ history step s ops, ok e.pre e.op) :
    ∀ e ∈ history step s ops, Inv e.pre ∧ Inv e.post := by
  induction ops generalizing s with
  | nil => simp
  | cons op ops ih =>
      have first := allowed (Event.of step s op) (by simp)
      have next := keep s op start first
      intro e member
      rcases List.mem_cons.mp member with rfl | later
      · exact ⟨start, next⟩
      · exact ih next (fun e member => allowed e (by simp [member])) e later

/-- Two conditions on a step that agree where `Inv` holds, and of which the first keeps it, agree
on every run. -/
theorem history_iff {Inv : σ → Prop} {ok : Event σ ι ο → Prop} {ok' : σ → ι → Prop} {s : σ}
    {ops : List ι} (same : ∀ s op, Inv s → (ok (Event.of step s op) ↔ ok' s op))
    (keep : ∀ s op, Inv s → ok (Event.of step s op) → Inv (step s op).2) (start : Inv s) :
    (∀ e ∈ history step s ops, ok e) ↔ ∀ e ∈ history step s ops, ok' e.pre e.op := by
  induction ops generalizing s with
  | nil => simp
  | cons op ops ih =>
      simp only [history_cons, List.forall_mem_cons, Event.of_pre, Event.of_op]
      constructor
      · rintro ⟨first, rest⟩
        exact ⟨(same s op start).mp first, (ih (keep s op start first)).mp rest⟩
      · rintro ⟨first, rest⟩
        have first := (same s op start).mpr first
        exact ⟨first, (ih (keep s op start first)).mpr rest⟩

/-- An invariant of every step holds at the end of every run. -/
theorem exec_invariant {Inv : σ → Prop} (keep : ∀ s op, Inv s → Inv (step s op).2)
    {s : σ} (start : Inv s) (ops : List ι) : Inv (exec step s ops) := by
  induction ops generalizing s with
  | nil => exact start
  | cons op ops ih => exact ih (keep s op start)

/-- Steps that lower a measure until a goal is reached, and keep the goal, reach it in as many steps
as the measure counts. -/
theorem exec_reaches {Inv Goal : σ → Prop} {ok : σ → ι → Prop} (measure : σ → Nat)
    (keep : ∀ s op, Inv s → ok s op → Inv (step s op).2)
    (stay : ∀ s op, Inv s → ok s op → Goal s → Goal (step s op).2)
    (lower : ∀ s op, Inv s → ok s op → ¬Goal s → measure (step s op).2 < measure s)
    {s : σ} {ops : List ι} (start : Inv s) (allowed : ∀ e ∈ history step s ops, ok e.pre e.op)
    (enough : measure s < ops.length) : Goal (exec step s ops) := by
  have counted : Goal (exec step s ops) ∨
      measure (exec step s ops) + ops.length ≤ measure s := by
    clear enough
    induction ops generalizing s with
    | nil => exact .inr (Nat.le_refl _)
    | cons op ops ih =>
        have first : ok s op := allowed (Event.of step s op) (by simp)
        have rest : ∀ e ∈ history step (step s op).2 ops, ok e.pre e.op := by
          intro e member
          exact allowed e (by simp [member])
        have next := keep s op start first
        rw [exec_cons, List.length_cons]
        by_cases reached : Goal s
        · have keepBoth (s : σ) (op : ι) (both : Inv s ∧ Goal s) (good : ok s op) :
              Inv (step s op).2 ∧ Goal (step s op).2 :=
            ⟨keep s op both.1 good, stay s op both.1 good both.2⟩
          exact .inl (exec_induction keepBoth ⟨next, stay s op start first reached⟩ rest).2
        · have less := lower s op start first reached
          rcases ih next rest with goal | bound
          · exact .inl goal
          · exact .inr (by omega)
  rcases counted with goal | bound
  · exact goal
  · omega

end

end Lumepeer.Lib
