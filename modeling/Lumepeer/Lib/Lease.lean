import Mathlib.Data.List.Induction

/-!
# Leases that may be parked and resumed

A lease is opened under some terms, may be parked and resumed any number of
times and ends when it is stopped or when another one is opened in its place.
`leaseAfter` folds the acts a list of events performs; `leaseAfter_eq_live_iff`
reads its answer back as a statement about the list alone: the last opening
was never undone and every parking after it was followed by a resumption.
-/

namespace Lumepeer.Lib

universe u v
variable {α : Type u} {ε : Type v}

/-- What one event does to a lease. -/
inductive LeaseAct (α : Type u) where
  | start (terms : α)
  | stop
  | park
  | resume
  | keep
  deriving DecidableEq, Repr

/-- Where a lease stands. -/
inductive LeaseState (α : Type u) where
  | absent
  | live (terms : α)
  | parked (terms : α)
  deriving DecidableEq, Repr

/-- The effect of one act. Parking a parked lease and resuming a live one
change nothing. -/
def LeaseState.next : LeaseState α → LeaseAct α → LeaseState α
  | _, .start terms => .live terms
  | _, .stop => .absent
  | .live terms, .park => .parked terms
  | .parked terms, .resume => .live terms
  | state, _ => state

@[simp] theorem LeaseState.next_keep (state : LeaseState α) : state.next .keep = state := by
  cases state <;> rfl

@[simp] theorem LeaseState.next_start (state : LeaseState α) (terms : α) :
    state.next (.start terms) = .live terms := by
  cases state <;> rfl

@[simp] theorem LeaseState.next_stop (state : LeaseState α) : state.next .stop = .absent := by
  cases state <;> rfl

/-- The lease after a list of events, oldest first. -/
def leaseAfter (act : ε → LeaseAct α) (events : List ε) : LeaseState α :=
  events.foldl (fun state e => state.next (act e)) .absent

/-- No event opens or stops the lease. -/
def Untouched (act : ε → LeaseAct α) (events : List ε) : Prop :=
  ∀ e ∈ events, act e ≠ .stop ∧ ∀ terms, act e ≠ .start terms

/-- Every parking is followed by a resumption. -/
def AllResumed (act : ε → LeaseAct α) (events : List ε) : Prop :=
  ∀ before e after, events = before ++ e :: after → act e = .park →
    ∃ r ∈ after, act r = .resume

section
variable {act : ε → LeaseAct α}

@[simp] theorem leaseAfter_nil : leaseAfter act [] = .absent := rfl

@[simp] theorem leaseAfter_concat (events : List ε) (e : ε) :
    leaseAfter act (events ++ [e]) = (leaseAfter act events).next (act e) := by
  simp [leaseAfter]

theorem untouched_nil : Untouched act [] := by simp [Untouched]

theorem untouched_concat {events : List ε} {e : ε} :
    Untouched act (events ++ [e]) ↔
      Untouched act events ∧ act e ≠ .stop ∧ ∀ terms, act e ≠ .start terms := by
  constructor
  · intro untouched
    exact ⟨fun d member => untouched d (by simp [member]), untouched e (by simp)⟩
  · rintro ⟨before, last⟩ d member
    rcases List.mem_append.mp member with old | new
    · exact before d old
    · rw [List.mem_singleton.mp new]
      exact last

/-- Where a marked element of a list that ends in `e` can stand. -/
theorem concat_eq_append_cons {events before after : List ε} {e d : ε}
    (split : events ++ [e] = before ++ d :: after) :
    (after = [] ∧ e = d) ∨ ∃ rest, after = rest ++ [e] ∧ events = before ++ d :: rest := by
  rcases List.eq_nil_or_concat after with rfl | ⟨rest, last, rfl⟩
  · obtain ⟨-, same⟩ := List.append_inj' split rfl
    exact .inl ⟨rfl, List.singleton_inj.mp same⟩
  · have regroup : events ++ [e] = (before ++ d :: rest) ++ [last] := by simpa using split
    obtain ⟨front, same⟩ := List.append_inj' regroup rfl
    rw [← List.singleton_inj.mp same]
    exact .inr ⟨rest, List.concat_eq_append, front⟩

theorem allResumed_nil : AllResumed act [] := by simp [AllResumed]

/-- A resumption at the end settles every parking before it. -/
theorem allResumed_concat_resume {events : List ε} {e : ε} (resumes : act e = .resume) :
    AllResumed act (events ++ [e]) := by
  intro before d after split parks
  rcases concat_eq_append_cons split with ⟨-, same⟩ | ⟨rest, rfl, -⟩
  · rw [same, parks] at resumes
    cases resumes
  · exact ⟨e, by simp, resumes⟩

/-- A parking at the end is followed by nothing. -/
theorem not_allResumed_concat_park {events : List ε} {e : ε} (parks : act e = .park) :
    ¬ AllResumed act (events ++ [e]) := by
  intro all
  obtain ⟨r, member, -⟩ := all events e [] rfl parks
  simp at member

theorem allResumed_concat_keep {events : List ε} {e : ε} (notResume : act e ≠ .resume)
    (notPark : act e ≠ .park) :
    AllResumed act (events ++ [e]) ↔ AllResumed act events := by
  constructor
  · intro all before d after split parks
    obtain ⟨r, member, resumes⟩ := all before d (after ++ [e]) (by simp [split]) parks
    rcases List.mem_append.mp member with old | new
    · exact ⟨r, old, resumes⟩
    · rw [List.mem_singleton.mp new] at resumes
      exact absurd resumes notResume
  · intro all before d after split parks
    rcases concat_eq_append_cons split with ⟨-, same⟩ | ⟨rest, rfl, old⟩
    · exact absurd (same ▸ parks) notPark
    · obtain ⟨r, member, resumes⟩ := all before d rest old parks
      exact ⟨r, by simp [member], resumes⟩

/-- Where a lease stands once it was opened and then left untouched. -/
theorem leaseAfter_opened (events post : List ε) (e : ε) (terms : α)
    (opens : act e = .start terms) (untouched : Untouched act post) :
    (AllResumed act post → leaseAfter act (events ++ e :: post) = .live terms) ∧
      (¬ AllResumed act post → leaseAfter act (events ++ e :: post) = .parked terms) := by
  induction post using List.reverseRecOn with
  | nil =>
      refine ⟨fun _ => ?_, fun no => absurd allResumed_nil no⟩
      rw [leaseAfter_concat, opens, LeaseState.next_start]
  | append_singleton post last ih =>
      obtain ⟨before, notStop, notStart⟩ := untouched_concat.mp untouched
      obtain ⟨live, parked⟩ := ih before
      have grow : leaseAfter act (events ++ e :: (post ++ [last])) =
          (leaseAfter act (events ++ e :: post)).next (act last) := by
        rw [← List.cons_append, ← List.append_assoc, leaseAfter_concat]
      rw [grow]
      by_cases resumed : AllResumed act post
      · rw [live resumed]
        cases isAct : act last with
        | start other => exact absurd isAct (notStart other)
        | stop => exact absurd isAct notStop
        | park => simp [not_allResumed_concat_park isAct, LeaseState.next]
        | resume => simp [allResumed_concat_resume isAct, LeaseState.next]
        | keep =>
            have same := @allResumed_concat_keep _ _ act post last (by simp [isAct]) (by simp [isAct])
            simp [same, resumed, LeaseState.next]
      · rw [parked resumed]
        cases isAct : act last with
        | start other => exact absurd isAct (notStart other)
        | stop => exact absurd isAct notStop
        | park => simp [not_allResumed_concat_park isAct, LeaseState.next]
        | resume => simp [allResumed_concat_resume isAct, LeaseState.next]
        | keep =>
            have same := @allResumed_concat_keep _ _ act post last (by simp [isAct]) (by simp [isAct])
            simp [same, resumed, LeaseState.next]

/-- A stopped lease is gone until another one is opened. -/
theorem leaseAfter_stopped {events post : List ε} {e : ε} (stops : act e = .stop)
    (unopened : ∀ d ∈ post, ∀ terms, act d ≠ .start terms) :
    leaseAfter act (events ++ e :: post) = .absent := by
  induction post using List.reverseRecOn with
  | nil => rw [leaseAfter_concat, stops, LeaseState.next_stop]
  | append_singleton post last ih =>
      have gone := ih fun d member => unopened d (by simp [member])
      rw [← List.cons_append, ← List.append_assoc, leaseAfter_concat, gone]
      cases isAct : act last with
      | start terms => exact absurd isAct (unopened last (by simp) terms)
      | stop | park | resume | keep => rfl

/-- An act that neither opens nor stops a lease does not change its terms. -/
theorem LeaseState.stood_of_next {state : LeaseState α} {a : LeaseAct α} {terms : α}
    (notStop : a ≠ .stop) (notStart : ∀ other, a ≠ .start other)
    (stands : state.next a = .live terms ∨ state.next a = .parked terms) :
    state = .live terms ∨ state = .parked terms := by
  cases a with
  | start other => exact absurd rfl (notStart other)
  | stop => exact absurd rfl notStop
  | park => cases state <;> simp_all [LeaseState.next]
  | resume => cases state <;> simp_all [LeaseState.next]
  | keep => cases state <;> simp_all [LeaseState.next]

/-- A lease that stands was opened at some event and left untouched since. -/
theorem exists_opening (events : List ε) (terms : α)
    (stands : leaseAfter act events = .live terms ∨ leaseAfter act events = .parked terms) :
    ∃ pre e post, events = pre ++ e :: post ∧ act e = .start terms ∧ Untouched act post := by
  induction events using List.reverseRecOn with
  | nil => simp at stands
  | append_singleton events last ih =>
      rw [leaseAfter_concat] at stands
      by_cases notStart : ∀ other, act last ≠ .start other
      · have notStop : act last ≠ .stop := by
          intro isStop
          simp [isStop] at stands
        obtain ⟨pre, e, post, split, opens, untouched⟩ :=
          ih (LeaseState.stood_of_next notStop notStart stands)
        exact ⟨pre, e, post ++ [last], by simp [split], opens,
          untouched_concat.mpr ⟨untouched, notStop, notStart⟩⟩
      · push Not at notStart
        obtain ⟨other, isStart⟩ := notStart
        have same : other = terms := by simpa [isStart] using stands
        exact ⟨events, last, [], rfl, same ▸ isStart, untouched_nil⟩

/-- A lease is live exactly when its last opening was never undone and every
parking since was followed by a resumption. -/
theorem leaseAfter_eq_live_iff (events : List ε) (terms : α) :
    leaseAfter act events = .live terms ↔
      ∃ pre e post, events = pre ++ e :: post ∧ act e = .start terms ∧
        Untouched act post ∧ AllResumed act post := by
  constructor
  · intro live
    obtain ⟨pre, e, post, rfl, opens, untouched⟩ := exists_opening events terms (.inl live)
    refine ⟨pre, e, post, rfl, opens, untouched, ?_⟩
    by_contra unresumed
    have := (leaseAfter_opened pre post e terms opens untouched).2 unresumed
    rw [live] at this
    cases this
  · rintro ⟨pre, e, post, rfl, opens, untouched, resumed⟩
    exact (leaseAfter_opened pre post e terms opens untouched).1 resumed

end

end Lumepeer.Lib
