import Lumepeer.Core.Consent
import Lumepeer.Lib.Run
import Lumepeer.Lib.SlidingWindow

/-!
# The consent rate limit as a sliding window

`check_at` prunes the hits of the calling peer before it counts them and records
the call only when it accepts it. Over calls whose instants do not run
backwards the pruned hits stand for every accepted call of the peer.
-/

namespace Lumepeer.Core.ConsentRateLimiter
open Lumepeer.Lib SlidingWindow

/-- The window of `check_at`. -/
def window : Duration := Duration.fromSecs 60

/-- One call of `check_at`. -/
structure Call where
  peer : NodeId
  now : Instant
  deriving DecidableEq

/-- The limiter answers one call. -/
def step (limiter : ConsentRateLimiter) (call : Call) : Except CoreError Unit × ConsentRateLimiter :=
  limiter.checkAt call.peer call.now

/-- A call and its answer. -/
abbrev CallEvent := Event ConsentRateLimiter Call (Except CoreError Unit)

/-- The calls of a run from an empty limiter, with their answers. -/
abbrev events (calls : List Call) : List CallEvent := history step {} calls

/-- The instants of the accepted calls of `peer`. -/
def accepted (peer : NodeId) (events : List CallEvent) : List Instant :=
  (events.filter fun e => e.op.peer = peer ∧ e.out.isOk).map fun e => e.op.now

/-- The answers to the calls of `peer`. -/
def answers (peer : NodeId) (events : List CallEvent) : List (Except CoreError Unit) :=
  (events.filter fun e => e.op.peer = peer).map fun e => e.out

/-- The hits that the limiter holds of `peer`. -/
def hitsOf (limiter : ConsentRateLimiter) (peer : NodeId) : List Instant :=
  (limiter.hits.lookup peer).getD []

variable {limiter other : ConsentRateLimiter} {call : Call} {peer : NodeId} {t : Instant}

/-- A call is accepted while fewer than the quota count. -/
theorem step_out : (step limiter call).1 =
    if (recent window call.now (limiter.hitsOf call.peer)).length < consentRatePerMinute then .ok ()
    else .error .consentRateLimited := by
  unfold step checkAt
  dsimp only
  split
  · rename_i full
    exact (if_neg (Nat.not_lt.mpr full)).symm
  · rename_i room
    exact (if_pos (Nat.not_le.mp room)).symm

theorem step_eq_ok_iff : (step limiter call).1 = .ok () ↔
    (recent window call.now (limiter.hitsOf call.peer)).length < consentRatePerMinute := by
  by_cases room :
      (recent window call.now (limiter.hitsOf call.peer)).length < consentRatePerMinute
  · simp [step_out, room]
  · simp [step_out, room]

/-- What a call leaves of the hits of its own peer. -/
theorem hitsOf_step_self : (step limiter call).2.hitsOf call.peer =
    recent window call.now (limiter.hitsOf call.peer) ++
      if (step limiter call).1 = .ok () then [call.now] else [] := by
  unfold step checkAt hitsOf recent window
  dsimp only
  split <;> simp

/-- A call leaves the hits of the other peers alone. -/
theorem hitsOf_step_of_ne (differ : peer ≠ call.peer) :
    (step limiter call).2.hitsOf peer = limiter.hitsOf peer := by
  unfold step checkAt hitsOf
  dsimp only
  split <;> simp [differ]

theorem isOk_iff {out : Except CoreError Unit} : out.isOk = true ↔ out = .ok () := by
  cases out <;> simp [Except.isOk, Except.toBool]

/-- The accepted calls of `peer` after one more call. -/
theorem accepted_concat (before : List CallEvent) (e : CallEvent) :
    accepted peer (before ++ [e]) =
      accepted peer before ++ if e.op.peer = peer ∧ e.out = .ok () then [e.op.now] else [] := by
  simp only [accepted, List.filter_append, List.map_append, isOk_iff]
  congr 1
  by_cases counts : e.op.peer = peer ∧ e.out = .ok () <;> simp [counts]

/-- What the limiter holds of `peer` stands for its accepted calls. -/
abbrev Limits (limiter : ConsentRateLimiter) (before : List CallEvent) (t : Instant)
    (peer : NodeId) : Prop :=
  Tracks window consentRatePerMinute t (limiter.hitsOf peer) (accepted peer before)

/-- One call. -/
theorem limits_step {before : List CallEvent} (limits : limiter.Limits before t peer)
    (le : t ≤ call.now) :
    (step limiter call).2.Limits (before ++ [Event.of step limiter call]) call.now peer := by
  unfold Limits
  rw [accepted_concat]
  by_cases mine : call.peer = peer
  · subst mine
    rw [hitsOf_step_self]
    by_cases ok : (step limiter call).1 = .ok ()
    · simpa [ok] using limits.admit le (step_eq_ok_iff.mp ok)
    · simpa [ok] using limits.prune le
  · rw [hitsOf_step_of_ne (Ne.symm mine)]
    simpa [mine] using limits.wait le

/-- The instants do not run backwards. -/
abbrev Ordered (calls : List Call) : Prop := calls.Pairwise fun first second => first.now ≤ second.now

theorem Ordered.bounded {calls : List Call} (ordered : Ordered calls) :
    ∃ t, ∀ call ∈ calls, call.now ≤ t := by
  rcases List.eq_nil_or_concat calls with rfl | ⟨earlier, last, rfl⟩
  · exact ⟨0, by simp⟩
  · rw [List.concat_eq_append, Ordered, List.pairwise_append] at ordered
    simp only [List.concat_eq_append, List.mem_append, List.mem_singleton]
    refine ⟨last.now, ?_⟩
    rintro call (isEarlier | rfl)
    · exact ordered.2.2 call isEarlier last (by simp)
    · exact le_rfl

/-- Every run. -/
theorem limits_run {calls : List Call} (ordered : Ordered calls)
    (past : ∀ call ∈ calls, call.now ≤ t) (peer : NodeId) :
    (exec step {} calls).Limits (events calls) t peer := by
  induction calls using List.reverseRecOn generalizing t with
  | nil => exact tracks_nil
  | append_singleton earlier last ih =>
      rw [Ordered, List.pairwise_append] at ordered
      obtain ⟨earlierOrdered, -, upToLast⟩ := ordered
      have before := ih earlierOrdered fun call member => upToLast call member last (by simp)
      rw [events, exec_concat, history_concat]
      exact (limits_step before le_rfl).wait (past last (by simp))

/-- Two limiters that count the hits of `peer` alike give its later calls the same answers. -/
theorem answers_eq_of_standsFor {later : List Call} (ordered : Ordered later)
    (upTo : ∀ call ∈ later, t ≤ call.now)
    (alike : StandsFor window t (limiter.hitsOf peer) (other.hitsOf peer)) :
    answers peer (history step limiter later) = answers peer (history step other later) := by
  induction later generalizing limiter other t with
  | nil => rfl
  | cons call later ih =>
      rw [Ordered, List.pairwise_cons] at ordered
      have le : t ≤ call.now := upTo call (by simp)
      have answer (mine : call.peer = peer) : (step limiter call).1 = (step other call).1 := by
        subst mine
        rw [step_out, step_out, alike call.now le]
      have alikeAfter : StandsFor window call.now ((step limiter call).2.hitsOf peer)
          ((step other call).2.hitsOf peer) := by
        by_cases mine : call.peer = peer
        · have same := answer mine
          subst mine
          rw [hitsOf_step_self, hitsOf_step_self, alike call.now le, same]
          intro _ _
          rfl
        · rw [hitsOf_step_of_ne (Ne.symm mine), hitsOf_step_of_ne (Ne.symm mine)]
          intro now isLater
          exact alike now (le.trans isLater)
      have rest := ih ordered.2 ordered.1 alikeAfter
      by_cases mine : call.peer = peer
      · simpa [answers, mine, answer mine] using rest
      · simpa [answers, mine] using rest

/-- A refused call, or one of another peer, leaves the count of `peer` as it was. -/
theorem standsFor_step (unseen : (step limiter call).1 ≠ .ok () ∨ call.peer ≠ peer) :
    StandsFor window call.now ((step limiter call).2.hitsOf peer) (limiter.hitsOf peer) := by
  by_cases mine : call.peer = peer
  · subst mine
    have refused : (step limiter call).1 ≠ .ok () := unseen.resolve_right (not_not_intro rfl)
    rw [hitsOf_step_self, if_neg refused, List.append_nil]
    intro now isLater
    exact recent_recent isLater
  · rw [hitsOf_step_of_ne (Ne.symm mine)]
    intro _ _
    rfl

/-- Over calls in the order of their instants, a call is accepted exactly when fewer than the
quota of its peer's earlier calls were accepted less than a window before it; no half-open
interval of that length holds more than the quota of accepted calls of a peer; and a call that
is refused, or that another peer makes, could be left out without any later answer changing. -/
theorem checkAt_slides_window (calls : List Call) (ordered : Ordered calls) :
    (∀ before e after, events calls = before ++ e :: after →
      (e.out = .ok () ↔
        ((accepted e.op.peer before).filter fun hit => e.op.now - hit < window).length <
          consentRatePerMinute)) ∧
    (∀ peer start, ((accepted peer (events calls)).filter fun hit =>
      start ≤ hit ∧ hit < start + window).length ≤ consentRatePerMinute) ∧
    ∀ first call second peer, calls = first ++ call :: second →
      ((step (exec step {} first) call).1 ≠ .ok () ∨ call.peer ≠ peer) →
        answers peer (history step (exec step {} (first ++ [call])) second) =
          answers peer (history step (exec step {} first) second) := by
  refine ⟨?_, ?_, ?_⟩
  · intro before e after split
    obtain ⟨first, second, rfl, rfl, isEvent⟩ := history_split split
    rw [Ordered, List.pairwise_append] at ordered
    have limits := limits_run ordered.1 (fun call member => ordered.2.2 call member e.op (by simp))
      e.op.peer
    rw [isEvent]
    simp only [Event.of_out, Event.of_op]
    rw [step_eq_ok_iff, limits.stands _ le_rfl]
    rfl
  · intro peer start
    obtain ⟨t, past⟩ := ordered.bounded
    have limits := limits_run ordered past peer
    exact limits.rationed.length_between_le limits.ordered
  · rintro first call second peer rfl unseen
    rw [Ordered, List.pairwise_append, List.pairwise_cons] at ordered
    rw [exec_concat]
    exact answers_eq_of_standsFor ordered.2.1.2 ordered.2.1.1 (standsFor_step unseen)

/-- Seven calls of one peer, a second apart. -/
def burst : List Call :=
  (List.range 7).map fun second => { peer := ⟨.replicate 32 1⟩, now := Duration.fromSecs second }

theorem burst_slides_window : burst ≠ [] ∧ ∀ start,
    ((accepted ⟨.replicate 32 1⟩ (events burst)).filter fun hit =>
      start ≤ hit ∧ hit < start + window).length ≤ consentRatePerMinute :=
  ⟨by decide, (checkAt_slides_window burst (by decide)).2.1 ⟨.replicate 32 1⟩⟩

end Lumepeer.Core.ConsentRateLimiter
