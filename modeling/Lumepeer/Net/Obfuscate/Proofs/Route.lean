import Lumepeer.Net.Obfuscate
import Mathlib.Order.Bounds.Basic

/-!
# Runs of a host route

A route is asked to point somewhere and hears datagrams, in any order and at
times that never go back. `addr_heard` turns out to be the last sign of life of
the current address: a datagram from it, or the moment the route was put on it.
Every statement about a run follows from that one invariant.
-/

namespace Lumepeer.Net
open Lumepeer.Lib Lumepeer.Core

namespace HostRoute

/-- A call on a route, with the reading of the clock it is made at. -/
inductive RouteCall where
  | pointAt (addr : SocketAddr) (now : Instant)
  | heardFrom («from» : SocketAddr) (now : Instant)
  deriving DecidableEq

/-- When a call is made. -/
def RouteCall.now : RouteCall → Instant
  | .pointAt _ now => now
  | .heardFrom _ now => now

/-- One call: what it returns and the route after it. -/
def routeStep (state : RouteState) : RouteCall → Option SocketAddr × RouteState
  | .pointAt addr now => (none, pointAt state addr now)
  | .heardFrom «from» now => heardFrom state «from» now

abbrev RouteEvent := Event RouteState RouteCall (Option SocketAddr)

/-- The events of a run of the route made to `start` at `created`. -/
def routeRun (start : SocketAddr) (created : Instant) (calls : List RouteCall) :
    List RouteEvent :=
  history routeStep (new start created) calls

/-- The route after a run. -/
def routeAfter (start : SocketAddr) (created : Instant) (calls : List RouteCall) : RouteState :=
  exec routeStep (new start created) calls

/-- The clock never goes back. -/
def Chronological (created : Instant) (calls : List RouteCall) : Prop :=
  (created :: calls.map RouteCall.now).Pairwise (· ≤ ·)

/-- A datagram from `addr` arrived at `time`. -/
def HeardAt (addr : SocketAddr) (events : List RouteEvent) (time : Instant) : Prop :=
  ∃ e ∈ events, e.op = .heardFrom addr time

/-- The route was told to leave another address for `addr` at `time`. -/
def NewlyPointedAt (addr : SocketAddr) (events : List RouteEvent) (time : Instant) : Prop :=
  ∃ e ∈ events, e.op = .pointAt addr time ∧ e.pre.addr ≠ addr

/-- A sign of life of `addr`: a datagram from it, or the route put on it, by its maker or by
`point_at`. -/
def SignAt (start : SocketAddr) (created : Instant) (addr : SocketAddr)
    (events : List RouteEvent) (time : Instant) : Prop :=
  (addr = start ∧ time = created) ∨ HeardAt addr events time ∨ NewlyPointedAt addr events time

/-- How a route follows its host over one run. `alive` is what keeps the route on its address and
`last` is what the quiet time is counted from. -/
structure Follows (alive last : SocketAddr → List RouteEvent → Instant → Prop)
    (start : SocketAddr) (created : Instant) (calls : List RouteCall) : Prop where
  /-- What makes the route leave its address. -/
  leaves : ∀ before e after, routeRun start created calls = before ++ e :: after →
    e.post.addr ≠ e.pre.addr →
      (∃ addr now, e.op = .pointAt addr now ∧ addr ≠ e.pre.addr) ∨
      (∃ addr now, e.op = .heardFrom addr now ∧ addr ≠ e.pre.addr ∧
        ∀ time, alive e.pre.addr before time → time + quiet ≤ now)
  /-- When `heard_from` names an address. -/
  returns : ∀ before e after addr now, routeRun start created calls = before ++ e :: after →
    e.op = .heardFrom addr now → ∀ was, e.out = some was ↔
      was = e.pre.addr ∧ addr ≠ was ∧ ∀ time, alive was before time → time + quiet ≤ now
  /-- Where the route goes once all datagrams come from one other address. -/
  settles : ∀ first early now late addr time,
    calls = first ++ early ++ .heardFrom addr now :: late →
    (∀ call ∈ early ++ late, ∃ at', call = .heardFrom addr at') →
    addr ≠ (routeAfter start created first).addr →
    IsGreatest {t | last (routeAfter start created first).addr (routeRun start created first) t}
      time →
    (∀ call ∈ early, call.now < time + quiet) → time + quiet ≤ now →
      (routeStep (routeAfter start created (first ++ early)) (.heardFrom addr now)).1 =
        some (routeAfter start created first).addr ∧
      ∀ some' rest, late = some' ++ rest →
        (routeAfter start created (first ++ early ++ .heardFrom addr now :: some')).addr = addr

theorem chronological_concat {created : Instant} {calls : List RouteCall} {call : RouteCall} :
    Chronological created (calls ++ [call]) ↔
      Chronological created calls ∧ created ≤ call.now ∧ ∀ c ∈ calls, c.now ≤ call.now := by
  unfold Chronological
  rw [List.map_append, ← List.cons_append, List.pairwise_append]
  simp

theorem Chronological.left {created : Instant} {first second : List RouteCall}
    (ordered : Chronological created (first ++ second)) : Chronological created first := by
  unfold Chronological at ordered ⊢
  rw [List.map_append, ← List.cons_append, List.pairwise_append] at ordered
  exact ordered.1

section
variable {start : SocketAddr} {created : Instant} {calls : List RouteCall}

theorem routeRun_concat (call : RouteCall) :
    routeRun start created (calls ++ [call]) =
      routeRun start created calls ++ [Event.of routeStep (routeAfter start created calls) call] :=
  history_concat _ _ _

theorem routeAfter_concat (call : RouteCall) :
    routeAfter start created (calls ++ [call]) =
      (routeStep (routeAfter start created calls) call).2 :=
  exec_concat _ _ _

/-- One more call adds at most the sign it is itself. -/
theorem signAt_concat {addr : SocketAddr} {events : List RouteEvent} {e : RouteEvent}
    {time : Instant} :
    SignAt start created addr (events ++ [e]) time ↔
      SignAt start created addr events time ∨ e.op = .heardFrom addr time ∨
        (e.op = .pointAt addr time ∧ e.pre.addr ≠ addr) := by
  simp only [SignAt, HeardAt, NewlyPointedAt, List.mem_append, List.mem_singleton, or_and_right,
    exists_or, exists_eq_left]
  simp only [or_assoc, or_left_comm]

/-- The datagrams of a run are those of its calls. -/
theorem heardAt_iff {addr : SocketAddr} {time : Instant} :
    HeardAt addr (routeRun start created calls) time ↔ .heardFrom addr time ∈ calls := by
  constructor
  · rintro ⟨e, member, isHeard⟩
    rw [← isHeard]
    exact op_mem_of_mem_history member
  · intro called
    rw [← @map_op_history _ _ _ routeStep (new start created) calls] at called
    exact List.mem_map.mp called

/-- A sign is as old as the run or one of its calls. -/
theorem time_of_signAt {addr : SocketAddr} {time : Instant}
    (sign : SignAt start created addr (routeRun start created calls) time) :
    time = created ∨ ∃ call ∈ calls, call.now = time := by
  rcases sign with ⟨-, isCreated⟩ | heard | ⟨e, member, isPointed, -⟩
  · exact .inl isCreated
  · exact .inr ⟨_, heardAt_iff.mp heard, rfl⟩
  · have called := op_mem_of_mem_history member
    rw [isPointed] at called
    exact .inr ⟨_, called, rfl⟩

/-- No sign is younger than the last call. -/
theorem le_now_of_signAt {call : RouteCall} {addr : SocketAddr} {time : Instant}
    (ordered : Chronological created (calls ++ [call]))
    (sign : SignAt start created addr (routeRun start created (calls ++ [call])) time) :
    time ≤ call.now := by
  obtain ⟨-, afterCreation, afterCalls⟩ := chronological_concat.mp ordered
  rcases time_of_signAt sign with rfl | ⟨c, member, rfl⟩
  · exact afterCreation
  · rcases List.mem_append.mp member with earlier | isLast
    · exact afterCalls c earlier
    · rw [List.mem_singleton.mp isLast]

end

/-- What a call does: it is a sign of the address the route is on after it and the clock of that
address starts anew, or it is none and the route stays as it was. -/
theorem routeStep_cases (state : RouteState) (call : RouteCall) :
    ((routeStep state call).2.addrHeard = call.now ∧
      (call = .heardFrom (routeStep state call).2.addr call.now ∨
        (call = .pointAt (routeStep state call).2.addr call.now ∧
          state.addr ≠ (routeStep state call).2.addr))) ∨
    ((routeStep state call).2.addr = state.addr ∧
      (routeStep state call).2.addrHeard = state.addrHeard ∧
      (∀ time, call ≠ .heardFrom state.addr time) ∧
      ∀ time, ¬ (call = .pointAt state.addr time ∧ state.addr ≠ state.addr)) := by
  cases call with
  | pointAt addr now =>
      by_cases moved : state.addr ≠ addr
      · left
        simp [routeStep, pointAt, moved, RouteCall.now]
      · right
        simp [routeStep, pointAt, moved]
  | heardFrom «from» now =>
      by_cases same : «from» = state.addr
      · left
        simp [routeStep, heardFrom, same, RouteCall.now]
      · by_cases early : now - state.addrHeard < quiet
        · right
          simp [routeStep, heardFrom, same, early]
        · left
          simp [routeStep, heardFrom, same, early, RouteCall.now]

/-- `addr_heard` is the last sign of life of the current address, at every point of a run. -/
theorem addrHeard_isGreatest {start : SocketAddr} {created : Instant} {calls : List RouteCall}
    (ordered : Chronological created calls) :
    IsGreatest {time | SignAt start created (routeAfter start created calls).addr
      (routeRun start created calls) time} (routeAfter start created calls).addrHeard := by
  induction calls using List.reverseRecOn with
  | nil =>
      refine ⟨.inl ⟨rfl, rfl⟩, ?_⟩
      rintro time (⟨-, rfl⟩ | ⟨e, member, -⟩ | ⟨e, member, -⟩)
      · exact Nat.le_refl _
      · cases member
      · cases member
  | append_singleton calls call ih =>
      have bound : ∀ {addr time}, SignAt start created addr
          (routeRun start created (calls ++ [call])) time → time ≤ call.now :=
        fun sign => le_now_of_signAt ordered sign
      obtain ⟨isSign, isLast⟩ := ih (chronological_concat.mp ordered).1
      rw [routeAfter_concat] at *
      rcases routeStep_cases (routeAfter start created calls) call with
        ⟨stamped, sign⟩ | ⟨sameAddr, sameStamp, notHeard, notPointed⟩
      · rw [stamped]
        refine ⟨?_, fun time earlier => bound earlier⟩
        rw [Set.mem_ofPred_eq, routeRun_concat, signAt_concat]
        exact .inr sign
      · rw [sameAddr, sameStamp]
        constructor
        · rw [Set.mem_ofPred_eq, routeRun_concat, signAt_concat]
          exact .inl isSign
        · intro time sign
          rw [Set.mem_ofPred_eq, routeRun_concat, signAt_concat] at sign
          rcases sign with earlier | heard | pointed
          · exact isLast earlier
          · exact absurd heard (notHeard time)
          · exact absurd pointed (notPointed time)

theorem quiet_pos : 0 < quiet := by decide

/-- `saturating_duration_since` against a wait that is not zero. -/
theorem sub_lt_iff_lt_add {stamp now wait : Nat} (positive : 0 < wait) :
    now - stamp < wait ↔ now < stamp + wait := by
  omega

/-- A datagram moves the route exactly when it comes from elsewhere and the current address has
been silent long enough. -/
theorem heardFrom_moves_iff {state : RouteState} {addr was : SocketAddr} {now : Instant} :
    (heardFrom state addr now).1 = some was ↔
      was = state.addr ∧ addr ≠ was ∧ state.addrHeard + quiet ≤ now := by
  unfold heardFrom
  simp only [sub_lt_iff_lt_add quiet_pos]
  by_cases same : addr = state.addr
  · simp only [same, if_true]
    constructor
    · intro none
      cases none
    · rintro ⟨rfl, differ, -⟩
      exact absurd rfl differ
  · simp only [same, if_false]
    split
    · rename_i early
      constructor
      · intro none
        cases none
      · rintro ⟨-, -, late⟩
        exact absurd early (Nat.not_lt.mpr late)
    · rename_i late
      constructor
      · intro moved
        cases moved
        exact ⟨rfl, same, Nat.not_lt.mp late⟩
      · rintro ⟨rfl, -, -⟩
        rfl

/-- The route leaves its address on a datagram only by returning the address it left. -/
theorem heardFrom_out_of_ne {state : RouteState} {addr : SocketAddr} {now : Instant}
    (moved : (heardFrom state addr now).2.addr ≠ state.addr) :
    (heardFrom state addr now).1 = some state.addr := by
  unfold heardFrom at moved ⊢
  by_cases same : addr = state.addr
  · simp [same] at moved
  · by_cases early : now - state.addrHeard < quiet
    · simp [same, early] at moved
    · simp [same, early]

theorem heardFrom_addr_of_out {state : RouteState} {addr was : SocketAddr} {now : Instant}
    (moved : (heardFrom state addr now).1 = some was) :
    (heardFrom state addr now).2.addr = addr := by
  unfold heardFrom at moved ⊢
  by_cases same : addr = state.addr
  · simp [same] at moved
  · by_cases early : now - state.addrHeard < quiet
    · simp [same, early] at moved
    · simp [same, early]

/-- A datagram from elsewhere that comes too early leaves the address and its clock alone. -/
theorem heardFrom_early {state : RouteState} {addr : SocketAddr} {now : Instant}
    (elsewhere : addr ≠ state.addr) (early : now < state.addrHeard + quiet) :
    (heardFrom state addr now).2.addr = state.addr ∧
      (heardFrom state addr now).2.addrHeard = state.addrHeard := by
  have soon : now - state.addrHeard < quiet := (sub_lt_iff_lt_add quiet_pos).mpr early
  simp [heardFrom, elsewhere, soon]

/-- Datagrams from elsewhere that all come too early change nothing. -/
theorem exec_early {state : RouteState} {addr : SocketAddr} {calls : List RouteCall}
    (elsewhere : addr ≠ state.addr) (single : ∀ call ∈ calls, ∃ now, call = .heardFrom addr now)
    (early : ∀ call ∈ calls, call.now < state.addrHeard + quiet) :
    (exec routeStep state calls).addr = state.addr ∧
      (exec routeStep state calls).addrHeard = state.addrHeard := by
  induction calls generalizing state with
  | nil => exact ⟨rfl, rfl⟩
  | cons call calls ih =>
      obtain ⟨now, rfl⟩ := single call List.mem_cons_self
      have soon : now < state.addrHeard + quiet := early _ List.mem_cons_self
      obtain ⟨sameAddr, sameStamp⟩ := heardFrom_early elsewhere soon
      rw [← sameAddr, ← sameStamp]
      apply ih
      · show addr ≠ (heardFrom state addr now).2.addr
        rwa [sameAddr]
      · exact fun c member => single c (List.mem_cons_of_mem _ member)
      · intro c member
        show c.now < (heardFrom state addr now).2.addrHeard + quiet
        rw [sameStamp]
        exact early c (List.mem_cons_of_mem _ member)

/-- Datagrams from the current address keep the route on it. -/
theorem exec_same {state : RouteState} {addr : SocketAddr} {calls : List RouteCall}
    (here : state.addr = addr) (single : ∀ call ∈ calls, ∃ now, call = .heardFrom addr now) :
    (exec routeStep state calls).addr = addr := by
  induction calls generalizing state with
  | nil => exact here
  | cons call calls ih =>
      obtain ⟨now, rfl⟩ := single call List.mem_cons_self
      apply ih
      · simp [routeStep, heardFrom, here]
      · exact fun c member => single c (List.mem_cons_of_mem _ member)

section
variable {created : Instant} {calls : List RouteCall}

/-- The current address has been silent for the quiet time iff none of its signs is younger. -/
theorem silent_iff (start : SocketAddr) (ordered : Chronological created calls) (now : Instant) :
    (routeAfter start created calls).addrHeard + quiet ≤ now ↔
      ∀ time, SignAt start created (routeAfter start created calls).addr
        (routeRun start created calls) time → time + quiet ≤ now := by
  have greatest : IsGreatest {time | SignAt start created (routeAfter start created calls).addr
      (routeRun start created calls) time} (routeAfter start created calls).addrHeard :=
    addrHeard_isGreatest ordered
  constructor
  · intro silent time sign
    exact Nat.le_trans (Nat.add_le_add_right (greatest.2 sign) _) silent
  · intro silent
    exact silent _ greatest.1

end

/-- A route over every run whose clock does not go back: it leaves the address it is on only by
being pointed elsewhere or on a datagram from elsewhere after a quiet time without a sign of it,
says so exactly in the second case, and settles on the one address that is left talking. The route
being made for an address or newly pointed at it is a sign of it like a datagram from it. -/
theorem route_follows_its_host (start : SocketAddr) (created : Instant) (calls : List RouteCall)
    (ordered : Chronological created calls) :
    Follows (SignAt start created) (SignAt start created) start created calls where
  leaves := by
    intro before e after split moved
    obtain ⟨first, second, rfl, rfl, isEvent⟩ := history_split split
    rcases isCall : e.op with ⟨addr, now⟩ | ⟨addr, now⟩
    · refine .inl ⟨addr, now, rfl, ?_⟩
      intro same
      rw [isEvent, isCall] at moved same
      apply moved
      show (pointAt _ addr now).addr = _
      rw [pointAt, if_neg fun differ => differ same.symm]
      rfl
    · rw [isEvent, isCall] at moved ⊢
      obtain ⟨-, elsewhere, late⟩ := heardFrom_moves_iff.mp (heardFrom_out_of_ne moved)
      exact .inr ⟨addr, now, rfl, elsewhere, (silent_iff start ordered.left now).mp late⟩
  returns := by
    intro before e after addr now split isCall was
    obtain ⟨first, second, rfl, rfl, isEvent⟩ := history_split split
    rw [isEvent, isCall]
    show (heardFrom _ addr now).1 = some was ↔ _
    rw [heardFrom_moves_iff]
    constructor
    · rintro ⟨rfl, elsewhere, late⟩
      exact ⟨rfl, elsewhere, (silent_iff start ordered.left now).mp late⟩
    · rintro ⟨rfl, elsewhere, silent⟩
      exact ⟨rfl, elsewhere, (silent_iff start ordered.left now).mpr silent⟩
  settles := by
    rintro first early now late addr time rfl single elsewhere isLast soon late'
    have isStamp : time = (routeAfter start created first).addrHeard :=
      isLast.unique (addrHeard_isGreatest (by
        rw [List.append_assoc] at ordered
        exact ordered.left))
    subst isStamp
    have kept := exec_early elsewhere
      (fun call member => single call (List.mem_append_left _ member)) soon
    rw [routeAfter, ← exec_append] at kept
    have moved : (heardFrom (routeAfter start created (first ++ early)) addr now).1 =
        some (routeAfter start created first).addr := by
      rw [heardFrom_moves_iff]
      refine ⟨kept.1.symm, elsewhere, ?_⟩
      rw [show (routeAfter start created (first ++ early)).addrHeard = _ from kept.2]
      exact late'
    refine ⟨moved, ?_⟩
    rintro some' rest rfl
    rw [routeAfter, exec_append]
    apply exec_same (heardFrom_addr_of_out moved)
    intro call member
    exact single call (by simp [member])

/-- Three hosts of TEST-NET-3. -/
def sampleAddr (host : UInt8) : SocketAddr := .v4 ⟨[203, 0, 113, host], rfl⟩ 1000

/-- A guest hears a first datagram from host 3 on its way to host 1, is told that its host moved to
3, and a millisecond later hears from host 2. -/
def sampleCalls : List RouteCall :=
  [.heardFrom (sampleAddr 3) 0, .pointAt (sampleAddr 3) (Duration.fromMillis 600),
    .heardFrom (sampleAddr 2) (Duration.fromMillis 601)]

/-- The run above is one of those the theorem is about. -/
theorem sampleCalls_follow :
    Chronological 0 sampleCalls ∧
      Follows (SignAt (sampleAddr 1) 0) (SignAt (sampleAddr 1) 0) (sampleAddr 1) 0 sampleCalls :=
  have ordered : Chronological 0 sampleCalls := by unfold Chronological; decide
  ⟨ordered, route_follows_its_host _ _ _ ordered⟩

/-- Datagrams alone do not say when a route may move. Host 3 was last heard 601 ms before the
datagram of host 2, and the grace of the address it was newly pointed at keeps the route on 3. And
a route just made stays where it is although nothing was heard from there and nobody pointed it
there. -/
theorem grace_outlasts_datagrams :
    Chronological 0 sampleCalls ∧
    ¬ Follows (fun addr events time => HeardAt addr events time ∨ NewlyPointedAt addr events time)
      HeardAt (sampleAddr 1) 0 sampleCalls ∧
    ¬ Follows (fun addr events time => HeardAt addr events time ∨ NewlyPointedAt addr events time)
      HeardAt (sampleAddr 1) 0 [.heardFrom (sampleAddr 2) (Duration.fromMillis 1)] := by
  refine ⟨by unfold Chronological; decide, ?_, ?_⟩
  · intro follows
    have last : IsGreatest {time | HeardAt
        (routeAfter (sampleAddr 1) 0 (sampleCalls.take 2)).addr
        (routeRun (sampleAddr 1) 0 (sampleCalls.take 2)) time} 0 := by
      constructor
      · exact heardAt_iff.mpr (by decide)
      · intro time heard
        have called := heardAt_iff.mp heard
        simp only [sampleCalls, List.take_succ_cons, List.take_zero, List.mem_cons,
          RouteCall.heardFrom.injEq, reduceCtorEq, List.not_mem_nil, or_false] at called
        exact Nat.le_of_eq called.2
    have moved := (follows.settles (sampleCalls.take 2) [] (Duration.fromMillis 601) []
      (sampleAddr 2) 0 rfl (by simp) (by decide) last (by simp) (by decide)).1
    revert moved
    decide
  · intro follows
    have named := (follows.returns [] _ [] (sampleAddr 2) (Duration.fromMillis 1) rfl rfl
      (sampleAddr 1)).mpr ⟨rfl, by decide, by
        rintro time (⟨e, member, -⟩ | ⟨e, member, -⟩)
        · cases member
        · cases member⟩
    revert named
    decide

end HostRoute

end Lumepeer.Net
