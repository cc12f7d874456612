import Lumepeer.Core.Consent
import Lumepeer.Lib.Run

/-!
# The queue of unanswered consent requests

`push_as` numbers a ticket by the length of the queue and only `remove` numbers
again, over the whole queue. The queue holds at most `MAX_PENDING_CONSENTS`
tickets, so a position never meets the bound of its byte.
-/

namespace Lumepeer.Core.ConsentQueue
open Lumepeer.Lib

/-- The peers of the queued requests, oldest first. -/
def requesters (queue : ConsentQueue) : List NodeId := queue.pending.map (·.peer)

theorem contains_iff (queue : ConsentQueue) (p : NodeId) :
    queue.contains p = true ↔ p ∈ queue.requesters := by
  simp only [contains, requesters, List.any_eq_true, beq_iff_eq, List.mem_map]

/-- Renumbering changes nothing but the positions. -/
theorem map_renumber {α : Type} (read : ConsentTicket → α)
    (blind : ∀ ticket position, read { ticket with queuePosition := position } = read ticket)
    (pending : List ConsentTicket) : (renumber pending).map read = pending.map read := by
  unfold renumber
  apply List.ext_getElem
  · simp
  · intro index _ _
    simp [blind]

theorem requesters_renumber (pending : List ConsentTicket) :
    (⟨renumber pending⟩ : ConsentQueue).requesters = pending.map (·.peer) :=
  map_renumber (·.peer) (fun _ _ => rfl) pending

/-- Removal takes the first request of `peer` off the queue, if there is one. -/
theorem requesters_remove (queue : ConsentQueue) (peer : NodeId) :
    (queue.remove peer).2.requesters = queue.requesters.erase peer := by
  unfold remove
  cases first : queue.pending.find? fun ticket => ticket.peer == peer with
  | none =>
      have absent : peer ∉ queue.requesters := by
        rw [← contains_iff]
        simpa [contains] using first
      exact (List.erase_of_not_mem absent).symm
  | some removed =>
      simp only [requesters_renumber]
      rw [requesters, List.erase_eq_eraseP', List.eraseP_map]
      rfl

/-- A push appends a request or, on a full queue, changes nothing. -/
theorem pushAs_cases (queue : ConsentQueue) (peer : NodeId) (role : Role) (kind : SessionKind)
    (now : Instant) :
    (∃ ticket, queue.pushAs peer role kind now = (.ok ticket, ⟨queue.pending ++ [ticket]⟩) ∧
      ticket.peer = peer ∧ queue.pending.length < maxPendingConsents ∧
      ticket.queuePosition = positionByte queue.pending.length) ∨
    queue.pushAs peer role kind now = (.error .pendingConsentQueueFull, queue) := by
  unfold pushAs
  split
  · exact .inr rfl
  · rename_i room
    exact .inl ⟨_, rfl, rfl, Nat.not_le.mp room, rfl⟩

/-- A removal finds no ticket of `peer`, or takes out the first one and numbers the others. -/
theorem remove_cases (queue : ConsentQueue) (peer : NodeId) :
    (queue.remove peer = (none, queue) ∧ ∀ ticket ∈ queue.pending, ticket.peer ≠ peer) ∨
    ∃ older ticket newer, queue.pending = older ++ ticket :: newer ∧ ticket.peer = peer ∧
      (∀ earlier ∈ older, earlier.peer ≠ peer) ∧
      queue.remove peer = (some ticket, ⟨renumber (older ++ newer)⟩) := by
  unfold remove
  cases first : queue.pending.find? fun ticket => ticket.peer == peer with
  | none => exact .inl ⟨rfl, by simpa using first⟩
  | some ticket =>
      obtain ⟨isPeer, older, newer, split, others⟩ := List.find?_eq_some_iff_append.mp first
      refine .inr ⟨older, ticket, newer, split, by simpa using isPeer, by simpa using others, ?_⟩
      have erased : queue.pending.eraseP (fun ticket => ticket.peer == peer) = older ++ newer := by
        rw [split, List.eraseP_append_right _ (by simpa using others)]
        simp [isPeer]
      simp only [erased]

/-- The operations that change a `ConsentQueue`. -/
inductive Op where
  | pushAs (peer : NodeId) (requestedRole : Role) (kind : SessionKind) (now : Instant)
  | remove (peer : NodeId)
  | clear
  deriving DecidableEq

/-- What an operation returned. -/
inductive Outcome where
  | pushed (result : Except CoreError ConsentTicket)
  | removed (ticket : Option ConsentTicket)
  | cleared

/-- One operation. -/
def step (queue : ConsentQueue) : Op → Outcome × ConsentQueue
  | .pushAs peer requestedRole kind now =>
      let (result, next) := queue.pushAs peer requestedRole kind now
      (.pushed result, next)
  | .remove peer =>
      let (ticket, next) := queue.remove peer
      (.removed ticket, next)
  | .clear => (.cleared, queue.clear)

/-- What was asked for: a ticket without its place. -/
structure Request where
  peer : NodeId
  requestedRole : Role
  kind : SessionKind
  requestedAt : Instant

/-- The request of a ticket. -/
def requestOf (ticket : ConsentTicket) : Request :=
  { peer := ticket.peer, requestedRole := ticket.requestedRole, kind := ticket.kind
    requestedAt := ticket.requestedAt }

/-- The request that an event accepted, if it did. -/
def acceptedBy (e : Event ConsentQueue Op Outcome) : Option Request :=
  match e.out with
  | .pushed (.ok ticket) => some (requestOf ticket)
  | _ => none

/-- The requests that a run accepted, in order. -/
def acceptedIn (events : List (Event ConsentQueue Op Outcome)) : List Request :=
  events.filterMap acceptedBy

theorem map_requestOf_renumber (pending : List ConsentTicket) :
    (renumber pending).map requestOf = pending.map requestOf :=
  map_renumber requestOf (fun _ _ => rfl) pending

/-- The tickets are few, numbered by their places, and wait in the order of `accepted`. -/
structure Orderly (queue : ConsentQueue) (accepted : List Request) : Prop where
  bounded : queue.pending.length ≤ maxPendingConsents
  numbered : ∀ (index : Nat) ticket, queue.pending[index]? = some ticket →
    ticket.queuePosition = index
  inOrder : (queue.pending.map requestOf).Sublist accepted

variable {queue : ConsentQueue} {accepted : List Request}

theorem positionByte_of_le {position : Nat} (le : position ≤ maxPendingConsents) :
    positionByte position = position :=
  if_pos (le.trans (by decide))

theorem orderly_empty (accepted : List Request) : Orderly ⟨[]⟩ accepted where
  bounded := Nat.zero_le _
  numbered := by simp
  inOrder := List.nil_sublist _

theorem Orderly.push (orderly : Orderly queue accepted) {ticket : ConsentTicket}
    (room : queue.pending.length < maxPendingConsents)
    (placed : ticket.queuePosition = positionByte queue.pending.length) :
    Orderly ⟨queue.pending ++ [ticket]⟩ (accepted ++ [requestOf ticket]) where
  bounded := by
    rw [List.length_append, List.length_singleton]
    exact room
  numbered index found here := by
    rw [List.getElem?_append] at here
    split at here
    · exact orderly.numbered index found here
    · rename_i beyond
      obtain ⟨isLast, rfl⟩ : index - queue.pending.length = 0 ∧ ticket = found := by
        simpa [List.getElem?_singleton] using here
      rw [placed, positionByte_of_le room.le]
      omega
  inOrder := by
    rw [List.map_append]
    exact orderly.inOrder.append (List.Sublist.refl _)

/-- What is left after a removal is numbered anew and keeps its order. -/
theorem Orderly.renumber (orderly : Orderly queue accepted) {kept : List ConsentTicket}
    (left : kept.Sublist queue.pending) :
    Orderly ⟨ConsentQueue.renumber kept⟩ accepted where
  bounded := by
    rw [ConsentQueue.renumber, List.length_mapIdx]
    exact left.length_le.trans orderly.bounded
  numbered index ticket here := by
    simp only [ConsentQueue.renumber, List.getElem?_mapIdx, Option.map_eq_some_iff] at here
    obtain ⟨before, found, rfl⟩ := here
    have inside : index < kept.length := (List.getElem?_eq_some_iff.mp found).1
    exact positionByte_of_le (inside.le.trans (left.length_le.trans orderly.bounded))
  inOrder := by
    rw [map_requestOf_renumber]
    exact (left.map requestOf).trans orderly.inOrder

/-- One operation. -/
theorem orderly_step (orderly : Orderly queue accepted) (op : Op) :
    Orderly (queue.step op).2 (accepted ++ acceptedIn [Event.of step queue op]) := by
  cases op with
  | pushAs peer role kind now =>
      rcases queue.pushAs_cases peer role kind now with
        ⟨ticket, pushed, -, room, placed⟩ | refused
      · simpa [step, pushed, acceptedIn, acceptedBy] using orderly.push room placed
      · simpa [step, refused, acceptedIn, acceptedBy] using orderly
  | remove peer =>
      rcases queue.remove_cases peer with
        ⟨absent, -⟩ | ⟨older, ticket, newer, split, -, -, removed⟩
      · simpa [step, absent, acceptedIn, acceptedBy] using orderly
      · have left : (older ++ newer).Sublist queue.pending := by
          rw [split]
          exact (List.Sublist.refl older).append (List.sublist_cons_self ticket newer)
        simpa [step, removed, acceptedIn, acceptedBy] using orderly.renumber left
  | clear => exact orderly_empty _

/-- Every run. -/
theorem orderly_run (ops : List Op) : Orderly (exec step {} ops) (acceptedIn (history step {} ops)) := by
  induction ops using List.reverseRecOn with
  | nil => exact orderly_empty _
  | append_singleton ops op ih =>
      rw [exec_concat, history_concat, acceptedIn, List.filterMap_append]
      exact orderly_step ih op

/-- The requests that wait after one more operation: a push adds one while there is room, a removal
takes the oldest of the peer away. -/
def waitingAfter (waiting : List Request) : Op → List Request
  | .pushAs peer requestedRole kind requestedAt =>
      if waiting.length < maxPendingConsents then
        waiting ++ [{ peer, requestedRole, kind, requestedAt }]
      else waiting
  | .remove peer => waiting.eraseP fun request => request.peer == peer
  | .clear => []

theorem requests_step (queue : ConsentQueue) (op : Op) :
    (queue.step op).2.pending.map requestOf = waitingAfter (queue.pending.map requestOf) op := by
  cases op with
  | pushAs peer role kind now =>
      simp only [step, waitingAfter, List.length_map, pushAs]
      by_cases room : queue.pending.length < maxPendingConsents
      · rw [if_pos room, if_neg (Nat.not_le.mpr room), List.map_append]
        rfl
      · rw [if_neg room, if_pos (Nat.not_lt.mp room)]
  | remove peer =>
      simp only [step, waitingAfter]
      rcases queue.remove_cases peer with
        ⟨removed, absent⟩ | ⟨older, ticket, newer, split, isPeer, others, removed⟩
      · rw [removed]
        symm
        apply List.eraseP_of_forall_not
        intro request member
        obtain ⟨ticket, isTicket, rfl⟩ := List.mem_map.mp member
        simpa [requestOf] using absent ticket isTicket
      · rw [removed, map_requestOf_renumber, split, List.map_append, List.map_append,
          List.map_cons, List.eraseP_append_right]
        · rw [List.eraseP_cons_of_pos (by simpa [requestOf] using isPeer)]
        · intro request member
          obtain ⟨ticket, isTicket, rfl⟩ := List.mem_map.mp member
          simpa [requestOf] using others ticket isTicket
  | clear => rfl

theorem requests_run (queue : ConsentQueue) (ops : List Op) :
    (exec step queue ops).pending.map requestOf =
      ops.foldl waitingAfter (queue.pending.map requestOf) := by
  induction ops generalizing queue with
  | nil => rfl
  | cons op ops ih => rw [exec_cons, List.foldl_cons, ih, requests_step]

/-- In every state that pushes, removals and clears lead to, the queue holds no more tickets than
it may, each knows its place, and they wait in the order in which they were accepted: they are the
requests that were accepted and not removed or cleared since; a push that fails on a full queue
changes nothing; and a removal takes out the oldest ticket of the peer and keeps the requests of all
others in order. -/
theorem queue_stays_orderly (ops : List Op) :
    (exec step {} ops).pending.length ≤ maxPendingConsents ∧
    (∀ (index : Nat) ticket, (exec step {} ops).pending[index]? = some ticket →
      ticket.queuePosition = index) ∧
    ((exec step {} ops).pending.map requestOf).Sublist (acceptedIn (history step {} ops)) ∧
    (exec step {} ops).pending.map requestOf = ops.foldl waitingAfter [] ∧
    (∀ peer role kind now,
      ((exec step {} ops).pushAs peer role kind now).1 = .error .pendingConsentQueueFull →
        ((exec step {} ops).pushAs peer role kind now).2 = exec step {} ops) ∧
    ∀ peer,
      ((exec step {} ops).remove peer = (none, exec step {} ops) ∧
        ∀ ticket ∈ (exec step {} ops).pending, ticket.peer ≠ peer) ∨
      ∃ older ticket newer, (exec step {} ops).pending = older ++ ticket :: newer ∧
        ticket.peer = peer ∧ (∀ earlier ∈ older, earlier.peer ≠ peer) ∧
        ((exec step {} ops).remove peer).1 = some ticket ∧
        ((exec step {} ops).remove peer).2.pending.map requestOf =
          (older ++ newer).map requestOf := by
  obtain ⟨bounded, numbered, inOrder⟩ := orderly_run ops
  refine ⟨bounded, numbered, inOrder, requests_run {} ops, ?_, ?_⟩
  · intro peer role kind now failed
    rcases (exec step {} ops).pushAs_cases peer role kind now with ⟨ticket, pushed, -⟩ | refused
    · simp [pushed] at failed
    · rw [refused]
  · intro peer
    refine ((exec step {} ops).remove_cases peer).imp id ?_
    rintro ⟨older, ticket, newer, split, isPeer, others, removed⟩
    refine ⟨older, ticket, newer, split, isPeer, others, ?_, ?_⟩
    · rw [removed]
    · rw [removed, map_requestOf_renumber]

end Lumepeer.Core.ConsentQueue
