import Lumepeer.Core.Consent.Proofs.Queue
import Lumepeer.Core.Session.Proofs.Step

/-!
# Unanswered requests of an answered peer

`push_as` queues a request without looking for an earlier one of the same peer
and `remove` drops only the first. A grant or a revoke therefore settles the
requests of a peer exactly when it has at most one in the queue, which holds in
every run in which no request of the peer is accepted while one is unanswered.
-/

namespace Lumepeer.Core

namespace SessionManager
open Lumepeer.Lib

/-- The number of unanswered requests of `p`. -/
def ticketsOf (manager : SessionManager) (p : NodeId) : Nat :=
  manager.pending.countP fun ticket => ticket.peer == p

/-- No request of `p` is left in the queue. -/
def Settled (manager : SessionManager) (p : NodeId) : Prop :=
  ∀ ticket ∈ manager.pending, ticket.peer ≠ p

/-- A successful `grant_as` or `revoke` of `p`. -/
def Answers (p : NodeId) (e : SessionEvent) : Prop :=
  ((∃ role kind freshId, e.op = .grantAs p role kind freshId) ∨ e.op = .revoke p) ∧
    e.out = .done (.ok ())

/-- The event is no accepted request of `p` beside an unanswered one. -/
def AsksOnce (p : NodeId) (e : SessionEvent) : Prop :=
  ∀ role kind checkedAt requestedAt ticket,
    e.op = .requestConsentFor p role kind checkedAt requestedAt → e.out = .ticket (.ok ticket) →
      e.pre.queue.contains p = false

theorem ticketsOf_eq_count (manager : SessionManager) (p : NodeId) :
    manager.ticketsOf p = manager.queue.requesters.count p := by
  unfold ticketsOf pending ConsentQueue.requesters
  rw [List.count, List.countP_map]
  rfl

theorem settled_iff (manager : SessionManager) (p : NodeId) :
    manager.Settled p ↔ manager.ticketsOf p = 0 := by
  unfold Settled ticketsOf
  rw [List.countP_eq_zero]
  simp only [beq_iff_eq]

theorem ticketsOf_eq_zero_of_not_contains {manager : SessionManager} {p : NodeId}
    (absent : manager.queue.contains p = false) : manager.ticketsOf p = 0 := by
  rw [ticketsOf_eq_count, List.count_eq_zero, ← ConsentQueue.contains_iff]
  simp [absent]

theorem revoke_queue (manager : SessionManager) (peer : NodeId) :
    (manager.revoke peer).2.queue = (manager.queue.remove peer).2 := by
  unfold revoke
  dsimp only
  split <;> rfl

/-- What one operation does to the queue. -/
theorem queue_step (manager : SessionManager) (op : SessionOp) :
    (manager.step op).2.queue = manager.queue ∨
    (∃ peer role kind checkedAt requestedAt ticket,
      op = .requestConsentFor peer role kind checkedAt requestedAt ∧
      (manager.step op).1 = .ticket (.ok ticket) ∧ ticket.peer = peer ∧
      (manager.step op).2.queue = ⟨manager.queue.pending ++ [ticket]⟩) ∨
    (∃ peer, (manager.step op).2.queue = (manager.queue.remove peer).2) ∨
    (manager.step op).2.queue = {} := by
  cases op with
  | requestConsentFor peer role kind checkedAt requestedAt =>
      simp only [step, requestConsentFor]
      split
      · exact .inl rfl
      · rcases manager.queue.pushAs_cases peer role kind requestedAt with
          ⟨ticket, pushed, isPeer, -⟩ | refused
        · rw [pushed]
          exact .inr (.inl ⟨_, _, _, _, _, ticket, rfl, rfl, isPeer, rfl⟩)
        · rw [refused]
          exact .inl rfl
  | grantAs peer role kind freshId =>
      simp only [step, grantAs]
      split
      · exact .inl rfl
      · exact .inr (.inr (.inl ⟨peer, rfl⟩))
  | revoke peer => exact .inr (.inr (.inl ⟨peer, by rw [step, revoke_queue]⟩))
  | setGrant peer which allowed =>
      simp only [step, setGrant]
      split
      · exact .inl rfl
      · split <;> exact .inl rfl
  | onReconnect peer now =>
      simp only [step, onReconnect]
      split
      · exact .inl rfl
      · split <;> exact .inl rfl
  | onDisconnect peer now =>
      simp only [step, onDisconnect]
      split <;> exact .inl rfl
  | allowTunnelTarget peer target =>
      simp only [step, allowTunnelTarget]
      split
      · exact .inl rfl
      · split
        · exact .inl rfl
        · split
          · exact .inl rfl
          · split <;> exact .inl rfl
  | endAll => exact .inr (.inr (.inr rfl))
  | forgetConsentRate peer => exact .inl rfl
  | denyTunnelTarget peer target => exact .inl rfl
  | setPlan plan => exact .inl rfl
  | setControlPolicy policy => exact .inl rfl

/-- A successful answer to `p` takes its first request off the queue. -/
theorem queue_of_answers {manager : SessionManager} {op : SessionOp} {p : NodeId}
    (answers : Answers p (Event.of step manager op)) :
    (manager.step op).2.queue = (manager.queue.remove p).2 := by
  obtain ⟨⟨role, kind, freshId, isGrant⟩ | isRevoke, succeeded⟩ := answers
  · change op = .grantAs p role kind freshId at isGrant
    subst isGrant
    simp only [Event.of_out, step, grantAs] at succeeded ⊢
    cases refusal : manager.grantRefusal p role kind with
    | some error => simp [refusal] at succeeded
    | none => rfl
  · change op = .revoke p at isRevoke
    subst isRevoke
    exact revoke_queue manager p

/-- An answer to `p` settles its requests exactly when there was at most one. -/
theorem settled_of_answers_iff {manager : SessionManager} {op : SessionOp} {p : NodeId}
    (answers : Answers p (Event.of step manager op)) :
    (manager.step op).2.Settled p ↔ manager.ticketsOf p ≤ 1 := by
  rw [settled_iff, ticketsOf_eq_count, ticketsOf_eq_count, queue_of_answers answers,
    ConsentQueue.requesters_remove, List.count_erase_self]
  omega

/-- While `p` asks only when it has no unanswered request, it never has two. -/
theorem ticketsOf_step_le {manager : SessionManager} {op : SessionOp} {p : NodeId}
    (within : manager.ticketsOf p ≤ 1) (once : AsksOnce p (Event.of step manager op)) :
    (manager.step op).2.ticketsOf p ≤ 1 := by
  rcases manager.queue_step op with
    same | ⟨peer, role, kind, checkedAt, requestedAt, ticket, isOp, accepted, isPeer, queued⟩ |
      ⟨peer, removed⟩ | cleared
  · rw [ticketsOf_eq_count, same, ← ticketsOf_eq_count]
    exact within
  · have grown : (manager.step op).2.ticketsOf p =
        manager.ticketsOf p + if ticket.peer = p then 1 else 0 := by
      simp only [ticketsOf, pending, queued, List.countP_append, List.countP_singleton, beq_iff_eq]
    rw [grown]
    by_cases mine : ticket.peer = p
    · have isMine : peer = p := isPeer.symm.trans mine
      subst isMine
      have absent := once role kind checkedAt requestedAt ticket isOp accepted
      have none : manager.ticketsOf peer = 0 := ticketsOf_eq_zero_of_not_contains absent
      rw [none, if_pos mine]
    · rw [if_neg mine]
      exact within
  · rw [ticketsOf_eq_count, removed, ConsentQueue.requesters_remove]
    rw [ticketsOf_eq_count] at within
    exact ((List.erase_sublist).count_le p).trans within
  · rw [ticketsOf_eq_count, cleared]
    exact Nat.zero_le _

/-- In every run a successful grant or revoke of `p` leaves no request of `p` behind exactly
when at most one was unanswered, and so always in a run in which no request of `p` is accepted
beside an unanswered one. -/
theorem answered_settled_iff (plan : Plan) (ops : List SessionOp) (p : NodeId) :
    (∀ e ∈ events plan ops, Answers p e → (e.post.Settled p ↔ e.pre.ticketsOf p ≤ 1)) ∧
    ((∀ e ∈ events plan ops, AsksOnce p e) →
      ∀ e ∈ events plan ops, Answers p e → e.post.Settled p) := by
  have exact (e) (member : e ∈ events plan ops) (answers : Answers p e) :
      e.post.Settled p ↔ e.pre.ticketsOf p ≤ 1 := by
    obtain ⟨before, after, -, isEvent⟩ := exists_prefix_of_mem_history member
    rw [isEvent] at answers ⊢
    exact settled_of_answers_iff answers
  refine ⟨exact, ?_⟩
  intro once e member answers
  rw [exact e member answers]
  obtain ⟨before, after, split, isEvent⟩ := exists_prefix_of_mem_history member
  have allowed (earlier) (seen : earlier ∈ events plan before) :
      AsksOnce p (Event.of step earlier.pre earlier.op) := by
    rw [← eq_of_mem_history seen]
    apply once
    rw [events, split, history_append]
    exact List.mem_append_left _ seen
  rw [isEvent]
  have keep (manager : SessionManager) (op : SessionOp) (within : manager.ticketsOf p ≤ 1)
      (asks : AsksOnce p (Event.of step manager op)) : (manager.step op).2.ticketsOf p ≤ 1 :=
    ticketsOf_step_le within asks
  have start : (withPlan plan).ticketsOf p ≤ 1 := Nat.zero_le 1
  exact exec_induction keep start allowed

/-- Two requests of one peer and a revoke: the second request is still queued. -/
theorem revoke_leaves_repeated_request :
    ¬ ∀ (plan : Plan) (ops : List SessionOp) (p : NodeId),
      ∀ e ∈ events plan ops, Answers p e → e.post.Settled p := by
  intro claimed
  let p : NodeId := ⟨List.Vector.replicate 32 0⟩
  let asked : SessionManager :=
    run .free [.requestConsentFor p .viewOnly .screen 0 0, .requestConsentFor p .viewOnly .screen 1 1]
  have settled := claimed .free
    [.requestConsentFor p .viewOnly .screen 0 0, .requestConsentFor p .viewOnly .screen 1 1, .revoke p]
    p (Event.of step asked (.revoke p)) (by simp [asked]) ⟨.inr rfl, rfl⟩
  rw [settled_iff] at settled
  exact absurd settled (by decide)

end SessionManager

end Lumepeer.Core
