import Mathlib.Logic.Function.Basic
import Lumepeer.Lib.Run

/-!
# Two nodes joined by two channels

Each of two nodes takes steps of its own and receives what the other sent, in the
order in which it was sent. `Lane` is the world as one node sees it: itself as the
sender, the other as the receiver, and what is on its way between them. A property
of a lane that the steps of the sender and of the receiver keep (`LaneRule`) holds
for both lanes in every run.
-/

namespace Lumepeer.Lib

universe u v w x
variable {σ : Type u} {μ : Type v} {ι : Type w} {ε : Type x}

/-- What a node does: the messages it sends, and its next state. `ε` is what the surroundings answer
while a message is handled. -/
structure Party (σ : Type u) (μ : Type v) (ι : Type w) (ε : Type x) where
  act : σ → ι → List μ × σ
  receive : σ → μ → ε → List μ × σ

/-- The two nodes, the messages on their way to each, and all that each has sent. -/
structure Duplex (σ : Type u) (μ : Type v) where
  node : Bool → σ
  inbox : Bool → List μ
  sent : Bool → List μ

/-- A step of one node, or the next message for it. -/
inductive DuplexOp (ι : Type w) (ε : Type x) where
  | act (who : Bool) (op : ι)
  | deliver (who : Bool) (surroundings : ε)

/-- The node that takes the step. -/
def DuplexOp.who : DuplexOp ι ε → Bool
  | .act who _ => who
  | .deliver who _ => who

/-- The world as the sender of a direction sees it. -/
structure Lane (σ : Type u) (μ : Type v) where
  sender : σ
  receiver : σ
  /-- On their way to the receiver. -/
  down : List μ
  /-- On their way to the sender. -/
  up : List μ
  /-- All that the sender has sent. -/
  sent : List μ
  /-- All that the receiver has sent. -/
  replied : List μ

namespace Lane

/-- The sender takes a step. -/
def sends (lane : Lane σ μ) (result : List μ × σ) : Lane σ μ :=
  { lane with sender := result.2, down := lane.down ++ result.1, sent := lane.sent ++ result.1 }

/-- The receiver takes a step. -/
def replies (lane : Lane σ μ) (result : List μ × σ) : Lane σ μ :=
  { lane with receiver := result.2, up := lane.up ++ result.1, replied := lane.replied ++ result.1 }

/-- The lane of the other direction. -/
def flip (lane : Lane σ μ) : Lane σ μ :=
  { sender := lane.receiver, receiver := lane.sender, down := lane.up, up := lane.down
    sent := lane.replied, replied := lane.sent }

theorem replies_nil (lane : Lane σ μ) (next : σ) :
    lane.replies ([], next) = { lane with receiver := next } := by
  simp [replies]

end Lane

namespace Duplex

/-- `who` has taken a step. -/
def after (world : Duplex σ μ) (who : Bool) (result : List μ × σ) : Duplex σ μ where
  node := Function.update world.node who result.2
  inbox := Function.update world.inbox (!who) (world.inbox (!who) ++ result.1)
  sent := Function.update world.sent who (world.sent who ++ result.1)

/-- `who` has taken a message. -/
def taken (world : Duplex σ μ) (who : Bool) (rest : List μ) : Duplex σ μ :=
  { world with inbox := Function.update world.inbox who rest }

/-- One step: the messages sent in it, and the next world. -/
def step (party : Party σ μ ι ε) (world : Duplex σ μ) : DuplexOp ι ε → List μ × Duplex σ μ
  | .act who op =>
      let result := party.act (world.node who) op
      (result.1, world.after who result)
  | .deliver who surroundings =>
      match world.inbox who with
      | [] => ([], world)
      | message :: rest =>
          let result := party.receive (world.node who) message surroundings
          (result.1, (world.taken who rest).after who result)

/-- The direction in which `who` sends. -/
def lane (world : Duplex σ μ) (who : Bool) : Lane σ μ where
  sender := world.node who
  receiver := world.node (!who)
  down := world.inbox (!who)
  up := world.inbox who
  sent := world.sent who
  replied := world.sent (!who)

/-- The step meets a condition on the lane of the node that takes it. -/
def Meets (okAct : Lane σ μ → ι → Prop) (okReceive : Lane σ μ → μ → ε → Prop) (world : Duplex σ μ) :
    DuplexOp ι ε → Prop
  | .act who op => okAct (world.lane who) op
  | .deliver who surroundings =>
      ∀ message ∈ (world.inbox who).head?, okReceive (world.lane who) message surroundings

instance (okAct : Lane σ μ → ι → Prop) (okReceive : Lane σ μ → μ → ε → Prop)
    [∀ lane op, Decidable (okAct lane op)]
    [∀ lane message surroundings, Decidable (okReceive lane message surroundings)]
    (world : Duplex σ μ) : (op : DuplexOp ι ε) → Decidable (world.Meets okAct okReceive op)
  | .act who op => inferInstanceAs (Decidable (okAct (world.lane who) op))
  | .deliver who surroundings => inferInstanceAs (Decidable
      (∀ message ∈ (world.inbox who).head?, okReceive (world.lane who) message surroundings))

/-- Nothing was sent yet. -/
def start (nodes : Bool → σ) : Duplex σ μ :=
  { node := nodes, inbox := fun _ => [], sent := fun _ => [] }

section
variable {world : Duplex σ μ} {who : Bool}

theorem lane_not : world.lane (!who) = (world.lane who).flip := by
  simp [lane, Lane.flip]

theorem lane_after (result : List μ × σ) :
    (world.after who result).lane who = (world.lane who).sends result := by
  simp [lane, after, Lane.sends]

theorem lane_not_after (result : List μ × σ) :
    (world.after who result).lane (!who) = (world.lane (!who)).replies result := by
  simp [lane, after, Lane.replies]

theorem lane_taken (rest : List μ) :
    (world.taken who rest).lane who = { world.lane who with up := rest } := by
  simp [lane, taken]

theorem lane_not_taken (rest : List μ) :
    (world.taken who rest).lane (!who) = { world.lane (!who) with down := rest } := by
  simp [lane, taken]

end

end Duplex

/-- The four kinds of step keep a property of a lane. -/
structure LaneRule (party : Party σ μ ι ε) (okAct : Lane σ μ → ι → Prop)
    (okReceive : Lane σ μ → μ → ε → Prop) (Inv : Lane σ μ → Prop) : Prop where
  sends : ∀ lane op, Inv lane → okAct lane op → Inv (lane.sends (party.act lane.sender op))
  replies : ∀ lane op, Inv lane → okAct lane.flip op →
    Inv (lane.replies (party.act lane.receiver op))
  sendsOn : ∀ lane message rest surroundings, Inv lane → lane.up = message :: rest →
    okReceive lane message surroundings →
    Inv ({ lane with up := rest }.sends (party.receive lane.sender message surroundings))
  repliesOn : ∀ lane message rest surroundings, Inv lane → lane.down = message :: rest →
    okReceive lane.flip message surroundings →
    Inv ({ lane with down := rest }.replies (party.receive lane.receiver message surroundings))

namespace LaneRule
variable {party : Party σ μ ι ε} {okAct : Lane σ μ → ι → Prop} {okReceive : Lane σ μ → μ → ε → Prop}
  {Inv : Lane σ μ → Prop} {world : Duplex σ μ}

theorem step (rule : LaneRule party okAct okReceive Inv) {op : DuplexOp ι ε}
    (inv : ∀ who, Inv (world.lane who)) (ok : world.Meets okAct okReceive op) :
    ∀ who, Inv ((world.step party op).2.lane who) := by
  cases op with
  | act actor op =>
      intro who
      by_cases own : who = actor
      · subst own
        simp only [Duplex.step, Duplex.lane_after]
        exact rule.sends _ _ (inv who) ok
      · obtain rfl : who = !actor := Bool.eq_not.mpr own
        simp only [Duplex.step, Duplex.lane_not_after]
        have kept := rule.replies (world.lane (!actor)) op (inv (!actor))
        rw [← Duplex.lane_not, Bool.not_not] at kept
        simpa [Duplex.lane] using kept ok
  | deliver actor surroundings =>
      simp only [Duplex.step]
      cases isInbox : world.inbox actor with
      | nil => exact inv
      | cons message rest =>
          have fine : okReceive (world.lane actor) message surroundings := ok message (by simp [isInbox])
          intro who
          by_cases own : who = actor
          · subst own
            simp only [Duplex.lane_after, Duplex.lane_taken]
            exact rule.sendsOn _ _ _ _ (inv who) isInbox fine
          · obtain rfl : who = !actor := Bool.eq_not.mpr own
            simp only [Duplex.lane_not_after, Duplex.lane_not_taken]
            have kept := rule.repliesOn (world.lane (!actor)) message rest surroundings (inv (!actor))
            rw [← Duplex.lane_not, Bool.not_not] at kept
            have isDown : (world.lane (!actor)).down = message :: rest := by
              simpa [Duplex.lane] using isInbox
            simpa [Duplex.lane] using kept isDown fine

/-- A property that does not tell the two directions apart is kept if the sender's steps keep it. -/
theorem of_flip (flip : ∀ lane : Lane σ μ, Inv lane → Inv lane.flip)
    (sends : ∀ lane op, Inv lane → okAct lane op → Inv (lane.sends (party.act lane.sender op)))
    (sendsOn : ∀ lane message rest surroundings, Inv lane → lane.up = message :: rest →
      okReceive lane message surroundings →
      Inv ({ lane with up := rest }.sends (party.receive lane.sender message surroundings))) :
    LaneRule party okAct okReceive Inv where
  sends := sends
  replies lane op inv ok := flip _ (sends lane.flip op (flip lane inv) ok)
  sendsOn := sendsOn
  repliesOn lane message rest surroundings inv isDown ok :=
    flip _ (sendsOn lane.flip message rest surroundings (flip lane inv) isDown ok)

/-- Both lanes have the property at the end of every run whose steps meet the condition. -/
theorem run (rule : LaneRule party okAct okReceive Inv) {ops : List (DuplexOp ι ε)}
    (start : ∀ who, Inv (world.lane who))
    (ok : ∀ e ∈ history (Duplex.step party) world ops, e.pre.Meets okAct okReceive e.op) :
    ∀ who, Inv ((exec (Duplex.step party) world ops).lane who) := by
  let Both : Duplex σ μ → Prop := fun world => ∀ who, Inv (world.lane who)
  have keep : ∀ world op, Both world → world.Meets okAct okReceive op →
      Both (world.step party op).2 := fun _ _ inv fine => rule.step inv fine
  exact exec_induction keep start ok

/-- ... and before each of its steps. -/
theorem before (rule : LaneRule party okAct okReceive Inv) {ops : List (DuplexOp ι ε)}
    (start : ∀ who, Inv (world.lane who))
    (ok : ∀ e ∈ history (Duplex.step party) world ops, e.pre.Meets okAct okReceive e.op) :
    ∀ e ∈ history (Duplex.step party) world ops, ∀ who, Inv (e.pre.lane who) := by
  let Both : Duplex σ μ → Prop := fun world => ∀ who, Inv (world.lane who)
  have keep : ∀ world op, Both world → world.Meets okAct okReceive op →
      Both (world.step party op).2 := fun _ _ inv fine => rule.step inv fine
  intro e member
  exact (history_induction keep start ok e member).1

end LaneRule

end Lumepeer.Lib
