import Lumepeer.Guestkeys.Keys
import Lumepeer.Lib.Run
import Mathlib.Data.Finset.Disjoint

/-!
# Keys held on the remote machine

What the remote machine takes to be down is told by the stream of keys alone: a
position whose last event is a press. `Matches` says that the two sets of a grab
are the positions whose last event is a press and those whose last event is a
release. Every call keeps it, so letting go of the held set leaves nothing down.
-/

namespace Lumepeer.Guestkeys
open Lumepeer.Lib

/-- The run of a grab: every event is handed to `claim`. -/
abbrev GrabEvent := Event (Option Grabbing) KbdllHookStruct (Bool × Option GrabbedKey)

def grabRun (e2e : Bool) (events : List KbdllHookStruct) : List GrabEvent :=
  history (claim e2e) installed events

/-- The slot after a run. -/
def grabAfter (e2e : Bool) (events : List KbdllHookStruct) : Option Grabbing :=
  exec (claim e2e) installed events

/-- What the sink was given in a run. -/
def stream (run : List GrabEvent) : List GrabbedKey := run.filterMap fun e => e.out.2

/-- The last transition of a position in a stream. -/
def lastSent (keys : List GrabbedKey) (scancode : UInt32) : Option Bool :=
  (keys.reverse.find? fun key => key.scancode = scancode).map GrabbedKey.pressed

/-- The positions a slot holds down. -/
def heldIn (slot : Option Grabbing) : Finset UInt32 := slot.elim ∅ Grabbing.held

theorem lastSent_concat (keys : List GrabbedKey) (key : GrabbedKey) (scancode : UInt32) :
    lastSent (keys ++ [key]) scancode =
      if key.scancode = scancode then some key.pressed else lastSent keys scancode := by
  by_cases same : key.scancode = scancode <;> simp [lastSent, same]

theorem lastSent_ne_none {keys : List GrabbedKey} {key : GrabbedKey} (member : key ∈ keys) :
    lastSent keys key.scancode ≠ none := by
  rw [lastSent, ne_eq, Option.map_eq_none_iff, List.find?_eq_none]
  intro nowhere
  exact nowhere key (List.mem_reverse.mpr member) (by simp)

/-- Positions let go of are up, and the others as they were. -/
theorem lastSent_append_released (keys : List GrabbedKey) (codes : List UInt32) (modifiers : UInt32)
    (scancode : UInt32) :
    lastSent (keys ++ codes.map fun scancode => { scancode, modifiers, pressed := false }) scancode =
      if scancode ∈ codes then some false else lastSent keys scancode := by
  induction codes using List.reverseRecOn with
  | nil => simp
  | append_singleton codes code ih =>
      rw [List.map_append, ← List.append_assoc, List.map_singleton, lastSent_concat, ih]
      by_cases same : code = scancode
      · simp [same]
      · simp [same, Ne.symm same]

/-- The sets of a grab are what the stream says. -/
structure Matches (grabbing : Grabbing) (keys : List GrabbedKey) : Prop where
  held : ∀ scancode, scancode ∈ grabbing.held ↔ lastSent keys scancode = some true
  released : ∀ scancode, scancode ∈ grabbing.released ↔ lastSent keys scancode = some false

/-! ## One call -/

/-- What a call on a live grab can do: leave the event alone, or send it and move its position into
the set its transition belongs to. -/
theorem claim_cases (e2e : Bool) (grabbing : Grabbing) (event : KbdllHookStruct) :
    claim e2e (some grabbing) event = ((false, none), some grabbing) ∨
    ∃ virtualKey scancode after, keyOf e2e event = some (virtualKey, scancode) ∧
      route virtualKey (!event.up) (decide (scancode ∈ grabbing.held))
        (Held.ofPositions grabbing.held) ≠ .here ∧
      after = (if event.up then
          { held := grabbing.held.erase scancode
            released := insert scancode grabbing.released : Grabbing }
        else
          { held := insert scancode grabbing.held
            released := grabbing.released.erase scancode }) ∧
      claim e2e (some grabbing) event =
        ((decide (route virtualKey (!event.up) (decide (scancode ∈ grabbing.held))
            (Held.ofPositions grabbing.held) = .there),
          some { scancode, modifiers := (Held.ofPositions after.held).bits, pressed := !event.up }),
          some after) := by
  unfold claim
  rcases looked : keyOf e2e event with _ | ⟨virtualKey, scancode⟩
  · exact .inl rfl
  · by_cases left : route virtualKey (!event.up) (decide (scancode ∈ grabbing.held))
        (Held.ofPositions grabbing.held) = .here
    · exact .inl (by simp [left])
    · refine .inr ⟨virtualKey, scancode, _, rfl, left, rfl, ?_⟩
      cases up : event.up <;> simp [up] at left ⊢ <;> simp [left]

/-- Sending a transition keeps the sets in step with the stream. -/
theorem Matches.sent {grabbing : Grabbing} {keys : List GrabbedKey} (same : Matches grabbing keys)
    (scancode modifiers : UInt32) (up : Bool) :
    Matches (if up then
          { held := grabbing.held.erase scancode
            released := insert scancode grabbing.released }
        else
          { held := insert scancode grabbing.held
            released := grabbing.released.erase scancode })
      (keys ++ [{ scancode, modifiers, pressed := !up }]) := by
  constructor
  · intro code
    rw [lastSent_concat]
    by_cases isCode : scancode = code
    · cases up <;> simp [isCode]
    · cases up <;> simp [isCode, Ne.symm isCode, same.held]
  · intro code
    rw [lastSent_concat]
    by_cases isCode : scancode = code
    · cases up <;> simp [isCode]
    · cases up <;> simp [isCode, Ne.symm isCode, same.released]

/-! ## Runs -/

theorem stream_concat (e2e : Bool) (events : List KbdllHookStruct) (event : KbdllHookStruct) :
    stream (grabRun e2e (events ++ [event])) =
      stream (grabRun e2e events) ++ (claim e2e (grabAfter e2e events) event).1.2.toList := by
  rw [grabRun, history_concat, stream, List.filterMap_append, ← stream, ← grabRun]
  cases sent : (claim e2e (exec (claim e2e) installed events) event).1.2 <;>
    simp [grabAfter, sent]

theorem grabAfter_concat (e2e : Bool) (events : List KbdllHookStruct) (event : KbdllHookStruct) :
    grabAfter e2e (events ++ [event]) = (claim e2e (grabAfter e2e events) event).2 :=
  exec_concat _ _ _

/-- The grab stays live, its sets in step with what was sent. -/
theorem matches_run (e2e : Bool) (events : List KbdllHookStruct) :
    ∃ grabbing, grabAfter e2e events = some grabbing ∧
      Matches grabbing (stream (grabRun e2e events)) := by
  induction events using List.reverseRecOn with
  | nil => exact ⟨_, rfl, by simp [lastSent, stream, grabRun], by simp [lastSent, stream, grabRun]⟩
  | append_singleton events event ih =>
      obtain ⟨grabbing, live, same⟩ := ih
      rw [stream_concat, grabAfter_concat, live]
      rcases claim_cases e2e grabbing event with left | ⟨_, scancode, after, -, -, isAfter, sent⟩
      · rw [left]
        refine ⟨grabbing, rfl, ?_⟩
        simpa using same
      · rw [sent]
        refine ⟨after, rfl, ?_⟩
        rw [isAfter]
        exact same.sent scancode _ event.up

/-- A key that is sent carries the modifiers of the held set after it. -/
theorem modifiers_of_claim {e2e : Bool} {slot : Option Grabbing} {event : KbdllHookStruct}
    {key : GrabbedKey} (sent : (claim e2e slot event).1.2 = some key) :
    key.modifiers = (Held.ofPositions (heldIn (claim e2e slot event).2)).bits := by
  cases slot with
  | none =>
      rcases looked : keyOf e2e event with _ | ⟨_, _⟩ <;> simp [claim, looked] at sent
  | some grabbing =>
      rcases claim_cases e2e grabbing event with left | ⟨_, scancode, after, -, -, -, claims⟩
      · rw [left] at sent
        cases sent
      · rw [claims] at sent ⊢
        cases sent
        rfl

/-- What holds of a grab after `events`, and once it is released. -/
structure LeavesNothingDown (e2e : Bool) (events : List KbdllHookStruct) : Prop where
  /-- After `release_slot`, the last event of every position is a release. -/
  up : ∀ key ∈ stream (grabRun e2e events) ++ (releaseSlot (grabAfter e2e events)).1,
    lastSent (stream (grabRun e2e events) ++ (releaseSlot (grabAfter e2e events)).1) key.scancode =
      some false
  held : ∀ scancode, scancode ∈ heldIn (grabAfter e2e events) ↔
    lastSent (stream (grabRun e2e events)) scancode = some true
  disjoint : ∃ grabbing, grabAfter e2e events = some grabbing ∧
    Disjoint grabbing.held grabbing.released
  modifiers : ∀ e ∈ grabRun e2e events, ∀ key, e.out.2 = some key →
    key.modifiers = (Held.ofPositions (heldIn e.post)).bits
  /-- `release_slot` has emptied the slot before it sends. -/
  lettingGo : ∀ key ∈ (releaseSlot (grabAfter e2e events)).1,
    key.modifiers = (Held.ofPositions (heldIn (releaseSlot (grabAfter e2e events)).2)).bits
  sent : ∀ scancode pressed, sent (grabAfter e2e events) scancode pressed = true ↔
    lastSent (stream (grabRun e2e events)) scancode = some pressed

/-- Whatever keyboard events a grab is handed and whenever it is released, no key stays down on the
remote machine: the grab's sets are at every point what was sent, and so are the modifiers and the
answers of `sent`. -/
theorem no_key_stays_down (e2e : Bool) (events : List KbdllHookStruct) :
    LeavesNothingDown e2e events := by
  obtain ⟨grabbing, live, same⟩ := matches_run e2e events
  constructor
  · intro key member
    rw [live, releaseSlot] at member ⊢
    rw [lastSent_append_released]
    by_cases down : key.scancode ∈ grabbing.held
    · simp [down]
    · have before : key ∈ stream (grabRun e2e events) := by
        rcases List.mem_append.mp member with old | new
        · exact old
        · obtain ⟨scancode, isHeld, rfl⟩ := List.mem_map.mp new
          exact absurd ((Finset.mem_sort _).mp isHeld) down
      simp only [Finset.mem_sort, down, if_false]
      cases last : lastSent (stream (grabRun e2e events)) key.scancode with
      | none => exact absurd last (lastSent_ne_none before)
      | some pressed =>
          cases pressed with
          | false => rfl
          | true => exact absurd ((same.held _).mpr last) down
  · intro scancode
    rw [live]
    exact same.held scancode
  · refine ⟨grabbing, live, ?_⟩
    rw [Finset.disjoint_left]
    intro scancode down up
    rw [same.held] at down
    rw [same.released, down] at up
    cases up
  · intro e member key sent
    obtain ⟨early, late, -, isEvent⟩ := exists_prefix_of_mem_history member
    rw [isEvent] at sent ⊢
    exact modifiers_of_claim sent
  · intro key member
    rw [live, releaseSlot] at member ⊢
    obtain ⟨scancode, -, rfl⟩ := List.mem_map.mp member
    rfl
  · intro scancode pressed
    rw [live, sent]
    cases pressed
    · simp [same.released]
    · simp [same.held]

end Lumepeer.Guestkeys
