import Lumepeer.Guestkeys.Hook.Proofs.StuckKeys

/-!
# Which way a key travels

A key that the grab holds is the remote machine's until it comes up, and a key
that it does not hold stays here unless a press of it makes a chord with the
held modifiers. An auto-repeat is such a press: a key that went down here goes
over to the remote machine with its first repeat under a modifier, and its
release with it. `travels_one_way_iff` says that nothing else splits a key.
-/

namespace Lumepeer.Guestkeys
open Lumepeer.Lib

/-- The positions of the modifiers. -/
def modifierPositions : List UInt32 :=
  [evdevLeftShift, evdevRightShift, evdevLeftCtrl, evdevRightCtrl, evdevLeftAlt, evdevRightAlt,
    evdevLeftMeta, evdevRightMeta]

/-- An event of the key at `key`. -/
def ofKey (e2e : Bool) (key : UInt32) (event : KbdllHookStruct) : Bool :=
  (keyOf e2e event).any fun looked => looked.2 = key

/-- The key is down: its last event was a press. -/
def down (e2e : Bool) (key : UInt32) (events : List KbdllHookStruct) : Bool :=
  (events.reverse.find? (ofKey e2e key)).any fun event => !event.up

/-- Every release follows a press of its key, with nothing but repeats of it between. -/
def wellFormedFrom (e2e : Bool) (before : List KbdllHookStruct) : List KbdllHookStruct → Bool
  | [] => true
  | event :: events =>
      (!event.up || (keyOf e2e event).all fun looked => down e2e looked.2 before) &&
        wellFormedFrom e2e (before ++ [event]) events

def wellFormed (e2e : Bool) (events : List KbdllHookStruct) : Bool := wellFormedFrom e2e [] events

/-- What becomes of an event of a grab that was handed `before`. -/
def outcome (e2e : Bool) (before : List KbdllHookStruct) (event : KbdllHookStruct) :
    Bool × Option GrabbedKey :=
  (claim e2e (grabAfter e2e before) event).1

/-- The event is left to this machine. -/
def LeftHere (e2e : Bool) (before : List KbdllHookStruct) (event : KbdllHookStruct) : Prop :=
  outcome e2e before event = (false, none)

/-- The event is hidden from this machine and sent to the remote one. -/
def SentThere (e2e : Bool) (key : UInt32) (before : List KbdllHookStruct)
    (event : KbdllHookStruct) : Prop :=
  ∃ modifiers,
    outcome e2e before event = (true, some { scancode := key, modifiers, pressed := !event.up })

/-- All events of a key in `segment`, each with what was handed to the grab before it. -/
def AllOf (e2e : Bool) (key : UInt32) (before segment : List KbdllHookStruct)
    (p : List KbdllHookStruct → KbdllHookStruct → Prop) : Prop :=
  ∀ front event back, segment = front ++ event :: back → ofKey e2e key event = true →
    p (before ++ front) event

/-- From a first press of the key to its release at the latest. -/
structure Stroke (e2e : Bool) (key : UInt32) (before segment : List KbdllHookStruct) : Prop where
  up : down e2e key before = false
  pressed : ∀ event ∈ segment.dropLast, ofKey e2e key event = true → event.up = false

/-- Every stroke of the key is left here as a whole or sent there as a whole. -/
def OneWay (e2e : Bool) (key : UInt32) (events : List KbdllHookStruct) : Prop :=
  ∀ before segment after, events = before ++ segment ++ after → Stroke e2e key before segment →
    AllOf e2e key before segment (LeftHere e2e) ∨ AllOf e2e key before segment (SentThere e2e key)

/-- The key makes a chord with the held modifiers that belongs to the remote machine: any key under
`Ctrl`, `Alt` or `Win`, a key that types nothing under `Shift`, and `PrintScreen`; but no key under
exactly `Ctrl+Alt+Shift`, not `Ctrl+Alt+Del` and not `Win+L`. -/
def chord (held : Held) (virtualKey : UInt16) : Bool :=
  !(held.ctrl && held.alt && held.shift && !held.meta) &&
    !(held.ctrl && held.alt && (virtualKey = Vk.delete || virtualKey = Vk.decimal)) &&
    !(held.meta && virtualKey = Vk.letterL) &&
    (held.ctrl || held.alt || held.meta || (held.shift && !typesACharacter virtualKey) ||
      virtualKey = Vk.snapshot)

/-- No auto-repeat of a key that the grab does not hold and that is no modifier makes a chord with
the modifiers the grab holds. -/
def NoChordRepeats (e2e : Bool) (events : List KbdllHookStruct) : Prop :=
  ∀ before event after virtualKey key, events = before ++ event :: after →
    keyOf e2e event = some (virtualKey, key) → key ∉ modifierPositions → event.up = false →
    down e2e key before = true → key ∉ heldIn (grabAfter e2e before) →
    chord (Held.ofPositions (heldIn (grabAfter e2e before))) virtualKey = false

/-! ## One event -/

/-- The virtual keys of the modifiers sit at the positions of the modifiers. -/
theorem modifier_position {virtualKey : UInt16} {extended : Bool} {key : UInt32}
    (isModifier : virtualKey ∈ sharedKeys ∨ virtualKey = Vk.lwin ∨ virtualKey = Vk.rwin)
    (sits : evdevOfVirtualKey virtualKey extended = some key) : key ∈ modifierPositions := by
  have all : (sharedKeys ++ [Vk.lwin, Vk.rwin]).all fun vk => [true, false].all fun extended =>
      (evdevOfVirtualKey vk extended).all fun key => modifierPositions.contains key := by
    rfl
  rw [List.all_eq_true] at all
  have here := List.all_eq_true.mp (all virtualKey (by simpa using isModifier)) extended (by simp)
  rw [sits] at here
  simpa using here

theorem keyOf_position {e2e : Bool} {event : KbdllHookStruct} {virtualKey : UInt16} {key : UInt32}
    (looked : keyOf e2e event = some (virtualKey, key)) :
    evdevOfVirtualKey virtualKey event.extended = some key := by
  unfold keyOf at looked
  split at looked
  · cases looked
  · split at looked
    · obtain ⟨scancode, sits, same⟩ := Option.map_eq_some_iff.mp looked
      cases same
      exact sits
    · cases looked

/-- Where an event of a key that is no modifier goes. -/
theorem route_plain {virtualKey : UInt16} (plain : virtualKey ∉ sharedKeys)
    (notLeft : virtualKey ≠ Vk.lwin) (notRight : virtualKey ≠ Vk.rwin) (pressed isSent : Bool)
    (held : Held) :
    route virtualKey pressed isSent held =
      if isSent || (pressed && chord held virtualKey) then .there else .here := by
  obtain ⟨shift, ctrl, alt, isMeta⟩ := held
  unfold route chord
  rw [if_neg plain]
  cases isSent with
  | true => rfl
  | false =>
      cases pressed with
      | false => rfl
      | true =>
          cases shift <;> cases ctrl <;> cases alt <;> cases isMeta <;>
            simp [notLeft, notRight] <;> grind

/-- An event of another key moves nothing at this one. -/
theorem mem_heldIn_other {e2e : Bool} {key : UInt32} {slot : Option Grabbing}
    {event : KbdllHookStruct} (other : ofKey e2e key event = false) :
    key ∈ heldIn (claim e2e slot event).2 ↔ key ∈ heldIn slot := by
  cases slot with
  | none => rcases looked : keyOf e2e event with _ | ⟨_, _⟩ <;> simp [claim, looked]
  | some grabbing =>
      rcases claim_cases e2e grabbing event with left | ⟨_, scancode, after, looked, -, rfl, claims⟩
      · rw [left]
      · have different : key ≠ scancode := by
          rintro rfl
          simp [ofKey, looked] at other
        rw [claims]
        cases event.up <;> simp [heldIn, different]

/-- What becomes of an event of a key that is no modifier: it is sent if the grab holds the key or
the press makes a chord, and left here otherwise. -/
theorem claim_plain {e2e : Bool} {key : UInt32} {virtualKey : UInt16} {grabbing : Grabbing}
    {event : KbdllHookStruct} (plain : key ∉ modifierPositions)
    (looked : keyOf e2e event = some (virtualKey, key)) :
    ((key ∈ grabbing.held ∨
        event.up = false ∧ chord (Held.ofPositions grabbing.held) virtualKey = true) ∧
      (∃ modifiers, (claim e2e (some grabbing) event).1 =
        (true, some { scancode := key, modifiers, pressed := !event.up })) ∧
      (key ∈ heldIn (claim e2e (some grabbing) event).2 ↔ event.up = false)) ∨
    (key ∉ grabbing.held ∧
      (event.up = false → chord (Held.ofPositions grabbing.held) virtualKey = false) ∧
      claim e2e (some grabbing) event = ((false, none), some grabbing)) := by
  have sits := keyOf_position looked
  have goes := route_plain (fun shared => plain (modifier_position (.inl shared) sits))
    (fun isLeft => plain (modifier_position (.inr (.inl isLeft)) sits))
    (fun isRight => plain (modifier_position (.inr (.inr isRight)) sits)) (!event.up)
    (decide (key ∈ grabbing.held)) (Held.ofPositions grabbing.held)
  by_cases taken : key ∈ grabbing.held ∨
      event.up = false ∧ chord (Held.ofPositions grabbing.held) virtualKey = true
  · have there : route virtualKey (!event.up) (decide (key ∈ grabbing.held))
        (Held.ofPositions grabbing.held) = .there := by
      rw [goes, if_pos (by simpa using taken)]
    refine .inl ⟨taken, ?_, ?_⟩
    · simp [claim, looked, there]
    · cases up : event.up <;> simp [claim, looked, up, heldIn] at there ⊢
      · simp [there]
      · simp [there]
  · have here : route virtualKey (!event.up) (decide (key ∈ grabbing.held))
        (Held.ofPositions grabbing.held) = .here := by
      rw [goes, if_neg (by simpa using taken)]
    rw [not_or] at taken
    refine .inr ⟨taken.1, ?_, ?_⟩
    · intro pressed
      simpa [pressed] using taken.2
    · simp [claim, looked, here]

/-! ## Strokes -/

theorem down_concat (e2e : Bool) (key : UInt32) (events : List KbdllHookStruct)
    (event : KbdllHookStruct) :
    down e2e key (events ++ [event]) =
      if ofKey e2e key event then !event.up else down e2e key events := by
  unfold down
  rw [List.reverse_append, List.reverse_singleton, List.singleton_append, List.find?_cons]
  cases ofKey e2e key event <;> rfl

theorem exists_keyOf {e2e : Bool} {key : UInt32} {event : KbdllHookStruct}
    (isKey : ofKey e2e key event = true) :
    ∃ virtualKey, keyOf e2e event = some (virtualKey, key) := by
  unfold ofKey at isKey
  rcases looked : keyOf e2e event with _ | ⟨virtualKey, scancode⟩
  · simp [looked] at isKey
  · have same : scancode = key := by simpa [looked] using isKey
    exact ⟨virtualKey, by rw [same]⟩

section
variable {e2e : Bool} {key : UInt32}

/-- A key the grab holds is down. -/
theorem down_of_mem_heldIn (plain : key ∉ modifierPositions) (events : List KbdllHookStruct)
    (held : key ∈ heldIn (grabAfter e2e events)) : down e2e key events = true := by
  induction events using List.reverseRecOn with
  | nil => simp [grabAfter, installed, heldIn] at held
  | append_singleton events event ih =>
      rw [grabAfter_concat] at held
      rw [down_concat]
      cases isKey : ofKey e2e key event with
      | false => exact ih ((mem_heldIn_other isKey).mp held)
      | true =>
          obtain ⟨virtualKey, looked⟩ := exists_keyOf isKey
          obtain ⟨grabbing, live, -⟩ := matches_run e2e events
          rw [live] at held
          rcases claim_plain plain looked with ⟨-, -, stays⟩ | ⟨notHeld, -, claims⟩
          · simpa using stays.mp held
          · rw [claims] at held
            exact absurd held notHeld

/-- The first press of the stroke a key that is down is in. -/
theorem exists_first_press {events : List KbdllHookStruct} (isDown : down e2e key events = true) :
    ∃ before press middle, events = before ++ press :: middle ∧ ofKey e2e key press = true ∧
      press.up = false ∧ down e2e key before = false ∧
      ∀ event ∈ middle, ofKey e2e key event = true → event.up = false := by
  induction events using List.reverseRecOn with
  | nil => simp [down] at isDown
  | append_singleton events event ih =>
      rw [down_concat] at isDown
      have grow (inside : down e2e key events = true)
          (pressed : ofKey e2e key event = true → event.up = false) :
          ∃ before press middle, events ++ [event] = before ++ press :: middle ∧
            ofKey e2e key press = true ∧ press.up = false ∧ down e2e key before = false ∧
            ∀ event ∈ middle, ofKey e2e key event = true → event.up = false := by
        obtain ⟨before, press, middle, rfl, isKey, isPress, first, repeats⟩ := ih inside
        refine ⟨before, press, middle ++ [event], by simp, isKey, isPress, first, ?_⟩
        intro later member
        rcases List.mem_append.mp member with old | new
        · exact repeats later old
        · rw [List.mem_singleton.mp new]
          exact pressed
      cases isKey : ofKey e2e key event with
      | false =>
          rw [isKey] at isDown
          exact grow isDown (by simp [isKey])
      | true =>
          have isPress : event.up = false := by simpa [isKey] using isDown
          cases inside : down e2e key events with
          | true => exact grow inside fun _ => isPress
          | false => exact ⟨events, event, [], rfl, isKey, isPress, inside, by simp⟩

/-- While a key is only pressed the grab does not let go of it. -/
theorem heldIn_kept (plain : key ∉ modifierPositions) {before middle : List KbdllHookStruct}
    (held : key ∈ heldIn (grabAfter e2e before))
    (pressed : ∀ event ∈ middle, ofKey e2e key event = true → event.up = false) :
    key ∈ heldIn (grabAfter e2e (before ++ middle)) := by
  induction middle using List.reverseRecOn with
  | nil => simpa using held
  | append_singleton middle event ih =>
      have kept := ih fun other member => pressed other (by simp [member])
      rw [← List.append_assoc, grabAfter_concat]
      cases isKey : ofKey e2e key event with
      | false => exact (mem_heldIn_other isKey).mpr kept
      | true =>
          obtain ⟨virtualKey, looked⟩ := exists_keyOf isKey
          obtain ⟨grabbing, live, -⟩ := matches_run e2e (before ++ middle)
          rw [live] at kept ⊢
          rcases claim_plain plain looked with ⟨-, -, stays⟩ | ⟨notHeld, -, -⟩
          · exact stays.mpr (pressed event (by simp) isKey)
          · exact absurd kept notHeld

/-- Events of a key that are all presses leave it down. -/
theorem not_ofKey_of_not_down {before middle : List KbdllHookStruct}
    (pressed : ∀ event ∈ middle, ofKey e2e key event = true → event.up = false)
    (notDown : down e2e key (before ++ middle) = false) :
    ∀ event ∈ middle, ofKey e2e key event = false := by
  induction middle using List.reverseRecOn with
  | nil => simp
  | append_singleton middle event ih =>
      rw [← List.append_assoc, down_concat] at notDown
      cases isKey : ofKey e2e key event with
      | true => simp [isKey, pressed event (by simp) isKey] at notDown
      | false =>
          rw [isKey] at notDown
          intro other member
          rcases List.mem_append.mp member with old | new
          · exact ih (fun other member => pressed other (by simp [member])) notDown other old
          · rw [List.mem_singleton.mp new]
            exact isKey

theorem allOf_concat {before segment : List KbdllHookStruct} {event : KbdllHookStruct}
    {p : List KbdllHookStruct → KbdllHookStruct → Prop} :
    AllOf e2e key before (segment ++ [event]) p ↔
      AllOf e2e key before segment p ∧ (ofKey e2e key event = true → p (before ++ segment) event) := by
  constructor
  · intro all
    refine ⟨?_, all segment event [] rfl⟩
    intro front other back split
    exact all front other (back ++ [event]) (by simp [split])
  · rintro ⟨all, last⟩ front other back split isKey
    rcases List.eq_nil_or_concat back with rfl | ⟨rest, final, rfl⟩
    · obtain ⟨rfl, same⟩ := List.append_inj' split rfl
      cases same
      exact last isKey
    · have regroup : segment ++ [event] = (front ++ other :: rest) ++ [final] := by simpa using split
      obtain ⟨isFront, -⟩ := List.append_inj' regroup rfl
      exact all front other rest isFront isKey

theorem allOf_of_none {before segment : List KbdllHookStruct}
    {p : List KbdllHookStruct → KbdllHookStruct → Prop}
    (none : ∀ event ∈ segment, ofKey e2e key event = false) : AllOf e2e key before segment p := by
  intro front event back split isKey
  rw [none event (by simp [split])] at isKey
  cases isKey

/-- One more event of a stroke goes the way of those before it. -/
theorem next_goes_along (plain : key ∉ modifierPositions) {before middle : List KbdllHookStruct}
    {event : KbdllHookStruct}
    (pressed : ∀ event ∈ middle, ofKey e2e key event = true → event.up = false)
    (quiet : ∀ virtualKey, keyOf e2e event = some (virtualKey, key) → event.up = false →
      down e2e key (before ++ middle) = true → key ∉ heldIn (grabAfter e2e (before ++ middle)) →
      chord (Held.ofPositions (heldIn (grabAfter e2e (before ++ middle)))) virtualKey = false)
    (soFar : key ∉ heldIn (grabAfter e2e (before ++ middle)) ∧
        AllOf e2e key before middle (LeftHere e2e) ∨
      key ∈ heldIn (grabAfter e2e (before ++ middle)) ∧
        AllOf e2e key before middle (SentThere e2e key)) :
    key ∉ heldIn (grabAfter e2e (before ++ (middle ++ [event]))) ∧
        AllOf e2e key before (middle ++ [event]) (LeftHere e2e) ∨
      ((ofKey e2e key event = true → event.up = false) →
          key ∈ heldIn (grabAfter e2e (before ++ (middle ++ [event])))) ∧
        AllOf e2e key before (middle ++ [event]) (SentThere e2e key) := by
  obtain ⟨grabbing, live, -⟩ := matches_run e2e (before ++ middle)
  rw [← List.append_assoc, grabAfter_concat, allOf_concat, allOf_concat]
  cases isKey : ofKey e2e key event with
  | false =>
      rw [mem_heldIn_other isKey]
      rcases soFar with ⟨notHeld, left⟩ | ⟨held, sent⟩
      · exact .inl ⟨notHeld, left, by simp⟩
      · exact .inr ⟨fun _ => held, sent, by simp⟩
  | true =>
      obtain ⟨virtualKey, looked⟩ := exists_keyOf isKey
      rw [live] at soFar quiet ⊢
      rcases claim_plain plain looked with ⟨taken, sent, stays⟩ | ⟨notHeld, -, claims⟩
      · have goes : SentThere e2e key (before ++ middle) event := by
          obtain ⟨modifiers, sent⟩ := sent
          exact ⟨modifiers, by rw [outcome, live]; exact sent⟩
        have others : AllOf e2e key before middle (SentThere e2e key) := by
          rcases soFar with ⟨notHeld, -⟩ | ⟨-, sent⟩
          · rcases taken with held | ⟨isPress, isChord⟩
            · exact absurd held notHeld
            · -- a chord is no repeat, so this is the first event of the stroke
              apply allOf_of_none
              apply not_ofKey_of_not_down pressed
              rw [Bool.eq_false_iff]
              intro isDown
              have noChord := quiet virtualKey looked isPress isDown notHeld
              rw [heldIn, Option.elim_some, isChord] at noChord
              cases noChord
          · exact sent
        exact .inr ⟨fun isPress => stays.mpr (isPress rfl), others, fun _ => goes⟩
      · rcases soFar with ⟨-, left⟩ | ⟨held, -⟩
        · refine .inl ⟨by rw [claims]; exact notHeld, left, fun _ => ?_⟩
          rw [LeftHere, outcome, live, claims]
        · exact absurd held notHeld

/-- Without chords among the repeats a key goes one way. -/
theorem oneWay_of_noChordRepeats (plain : key ∉ modifierPositions) {events : List KbdllHookStruct}
    (quiet : NoChordRepeats e2e events) : OneWay e2e key events := by
  rintro before segment after rfl ⟨first, pressed⟩
  have soFar (middle back : List KbdllHookStruct) (split : segment = middle ++ back)
      (presses : ∀ event ∈ middle, ofKey e2e key event = true → event.up = false) :
      key ∉ heldIn (grabAfter e2e (before ++ middle)) ∧
          AllOf e2e key before middle (LeftHere e2e) ∨
        key ∈ heldIn (grabAfter e2e (before ++ middle)) ∧
          AllOf e2e key before middle (SentThere e2e key) := by
    induction middle using List.reverseRecOn generalizing back with
    | nil =>
        refine .inl ⟨?_, allOf_of_none (by simp)⟩
        rw [List.append_nil]
        intro held
        rw [down_of_mem_heldIn plain before held] at first
        cases first
    | append_singleton middle event ih =>
        have earlier : ∀ event ∈ middle, ofKey e2e key event = true → event.up = false :=
          fun other member => presses other (by simp [member])
        have along := next_goes_along plain earlier
          (fun virtualKey looked isPress isDown notHeld =>
            quiet (before ++ middle) event (back ++ after) virtualKey key (by simp [split]) looked
              plain isPress isDown notHeld)
          (ih (event :: back) (by simp [split]) earlier)
        rcases along with left | ⟨held, sent⟩
        · exact .inl left
        · exact .inr ⟨held (presses event (by simp)), sent⟩
  rcases List.eq_nil_or_concat segment with rfl | ⟨middle, last, isSegment⟩
  · exact .inl (allOf_of_none (by simp))
  · rw [List.concat_eq_append] at isSegment
    rw [isSegment, List.dropLast_concat] at pressed
    have along := next_goes_along plain pressed
      (fun virtualKey looked isPress isDown notHeld =>
        quiet (before ++ middle) last after virtualKey key (by simp [isSegment]) looked
          plain isPress isDown notHeld)
      (soFar middle [last] isSegment pressed)
    rw [isSegment]
    rcases along with ⟨-, left⟩ | ⟨-, sent⟩
    · exact .inl left
    · exact .inr sent

end

/-- A key that is no modifier goes one way, from its first press to its release, if and only if none
of its repeats that the grab does not already send makes a chord. -/
theorem travels_one_way_iff (e2e : Bool) (events : List KbdllHookStruct) :
    (∀ key ∉ modifierPositions, OneWay e2e key events) ↔ NoChordRepeats e2e events := by
  constructor
  · intro oneWay before event after virtualKey key split looked plain isPress isDown notHeld
    rw [Bool.eq_false_iff]
    intro isChord
    obtain ⟨grabbing, live, -⟩ := matches_run e2e before
    have sent : SentThere e2e key before event := by
      rw [live] at notHeld isChord
      rcases claim_plain plain looked with ⟨-, ⟨modifiers, sent⟩, -⟩ | ⟨-, noChord, -⟩
      · exact ⟨modifiers, by rw [outcome, live]; exact sent⟩
      · exact absurd (noChord isPress) (by rw [Bool.not_eq_false]; exact isChord)
    obtain ⟨start, press, middle, rfl, isKey, pressed, first, repeats⟩ := exists_first_press isDown
    have isEvent : ofKey e2e key event = true := by simp [ofKey, looked]
    have stroke : Stroke e2e key start ((press :: middle) ++ [event]) := by
      refine ⟨first, ?_⟩
      rw [List.dropLast_concat]
      intro other member
      rcases List.mem_cons.mp member with rfl | behind
      · exact fun _ => pressed
      · exact repeats other behind
    rcases oneWay key plain start _ after (by simp [split]) stroke with left | there
    · obtain ⟨modifiers, sent⟩ := sent
      have here := left (press :: middle) event [] rfl isEvent
      rw [LeftHere, sent] at here
      cases here
    · -- the first press was sent, so the grab still holds the key
      obtain ⟨modifiers, pressSent⟩ := there [] press (middle ++ [event]) rfl isKey
      rw [List.append_nil, outcome] at pressSent
      obtain ⟨pressKey, pressLooked⟩ := exists_keyOf isKey
      obtain ⟨begun, begunLive, -⟩ := matches_run e2e start
      rw [begunLive] at pressSent
      rcases claim_plain plain pressLooked with ⟨-, -, stays⟩ | ⟨-, -, claims⟩
      · apply notHeld
        have kept := @heldIn_kept e2e key plain (start ++ [press]) middle
          (by rw [grabAfter_concat, begunLive]; exact stays.mpr pressed) repeats
        simpa using kept
      · rw [claims] at pressSent
        cases pressSent
  · intro quiet key plain
    exact oneWay_of_noChordRepeats plain quiet

/-- A stroke of a keyboard, not synthesized. -/
def keystroke (virtualKey : UInt16) (up : Bool) : KbdllHookStruct :=
  { vkCode := virtualKey.toUInt32, extended := false, injected := false, up, dwExtraInfo := 0 }

/-- `A` is held down, and `Ctrl` with it while it repeats. -/
def letterUnderCtrl : List KbdllHookStruct :=
  [keystroke Vk.letterA false, keystroke Vk.lcontrol false, keystroke Vk.letterA false,
    keystroke Vk.letterA true]

theorem held_letter_changes_sides :
    wellFormed false letterUnderCtrl = true ∧ 30 ∉ modifierPositions ∧
      ¬ OneWay false 30 letterUnderCtrl := by
  refine ⟨by decide, by decide, ?_⟩
  intro oneWay
  have stroke : Stroke false 30 [] letterUnderCtrl := ⟨by decide, by decide⟩
  rcases oneWay [] letterUnderCtrl [] rfl stroke with left | there
  · have here := left (letterUnderCtrl.take 3) (keystroke Vk.letterA true) [] rfl (by decide)
    exact absurd here (by unfold LeftHere; decide)
  · obtain ⟨modifiers, sent⟩ := there [] (keystroke Vk.letterA false) (letterUnderCtrl.drop 1) rfl
      (by decide)
    have here : outcome false [] (keystroke Vk.letterA false) = (false, none) := by decide
    rw [List.append_nil, here] at sent
    cases sent

end Lumepeer.Guestkeys
