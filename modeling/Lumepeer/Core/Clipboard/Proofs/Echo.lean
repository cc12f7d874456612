import Lumepeer.Core.Clipboard
import Lumepeer.Lib.Lease
import Lumepeer.Lib.Run
import Mathlib.Logic.Function.Basic

/-!
# Two synced clipboards

Two peers, each with a `ClipboardSync` and a watcher that reports every write to
the clipboard once and in order, joined by two channels that keep the order. A
peer remembers one text only, the last it received, and forgets it at the first
report of that text: to the peer the memory is a lease, and `lastApplied_iff`
reads it off the run. A write that applies a remote text is sent back exactly
when the watcher reports it outside that lease.
-/

namespace Lumepeer.Core
open Lumepeer.Lib

/-- The two ends of a session. -/
inductive Side where
  | host
  | guest
  deriving DecidableEq, Repr

def Side.other : Side → Side
  | .host => .guest
  | .guest => .host

/-- Who wrote to a clipboard: its user, or the peer on behalf of the other one. -/
inductive Origin where
  | copied
  | applied
  deriving DecidableEq, Repr

/-- A write to a clipboard. -/
structure Change where
  text : List UInt8
  origin : Origin
  deriving DecidableEq

/-- A peer: its sync state, the texts it received and has still to put on its clipboard, and the
writes its watcher has still to report, oldest first. -/
structure Peer where
  sync : ClipboardSync
  toApply : List (List UInt8)
  changes : List Change
  deriving DecidableEq

namespace Peer

def new : Peer := { sync := .new, toApply := [], changes := [] }

/-- The user copies a text. -/
def copy (peer : Peer) (text : List UInt8) : Peer :=
  { peer with changes := peer.changes ++ [{ text, origin := .copied }] }

/-- The watcher reports the oldest write; beside it what is sent. -/
def report (peer : Peer) : Option (Change × Option (List UInt8)) × Peer :=
  match peer.changes with
  | [] => (none, peer)
  | change :: changes =>
      let (answer, sync) := peer.sync.localChanged change.text
      let message := match answer with
        | .ok message => message
        | .error _ => none
      (some (change, message), { peer with sync, changes })

/-- A message arrives; the text that is to be applied, if it is accepted. -/
def receive (peer : Peer) (data : List UInt8) : Option (List UInt8) × Peer :=
  match peer.sync.remoteReceived data with
  | (.error _, sync) => (none, { peer with sync })
  | (.ok text, sync) => (some text, { peer with sync, toApply := peer.toApply ++ [text] })

/-- The oldest text received is put on the clipboard. -/
def apply (peer : Peer) : Peer :=
  match peer.toApply with
  | [] => peer
  | text :: toApply =>
      { peer with toApply, changes := peer.changes ++ [{ text, origin := .applied }] }

end Peer

/-- Both peers and the messages on their way to each. -/
structure SyncPair where
  peer : Side → Peer
  inFlight : Side → List (List UInt8)

namespace SyncPair

def new : SyncPair := { peer := fun _ => .new, inFlight := fun _ => [] }

def setPeer (pair : SyncPair) (side : Side) (peer : Peer) : SyncPair :=
  { pair with peer := Function.update pair.peer side peer }

def setInFlight (pair : SyncPair) (side : Side) (messages : List (List UInt8)) : SyncPair :=
  { pair with inFlight := Function.update pair.inFlight side messages }

@[simp] theorem setPeer_peer (pair : SyncPair) (side : Side) (peer : Peer) :
    (pair.setPeer side peer).peer = Function.update pair.peer side peer := rfl

@[simp] theorem setInFlight_peer (pair : SyncPair) (side : Side) (messages : List (List UInt8)) :
    (pair.setInFlight side messages).peer = pair.peer := rfl

/-- What can happen next, in any order. -/
inductive SyncStep where
  | copy (side : Side) (text : List UInt8)
  | report (side : Side)
  | deliver (side : Side)
  | apply (side : Side)
  deriving DecidableEq

/-- What a step came to. -/
inductive Happening where
  | nothing
  | copied (side : Side) (text : List UInt8)
  | reported (side : Side) (change : Change) (message : Option (List UInt8))
  | received (side : Side) (text : List UInt8)
  deriving DecidableEq

def syncStep (pair : SyncPair) : SyncStep → Happening × SyncPair
  | .copy side text => (.copied side text, pair.setPeer side ((pair.peer side).copy text))
  | .report side =>
      match (pair.peer side).report with
      | (none, peer) => (.nothing, pair.setPeer side peer)
      | (some (change, none), peer) => (.reported side change none, pair.setPeer side peer)
      | (some (change, some data), peer) =>
          (.reported side change (some data),
            (pair.setPeer side peer).setInFlight side.other (pair.inFlight side.other ++ [data]))
  | .deliver side =>
      match pair.inFlight side with
      | [] => (.nothing, pair)
      | data :: messages =>
          match (pair.peer side).receive data with
          | (none, peer) => (.nothing, (pair.setPeer side peer).setInFlight side messages)
          | (some text, peer) =>
              (.received side text, (pair.setPeer side peer).setInFlight side messages)
  | .apply side => (.nothing, pair.setPeer side (pair.peer side).apply)

abbrev SyncEvent := Event SyncPair SyncStep Happening

/-- The events of a run from two fresh peers. -/
def syncRun (steps : List SyncStep) : List SyncEvent := history syncStep new steps

/-- The number of texts the users copied. -/
def copies (steps : List SyncStep) : Nat :=
  steps.countP fun | .copy _ _ => true | _ => false

/-- The number of messages sent. -/
def messages (run : List SyncEvent) : Nat :=
  run.countP fun e => match e.out with
    | .reported _ _ (some _) => true
    | _ => false

/-- No message is caused by a write that applies a remote text. -/
def NoEcho (run : List SyncEvent) : Prop :=
  ∀ e ∈ run, ∀ side text message,
    e.out = .reported side { text, origin := .applied } message → message = none

/-- `text` is the last one the peer received, and no write of it was reported since. -/
def JustReceived (side : Side) (text : List UInt8) (run : List SyncEvent) : Prop :=
  ∃ before e after, run = before ++ e :: after ∧ e.out = .received side text ∧
    ∀ later ∈ after, (∀ other, later.out ≠ .received side other) ∧
      ∀ origin message, later.out ≠ .reported side { text, origin } message

end SyncPair

/-! ## One peer -/

/-- A text that may travel. -/
def Valid (text : List UInt8) : Prop := validatePayload text = .ok ()

/-- What a peer remembers, has to apply and has applied is text that may travel. -/
structure Peer.Sound (peer : Peer) : Prop where
  marker : ∀ text, peer.sync.lastApplied = some text → Valid text
  toApply : ∀ text ∈ peer.toApply, Valid text
  changes : ∀ change ∈ peer.changes, change.origin = .applied → Valid change.text

namespace Peer

theorem sound_new : new.Sound where
  marker := by simp [new, ClipboardSync.new]
  toApply := by simp [new]
  changes := by simp [new]

theorem Sound.copy {peer : Peer} (sound : peer.Sound) (text : List UInt8) :
    (peer.copy text).Sound where
  marker := sound.marker
  toApply := sound.toApply
  changes := by
    intro change member applied
    rcases List.mem_append.mp member with old | new
    · exact sound.changes change old applied
    · rw [List.mem_singleton.mp new] at applied
      cases applied

theorem Sound.apply {peer : Peer} (sound : peer.Sound) : peer.apply.Sound := by
  unfold Peer.apply
  cases queued : peer.toApply with
  | nil => exact sound
  | cons text toApply =>
      have valid : ∀ other ∈ text :: toApply, Valid other := queued ▸ sound.toApply
      refine ⟨sound.marker, fun other member => valid other (by simp [member]), ?_⟩
      intro change member applied
      rcases List.mem_append.mp member with old | new
      · exact sound.changes change old applied
      · rw [List.mem_singleton.mp new]
        exact valid text (by simp)

theorem sync_apply (peer : Peer) : peer.apply.sync = peer.sync := by
  unfold apply
  cases peer.toApply <;> rfl

/-- A message is accepted exactly when it is valid, and then remembered. -/
theorem receive_cases (peer : Peer) (data : List UInt8) :
    (Valid data ∧ peer.receive data = (some data,
      { peer with sync := { lastApplied := some data }, toApply := peer.toApply ++ [data] })) ∨
    (¬ Valid data ∧ peer.receive data = (none, peer)) := by
  unfold receive ClipboardSync.remoteReceived Valid
  rcases checked : validatePayload data with refusal | ⟨⟩
  · exact .inr ⟨by simp, rfl⟩
  · exact .inl ⟨rfl, rfl⟩

/-- A report takes the oldest write. It sends the text unless that is the one remembered, which is
forgotten then, or one that may not travel. -/
theorem report_cases {peer : Peer} (sound : peer.Sound) :
    (peer.changes = [] ∧ peer.report = (none, peer)) ∨
    ∃ change changes, peer.changes = change :: changes ∧
      ((peer.sync.lastApplied = some change.text ∧
          peer.report = (some (change, none), { peer with sync := { lastApplied := none }, changes })) ∨
        (peer.sync.lastApplied ≠ some change.text ∧ ¬ Valid change.text ∧
          peer.report = (some (change, none), { peer with changes })) ∨
        (peer.sync.lastApplied ≠ some change.text ∧ Valid change.text ∧
          peer.report = (some (change, some change.text), { peer with changes }))) := by
  unfold report
  cases queued : peer.changes with
  | nil => exact .inl ⟨rfl, rfl⟩
  | cons change changes =>
      refine .inr ⟨change, changes, rfl, ?_⟩
      unfold ClipboardSync.localChanged Valid
      by_cases remembered : peer.sync.lastApplied = some change.text
      · have valid : validatePayload change.text = .ok () := sound.marker _ remembered
        exact .inl ⟨remembered, by simp [valid, remembered]⟩
      · rcases checked : validatePayload change.text with refusal | ⟨⟩
        · exact .inr (.inl ⟨remembered, by simp, by simp [checked]⟩)
        · exact .inr (.inr ⟨remembered, rfl, by simp [checked, remembered]⟩)

theorem Sound.receive {peer : Peer} (sound : peer.Sound) (data : List UInt8) :
    (peer.receive data).2.Sound := by
  rcases peer.receive_cases data with ⟨valid, receives⟩ | ⟨-, receives⟩
  · rw [receives]
    refine ⟨?_, ?_, sound.changes⟩
    · rintro text ⟨⟩
      exact valid
    · intro text member
      rcases List.mem_append.mp member with old | new
      · exact sound.toApply text old
      · rw [List.mem_singleton.mp new]
        exact valid
  · rw [receives]
    exact sound

theorem Sound.report {peer : Peer} (sound : peer.Sound) : peer.report.2.Sound := by
  rcases report_cases sound with ⟨-, reports⟩ | ⟨change, changes, queued, outcome⟩
  · rw [reports]
    exact sound
  · have kept : ∀ other ∈ changes, other.origin = .applied → Valid other.text := by
      intro other member
      exact sound.changes other (by simp [queued, member])
    rcases outcome with ⟨-, reports⟩ | ⟨-, -, reports⟩ | ⟨-, -, reports⟩
    · rw [reports]
      exact ⟨by simp, sound.toApply, kept⟩
    · rw [reports]
      exact ⟨sound.marker, sound.toApply, kept⟩
    · rw [reports]
      exact ⟨sound.marker, sound.toApply, kept⟩

end Peer

/-! ## Both peers -/

namespace SyncPair

theorem peer_report (pair : SyncPair) (side : Side) :
    (syncStep pair (.report side)).2.peer =
      Function.update pair.peer side (pair.peer side).report.2 := by
  rcases reports : (pair.peer side).report with ⟨_ | ⟨change, _ | data⟩, peer⟩ <;>
    simp [syncStep, reports]

theorem peer_deliver {pair : SyncPair} {side : Side} {data : List UInt8}
    {messages : List (List UInt8)} (arriving : pair.inFlight side = data :: messages) :
    (syncStep pair (.deliver side)).2.peer =
      Function.update pair.peer side ((pair.peer side).receive data).2 := by
  rcases receives : (pair.peer side).receive data with ⟨_ | text, peer⟩ <;>
    simp [syncStep, arriving, receives]

theorem peer_deliver_nil {pair : SyncPair} {side : Side} (arriving : pair.inFlight side = []) :
    (syncStep pair (.deliver side)).2.peer = pair.peer := by
  simp [syncStep, arriving]

/-- What a step does to what one peer remembers. -/
theorem syncStep_at {pair : SyncPair} {side : Side} (sound : (pair.peer side).Sound)
    (op : SyncStep) :
    (∃ text, (syncStep pair op).1 = .received side text ∧
      ((syncStep pair op).2.peer side).sync.lastApplied = some text) ∨
    (∃ change message, (syncStep pair op).1 = .reported side change message ∧
      (change.origin = .applied → Valid change.text) ∧
      (Valid change.text →
        (message = none ↔ (pair.peer side).sync.lastApplied = some change.text)) ∧
      ((syncStep pair op).2.peer side).sync.lastApplied =
        if (pair.peer side).sync.lastApplied = some change.text then none
        else (pair.peer side).sync.lastApplied) ∨
    ((∀ text, (syncStep pair op).1 ≠ .received side text) ∧
      (∀ change message, (syncStep pair op).1 ≠ .reported side change message) ∧
      ((syncStep pair op).2.peer side).sync = (pair.peer side).sync) := by
  cases op with
  | copy other text =>
      refine .inr (.inr ⟨by simp [syncStep], by simp [syncStep], ?_⟩)
      by_cases same : side = other
      · subst same
        simp [syncStep, Peer.copy]
      · simp [syncStep, same]
  | apply other =>
      refine .inr (.inr ⟨by simp [syncStep], by simp [syncStep], ?_⟩)
      by_cases same : side = other
      · subst same
        simp [syncStep, Peer.sync_apply]
      · simp [syncStep, same]
  | deliver other =>
      unfold syncStep
      cases arriving : pair.inFlight other with
      | nil => exact .inr (.inr (by simp [arriving]))
      | cons data messages =>
          rcases (pair.peer other).receive_cases data with ⟨-, receives⟩ | ⟨-, receives⟩
          · by_cases same : side = other
            · subst same
              exact .inl ⟨data, by simp [arriving, receives]⟩
            · exact .inr (.inr (by simp [arriving, receives, same, Ne.symm same]))
          · by_cases same : side = other
            · subst same
              exact .inr (.inr (by simp [arriving, receives]))
            · exact .inr (.inr (by simp [arriving, receives, same]))
  | report other =>
      by_cases same : side = other
      · subst same
        unfold syncStep
        rcases Peer.report_cases sound with ⟨-, reports⟩ | ⟨change, changes, queued, outcome⟩
        · exact .inr (.inr (by simp [reports]))
        · have valid : change.origin = .applied → Valid change.text :=
            sound.changes change (by simp [queued])
          refine .inr (.inl ⟨change, ?_⟩)
          rcases outcome with ⟨remembered, reports⟩ | ⟨fresh, invalid, reports⟩ |
            ⟨fresh, -, reports⟩
          · exact ⟨none, by simpa [reports, remembered] using valid⟩
          · exact ⟨none, by simpa [reports, fresh, invalid] using valid⟩
          · exact ⟨some change.text, by simpa [reports, fresh] using valid⟩
      · refine .inr (.inr ?_)
        unfold syncStep
        rcases reports : (pair.peer other).report with ⟨_ | ⟨change, _ | data⟩, peer⟩
        · simp [reports, same]
        · simp [reports, same, Ne.symm same]
        · simp [reports, same, Ne.symm same]

theorem sound_syncStep {pair : SyncPair} (sound : ∀ side, (pair.peer side).Sound) (op : SyncStep)
    (side : Side) : ((syncStep pair op).2.peer side).Sound := by
  have updated {other : Side} {peer : Peer} (good : peer.Sound) :
      (Function.update pair.peer other peer side).Sound := by
    by_cases same : side = other
    · subst same
      simpa using good
    · simpa [same] using sound side
  cases op with
  | copy other text => exact updated ((sound other).copy text)
  | apply other => exact updated (sound other).apply
  | deliver other =>
      cases arriving : pair.inFlight other with
      | nil =>
          rw [peer_deliver_nil arriving]
          exact sound side
      | cons data messages =>
          rw [peer_deliver arriving]
          exact updated ((sound other).receive data)
  | report other =>
      rw [peer_report]
      exact updated (sound other).report

/-! ## Runs -/

/-- What an event does to the memory of `text`. -/
def markAct (side : Side) (text : List UInt8) (e : SyncEvent) : LeaseAct Unit :=
  match e.out with
  | .received other data =>
      if other ≠ side then .keep else if data = text then .start () else .stop
  | .reported other change _ => if other = side ∧ change.text = text then .stop else .keep
  | _ => .keep

theorem markAct_eq_start_iff {side : Side} {text : List UInt8} (e : SyncEvent) :
    markAct side text e = .start () ↔ e.out = .received side text := by
  unfold markAct
  rcases e.out with _ | _ | ⟨other, change, message⟩ | ⟨other, data⟩
  · simp
  · simp
  · by_cases marked : other = side ∧ change.text = text <;> simp [marked]
  · by_cases same : other = side
    · by_cases matching : data = text <;> simp [same, matching]
    · simp [same]

theorem markAct_ne_park {side : Side} {text : List UInt8} (e : SyncEvent) :
    markAct side text e ≠ .park := by
  unfold markAct
  rcases e.out with _ | _ | ⟨other, change, message⟩ | ⟨other, data⟩
  · simp
  · simp
  · by_cases marked : other = side ∧ change.text = text <;> simp [marked]
  · by_cases same : other = side
    · by_cases matching : data = text <;> simp [same, matching]
    · simp [same]

theorem markAct_eq_keep {side : Side} {text : List UInt8} {e : SyncEvent}
    (notReceived : ∀ other, e.out ≠ .received side other)
    (notReported : ∀ change message, e.out ≠ .reported side change message) :
    markAct side text e = .keep := by
  unfold markAct
  rcases out : e.out with _ | _ | ⟨other, change, message⟩ | ⟨other, data⟩
  · rfl
  · rfl
  · have elsewhere : other ≠ side := fun same => notReported change message (same ▸ out)
    simp [elsewhere]
  · have elsewhere : other ≠ side := fun same => notReceived data (same ▸ out)
    simp [elsewhere]

/-- A memory is neither renewed nor lost while the peer receives nothing and reports no write of
the text. -/
theorem markAct_untouched_iff {side : Side} {text : List UInt8} (e : SyncEvent) :
    (markAct side text e ≠ .stop ∧ ∀ terms, markAct side text e ≠ .start terms) ↔
      (∀ other, e.out ≠ .received side other) ∧
        ∀ origin message, e.out ≠ .reported side { text, origin } message := by
  unfold markAct
  rcases e.out with _ | _ | ⟨other, change, message⟩ | ⟨other, data⟩
  · simp
  · simp
  · obtain ⟨data, origin⟩ := change
    by_cases same : other = side
    · by_cases matching : data = text <;> simp [same, matching]
    · simp [same]
  · by_cases same : other = side
    · by_cases matching : data = text <;> simp [same, matching]
    · simp [same]

theorem leaseAfter_mark_iff {side : Side} {text : List UInt8} (run : List SyncEvent) :
    leaseAfter (markAct side text) run = .live () ↔ JustReceived side text run := by
  rw [leaseAfter_eq_live_iff]
  constructor
  · rintro ⟨before, e, after, split, opens, untouched, -⟩
    refine ⟨before, e, after, split, (markAct_eq_start_iff e).mp opens, ?_⟩
    intro later member
    exact (markAct_untouched_iff later).mp (untouched later member)
  · rintro ⟨before, e, after, split, receives, quiet⟩
    refine ⟨before, e, after, split, (markAct_eq_start_iff e).mpr receives, ?_, ?_⟩
    · intro later member
      exact (markAct_untouched_iff later).mpr (quiet later member)
    · intro front parked back _ parks
      exact absurd parks (markAct_ne_park parked)

theorem sound_run (steps : List SyncStep) (side : Side) :
    ((exec syncStep new steps).peer side).Sound := by
  have sound := @exec_invariant _ _ _ syncStep (fun pair => ∀ side, (pair.peer side).Sound)
    (fun _ op sound => sound_syncStep sound op) new (fun _ => Peer.sound_new) steps
  exact sound side

/-- A peer remembers the text it received last until a write of it is reported. -/
theorem lastApplied_iff (steps : List SyncStep) (side : Side) (text : List UInt8) :
    ((exec syncStep new steps).peer side).sync.lastApplied = some text ↔
      leaseAfter (markAct side text) (syncRun steps) = .live () := by
  induction steps using List.reverseRecOn with
  | nil => simp [syncRun, new, Peer.new, ClipboardSync.new]
  | append_singleton steps op ih =>
      have sound := sound_run steps side
      rw [syncRun, history_concat, exec_concat, leaseAfter_concat, ← syncRun]
      rcases syncStep_at sound op with ⟨data, out, marker⟩ | ⟨change, message, out, -, -, marker⟩ |
        ⟨notReceived, notReported, same⟩
      · by_cases matching : data = text
        · simp [markAct, out, marker, matching]
        · simp [markAct, out, marker, matching]
      · by_cases matching : change.text = text
        · subst matching
          simp [markAct, out, marker]
        · rw [marker]
          have differs : markAct side text (Event.of syncStep (exec syncStep new steps) op) = .keep := by
            simp [markAct, out, matching]
          rw [differs, LeaseState.next_keep, ← ih]
          by_cases remembered :
              ((exec syncStep new steps).peer side).sync.lastApplied = some change.text
          · simp [remembered, matching]
          · simp [remembered]
      · rw [markAct_eq_keep notReceived notReported, LeaseState.next_keep, same]
        exact ih

/-- An applied text is sent back exactly when it is reported while it is not what was received
last, or was reported since. -/
theorem message_iff_justReceived {steps : List SyncStep} {before after : List SyncEvent}
    {e : SyncEvent} (split : syncRun steps = before ++ e :: after) {side : Side}
    {text : List UInt8} {message : Option (List UInt8)}
    (out : e.out = .reported side { text, origin := .applied } message) :
    message = none ↔ JustReceived side text before := by
  obtain ⟨early, late, -, rfl, isEvent⟩ := history_split split
  rw [← syncRun, ← leaseAfter_mark_iff, ← lastApplied_iff]
  rw [isEvent, Event.of_out] at out
  rcases syncStep_at (sound_run early side) e.op with ⟨data, received, -⟩ |
    ⟨change, answer, reported, valid, silent, -⟩ | ⟨-, notReported, -⟩
  · rw [received] at out
    cases out
  · rw [reported] at out
    cases out
    exact silent (valid rfl)
  · exact absurd out (notReported _ _)

/-- An event in which the watcher reports a write of the user. -/
def reportsCopy (e : SyncEvent) : Bool :=
  match e.out with
  | .reported _ change _ => change.origin = .copied
  | _ => false

/-- The writes of the user at one peer that are still to be reported. -/
def unreported (peer : Peer) : Nat := peer.changes.countP fun change => change.origin = .copied

theorem unreported_apply (peer : Peer) : unreported peer.apply = unreported peer := by
  unfold Peer.apply
  cases peer.toApply <;> simp [unreported]

theorem unreported_receive (peer : Peer) (data : List UInt8) :
    unreported (peer.receive data).2 = unreported peer := by
  rcases peer.receive_cases data with ⟨-, receives⟩ | ⟨-, receives⟩ <;> simp [receives, unreported]

/-- Every report of a write of the user takes one that was copied before. -/
theorem unreported_step {pair : SyncPair} (sound : ∀ side, (pair.peer side).Sound)
    (op : SyncStep) :
    unreported ((syncStep pair op).2.peer .host) + unreported ((syncStep pair op).2.peer .guest) +
        [Event.of syncStep pair op].countP reportsCopy =
      unreported (pair.peer .host) + unreported (pair.peer .guest) + copies [op] := by
  cases op with
  | copy side text =>
      cases side <;> simp [syncStep, Peer.copy, unreported, reportsCopy, copies] <;> omega
  | apply side => cases side <;> simp [syncStep, unreported_apply, reportsCopy, copies]
  | deliver side =>
      have none : [Event.of syncStep pair (.deliver side)].countP reportsCopy = 0 := by
        cases arriving : pair.inFlight side with
        | nil => simp [reportsCopy, syncStep, arriving]
        | cons data messages =>
            rcases receives : (pair.peer side).receive data with ⟨_ | text, peer⟩ <;>
              simp [reportsCopy, syncStep, arriving, receives]
      rw [none]
      cases arriving : pair.inFlight side with
      | nil => simp [peer_deliver_nil arriving, copies]
      | cons data messages =>
          rw [peer_deliver arriving]
          cases side <;> simp [unreported_receive, copies]
  | report side =>
      have taken : unreported (pair.peer side).report.2 +
          [Event.of syncStep pair (.report side)].countP reportsCopy = unreported (pair.peer side) := by
        rcases Peer.report_cases (sound side) with ⟨-, reports⟩ |
          ⟨change, changes, queued, ⟨-, reports⟩ | ⟨-, -, reports⟩ | ⟨-, -, reports⟩⟩
        · simp [reports, reportsCopy, syncStep]
        all_goals
          cases origin : change.origin <;>
            simp [reports, reportsCopy, syncStep, unreported, queued, origin]
      rw [peer_report]
      cases side <;> simp only [copies, Function.update_self, Function.update_of_ne, ne_eq,
        reduceCtorEq, not_false_eq_true, List.countP_singleton, Bool.false_eq_true, if_false] at taken ⊢ <;>
        omega

theorem reports_le_copies (steps : List SyncStep) :
    (syncRun steps).countP reportsCopy ≤ copies steps := by
  have counted : unreported ((exec syncStep new steps).peer .host) +
      unreported ((exec syncStep new steps).peer .guest) + (syncRun steps).countP reportsCopy =
        copies steps := by
    induction steps using List.reverseRecOn with
    | nil => simp [syncRun, copies, new, Peer.new, unreported]
    | append_singleton steps op ih =>
        have step := unreported_step (sound_run steps) op
        have total : copies (steps ++ [op]) = copies steps + copies [op] := by
          simp [copies, List.countP_append]
        rw [syncRun, history_concat, List.countP_append, exec_concat, ← syncRun, total]
        omega
  omega

/-- Without echoes, all that is sent is what the users copied. -/
theorem messages_le_copies {steps : List SyncStep} (noEcho : NoEcho (syncRun steps)) :
    messages (syncRun steps) ≤ copies steps := by
  refine Nat.le_trans (List.countP_mono_left ?_) (reports_le_copies steps)
  intro e member sends
  rcases out : e.out with _ | _ | ⟨side, ⟨text, origin⟩, _ | data⟩ | _
  · simp [out] at sends
  · simp [out] at sends
  · simp [out] at sends
  · cases origin with
    | copied => simp [reportsCopy, out]
    | applied => exact absurd (noEcho e member side text _ out) (by simp)
  · simp [out] at sends

theorem NoEcho.prefix {early late : List SyncStep} (noEcho : NoEcho (syncRun (early ++ late))) :
    NoEcho (syncRun early) := by
  intro e member
  apply noEcho e
  rw [syncRun, history_append]
  exact List.mem_append_left _ member

/-- Two synced clipboards never echo over a run, and send no more than their users copied up to any
point of it, if and only if each applied text is reported while it is the last one received there
and before any other report of it. -/
theorem clipboards_do_not_echo_iff (steps : List SyncStep) :
    (NoEcho (syncRun steps) ∧
      ∀ early late, steps = early ++ late → messages (syncRun early) ≤ copies early) ↔
    ∀ before e after, syncRun steps = before ++ e :: after → ∀ side text message,
      e.out = .reported side { text, origin := .applied } message →
        JustReceived side text before := by
  constructor
  · rintro ⟨noEcho, -⟩ before e after split side text message out
    exact (message_iff_justReceived split out).mp
      (noEcho e (by simp [split]) side text message out)
  · intro inTime
    have noEcho : NoEcho (syncRun steps) := by
      intro e member side text message out
      obtain ⟨before, after, split⟩ := List.append_of_mem member
      exact (message_iff_justReceived split out).mpr (inTime before e after split side text message out)
    refine ⟨noEcho, ?_⟩
    rintro early late rfl
    exact messages_le_copies noEcho.prefix

/-- The guest copies `x` and `y`; both arrive at the host before its watcher reports the first. -/
def overlappingSteps : List SyncStep := [
  .copy .guest (asBytes "x"), .report .guest, .copy .guest (asBytes "y"), .report .guest,
  .deliver .host, .deliver .host, .apply .host, .report .host]

theorem first_of_two_is_echoed :
    ¬ NoEcho (syncRun overlappingSteps) ∧
      copies overlappingSteps < messages (syncRun overlappingSteps) := by
  refine ⟨?_, by decide⟩
  intro noEcho
  have sent := noEcho ((syncRun overlappingSteps).getLast (by decide)) (List.getLast_mem _) .host
    (asBytes "x") (some (asBytes "x")) (by decide)
  cases sent

end SyncPair

end Lumepeer.Core
