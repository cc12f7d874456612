import Lumepeer.Runtime.Network.Recording

/-!
# What is recorded

The slots of the two media loops hold what `recorders` says in every run in which no media
connection is accepted for a peer that is being recorded, and in no other. A recorder that was
stopped takes nothing any more, whatever slots and jobs still hold it.
-/

namespace Lumepeer.Runtime
open Lumepeer.Lib Lumepeer.Core

namespace Tape

theorem send_of_stopped {tape : Tape} (stopped : tape.taking = false) (room : Bool)
    (record : Record) : tape.send room record = tape := by
  simp [send, stopped]

@[simp] theorem taking_send (tape : Tape) (room : Bool) (record : Record) :
    (tape.send room record).taking = tape.taking := by
  unfold send
  split
  · rfl
  · split <;> rfl

theorem records_send {tape : Tape} (taking : tape.taking = true) (record : Record) :
    (tape.send true record).records = tape.records ++ [record] := by
  simp [send, taking]

theorem stop_of_stopped {tape : Tape} (stopped : tape.taking = false) : tape.stop = tape := by
  simp [stop, ← stopped]

end Tape

namespace Recordings

/-! ## The slots -/

/-- Each slot of a loop that runs holds what `recorders` has for its peer. -/
structure KeepsRecording (host : Recordings) : Prop where
  picture : ∀ peer session, host.media.lookup peer = some session →
    session.recorder = host.recorders.lookup peer
  sound : ∀ peer session, host.audio.lookup peer = some session →
    session.recorder = host.recorders.lookup peer

namespace KeepsRecording

variable {host after : Recordings} {peer : NodeId}

theorem of_tables (keeps : KeepsRecording host) (media : after.media = host.media)
    (audio : after.audio = host.audio) (recorders : after.recorders = host.recorders) :
    KeepsRecording after where
  picture := by
    rw [media, recorders]
    exact keeps.picture
  sound := by
    rw [audio, recorders]
    exact keeps.sound

/-- Where both loops of a peer are gone, only its own entry may change. -/
theorem of_erased (keeps : KeepsRecording host) (media : after.media = host.media.erase peer)
    (audio : after.audio = host.audio.erase peer)
    (recorders : ∀ other, other ≠ peer →
      after.recorders.lookup other = host.recorders.lookup other) : KeepsRecording after where
  picture := by
    intro other session found
    rw [media, HashMap.lookup_erase_eq] at found
    split at found
    · cases found
    · rename_i different
      rw [keeps.picture other session found, recorders other different]
  sound := by
    intro other session found
    rw [audio, HashMap.lookup_erase_eq] at found
    split at found
    · cases found
    · rename_i different
      rw [keeps.sound other session found, recorders other different]

/-- Where the slots of a peer are filled with what its entry becomes. -/
theorem of_filled (keeps : KeepsRecording host) (slot : Option SessionRecorder)
    (media : after.media = (host.fillSlots peer slot).media)
    (audio : after.audio = (host.fillSlots peer slot).audio)
    (recorders : ∀ other, after.recorders.lookup other =
      if other = peer then slot else host.recorders.lookup other) : KeepsRecording after where
  picture := by
    intro other session found
    rw [recorders]
    rw [media] at found
    have found := (HashMap.lookup_modify_eq host.media peer other _).symm.trans found
    by_cases same : other = peer
    · rw [if_pos same] at found ⊢
      obtain ⟨before, -, rfl⟩ := Option.map_eq_some_iff.mp found
      rfl
    · rw [if_neg same] at found ⊢
      exact keeps.picture other session found
  sound := by
    intro other session found
    rw [recorders]
    rw [audio] at found
    have found := (HashMap.lookup_modify_eq host.audio peer other _).symm.trans found
    by_cases same : other = peer
    · rw [if_pos same] at found ⊢
      obtain ⟨before, -, rfl⟩ := Option.map_eq_some_iff.mp found
      rfl
    · rw [if_neg same] at found ⊢
      exact keeps.sound other session found

/-- `start_audio` reads the entry that is there. -/
theorem startAudio (keeps : KeepsRecording host) (peer : NodeId) :
    KeepsRecording (host.startAudio peer).2 := by
  unfold Recordings.startAudio
  split
  · exact keeps
  · constructor
    · exact keeps.picture
    · intro other session found
      have found := (HashMap.lookup_insert_eq (host.audio.erase peer) peer other _).symm.trans found
      by_cases same : other = peer
      · rw [if_pos same] at found
        cases found
        rw [same]
      · rw [if_neg same, HashMap.lookup_erase_eq, if_neg same] at found
        exact keeps.sound other session found

end KeepsRecording

/-- A media connection is accepted, and fed, for a peer that is being recorded. -/
def Redials (host : Recordings) : Op → Prop
  | .mediaAccepted peer secureScreen fault =>
      host.mediaGranted peer secureScreen = true ∧ fault = none ∧
        (host.recorders.lookup peer).isSome
  | _ => False

section
variable {host : Recordings}

theorem keepsRecording_mediaAccepted (keeps : KeepsRecording host) (peer : NodeId)
    (secureScreen : Bool) (fault : Option MediaUnavailableReason)
    (allowed : ¬Redials host (.mediaAccepted peer secureScreen fault)) :
    KeepsRecording (host.onMediaAccepted peer secureScreen fault) := by
  have removed : KeepsRecording { host with media := host.media.erase peer } := by
    constructor
    · intro other session found
      have found := (HashMap.lookup_erase_eq host.media peer other).symm.trans found
      split at found
      · cases found
      · exact keeps.picture other session found
    · exact keeps.sound
  unfold onMediaAccepted
  cases granted : host.mediaGranted peer secureScreen with
  | false => exact keeps
  | true =>
      cases fault with
      | some reason => exact removed
      | none =>
          have unrecorded : host.recorders.lookup peer = none := by
            cases entry : host.recorders.lookup peer with
            | none => rfl
            | some recorder => exact absurd ⟨granted, rfl, by simp [entry]⟩ allowed
          apply KeepsRecording.startAudio
          constructor
          · intro other session found
            have found :=
              (HashMap.lookup_insert_eq (host.media.erase peer) peer other _).symm.trans found
            by_cases same : other = peer
            · rw [if_pos same] at found
              cases found
              rw [same]
              exact unrecorded.symm
            · rw [if_neg same] at found
              exact removed.picture other session found
          · exact removed.sound

theorem keepsRecording_restartMedia (keeps : KeepsRecording host) (peer : NodeId) :
    KeepsRecording (host.restartMedia peer) := by
  unfold restartMedia
  cases running : host.media.lookup peer with
  | none => exact keeps
  | some session =>
      constructor
      · intro other other' found
        have found := (HashMap.lookup_insert_eq host.media peer other _).symm.trans found
        by_cases same : other = peer
        · rw [if_pos same] at found
          cases found
          rw [same]
          exact keeps.picture peer session running
        · rw [if_neg same] at found
          exact keeps.picture other other' found
      · intro other other' found
        have found := (HashMap.lookup_erase_eq host.audio peer other).symm.trans found
        split at found
        · cases found
        · exact keeps.sound other other' found

theorem keepsRecording_mediaFault (keeps : KeepsRecording host) (peer : NodeId)
    (reason : MediaUnavailableReason) : KeepsRecording (host.onMediaFault peer reason) := by
  unfold onMediaFault
  split
  · exact keeps
  · exact keeps.of_erased rfl rfl fun _ _ => rfl

theorem keepsRecording_stopMedia (keeps : KeepsRecording host) (peer : NodeId) (room : Bool) :
    KeepsRecording (host.stopMedia peer room) := by
  unfold stopMedia
  dsimp only
  cases entry : host.recorders.lookup peer with
  | none => exact keeps.of_erased rfl rfl fun _ _ => rfl
  | some recorder =>
      apply keeps.of_erased rfl rfl
      intro other different
      exact (HashMap.lookup_erase_eq host.recorders peer other).trans (if_neg different)

theorem keepsRecording_recordOn (keeps : KeepsRecording host) (peer : NodeId) (label : String)
    (path : Option String) (opens room : Bool) :
    KeepsRecording (host.recordOn peer label path opens room).2 := by
  unfold recordOn
  dsimp only
  split
  · split
    · exact keeps.of_tables rfl rfl rfl
    · exact keeps
  · cases entry : host.recorders.lookup peer with
    | some running => exact keeps
    | none =>
        cases path with
        | none => exact keeps
        | some path =>
            dsimp only
            split
            · exact keeps
            · have inserted (other : NodeId) :
                  (host.recorders.insert peer ⟨host.started, path⟩).lookup other =
                    if other = peer then some ⟨host.started, path⟩
                    else host.recorders.lookup other :=
                HashMap.lookup_insert_eq host.recorders peer other _
              exact keeps.of_filled (some ⟨host.started, path⟩) rfl rfl inserted

theorem keepsRecording_recordOff (keeps : KeepsRecording host) (peer : NodeId) (room : Bool) :
    KeepsRecording (host.recordOff peer room) := by
  unfold recordOff
  dsimp only
  cases entry : host.recorders.lookup peer with
  | none =>
      dsimp only
      split <;> exact keeps.of_tables rfl rfl rfl
  | some recorder =>
      dsimp only
      have erased (other : NodeId) : (host.recorders.erase peer).lookup other =
          if other = peer then none else host.recorders.lookup other :=
        HashMap.lookup_erase_eq host.recorders peer other
      split <;> exact keeps.of_filled none rfl rfl erased

theorem keepsRecording_recordToggle (keeps : KeepsRecording host) (label : String)
    (turnOn : Bool) (path : Option String) (opens room : Bool) :
    KeepsRecording (host.onRecordToggle label turnOn path opens room).2 := by
  unfold onRecordToggle
  cases host.resolve label with
  | error error => exact keeps
  | ok peer =>
      cases turnOn with
      | true => exact keepsRecording_recordOn keeps peer label path opens room
      | false => exact keepsRecording_recordOff keeps peer room

theorem keepsRecording_audioToggle (keeps : KeepsRecording host) (label : String) (turnOn : Bool) :
    KeepsRecording (host.onAudioToggle label turnOn).2 := by
  unfold onAudioToggle
  cases host.resolve label with
  | error error => exact keeps
  | ok peer =>
      dsimp only
      split
      · exact keeps
      · split
        · split
          · exact keeps
          · have started := keeps.startAudio peer
            split
            · rename_i answer
              rwa [answer] at started
            · rename_i answer
              rwa [answer] at started
        · constructor
          · exact keeps.picture
          · intro other session found
            have found := (HashMap.lookup_erase_eq host.audio peer other).symm.trans found
            split at found
            · cases found
            · exact keeps.sound other session found

theorem keepsRecording_step (keeps : KeepsRecording host) (op : Op) (allowed : ¬Redials host op) :
    KeepsRecording (step host op).2 := by
  cases op with
  | seated peer seat => exact keeps.of_tables rfl rfl rfl
  | labelled labels => exact keeps.of_tables rfl rfl rfl
  | mediaAccepted peer secureScreen fault =>
      exact keepsRecording_mediaAccepted keeps peer secureScreen fault allowed
  | restartMedia peer => exact keepsRecording_restartMedia keeps peer
  | mediaFault peer reason => exact keepsRecording_mediaFault keeps peer reason
  | stopMedia peer room => exact keepsRecording_stopMedia keeps peer room
  | recordToggle label turnOn dir now opens room =>
      exact keepsRecording_recordToggle keeps label turnOn _ opens room
  | audioToggle label turnOn => exact keepsRecording_audioToggle keeps label turnOn
  | recordRequested peer limited =>
      show KeepsRecording (host.onRecordRequested peer limited)
      unfold onRecordRequested
      repeat' split
      all_goals exact keeps.of_tables rfl rfl rfl
  | encoded peer timestampUs data =>
      show KeepsRecording (host.encodeFrame peer timestampUs data).2
      unfold encodeFrame
      repeat' split
      all_goals exact keeps.of_tables rfl rfl rfl
  | written index written room =>
      show KeepsRecording (host.writeJob index written room)
      unfold writeJob
      dsimp only
      repeat' split
      all_goals exact keeps.of_tables rfl rfl rfl
  | packet peer timestampUs data room =>
      show KeepsRecording (host.writePacket peer timestampUs data room)
      unfold writePacket
      repeat' split
      all_goals exact keeps.of_tables rfl rfl rfl

/-- A media connection that is accepted during a recording leaves the slot empty. -/
theorem not_keepsRecording_of_redials {op : Op} (redials : Redials host op) :
    ¬KeepsRecording (step host op).2 := by
  cases op with
  | mediaAccepted peer secureScreen fault =>
      obtain ⟨granted, rfl, recorded⟩ := redials
      obtain ⟨recorder, entry⟩ := Option.isSome_iff_exists.mp recorded
      intro keeps
      have empty : (step host (.mediaAccepted peer secureScreen none)).2.media.lookup peer =
          some { recorder := none } := by
        show (host.onMediaAccepted peer secureScreen none).media.lookup peer = _
        simp [onMediaAccepted, granted, Recordings.startAudio]
      have entry : (step host (.mediaAccepted peer secureScreen none)).2.recorders.lookup peer =
          some recorder := by
        show (host.onMediaAccepted peer secureScreen none).recorders.lookup peer = _
        simp [onMediaAccepted, granted, Recordings.startAudio, entry]
      have slot := keeps.picture peer _ empty
      rw [entry] at slot
      cases slot
  | _ => exact redials.elim

end

/-! ## The recorders -/

/-- What a step can do to the recorders. -/
inductive Turn (before after : Recordings) : Prop where
  | still (recorders : after.recorders = before.recorders) (started : after.started = before.started)
      (tapes : after.tapes = before.tapes)
  | sent (recorder : SessionRecorder) (room : Bool) (record : Record)
      (recorders : after.recorders = before.recorders) (started : after.started = before.started)
      (tapes : after.tapes = (before.onTape recorder fun tape => tape.send room record).tapes)
  | stopped (peer : NodeId) (recorder : SessionRecorder) (room : Bool) (line : String)
      (entry : before.recorders.lookup peer = some recorder)
      (recorders : after.recorders = before.recorders.erase peer)
      (started : after.started = before.started)
      (tapes : after.tapes = ((before.writeEvent recorder room line).onTape recorder Tape.stop).tapes)
  | opened (peer : NodeId) (path : String) (room : Bool) (line : String)
      (recorders : after.recorders = before.recorders.insert peer ⟨before.started, path⟩)
      (started : after.started = before.started + 1)
      (tapes : after.tapes = (writeEvent { before with
        tapes := Function.update before.tapes before.started { taking := true } }
          ⟨before.started, path⟩ room line).tapes)

section
variable {host : Recordings}

theorem turn_startAudio (host : Recordings) (peer : NodeId) :
    Turn host (host.startAudio peer).2 := by
  unfold Recordings.startAudio
  split <;> exact .still rfl rfl rfl

theorem turn_mediaAccepted (host : Recordings) (peer : NodeId) (secureScreen : Bool)
    (fault : Option MediaUnavailableReason) :
    Turn host (host.onMediaAccepted peer secureScreen fault) := by
  unfold onMediaAccepted Recordings.startAudio
  dsimp only
  repeat' split
  all_goals exact .still rfl rfl rfl

theorem turn_stopMedia (host : Recordings) (peer : NodeId) (room : Bool) :
    Turn host (host.stopMedia peer room) := by
  unfold stopMedia
  dsimp only
  cases entry : host.recorders.lookup peer with
  | none => exact .still rfl rfl rfl
  | some recorder => exact .stopped peer recorder room _ entry rfl rfl rfl

theorem turn_recordOn (host : Recordings) (peer : NodeId) (label : String) (path : Option String)
    (opens room : Bool) : Turn host (host.recordOn peer label path opens room).2 := by
  unfold recordOn
  dsimp only
  split
  · split <;> exact .still rfl rfl rfl
  · cases host.recorders.lookup peer with
    | some running => exact .still rfl rfl rfl
    | none =>
        cases path with
        | none => exact .still rfl rfl rfl
        | some path =>
            dsimp only
            split
            · exact .still rfl rfl rfl
            · exact .opened peer path room _ rfl rfl rfl

theorem turn_recordOff (host : Recordings) (peer : NodeId) (room : Bool) :
    Turn host (host.recordOff peer room) := by
  unfold recordOff
  dsimp only
  cases entry : host.recorders.lookup peer with
  | none =>
      dsimp only
      split <;> exact .still rfl rfl rfl
  | some recorder =>
      dsimp only
      split <;> exact .stopped peer recorder room _ entry rfl rfl rfl

theorem turn_audioToggle (host : Recordings) (label : String) (turnOn : Bool) :
    Turn host (host.onAudioToggle label turnOn).2 := by
  unfold onAudioToggle
  cases host.resolve label with
  | error error => exact .still rfl rfl rfl
  | ok peer =>
      have started := turn_startAudio host peer
      dsimp only
      split
      · exact .still rfl rfl rfl
      · split
        · split
          · exact .still rfl rfl rfl
          · split
            · rename_i answer
              rwa [answer] at started
            · rename_i answer
              rwa [answer] at started
        · exact .still rfl rfl rfl

theorem turn_step (host : Recordings) (op : Op) : Turn host (step host op).2 := by
  cases op with
  | seated peer seat => exact .still rfl rfl rfl
  | labelled labels => exact .still rfl rfl rfl
  | mediaAccepted peer secureScreen fault => exact turn_mediaAccepted host peer secureScreen fault
  | restartMedia peer =>
      show Turn host (host.restartMedia peer)
      unfold restartMedia
      split <;> exact .still rfl rfl rfl
  | mediaFault peer reason =>
      show Turn host (host.onMediaFault peer reason)
      unfold onMediaFault
      split <;> exact .still rfl rfl rfl
  | stopMedia peer room => exact turn_stopMedia host peer room
  | recordToggle label turnOn dir now opens room =>
      show Turn host (host.onRecordToggle label turnOn _ opens room).2
      unfold onRecordToggle
      cases host.resolve label with
      | error error => exact .still rfl rfl rfl
      | ok peer =>
          cases turnOn with
          | true => exact turn_recordOn host peer label _ opens room
          | false => exact turn_recordOff host peer room
  | audioToggle label turnOn => exact turn_audioToggle host label turnOn
  | recordRequested peer limited =>
      show Turn host (host.onRecordRequested peer limited)
      unfold onRecordRequested
      repeat' split
      all_goals exact .still rfl rfl rfl
  | encoded peer timestampUs data =>
      show Turn host (host.encodeFrame peer timestampUs data).2
      unfold encodeFrame
      repeat' split
      all_goals exact .still rfl rfl rfl
  | written index written room =>
      show Turn host (host.writeJob index written room)
      unfold writeJob
      cases host.jobs[index]? with
      | none => exact .still rfl rfl rfl
      | some job =>
          dsimp only
          split
          · rename_i recorder _
            exact .sent recorder room _ rfl rfl rfl
          · exact .still rfl rfl rfl
  | packet peer timestampUs data room =>
      show Turn host (host.writePacket peer timestampUs data room)
      unfold writePacket
      split
      · exact .still rfl rfl rfl
      · split
        · exact .still rfl rfl rfl
        · rename_i recorder _
          exact .sent recorder room _ rfl rfl rfl

theorem tapes_onTape (host : Recordings) (recorder : SessionRecorder) (f : Tape → Tape) (n : Nat) :
    (host.onTape recorder f).tapes n =
      if n = recorder.serial then f (host.tapes n) else host.tapes n := by
  show Function.update host.tapes recorder.serial _ n = _
  by_cases same : n = recorder.serial
  · rw [if_pos same, same, Function.update_self]
  · rw [if_neg same, Function.update_of_ne same]

/-- What was stopped stays as it is. -/
def Frozen (before after : Recordings) : Prop :=
  ∀ n, n < before.started → (before.tapes n).taking = false → after.tapes n = before.tapes n

theorem frozen_of_turn {before after : Recordings} (turn : Turn before after) :
    Frozen before after := by
  intro n old stopped
  cases turn with
  | still recorders started tapes => rw [tapes]
  | sent recorder room record recorders started tapes =>
      rw [tapes, tapes_onTape, Tape.send_of_stopped stopped, ite_self]
  | stopped peer recorder room line entry recorders started tapes =>
      rw [tapes, tapes_onTape]
      unfold writeEvent
      rw [tapes_onTape, Tape.send_of_stopped stopped, ite_self, Tape.stop_of_stopped stopped,
        ite_self]
  | opened peer path room line recorders started tapes =>
      have other : n ≠ before.started := by omega
      rw [tapes]
      unfold writeEvent
      rw [tapes_onTape, if_neg other]
      exact Function.update_of_ne other _ _

/-- Each recording that runs has a recorder of its own, and that one takes records. -/
structure Live (host : Recordings) : Prop where
  old : ∀ peer recorder, host.recorders.lookup peer = some recorder →
    recorder.serial < host.started
  taking : ∀ peer recorder, host.recorders.lookup peer = some recorder →
    (host.tapes recorder.serial).taking = true
  own : ∀ peer recorder other recorder', host.recorders.lookup peer = some recorder →
    host.recorders.lookup other = some recorder' → recorder.serial = recorder'.serial →
    peer = other

theorem Live.of_turn {before after : Recordings} (live : Live before) (turn : Turn before after) :
    Live after := by
  cases turn with
  | still recorders started tapes =>
      constructor
      · rw [recorders, started]
        exact live.old
      · rw [recorders, tapes]
        exact live.taking
      · rw [recorders]
        exact live.own
  | sent recorder room record recorders started tapes =>
      constructor
      · rw [recorders, started]
        exact live.old
      · rw [recorders, tapes]
        intro peer recorder' entry
        have taking := live.taking peer recorder' entry
        rw [tapes_onTape]
        split
        · rwa [Tape.taking_send]
        · exact taking
      · rw [recorders]
        exact live.own
  | stopped peer recorder room line entry recorders started tapes =>
      have kept (other : NodeId) (recorder' : SessionRecorder)
          (held : after.recorders.lookup other = some recorder') :
          other ≠ peer ∧ before.recorders.lookup other = some recorder' := by
        rw [recorders, HashMap.lookup_erase_eq] at held
        split at held
        · cases held
        · rename_i different
          exact ⟨different, held⟩
      constructor
      · intro other recorder' held
        rw [started]
        exact live.old other recorder' (kept other recorder' held).2
      · intro other recorder' held
        obtain ⟨different, held⟩ := kept other recorder' held
        have distinct : recorder'.serial ≠ recorder.serial :=
          fun same => different (live.own other recorder' peer recorder held entry same)
        rw [tapes, tapes_onTape, if_neg distinct]
        unfold writeEvent
        rw [tapes_onTape, if_neg distinct]
        exact live.taking other recorder' held
      · intro first recorder₁ second recorder₂ held₁ held₂
        exact live.own first recorder₁ second recorder₂ (kept first recorder₁ held₁).2
          (kept second recorder₂ held₂).2
  | opened peer path room line recorders started tapes =>
      have held (other : NodeId) (recorder' : SessionRecorder)
          (entry : after.recorders.lookup other = some recorder') :
          (other = peer ∧ recorder'.serial = before.started) ∨
            before.recorders.lookup other = some recorder' ∧
              recorder'.serial < before.started := by
        rw [recorders, HashMap.lookup_insert_eq] at entry
        split at entry
        · rename_i same
          cases entry
          exact .inl ⟨same, rfl⟩
        · exact .inr ⟨entry, live.old other recorder' entry⟩
      constructor
      · intro other recorder' entry
        rw [started]
        rcases held other recorder' entry with ⟨-, isNew⟩ | ⟨-, old⟩ <;> omega
      · intro other recorder' entry
        rw [tapes]
        unfold writeEvent
        rw [tapes_onTape]
        dsimp only
        rcases held other recorder' entry with ⟨-, isNew⟩ | ⟨before', old⟩
        · rw [isNew, if_pos rfl, Tape.taking_send, Function.update_self]
        · have other' : recorder'.serial ≠ before.started := by omega
          rw [if_neg other', Function.update_of_ne other']
          exact live.taking other recorder' before'
      · intro first recorder₁ second recorder₂ entry₁ entry₂ same
        rcases held first recorder₁ entry₁ with ⟨isPeer₁, new₁⟩ | ⟨before₁, old₁⟩ <;>
          rcases held second recorder₂ entry₂ with ⟨isPeer₂, new₂⟩ | ⟨before₂, old₂⟩
        · rw [isPeer₁, isPeer₂]
        · omega
        · omega
        · exact live.own first recorder₁ second recorder₂ before₁ before₂ same

end

/-! ## Runs -/

/-- What one step owes a recording: its slots, the picture of every frame and every packet while it
runs, and nothing after it was stopped. -/
structure Recorded (e : Event Recordings Op Out) : Prop where
  slots : KeepsRecording e.post
  frames : ∀ peer timestampUs data session, e.op = .encoded peer timestampUs data →
    e.pre.media.lookup peer = some session → session.running = true →
    e.out = .encoded (some ⟨timestampUs, data, e.pre.recorders.lookup peer⟩)
  pictures : ∀ index job peer recorder, e.op = .written index true true →
    e.pre.jobs[index]? = some job → job.recorder = some recorder →
    e.pre.recorders.lookup peer = some recorder →
    (e.post.tapes recorder.serial).records =
      (e.pre.tapes recorder.serial).records ++ [.video job.timestampUs job.data]
  packets : ∀ peer timestampUs data session recorder,
    e.op = .packet peer timestampUs data true → e.pre.audio.lookup peer = some session →
    e.pre.recorders.lookup peer = some recorder →
    (e.post.tapes recorder.serial).records =
      (e.pre.tapes recorder.serial).records ++ [.audio timestampUs data]
  frozen : Frozen e.pre e.post

/-- What holds between the steps. -/
structure Sound (host : Recordings) : Prop where
  keeps : KeepsRecording host
  live : Live host

theorem sound_new : Sound new where
  keeps := ⟨fun _ _ found => (nomatch found), fun _ _ found => (nomatch found)⟩
  live := ⟨fun _ _ found => (nomatch found), fun _ _ found => (nomatch found),
    fun _ _ _ _ found => (nomatch found)⟩

theorem recorded_of_keeps {host : Recordings} (sound : Sound host) (op : Op)
    (keeps : KeepsRecording (step host op).2) : Recorded (Event.of step host op) where
  slots := keeps
  frames := by
    rintro peer timestampUs data session isOp found running
    have isOp : op = .encoded peer timestampUs data := isOp
    subst isOp
    have found : host.media.lookup peer = some session := found
    show Out.encoded (host.encodeFrame peer timestampUs data).1 = _
    have slot := sound.keeps.picture peer session found
    simp only [encodeFrame, found, running, Bool.not_true, Bool.false_eq_true, if_false]
    rw [slot]
    rfl
  pictures := by
    rintro index job peer recorder isOp found isRecorder entry
    have isOp : op = .written index true true := isOp
    subst isOp
    have found : host.jobs[index]? = some job := found
    show ((host.writeJob index true true).tapes recorder.serial).records = _
    simp only [writeJob, found, isRecorder]
    rw [tapes_onTape, if_pos rfl]
    exact Tape.records_send (sound.live.taking peer recorder entry) _
  packets := by
    rintro peer timestampUs data session recorder isOp found entry
    have isOp : op = .packet peer timestampUs data true := isOp
    subst isOp
    have found : host.audio.lookup peer = some session := found
    have entry : host.recorders.lookup peer = some recorder := entry
    have slot := (sound.keeps.sound peer session found).trans entry
    show ((host.writePacket peer timestampUs data true).tapes recorder.serial).records = _
    simp only [writePacket, found, slot]
    rw [tapes_onTape, if_pos rfl]
    exact Tape.records_send (sound.live.taking peer recorder entry) _
  frozen := frozen_of_turn (turn_step host op)

/-- A run records what is being recorded, and nothing else, just where no media connection is
accepted for a peer while it is being recorded. -/
theorem recorded_iff (ops : List Op) :
    (∀ e ∈ history step new ops, Recorded e) ↔ ∀ e ∈ history step new ops, ¬Redials e.pre e.op := by
  have same (host : Recordings) (op : Op) (sound : Sound host) :
      Recorded (Event.of step host op) ↔ ¬Redials host op := by
    constructor
    · intro recorded redials
      exact not_keepsRecording_of_redials redials recorded.slots
    · intro allowed
      exact recorded_of_keeps sound op (keepsRecording_step sound.keeps op allowed)
  have keep (host : Recordings) (op : Op) (sound : Sound host)
      (recorded : Recorded (Event.of step host op)) : Sound (step host op).2 :=
    ⟨recorded.slots, sound.live.of_turn (turn_step host op)⟩
  have iff := @history_iff _ _ _ step Sound Recorded (fun host op => ¬Redials host op) new ops
  exact iff same keep sound_new

def sampleViewer : NodeId := ⟨List.Vector.replicate 32 5⟩

/-- A session that is recorded, and whose guest then dials its media connection again. -/
def redialled : List Op :=
  [.seated sampleViewer
      { connected := true, state := .active, grants := some { view := true, recording := true } },
    .labelled fun label => if label = "guest" then some sampleViewer else none,
    .mediaAccepted sampleViewer false none,
    .recordToggle "guest" true (some "/data") 0 true true,
    .mediaAccepted sampleViewer false none]

/-- The recording goes on, and the frames of the second connection are not in it. -/
theorem redial_loses_picture :
    ¬∀ e ∈ history step new (redialled ++ [.encoded sampleViewer 1 [0]]), Recorded e := by
  intro recorded
  have member : Event.of step (exec step new redialled) (.encoded sampleViewer 1 [0]) ∈
      history step new (redialled ++ [.encoded sampleViewer 1 [0]]) := by
    rw [history_concat]
    exact List.mem_append_right _ (List.mem_singleton_self _)
  have offered := (recorded _ member).frames sampleViewer 1 [0] ⟨none, true⟩ rfl rfl rfl
  have recording : (exec step new redialled).recorders.lookup sampleViewer ≠ none := by
    decide +kernel
  have unrecorded : some (WriteJob.mk 1 [0] none) =
      some ⟨1, [0], (exec step new redialled).recorders.lookup sampleViewer⟩ :=
    Out.encoded.inj offered
  exact recording (WriteJob.mk.inj (Option.some.inj unrecorded)).2.2.symm

end Recordings

end Lumepeer.Runtime
