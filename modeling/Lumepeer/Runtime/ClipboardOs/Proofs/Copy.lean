import Lumepeer.Core.Clipboard.Proofs.Echo
import Lumepeer.Runtime.ClipboardOs

/-!
# Which copies travel

An echo is held back twice: the thread does not report the text it looked at
last, and the sync state does not hand out the text the peer sent last. The
thread holds back the echo of its own writes, so the sync state seldom sees one,
and the text it remembers waits there for a copy the person makes.
-/

namespace Lumepeer.Runtime.ClipboardOs.Machine
open Lumepeer.Lib Lumepeer.Core

abbrev MachineEvent := Event Machine Op Happening

def Op.isPoll : Op → Bool
  | .poll .. => true
  | .receive _ | .copy _ | .write _ => false

/-- The text is read and the channel has room. -/
def Op.smooth : Op → Bool
  | .poll _ text room => text && room
  | .receive _ | .copy _ | .write _ => false

/-- A clipboard with this text and no files. -/
def plain (text : String) : Content := { text := some text, files := none }

/-- The text the thread looks at in a step, if it looks at one: what it writes, and what it reads
if it may report it or has not to. -/
def look (e : MachineEvent) : Option (Option String) :=
  match e.op with
  | .receive _ | .copy _ => none
  | .write applied => if applied then e.pre.jobs.head?.map some else none
  | .poll files text room =>
      let found := if text then e.pre.content.text else none
      if e.pre.watch.hadBaseline = false ∨ (files = true ∧ e.pre.content.files.isSome) then
        some found
      else if room then found.map some
      else none

/-- The text the thread looked at last. -/
def lastLook (run : List MachineEvent) : Option String := (run.filterMap look).getLast?.join

/-- The peer sent this text last, and no report of it was fed into the sync state since. -/
def JustReceived (text : String) (run : List MachineEvent) : Prop :=
  ∃ before e after, run = before ++ e :: after ∧ e.out = .received (asBytes text) ∧
    ∀ later ∈ after, (∀ data, later.out ≠ .received data) ∧ ∀ answer, later.out ≠ .fed text answer

/-- After these events the person has copied this text over something else, and this poll is the
next one and finds it. -/
structure FindsCopy (text : String) (before : List MachineEvent) (e : MachineEvent) : Prop where
  poll : e.op.isPoll = true
  there : e.pre.content = plain text
  copied : ∃ early c quiet, before = early ++ c :: quiet ∧ c.op = .copy (plain text) ∧
    c.pre.content ≠ plain text ∧ ∀ q ∈ quiet, q.op.isPoll = false

/-- A report that may travel can be made: the text is within the limits, the thread has its
baseline, and nothing goes wrong in the poll. -/
structure MayTravel (text : String) (before : List MachineEvent) (e : MachineEvent) : Prop where
  valid : Valid (asBytes text)
  based : ∃ p ∈ before, p.op.isPoll = true
  smooth : e.op.smooth = true

/-! ## What the thread looked at -/

theorem lastLook_concat (run : List MachineEvent) (e : MachineEvent) :
    lastLook (run ++ [e]) = (look e).getD (lastLook run) := by
  unfold lastLook
  rw [List.filterMap_append]
  cases isLook : look e with
  | none =>
      rw [List.filterMap_cons_none isLook, List.filterMap_nil, List.append_nil, Option.getD_none]
  | some found =>
      rw [List.filterMap_cons_some isLook, List.filterMap_nil, List.getLast?_concat,
        Option.join_some, Option.getD_some]

theorem poll_seen (watch : Watch) (paths : Option (List String)) (found : Option String)
    (room : Bool) :
    (watch.poll true paths found room).2.seen =
      (if watch.hadBaseline = false ∨ paths.isSome then some found
        else if room then found.map some else none).getD watch.seen := by
  unfold Watch.poll
  cases watch.hadBaseline with
  | false => simp
  | true =>
      cases paths with
      | some paths =>
          simp only [Bool.not_true, Bool.false_eq_true, if_false, Option.isSome_some, or_true,
            if_true, Option.getD_some]
          split
          · rfl
          · split <;> rfl
      | none =>
          cases found with
          | none => cases room <;> simp
          | some text =>
              by_cases known : watch.seen = some text
              · cases room <;> simp [known]
              · cases room <;> simp [known]

theorem poll_machine (machine : Machine) (files text room : Bool) :
    (machine.poll files text room).2.watch =
      (machine.watch.poll true (if files then machine.content.files else none)
        (if text then machine.content.text else none) room).2 := by
  unfold poll
  simp only
  split <;> simp_all

theorem step_seen (machine : Machine) (op : Op) :
    (step machine op).2.watch.seen =
      (look (Event.of step machine op)).getD machine.watch.seen := by
  cases op with
  | copy content => rfl
  | receive data =>
      show (machine.receive data).2.watch.seen = machine.watch.seen
      unfold receive
      split <;> rfl
  | write applied =>
      show (machine.write applied).watch.seen =
        (if applied then machine.jobs.head?.map some else none).getD machine.watch.seen
      unfold write
      cases machine.jobs with
      | nil => cases applied <;> rfl
      | cons text jobs => cases applied <;> rfl
  | poll files text room =>
      show (machine.poll files text room).2.watch.seen = _
      rw [poll_machine, poll_seen]
      cases files with
      | false => simp [look]
      | true => simp [look]

theorem seen_eq_lastLook (content : Content) (ops : List Op) :
    (exec step (new content) ops).watch.seen = lastLook (history step (new content) ops) := by
  induction ops using List.reverseRecOn with
  | nil => rfl
  | append_singleton ops op ih =>
      rw [exec_concat, history_concat, lastLook_concat, step_seen, ih]

/-! ## The baseline -/

theorem step_hadBaseline (machine : Machine) (op : Op) :
    (step machine op).2.watch.hadBaseline = (machine.watch.hadBaseline || op.isPoll) := by
  cases op with
  | copy content => exact (Bool.or_false _).symm
  | receive data =>
      show (machine.receive data).2.watch.hadBaseline = (machine.watch.hadBaseline || false)
      rw [Bool.or_false]
      unfold receive
      split <;> rfl
  | write applied =>
      show (machine.write applied).watch.hadBaseline = (machine.watch.hadBaseline || false)
      rw [Bool.or_false]
      unfold write Watch.write
      cases machine.jobs with
      | nil => rfl
      | cons text jobs => cases applied <;> rfl
  | poll files text room =>
      show (machine.poll files text room).2.watch.hadBaseline = (machine.watch.hadBaseline || true)
      rw [poll_machine, Bool.or_true]
      unfold Watch.poll
      grind

theorem hadBaseline_iff (content : Content) (ops : List Op) :
    (exec step (new content) ops).watch.hadBaseline = true ↔
      ∃ p ∈ history step (new content) ops, p.op.isPoll = true := by
  induction ops using List.reverseRecOn with
  | nil => simp [new, Watch.new]
  | append_singleton ops op ih =>
      rw [exec_concat, history_concat, step_hadBaseline, Bool.or_eq_true, ih]
      simp [or_and_right, exists_or]

/-! ## What the sync state remembers -/

/-- What a machine remembers of its peer may travel. -/
def Sound (machine : Machine) : Prop := ∀ data, machine.sync.lastApplied = some data → Valid data

theorem receive_cases (machine : Machine) (data : List UInt8) :
    (Valid data ∧ machine.receive data =
      (.received data,
        { machine with
          sync := { lastApplied := some data }
          jobs := machine.jobs ++ (fromUtf8 data).toList })) ∨
    (¬Valid data ∧ machine.receive data = (.nothing, machine)) := by
  unfold receive ClipboardSync.remoteReceived Valid
  cases validatePayload data with
  | error refusal => exact .inr ⟨nofun, rfl⟩
  | ok accepted => exact .inl ⟨rfl, rfl⟩

/-- What a step does to what the sync state remembers. -/
theorem step_sync {machine : Machine} (sound : Sound machine) (op : Op) :
    (∃ data, (step machine op).1 = .received data ∧ Valid data ∧
      (step machine op).2.sync.lastApplied = some data) ∨
    (∃ text answer, (step machine op).1 = .fed text answer ∧
      (answer = .ok (some (asBytes text)) ↔
        Valid (asBytes text) ∧ machine.sync.lastApplied ≠ some (asBytes text)) ∧
      (step machine op).2.sync.lastApplied =
        if machine.sync.lastApplied = some (asBytes text) then none
        else machine.sync.lastApplied) ∨
    ((step machine op).1 = .nothing ∧ (step machine op).2.sync = machine.sync) := by
  cases op with
  | copy content => exact .inr (.inr ⟨rfl, rfl⟩)
  | receive data =>
      rw [step]
      rcases receive_cases machine data with ⟨valid, receives⟩ | ⟨-, receives⟩
      · rw [receives]
        exact .inl ⟨data, rfl, valid, rfl⟩
      · rw [receives]
        exact .inr (.inr ⟨rfl, rfl⟩)
  | write applied =>
      refine .inr (.inr ⟨rfl, ?_⟩)
      show (machine.write applied).sync = machine.sync
      unfold write
      split <;> rfl
  | poll files text room =>
      unfold step poll
      simp only
      split
      · rename_i copied watch reported
        refine .inr (.inl ⟨copied, _, rfl, ?_⟩)
        unfold ClipboardSync.localChanged Valid
        by_cases remembered : machine.sync.lastApplied = some (asBytes copied)
        · have valid : validatePayload (asBytes copied) = .ok () := sound _ remembered
          simp [valid, remembered]
        · cases checked : validatePayload (asBytes copied) with
          | error refusal => simp [remembered]
          | ok accepted => simp [remembered]
      · exact .inr (.inr ⟨rfl, rfl⟩)

theorem sound_step {machine : Machine} (sound : Sound machine) (op : Op) :
    Sound (step machine op).2 := by
  intro data isData
  rcases step_sync sound op with ⟨received, -, valid, same⟩ | ⟨text, answer, -, -, same⟩ | ⟨-, same⟩
  · rw [same] at isData
    cases isData
    exact valid
  · rw [same] at isData
    split at isData
    · cases isData
    · exact sound data isData
  · rw [same] at isData
    exact sound data isData

theorem sound_exec (content : Content) (ops : List Op) : Sound (exec step (new content) ops) := by
  have keep (machine : Machine) (op : Op) (sound : Sound machine) : Sound (step machine op).2 :=
    sound_step sound op
  have start : Sound (new content) := by
    intro data isData
    cases isData
  exact exec_invariant keep start ops

theorem justReceived_concat {text : String} {run : List MachineEvent} {e : MachineEvent} :
    JustReceived text (run ++ [e]) ↔ e.out = .received (asBytes text) ∨
      JustReceived text run ∧ (∀ data, e.out ≠ .received data) ∧
        ∀ answer, e.out ≠ .fed text answer := by
  constructor
  · rintro ⟨before, d, after, split, received, quiet⟩
    rcases concat_eq_append_cons split with ⟨-, rfl⟩ | ⟨rest, rfl, isRun⟩
    · exact .inl received
    · refine .inr ⟨⟨before, d, rest, isRun, received, ?_⟩, quiet e (by simp)⟩
      intro later member
      exact quiet later (by simp [member])
  · rintro (received | ⟨⟨before, d, rest, rfl, received, quiet⟩, last⟩)
    · exact ⟨run, e, [], rfl, received, by simp⟩
    · refine ⟨before, d, rest ++ [e], by simp, received, ?_⟩
      intro later member
      rcases List.mem_append.mp member with old | new
      · exact quiet later old
      · rw [List.mem_singleton.mp new]
        exact last

/-- The sync state remembers the text received last until a report of it is fed in. -/
theorem lastApplied_iff (content : Content) (ops : List Op) (text : String) :
    (exec step (new content) ops).sync.lastApplied = some (asBytes text) ↔
      JustReceived text (history step (new content) ops) := by
  induction ops using List.reverseRecOn with
  | nil =>
      constructor
      · intro remembered
        cases remembered
      · rintro ⟨before, e, after, split, -⟩
        simp at split
  | append_singleton ops op ih =>
      rw [exec_concat, history_concat, justReceived_concat, ← ih]
      rw [Event.of_out]
      rcases step_sync (sound_exec content ops) op with ⟨data, out, -, same⟩ |
        ⟨fed, answer, out, -, same⟩ | ⟨out, same⟩
      · simp [out, same]
      · rw [out, same]
        by_cases matching : fed = text
        · subst matching
          simp
        · have differs : asBytes fed ≠ asBytes text := fun bytes => matching (asBytes_inj bytes)
          by_cases remembered :
              (exec step (new content) ops).sync.lastApplied = some (asBytes fed)
          · simp [remembered, matching, differs]
          · simp [remembered, matching]
      · simp [out, same]

/-! ## The poll that finds a copy -/

theorem poll_reports_iff (watch : Watch) (found : Option String) (room : Bool) (text : String) :
    (watch.poll true none found room).1 = some (.text text) ↔
      watch.hadBaseline = true ∧ room = true ∧ found = some text ∧ watch.seen ≠ some text := by
  unfold Watch.poll
  grind

/-- What a poll feeds into the sync state is what the thread reports. -/
theorem poll_feeds_iff (machine : Machine) (files read room : Bool) (text : String)
    (answer : Except CoreError (Option (List UInt8))) :
    (machine.poll files read room).1 = .fed text answer ↔
      (machine.watch.poll true (if files then machine.content.files else none)
        (if read then machine.content.text else none) room).1 = some (.text text) ∧
      (machine.sync.localChanged (asBytes text)).1 = answer := by
  unfold poll
  simp only
  generalize machine.watch.poll true (if files then machine.content.files else none)
    (if read then machine.content.text else none) room = polled
  obtain ⟨report, watch⟩ := polled
  cases report with
  | none => simp
  | some change =>
      cases change with
      | files paths => simp
      | text copied =>
          simp only [Happening.fed.injEq, Option.some.injEq, ClipboardChange.text.injEq]
          constructor
          · rintro ⟨rfl, isAnswer⟩
            exact ⟨rfl, isAnswer⟩
          · rintro ⟨rfl, isAnswer⟩
            exact ⟨rfl, isAnswer⟩

/-- A poll that finds a text and no files hands it out exactly if it may travel and neither the
thread nor the sync state takes it for an echo. -/
theorem poll_plain {machine : Machine} {text : String} (there : machine.content = plain text)
    (files read room : Bool) :
    (machine.poll files read room).1 = .fed text (.ok (some (asBytes text))) ↔
      Valid (asBytes text) ∧ machine.watch.hadBaseline = true ∧ (read && room) = true ∧
        machine.watch.seen ≠ some text ∧ machine.sync.lastApplied ≠ some (asBytes text) := by
  have noPaths : (if files then machine.content.files else none) = none := by
    rw [there]
    cases files <;> rfl
  have isFound : (if read then machine.content.text else none) = some text ↔ read = true := by
    rw [there]
    cases read <;> simp [plain]
  have answered : (machine.sync.localChanged (asBytes text)).1 = .ok (some (asBytes text)) ↔
      Valid (asBytes text) ∧ machine.sync.lastApplied ≠ some (asBytes text) := by
    unfold ClipboardSync.localChanged Valid
    cases validatePayload (asBytes text) with
    | error refusal => simp
    | ok accepted =>
        by_cases remembered : machine.sync.lastApplied = some (asBytes text) <;> simp [remembered]
  rw [poll_feeds_iff, noPaths, poll_reports_iff, isFound, answered, Bool.and_eq_true]
  constructor
  · rintro ⟨⟨based, isRoom, isRead, unseen⟩, valid, forgotten⟩
    exact ⟨valid, based, ⟨isRead, isRoom⟩, unseen, forgotten⟩
  · rintro ⟨valid, based, ⟨isRead, isRoom⟩, unseen, forgotten⟩
    exact ⟨⟨based, isRoom, isRead, unseen⟩, valid, forgotten⟩

/-- In every run, the next poll hands a copied text out exactly if the report may travel, the text
is not what the thread looked at last, and the peer did not send it last or a report of it was fed
in since. -/
theorem copy_travels_iff (content : Content) (ops : List Op) :
    ∀ before e after text, history step (new content) ops = before ++ e :: after →
      FindsCopy text before e →
      (e.out = .fed text (.ok (some (asBytes text))) ↔
        MayTravel text before e ∧ lastLook before ≠ some text ∧ ¬JustReceived text before) := by
  intro before e after text split finds
  obtain ⟨first, -, -, rfl, isEvent⟩ := history_split split
  obtain ⟨isPoll, there, -⟩ := finds
  have isPre : e.pre = exec step (new content) first := congrArg Event.pre isEvent
  have isOut : e.out = (step (exec step (new content) first) e.op).1 := congrArg Event.out isEvent
  cases isOp : e.op with
  | receive data | copy placed | write applied =>
      rw [isOp] at isPoll
      cases isPoll
  | poll files read room =>
      rw [isPre] at there
      rw [isOut, isOp, step, poll_plain there, seen_eq_lastLook,
        hadBaseline_iff, Ne, Ne, lastApplied_iff]
      constructor
      · rintro ⟨valid, based, smooth, unseen, forgotten⟩
        exact ⟨⟨valid, based, by rw [isOp]; exact smooth⟩, unseen, forgotten⟩
      · rintro ⟨⟨valid, based, smooth⟩, unseen, forgotten⟩
        rw [isOp] at smooth
        exact ⟨valid, based, smooth, unseen, forgotten⟩

/-- The peer sends `a`, and what the person copies after that travels. -/
theorem copy_after_receiving_travels :
    (step (exec step (new (plain "old"))
        [.poll true true true, .receive (asBytes "a"), .write true, .copy (plain "b")])
      (.poll true true true)).1 = .fed "b" (.ok (some (asBytes "b"))) := by
  let ops : List Op := [.poll true true true, .receive (asBytes "a"), .write true, .copy (plain "b")]
  let run := history step (new (plain "old")) ops
  have forgotten : ¬JustReceived "b" run :=
    (lastApplied_iff (plain "old") ops "b").not.mp (by decide)
  exact (copy_travels_iff (plain "old") (ops ++ [.poll true true true]) run _ [] "b" rfl
    ⟨rfl, rfl, run.take 3, _, [], rfl, rfl, by decide, by simp⟩).mpr
      ⟨⟨rfl, ⟨_, List.mem_cons_self .., rfl⟩, rfl⟩, by decide, forgotten⟩

/-- The peer sends `a`, the person copies `b`, which travels, and then `a`, which is held back
though its echo is long over. -/
theorem not_copy_travels :
    ¬ ∀ (content : Content) (ops : List Op) before e after text,
      history step (new content) ops = before ++ e :: after → FindsCopy text before e →
        MayTravel text before e → e.out = .fed text (.ok (some (asBytes text))) := by
  intro all
  let ops : List Op := [.poll true true true, .receive (asBytes "a"), .write true,
    .copy (plain "b"), .poll true true true, .copy (plain "a"), .poll true true true]
  let run := history step (new (plain "")) ops
  have travels := all (plain "") ops (run.take 6) _ [] "a" rfl
    ⟨rfl, rfl, run.take 5, _, [], rfl, rfl, by decide, by simp⟩
    ⟨rfl, ⟨_, List.mem_cons_self .., rfl⟩, rfl⟩
  exact absurd travels (by decide)

end Lumepeer.Runtime.ClipboardOs.Machine
