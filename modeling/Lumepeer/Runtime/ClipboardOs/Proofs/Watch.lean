import Lumepeer.Runtime.ClipboardOs

/-!
# What the watch reports

Content is fresh if it was placed while the watch was on and has been on since.
The baseline protects content that is not fresh: the loop has seen it and does
not report it. The protection is lost where a poll finds the watch on again
without having found it off and the content is not what the loop saw last, and
where a read of such content fails, since what the loop then forgets looks new
to it later.
-/

namespace Lumepeer.Runtime.ClipboardOs
open Lumepeer.Lib

namespace World

/-- The content was placed since the watch was last turned on, and the watch is on. -/
def Fresh (world : World) : Prop := world.watching = true ∧ world.onSince ≤ world.placed

/-- What a step reports was placed since the watch was last turned on, and the watch is on. -/
def Discreet (e : Event World Op (Option (ClipboardChange × Nat))) : Prop :=
  ∀ change placed, e.out = some (change, placed) → e.pre.watching = true ∧ e.pre.onSince ≤ placed

/-- The loop has seen the content: the files, or the text where there are none. -/
def Known (world : World) : Prop :=
  world.watch.seenFiles = world.content.files ∧
    (world.content.files = none → world.watch.seen = world.content.text)

/-- The watch is turned on only where the loop keeps no baseline from before it was turned off, or has
seen the content; and in a watched poll of content that is not fresh and stays, the files are read,
and the text is for the baseline if there are no files. -/
def Allowed (world : World) : Op → Prop
  | .setWatching on =>
      on = true → world.watching = false → world.watch.hadBaseline = false ∨ world.Known
  | .poll reads =>
      world.watching = true → ¬world.Fresh → reads.between = none →
        (reads.files = true ∨ world.content.files = none) ∧
          (reads.text = true ∨ world.content.text = none ∨ world.watch.hadBaseline = true ∨
            world.content.files ≠ none)
  | _ => True

/-- What is not fresh is the baseline. -/
structure Guarded (world : World) : Prop where
  onSince_le : world.onSince ≤ world.now
  known : world.watching = true → world.watch.hadBaseline = true → ¬world.Fresh → world.Known

/-! ## One step -/

section
variable {world : World}

theorem fresh_place (guarded : Guarded world) (watching : world.watching = true) (content : Content) :
    (world.place content).Fresh :=
  ⟨watching, guarded.onSince_le⟩

/-- Placing content leaves nothing to guard. -/
theorem guarded_place (guarded : Guarded world) (content : Content) (watch : Watch) :
    Guarded { world.place content with watch := watch } where
  onSince_le := guarded.onSince_le
  known watching _ stale := absurd (fresh_place guarded watching content) stale

theorem guarded_tick (guarded : Guarded world) : Guarded { world with now := world.now + 1 } where
  onSince_le := Nat.le_succ_of_le guarded.onSince_le
  known := guarded.known

theorem guarded_setWatching (guarded : Guarded world) {on : Bool}
    (allowed : Allowed world (.setWatching on)) : Guarded (world.setWatching on) where
  onSince_le := by
    unfold setWatching
    dsimp only
    split
    · exact Nat.le_refl _
    · exact guarded.onSince_le
  known := by
    intro isOn based stale
    have isOn : on = true := isOn
    subst isOn
    by_cases was : world.watching = true
    · have same : world.setWatching true = world := by
        cases world
        simp_all [setWatching]
      rw [same] at stale ⊢
      exact guarded.known was based stale
    · rw [Bool.not_eq_true] at was
      rcases allowed rfl was with none | known
      · exact absurd (none.symm.trans based) (by simp)
      · exact known

/-- A poll reports nothing that is the baseline, and keeps the baseline. -/
theorem poll_baseline {watch : Watch} {content : Content} {text : Option String} {room : Bool}
    (known : watch.hadBaseline = true →
      watch.seenFiles = content.files ∧ (content.files = none → watch.seen = content.text))
    (read : text = content.text ∨
      text = none ∧ (watch.hadBaseline = true ∨ content.files ≠ none)) :
    (watch.poll true content.files text room).1 = none ∧
      (watch.poll true content.files text room).2.seenFiles = content.files ∧
      (content.files = none → (watch.poll true content.files text room).2.seen = content.text) := by
  unfold Watch.poll
  cases first : watch.hadBaseline with
  | false =>
      refine ⟨rfl, rfl, fun noFiles => ?_⟩
      rcases read with isText | ⟨-, based | files⟩
      · exact isText
      · exact absurd (first.symm.trans based) (by simp)
      · exact absurd noFiles files
  | true =>
      obtain ⟨sameFiles, sameText⟩ := known first
      cases isFiles : content.files with
      | some paths => simp [sameFiles, isFiles]
      | none =>
          have same := sameText isFiles
          rcases read with rfl | ⟨rfl, -⟩
          · cases isText : content.text <;> simp [same, isText]
          · simp [same]

/-- A poll reports files only where it read some that are not the baseline. -/
theorem poll_files {watch : Watch} {watching : Bool} {files : Option (List String)}
    {text : Option String} {room : Bool} {paths : List String}
    (report : (watch.poll watching files text room).1 = some (.files paths)) :
    watching = true ∧ watch.hadBaseline = true ∧ files = some paths ∧ watch.seenFiles ≠ files := by
  unfold Watch.poll at report
  grind

/-- ... and text only where it read no files and a text that is not the baseline. -/
theorem poll_text {watch : Watch} {watching : Bool} {files : Option (List String)}
    {text : Option String} {room : Bool} {copied : String}
    (report : (watch.poll watching files text room).1 = some (.text copied)) :
    watching = true ∧ watch.hadBaseline = true ∧ files = none ∧ text = some copied ∧
      watch.seen ≠ text := by
  unfold Watch.poll at report
  grind

/-- A poll that is allowed finds content that is not fresh and stays as the baseline has it. -/
theorem poll_of_stale (guarded : Guarded world) {reads : Reads}
    (allowed : Allowed world (.poll reads)) (watching : world.watching = true)
    (stale : ¬world.Fresh) (stays : reads.between = none) :
    (world.poll reads).1 = none ∧ (world.poll reads).2.Known := by
  obtain ⟨readFiles, readText⟩ := allowed watching stale stays
  have files : (if reads.files then world.content.files else none) = world.content.files := by
    rcases readFiles with isRead | noFiles
    · rw [isRead, if_pos rfl]
    · rw [noFiles, ite_self]
  have text : (if reads.text then world.content.text else none) = world.content.text ∨
      (if reads.text then world.content.text else none) = none ∧
        (world.watch.hadBaseline = true ∨ world.content.files ≠ none) := by
    cases isRead : reads.text with
    | true => exact .inl rfl
    | false =>
        rw [isRead] at readText
        rcases readText with isRead | noText | either
        · cases isRead
        · exact .inl noText.symm
        · exact .inr ⟨rfl, either⟩
  obtain ⟨silent, known⟩ := @poll_baseline world.watch world.content _ reads.room
    (fun based => guarded.known watching based stale) text
  simp only [poll, readingText, stays, files, watching]
  exact ⟨by rw [silent]; rfl, known⟩

theorem guarded_poll (guarded : Guarded world) {reads : Reads}
    (allowed : Allowed world (.poll reads)) : Guarded (world.poll reads).2 := by
  cases between : reads.between with
  | some content =>
      simp only [poll, readingText, between]
      exact guarded_place guarded content _
  | none =>
      have same : (world.poll reads).2 = { world with watch := (world.poll reads).2.watch } := by
        simp only [poll, readingText, between]
      rw [same]
      refine { onSince_le := guarded.onSince_le, known := ?_ }
      intro watching _ stale
      rw [← same]
      exact (poll_of_stale guarded allowed watching stale between).2

theorem discreet_poll (guarded : Guarded world) {reads : Reads}
    (allowed : Allowed world (.poll reads)) {change : ClipboardChange} {placed : Nat}
    (report : (world.poll reads).1 = some (change, placed)) :
    world.watching = true ∧ world.onSince ≤ placed := by
  have reported := report
  simp only [poll, Option.map_eq_some_iff] at reported
  obtain ⟨found, reported, isReport⟩ := reported
  have watching : world.watching = true := by
    cases found with
    | files paths => exact (poll_files reported).1
    | text copied => exact (poll_text reported).1
  cases between : reads.between with
  | none =>
      by_cases fresh : world.Fresh
      · have isPlaced : placed = world.placed := by
          cases found with
          | files paths => exact (Prod.mk.inj isReport).2.symm
          | text copied =>
              simp only [readingText, between] at isReport
              exact (Prod.mk.inj isReport).2.symm
        rw [isPlaced]
        exact fresh
      · rw [(poll_of_stale guarded allowed watching fresh between).1] at report
        cases report
  | some content =>
      cases found with
      | files paths =>
          obtain ⟨-, based, isRead, unseen⟩ := poll_files reported
          obtain ⟨-, rfl⟩ := Prod.mk.inj isReport
          by_cases fresh : world.Fresh
          · exact fresh
          · have files : (if reads.files then world.content.files else none) =
                world.content.files := by
              cases readFiles : reads.files with
              | true => rfl
              | false =>
                  rw [readFiles] at isRead
                  cases isRead
            rw [files] at unseen
            exact absurd (guarded.known watching based fresh).1 unseen
      | text copied =>
          obtain ⟨-, rfl⟩ := Prod.mk.inj isReport
          simp only [readingText, between]
          exact fresh_place guarded watching content

/-- Every step that is allowed keeps the guard. -/
theorem guarded_step {op : Op} (guarded : Guarded world) (allowed : Allowed world op) :
    Guarded (step world op).2 := by
  cases op with
  | copy content => exact guarded_tick (guarded_place guarded content world.watch)
  | setWatching on => exact guarded_tick (guarded_setWatching guarded allowed)
  | write text applied =>
      cases applied with
      | true => exact guarded_tick (guarded_place guarded _ _)
      | false => exact guarded_tick guarded
  | writeFiles paths applied =>
      cases applied with
      | true => exact guarded_tick (guarded_place guarded _ _)
      | false => exact guarded_tick guarded
  | poll reads => exact guarded_tick (guarded_poll guarded allowed)

theorem discreet_step {op : Op} (guarded : Guarded world) (allowed : Allowed world op) :
    Discreet (Event.of step world op) := by
  intro change placed report
  cases op with
  | poll reads => exact discreet_poll guarded allowed report
  | _ => cases report

end

/-! ## Whole runs -/

/-- In every run in which the watch is turned on only after a poll has found it off or where the
content is what the loop saw last, and no read that a watched poll needs fails on content that is not
fresh, everything reported was placed while the watch was on and has been on since. -/
theorem reports_only_what_was_copied_while_watched (content : Content) (ops : List Op)
    (allowed : ∀ e ∈ history step (new content) ops, Allowed e.pre e.op) :
    ∀ e ∈ history step (new content) ops, Discreet e := by
  have start : Guarded (new content) :=
    { onSince_le := Nat.zero_le _, known := fun watching => absurd watching (by simp [new]) }
  intro e member
  have guarded := (history_induction (fun _ _ => guarded_step) start allowed e member).1
  rw [eq_of_mem_history member]
  exact discreet_step guarded (allowed e member)

/-- A poll without trouble. -/
def easily : Reads := { files := true, between := none, text := true, room := true }

/-- The watch is turned on, the baseline is taken, a text read fails, and the next copy is
reported. -/
theorem copied_while_watched_reported :
    let events := history step (new { text := some "old", files := none })
      [.setWatching true, .poll easily, .poll { easily with text := false },
        .copy { text := some "new", files := none }, .poll easily]
    events ≠ [] ∧ ∀ e ∈ events, Discreet e := by
  refine ⟨List.cons_ne_nil _ _, ?_⟩
  apply reports_only_what_was_copied_while_watched
  simp [Allowed, Event.of, step, setWatching, poll, readingText, place, easily, new, Watch.new,
    Watch.poll, Fresh]

/-- Off and on again between two polls: what was copied meanwhile is reported. -/
theorem toggle_between_polls_reports :
    ¬∀ (content : Content) (ops : List Op), ∀ e ∈ history step (new content) ops, Discreet e := by
  intro all
  let ops : List Op := [.setWatching true, .poll easily, .setWatching false,
    .copy { text := some "secret", files := none }, .setWatching true]
  have reported := all { text := none, files := none } (ops ++ [.poll easily])
    (Event.of step (exec step (new { text := none, files := none }) ops) (.poll easily))
    (by simp [history_append])
  exact absurd (reported (.text "secret") 4 rfl).2 (by decide)

end World

end Lumepeer.Runtime.ClipboardOs
