import Lumepeer.Runtime.Network.Proofs.TerminalWindows

/-!
# Shells and windows over whole runs
-/

namespace Lumepeer.Runtime
open Lumepeer.Lib Lumepeer.Core

namespace Terminals

section inUse

/-- Where a number is in use. -/
theorem mem_inUse {state : Terminals} {entry : ShellId × Ask} :
    entry ∈ state.inUse ↔
      state.host.shells.lookup entry.1 = some entry.2
        ∨ entry ∈ state.host.readers
        ∨ entry ∈ state.frames.filterMap ofFrame
        ∨ entry ∈ state.toGuest.filterMap ofMessage
        ∨ (∃ window, state.guest.shellWindows.lookup entry.1 = some ⟨window, entry.2⟩)
        ∨ ∃ window, entry ∈ (state.guest.pending window).filterMap ofRecord := by
  obtain ⟨shell, ask⟩ := entry
  have running : (shell, ask) ∈ state.host.shells.entries.map (fun entry => (entry.1, entry.2)) ↔
      state.host.shells.lookup shell = some ask := by
    rw [← Option.mem_def, AList.mem_lookup_iff]
    constructor
    · intro member
      obtain ⟨⟨_, _⟩, stored, same⟩ := List.mem_map.mp member
      cases same
      exact stored
    · exact fun stored => List.mem_map.mpr ⟨_, stored, rfl⟩
  have held : (shell, ask) ∈
      state.guest.shellWindows.entries.map (fun entry => (entry.1, entry.2.ask)) ↔
        ∃ window, state.guest.shellWindows.lookup shell = some ⟨window, ask⟩ := by
    constructor
    · intro member
      obtain ⟨⟨_, window, _⟩, stored, same⟩ := List.mem_map.mp member
      cases same
      exact ⟨window, AList.mem_lookup_iff.mpr stored⟩
    · rintro ⟨window, found⟩
      exact List.mem_map.mpr ⟨⟨shell, window, ask⟩, AList.mem_lookup_iff.mp found, rfl⟩
  have unread : (∃ window, (shell, ask) ∈ (state.guest.pending window).filterMap ofRecord) ↔
      (shell, ask) ∈ (state.guest.pending .session).filterMap ofRecord
        ∨ (shell, ask) ∈ (state.guest.pending .beside).filterMap ofRecord := by
    constructor
    · rintro ⟨_ | _, member⟩
      · exact .inl member
      · exact .inr member
    · rintro (member | member)
      · exact ⟨_, member⟩
      · exact ⟨_, member⟩
  simp only [inUse, List.mem_append, running, held, unread, or_assoc]

theorem inUse_of_running {state : Terminals} {entry : ShellId × Ask}
    (running : state.host.shells.lookup entry.1 = some entry.2) : entry ∈ state.inUse :=
  mem_inUse.mpr (.inl running)

theorem inUse_of_reader {state : Terminals} {entry : ShellId × Ask}
    (reader : entry ∈ state.host.readers) : entry ∈ state.inUse :=
  mem_inUse.mpr (.inr (.inl reader))

theorem inUse_of_frame {state : Terminals} {entry : ShellId × Ask}
    (framed : entry ∈ state.frames.filterMap ofFrame) : entry ∈ state.inUse :=
  mem_inUse.mpr (.inr (.inr (.inl framed)))

theorem inUse_of_message {state : Terminals} {entry : ShellId × Ask}
    (sent : entry ∈ state.toGuest.filterMap ofMessage) : entry ∈ state.inUse :=
  mem_inUse.mpr (.inr (.inr (.inr (.inl sent))))

theorem inUse_of_held {state : Terminals} {entry : ShellId × Ask} {window : TerminalWindow}
    (held : state.guest.shellWindows.lookup entry.1 = some ⟨window, entry.2⟩) :
    entry ∈ state.inUse :=
  mem_inUse.mpr (.inr (.inr (.inr (.inr (.inl ⟨window, held⟩)))))

theorem inUse_of_unread {state : Terminals} {entry : ShellId × Ask} {window : TerminalWindow}
    (unread : entry ∈ (state.guest.pending window).filterMap ofRecord) : entry ∈ state.inUse :=
  mem_inUse.mpr (.inr (.inr (.inr (.inr (.inr ⟨window, unread⟩)))))

theorem mem_unread_queueTerminal {guest : TerminalGuest} {window which : TerminalWindow}
    {record : TerminalRecord} {entry : ShellId × Ask}
    (member : entry ∈ ((guest.queueTerminal window record).pending which).filterMap ofRecord) :
    entry ∈ (guest.pending which).filterMap ofRecord ∨ ofRecord record = some entry := by
  obtain ⟨found, queued, isEntry⟩ := List.mem_filterMap.mp member
  rcases List.mem_append.mp ((TerminalGuest.queueTerminal_pending_sublist which).subset queued)
    with old | new
  · exact .inl (List.mem_filterMap.mpr ⟨found, old, isEntry⟩)
  · split at new
    · exact .inr (List.mem_singleton.mp new ▸ isEntry)
    · exact absurd new List.not_mem_nil

/-- A step of the guest uses no other number, where what it has on record and what it queues does
not. -/
theorem inUse_of_guest {state state' : Terminals} (host : state'.host = state.host)
    (frames : state'.frames ⊆ state.frames) (toGuest : state'.toGuest ⊆ state.toGuest)
    (held : ∀ entry window, state'.guest.shellWindows.lookup entry.1 = some ⟨window, entry.2⟩ →
      entry ∈ state.inUse)
    (unread : ∀ entry window, entry ∈ (state'.guest.pending window).filterMap ofRecord →
      entry ∈ state.inUse) : ∀ entry ∈ state'.inUse, entry ∈ state.inUse := by
  intro entry member
  rcases mem_inUse.mp member with running | reader | framed | sent | ⟨_, isHeld⟩ | ⟨_, isUnread⟩
  · exact inUse_of_running (host ▸ running)
  · exact inUse_of_reader (host ▸ reader)
  · exact inUse_of_frame (List.filterMap_subset ofFrame frames framed)
  · exact inUse_of_message (List.filterMap_subset ofMessage toGuest sent)
  · exact held entry _ isHeld
  · exact unread entry _ isUnread

end inUse

section sound
variable {state : Terminals}

theorem Seen.of_subset {state' : Terminals} {ask : Ask} (seen : state'.Seen ask)
    (awaited : state'.awaited ⊆ state.awaited) (inUse : state'.inUse ⊆ state.inUse)
    (opened : state'.guest.opened ⊆ state.guest.opened) (printed : state'.printed ⊆ state.printed) :
    state.Seen ask := by
  rcases seen with waits | ⟨shell, used⟩ | ⟨shell, isOpen⟩ | ⟨payload, wasPrinted⟩
  · exact .inl (awaited waits)
  · exact .inr (.inl ⟨shell, inUse used⟩)
  · exact .inr (.inr (.inl ⟨shell, opened isOpen⟩))
  · exact .inr (.inr (.inr ⟨payload, printed wasPrinted⟩))

theorem expected_congr (guest : TerminalGuest) {guest' : TerminalGuest}
    (same : guest'.openings = guest.openings) : expected guest' = expected guest := by
  funext ask
  unfold expected
  exact if_congr (by rw [TerminalGuest.Current, TerminalGuest.Current, same]) rfl rfl

theorem sound_new : Sound {} := by
  refine ⟨⟨?_, ?_, fun _ => openedFirst_nil, fun _ _ => Nat.zero_le _, ?_⟩, rfl, ?_, ?_, ?_, ?_, rfl⟩
  · exact fun _ _ member => absurd member List.not_mem_nil
  · exact fun _ member => absurd member List.not_mem_nil
  · exact fun _ _ onRecord => (by cases onRecord)
  · exact fun _ member => absurd member List.not_mem_nil
  · rintro ask (member | ⟨_, member⟩ | ⟨_, member⟩ | ⟨_, member⟩) <;>
      exact absurd member List.not_mem_nil
  · exact fun _ _ found => (by cases found)
  · exact fun _ _ member => absurd member List.not_mem_nil

theorem guestSends_nil : state.guestSends ([], state.guest) = state := by
  simp [guestSends]

theorem sound_opens (sound : Sound state) (window : TerminalWindow) (cols rows : UInt16) :
    Sound (state.guestSends (state.guest.onTerminalOpen window cols rows)) := by
  unfold TerminalGuest.onTerminalOpen
  split
  · rw [guestSends_nil]
    exact sound
  · split
    · rw [guestSends_nil]
      exact sound
    · have awaits : ∀ asks asked message,
          (state.guestSends ([.openRequest cols rows message], { state.guest with asks, asked })).awaited
            = state.awaited ++ [message] := by
        intro asks asked message
        simp [guestSends, awaited]
      refine ⟨sound.told.congr rfl rfl rfl (fun _ _ found => found), ?_, sound.agree, ?_, ?_,
        sound.gone, sound.speaks⟩
      · rw [awaits, List.map_append, expected_congr state.guest, ← sound.paired]
        · simp [guestSends, expected, TerminalGuest.Current]
        · rfl
      · rintro ask (member | older)
        · rw [awaits] at member
          rcases List.mem_append.mp member with old | new
          · exact sound.born ask (.inl old)
          · obtain rfl := List.mem_singleton.mp new
            exact Nat.le_refl _
        · exact sound.born ask (.inr older)
      · intro shell ask found
        rcases sound.running shell ask found with answered | closing | held
        · exact .inl answered
        · exact .inr (.inl (List.mem_append_left _ closing))
        · exact .inr (.inr held)

theorem sound_drains (sound : Sound state) {window : TerminalWindow}
    (counted : (state.guest.pending window).length < 2 ^ 16) :
    Sound (state.step (.drains window)).2 := by
  have fewer : ∀ entry ∈ (state.step (.drains window)).2.inUse, entry ∈ state.inUse := by
    refine inUse_of_guest rfl (fun _ => id) (fun _ => id) (fun _ _ held => inUse_of_held held)
      fun entry which unread => ?_
    · simp only [step, TerminalGuest.terminalDrain, Function.update_apply] at unread
      split at unread
      · exact absurd unread List.not_mem_nil
      · exact inUse_of_unread unread
  refine ⟨sound.told.drained counted, sound.paired,
    fun p isP q isQ => sound.agree p (fewer p isP) q (fewer q isQ), ?_, sound.running, sound.gone,
    sound.speaks⟩
  exact fun ask seen => sound.born ask (seen.of_subset (fun _ => id) fewer (fun _ => id) (fun _ => id))

theorem sound_closes (sound : Sound state) {shell : ShellId} {ask : Ask}
    (isAsk : state.guest.opened.lookup shell = some ask) (known : state.guest.Known shell ask) :
    Sound (state.guestSends (state.guest.onTerminalClose shell)) := by
  have agree : ∀ held, state.guest.shellWindows.lookup shell = some held → held.ask = ask := by
    intro held onRecord
    exact Option.some.inj ((sound.told.held shell held onRecord).2.2.symm.trans isAsk)
  have fewer : ∀ entry ∈ (state.guestSends (state.guest.onTerminalClose shell)).inUse,
      entry ∈ state.inUse := by
    refine inUse_of_guest rfl (fun _ => id) (fun _ => id) (fun entry _ held => ?_)
      fun entry _ unread => ?_
    · exact inUse_of_held (lookup_of_lookup_erase held).2
    · rcases mem_unread_queueTerminal unread with old | new
      · exact inUse_of_unread old
      · cases new
  have awaits : (state.guestSends (state.guest.onTerminalClose shell)).awaited = state.awaited := by
    simp [awaited, guestSends, TerminalGuest.onTerminalClose]
  refine ⟨?_, ?_, fun p isP q isQ => sound.agree p (fewer p isP) q (fewer q isQ), ?_, ?_, sound.gone,
    sound.speaks⟩
  · simp only [guestSends, TerminalGuest.onTerminalClose, isAsk]
    exact sound.told.closed known agree
  · rw [awaits, expected_congr state.guest]
    · exact sound.paired
    · rfl
  · intro which seen
    exact sound.born which
      (seen.of_subset (by rw [awaits]; exact fun _ => id) fewer (fun _ => id) (fun _ => id))
  · intro which owner found
    rcases sound.running which owner found with answered | closing | held
    · exact .inl answered
    · exact .inr (.inl (List.mem_append_left _ closing))
    · by_cases same : which = shell
      · subst same
        exact .inr (.inl (List.mem_append_right _ List.mem_cons_self))
      · refine .inr (.inr ?_)
        show (AList.lookup which (state.guest.shellWindows.erase shell)).isSome
        rw [HashMap.lookup_erase_eq, if_neg same]
        exact held

theorem sound_windowCloses (sound : Sound state) (window : TerminalWindow) :
    Sound (state.step (.windowCloses window)).2 := by
  have fewer : ∀ entry ∈ (state.step (.windowCloses window)).2.inUse, entry ∈ state.inUse := by
    refine inUse_of_guest rfl (fun _ => id) (fun _ => id) (fun entry _ held => ?_)
      fun entry _ unread => ?_
    · simp only [step, guestSends, TerminalGuest.onTerminalWindowClosed, HashMap.lookup_retain,
        Option.filter_eq_some_iff] at held
      exact inUse_of_held held.1
    · simp only [step, guestSends, TerminalGuest.onTerminalWindowClosed, Function.update_apply]
        at unread
      split at unread
      · exact absurd unread List.not_mem_nil
      · exact inUse_of_unread unread
  have awaits : (state.step (.windowCloses window)).2.awaited = state.awaited := by
    simp only [awaited, step, guestSends, TerminalGuest.onTerminalWindowClosed, List.filterMap_append]
    rw [List.append_cancel_left_eq, List.filterMap_map]
    simp
  refine ⟨?_, ?_, fun p isP q isQ => sound.agree p (fewer p isP) q (fewer q isQ), ?_, ?_, sound.gone,
    sound.speaks⟩
  · apply sound.told.windowClosed
    exact fun entry member => sound.born entry.2 (.inr (.inr (.inl ⟨entry.1, member⟩)))
  · rw [awaits]
    simp only [step, guestSends, TerminalGuest.onTerminalWindowClosed]
    rw [sound.paired, List.map_map]
    apply List.map_congr_left
    intro ask waits
    have bound := sound.born ask (.inl waits)
    simp only [Function.comp_apply, expected, TerminalGuest.Current, Function.update_apply]
    by_cases same : ask.window = window
    · subst same
      rw [if_pos rfl, if_neg (show ¬ ask.opening = _ by omega)]
      by_cases current : ask.opening = state.guest.openings ask.window <;> simp [current]
    · rw [if_neg same]
      by_cases current : ask.opening = state.guest.openings ask.window <;> simp [current, same]
  · intro which seen
    have bound := sound.born which
      (seen.of_subset (by rw [awaits]; exact fun _ => id) fewer (fun _ => id) (fun _ => id))
    simp only [step, guestSends, TerminalGuest.onTerminalWindowClosed, Function.update_apply]
    split
    next same =>
      rw [same] at bound
      omega
    next => exact bound
  · intro which owner found
    rcases sound.running which owner found with answered | closing | onRecord
    · exact .inl answered
    · exact .inr (.inl (List.mem_append_left _ closing))
    · obtain ⟨held, isHeld⟩ := Option.isSome_iff_exists.mp onRecord
      by_cases same : held.window = window
      · refine .inr (.inl (List.mem_append_right _ ?_))
        apply List.mem_map_of_mem
        refine List.mem_map.mpr ⟨⟨which, held⟩, List.mem_filter.mpr ⟨AList.mem_lookup_iff.mp isHeld, ?_⟩, rfl⟩
        simpa using same
      · refine .inr (.inr ?_)
        simp only [step, guestSends, TerminalGuest.onTerminalWindowClosed, HashMap.lookup_retain,
          isHeld]
        simp [same]

/-- What the answer to the oldest ask does. -/
theorem onTerminalOpenResponse_eq (sound : Sound state) {ask : Ask} {awaits : List Ask}
    (oldest : state.awaited = ask :: awaits) (shell : ShellId) (refused : Option TerminalRefusal) :
    state.guest.onTerminalOpenResponse shell refused ask =
      if state.guest.Current ask then
        match refused with
        | some reason =>
            ([], { state.guest with asks := state.guest.asks.tail }.queueTerminal ask.window
              { shell := 0, event := terminalRefusalEvent reason, payload := [], ask := some ask })
        | none =>
            ([], { state.guest with
              asks := state.guest.asks.tail
              dialed := true
              shellWindows := state.guest.shellWindows.insert shell { window := ask.window, ask }
              opened := (shell, ask) :: state.guest.opened }.queueTerminal ask.window
                { shell, event := terminalEventOpened, payload := [], ask := some ask })
      else (if refused.isNone then [.close shell] else [],
        { state.guest with asks := state.guest.asks.tail }) := by
  have front : state.guest.asks.head?.getD (some default) = expected state.guest ask := by
    rw [sound.paired, oldest]
    rfl
  unfold TerminalGuest.onTerminalOpenResponse
  simp only [front, expected]
  by_cases current : state.guest.Current ask
  · cases refused <;> simp [current]
  · cases refused <;> simp [current]

/-- The answer to the oldest ask is read, and what the guest makes of it opens no other shell and
forgets none: a shell that was started is on record, or is closed again. -/
theorem sound_of_answer (sound : Sound state) {shell : ShellId} {refused : Option TerminalRefusal}
    {ask : Ask} {rest : List ToGuest} {sent : List ToHost} {guest : TerminalGuest}
    (next : state.toGuest = .openResponse shell refused ask :: rest)
    (told : Told guest state.read) (asks : guest.asks = state.guest.asks.tail)
    (openings : guest.openings = state.guest.openings)
    (closes : sent = [] ∨ sent = [.close shell])
    (held : ∀ which window, guest.shellWindows.lookup which.1 = some ⟨window, which.2⟩ →
      state.guest.shellWindows.lookup which.1 = some ⟨window, which.2⟩ ∨
        refused = none ∧ which = (shell, ask))
    (unread : ∀ entry window, entry ∈ (guest.pending window).filterMap ofRecord →
      entry ∈ (state.guest.pending window).filterMap ofRecord)
    (opened : ∀ entry ∈ guest.opened, entry ∈ state.guest.opened ∨ entry.2 = ask)
    (keeps : ∀ which, (state.guest.shellWindows.lookup which).isSome →
      (guest.shellWindows.lookup which).isSome)
    (runs : refused = none → .close shell ∈ sent ∨ (guest.shellWindows.lookup shell).isSome) :
    Sound ({ state with toGuest := rest }.guestSends (sent, guest)) := by
  have oldest : state.awaited = ask :: { state with toGuest := rest }.awaited := by
    simp [awaited, next]
  have others : rest ⊆ state.toGuest := by
    rw [next]
    exact List.subset_cons_self _ _
  have fewer : ∀ entry ∈ ({ state with toGuest := rest }.guestSends (sent, guest)).inUse,
      entry ∈ state.inUse := by
    refine inUse_of_guest rfl (fun _ => id) others (fun entry window isHeld => ?_)
      fun entry window isUnread => inUse_of_unread (unread entry window isUnread)
    rcases held entry window isHeld with old | ⟨rfl, rfl⟩
    · exact inUse_of_held old
    · apply inUse_of_message
      rw [next]
      exact List.mem_cons_self
  have awaits : ({ state with toGuest := rest }.guestSends (sent, guest)).awaited =
      { state with toGuest := rest }.awaited := by
    rcases closes with rfl | rfl <;> simp [awaited, guestSends]
  refine ⟨told, ?_, fun p isP q isQ => sound.agree p (fewer p isP) q (fewer q isQ), ?_, ?_, ?_,
    sound.speaks⟩
  · rw [awaits]
    show guest.asks = _
    rw [asks, sound.paired, oldest, ← expected_congr state.guest openings]
    rfl
  · show ∀ which : Ask, _ → which.opening ≤ guest.openings which.window
    rw [openings]
    rintro which (waits | ⟨used, isUsed⟩ | ⟨other, isOpen⟩ | wasPrinted)
    · rw [awaits] at waits
      exact sound.born which (.inl (by rw [oldest]; exact List.mem_cons_of_mem _ waits))
    · exact sound.born which (.inr (.inl ⟨used, fewer _ isUsed⟩))
    · rcases opened _ isOpen with old | rfl
      · exact sound.born which (.inr (.inr (.inl ⟨other, old⟩)))
      · exact sound.born _ (.inl (by rw [oldest]; exact List.mem_cons_self))
    · exact sound.born which (.inr (.inr (.inr wasPrinted)))
  · intro which owner found
    rcases sound.running which owner found with answered | closing | isHeld
    · rw [next] at answered
      rcases List.mem_cons.mp answered with isThis | later
      · cases isThis
        rcases runs rfl with closed | isHeld
        · exact .inr (.inl (List.mem_append_right _ closed))
        · exact .inr (.inr isHeld)
      · exact .inl later
    · exact .inr (.inl (List.mem_append_left _ closing))
    · exact .inr (.inr (keeps which isHeld))
  · exact fun which owner member => sound.gone which owner (others member)

theorem sound_answered (sound : Sound state) {shell : ShellId} {refused : Option TerminalRefusal}
    {ask : Ask} {rest : List ToGuest} (next : state.toGuest = .openResponse shell refused ask :: rest) :
    Sound ({ state with toGuest := rest }.guestSends
      (state.guest.onTerminalOpenResponse shell refused ask)) := by
  have oldest : state.awaited = ask :: { state with toGuest := rest }.awaited := by
    simp [awaited, next]
  have told : Told { state.guest with asks := state.guest.asks.tail } state.read :=
    sound.told.congr rfl rfl rfl (fun _ _ found => found)
  rw [onTerminalOpenResponse_eq sound oldest]
  split
  next current =>
    cases refused with
    | some reason =>
        apply sound_of_answer sound next (told.refused current reason) rfl rfl
        · exact .inl rfl
        · exact fun _ _ => .inl
        · intro entry window unread
          rcases mem_unread_queueTerminal unread with old | new
          · exact old
          · simp [ofRecord, terminalRefusalEvent_ne] at new
        · exact fun _ => .inl
        · exact fun _ => id
        · exact fun started => by cases started
    | none =>
        apply sound_of_answer sound next (told.opened current) rfl rfl
        · exact .inl rfl
        · intro which window isHeld
          rw [TerminalGuest.queueTerminal_shellWindows, HashMap.lookup_insert_eq] at isHeld
          split at isHeld
          · rename_i same
            cases isHeld
            exact .inr ⟨rfl, Prod.ext same rfl⟩
          · exact .inl isHeld
        · intro entry window unread
          rcases mem_unread_queueTerminal unread with old | new
          · exact old
          · cases new
        · intro entry isOpen
          rcases List.mem_cons.mp isOpen with rfl | old
          · exact .inr rfl
          · exact .inl old
        · intro which isHeld
          rw [TerminalGuest.queueTerminal_shellWindows, HashMap.lookup_insert_eq]
          split
          · rfl
          · exact isHeld
        · exact fun _ => .inr (by
            rw [TerminalGuest.queueTerminal_shellWindows, AList.lookup_insert]
            rfl)
  next =>
    apply sound_of_answer sound next told rfl rfl
    · split
      · exact .inr rfl
      · exact .inl rfl
    · exact fun _ _ => .inl
    · exact fun _ _ => id
    · exact fun _ => .inl
    · exact fun _ => id
    · rintro rfl
      exact .inl List.mem_cons_self

/-- The end of a shell is read. -/
theorem sound_closeRead (sound : Sound state) {shell : ShellId} {ask : Ask} {rest : List ToGuest}
    (next : state.toGuest = .close shell ask :: rest) (known : state.guest.Known shell ask) :
    Sound { state with
      toGuest := rest
      guest := state.guest.queueTerminalClosed shell (some ask) } := by
  have others : ∀ {message : ToGuest}, message ∈ rest → message ∈ state.toGuest := by
    intro message member
    rw [next]
    exact List.mem_cons_of_mem _ member
  have named : (shell, ask) ∈ state.inUse := by
    apply inUse_of_message
    rw [next]
    exact List.mem_cons_self
  have agree : ∀ held, state.guest.shellWindows.lookup shell = some held → held.ask = ask := by
    intro held onRecord
    exact sound.agree (shell, held.ask) (inUse_of_held onRecord) _ named rfl
  have fewer : ∀ entry ∈ { state with
      toGuest := rest
      guest := state.guest.queueTerminalClosed shell (some ask) }.inUse, entry ∈ state.inUse := by
    refine inUse_of_guest rfl (fun _ => id) (fun _ => others) (fun entry _ held => ?_)
      fun entry _ unread => ?_
    · exact inUse_of_held (lookup_of_lookup_erase held).2
    · rcases mem_unread_queueTerminal unread with old | new
      · exact inUse_of_unread old
      · cases new
  have awaits : { state with
      toGuest := rest
      guest := state.guest.queueTerminalClosed shell (some ask) }.awaited = state.awaited := by
    simp [awaited, next]
  refine ⟨sound.told.closed known agree, ?_,
    fun p isP q isQ => sound.agree p (fewer p isP) q (fewer q isQ), ?_, ?_, ?_, sound.speaks⟩
  · rw [awaits, expected_congr state.guest]
    · exact sound.paired
    · rfl
  · exact fun which seen => sound.born which
      (seen.of_subset (by rw [awaits]; exact fun _ => id) fewer (fun _ => id) (fun _ => id))
  · intro which owner found
    have running : which ≠ shell := by
      rintro rfl
      have gone := sound.gone which ask (by rw [next]; exact List.mem_cons_self)
      rw [gone] at found
      cases found
    rcases sound.running which owner found with answered | closing | held
    · rw [next] at answered
      rcases List.mem_cons.mp answered with isThis | later
      · cases isThis
      · exact .inl later
    · exact .inr (.inl closing)
    · refine .inr (.inr ?_)
      show (AList.lookup which (state.guest.shellWindows.erase shell)).isSome
      rw [HashMap.lookup_erase_eq, if_neg running]
      exact held
  · exact fun which owner member => sound.gone which owner (others member)

/-- Output of a shell is read. -/
theorem sound_frame (sound : Sound state) {shell : ShellId} {payload : List UInt8} {ask : Ask}
    {rest : List TerminalWrite} (next : state.frames = .data shell payload ask :: rest)
    (known : state.guest.Known shell ask) :
    Sound { state with
      frames := rest
      guest := state.guest.onTerminalFrame shell payload ask } := by
  have named : (shell, ask) ∈ state.inUse := by
    apply inUse_of_frame
    rw [next]
    exact List.mem_cons_self
  have agree : ∀ held, state.guest.shellWindows.lookup shell = some held → held.ask = ask := by
    intro held onRecord
    exact sound.agree (shell, held.ask) (inUse_of_held onRecord) _ named rfl
  have fewer : ∀ entry ∈ { state with
      frames := rest
      guest := state.guest.onTerminalFrame shell payload ask }.inUse, entry ∈ state.inUse := by
    have others : rest ⊆ state.frames := by
      rw [next]
      exact List.subset_cons_self _ _
    refine inUse_of_guest rfl others (fun _ => id) (fun _ _ held => inUse_of_held held)
      fun entry _ unread => ?_
    rcases mem_unread_queueTerminal unread with old | new
    · exact inUse_of_unread old
    · cases new
      exact named
  refine ⟨sound.told.frame known agree, ?_,
    fun p isP q isQ => sound.agree p (fewer p isP) q (fewer q isQ), ?_, sound.running, sound.gone,
    sound.speaks⟩
  · rw [expected_congr state.guest]
    · exact sound.paired
    · rfl
  · exact fun which seen => sound.born which
      (seen.of_subset (fun _ => id) fewer (fun _ => id) (fun _ => id))

/-- A frame that says nothing to the guest goes. -/
theorem sound_frames (sound : Sound state) {frames : List TerminalWrite}
    (fewer : frames.filterMap ofFrame ⊆ state.frames.filterMap ofFrame) :
    Sound { state with frames } := by
  have fewer : ∀ entry ∈ { state with frames }.inUse, entry ∈ state.inUse := by
    intro entry member
    rcases mem_inUse.mp member with running | reader | framed | sent | ⟨_, held⟩ | ⟨_, unread⟩
    · exact inUse_of_running running
    · exact inUse_of_reader reader
    · exact inUse_of_frame (fewer framed)
    · exact inUse_of_message sent
    · exact inUse_of_held held
    · exact inUse_of_unread unread
  exact ⟨sound.told, sound.paired, fun p isP q isQ => sound.agree p (fewer p isP) q (fewer q isQ),
    fun which seen => sound.born which
      (seen.of_subset (fun _ => id) fewer (fun _ => id) (fun _ => id)),
    sound.running, sound.gone, sound.speaks⟩

section endShell
variable {host : TerminalHost} {shell : ShellId} {announce : Bool}

theorem endShell_lookup (which : ShellId) :
    (host.endShell shell announce).2.shells.lookup which =
      if which = shell then none else host.shells.lookup which := by
  unfold TerminalHost.endShell
  cases found : host.shells.lookup shell with
  | none =>
      simp only
      split
      next same => rw [same, found]
      next => rfl
  | some ask => exact HashMap.lookup_erase_eq ..

theorem endShell_readers : (host.endShell shell announce).2.readers = host.readers := by
  unfold TerminalHost.endShell
  split <;> rfl

theorem endShell_speaks :
    (host.endShell shell announce).2.speaksTerminal = host.speaksTerminal := by
  unfold TerminalHost.endShell
  split <;> rfl

theorem endShell_frames : (host.endShell shell announce).1.frames.filterMap ofFrame = [] := by
  unfold TerminalHost.endShell
  split <;> rfl

theorem mem_endShell_sent {message : ToGuest}
    (sent : message ∈ (host.endShell shell announce).1.sent) :
    ∃ ask, message = .close shell ask ∧ host.shells.lookup shell = some ask := by
  unfold TerminalHost.endShell at sent
  split at sent
  next => exact absurd sent List.not_mem_nil
  next ask found =>
    cases announce with
    | false => exact absurd sent List.not_mem_nil
    | true => exact ⟨ask, List.mem_singleton.mp sent, found⟩

end endShell

/-- The host has taken a close, or hears of an end. -/
theorem sound_endShell (sound : Sound state) {host : TerminalHost} {toHost : List ToHost}
    (shell : ShellId) (announce : Bool) (sameShells : host.shells = state.host.shells)
    (sameReaders : host.readers = state.host.readers)
    (sameSpeaks : host.speaksTerminal = state.host.speaksTerminal)
    (sameAsks : { state with toHost }.awaited = state.awaited)
    (closing : ∀ which, which ≠ shell → .close which ∈ state.toHost → .close which ∈ toHost) :
    Sound ({ state with toHost, host }.hostSends (host.endShell shell announce)) := by
  have fewer : ∀ entry ∈ ({ state with toHost, host }.hostSends (host.endShell shell announce)).inUse,
      entry ∈ state.inUse := by
    intro entry member
    rcases mem_inUse.mp member with running | reader | framed | sent | ⟨_, held⟩ | ⟨_, unread⟩
    · simp only [hostSends, endShell_lookup, sameShells] at running
      split at running
      · cases running
      · exact inUse_of_running running
    · simp only [hostSends, endShell_readers, sameReaders] at reader
      exact inUse_of_reader reader
    · simp only [hostSends, List.filterMap_append, endShell_frames, List.append_nil] at framed
      exact inUse_of_frame framed
    · simp only [hostSends, List.filterMap_append] at sent
      rcases List.mem_append.mp sent with old | new
      · exact inUse_of_message old
      · obtain ⟨message, isSent, isEntry⟩ := List.mem_filterMap.mp new
        obtain ⟨ask, rfl, found⟩ := mem_endShell_sent isSent
        cases isEntry
        exact inUse_of_running (sameShells ▸ found)
    · exact inUse_of_held held
    · exact inUse_of_unread unread
  have awaits : ({ state with toHost, host }.hostSends (host.endShell shell announce)).awaited =
      state.awaited := by
    rw [← sameAsks]
    simp only [awaited, hostSends, List.filterMap_append, List.append_cancel_right_eq]
    refine List.append_right_eq_self.mpr (List.filterMap_eq_nil_iff.mpr ?_)
    intro message isSent
    obtain ⟨ask, rfl, -⟩ := mem_endShell_sent isSent
    rfl
  refine ⟨sound.told, ?_, fun p isP q isQ => sound.agree p (fewer p isP) q (fewer q isQ), ?_, ?_, ?_,
    endShell_speaks.trans (sameSpeaks.trans sound.speaks)⟩
  · rw [awaits]
    exact sound.paired
  · exact fun which seen => sound.born which
      (seen.of_subset (by rw [awaits]; exact fun _ => id) fewer (fun _ => id) (fun _ => id))
  · intro which owner found
    simp only [hostSends, endShell_lookup, sameShells] at found
    split at found
    next => cases found
    next other =>
      rcases sound.running which owner found with answered | isClosing | held
      · exact .inl (List.mem_append_left _ answered)
      · exact .inr (.inl (closing which other isClosing))
      · exact .inr (.inr held)
  · intro which owner member
    simp only [hostSends, endShell_lookup, sameShells]
    split
    next => rfl
    next other =>
      rcases List.mem_append.mp member with old | new
      · exact sound.gone which owner old
      · obtain ⟨ask, same, -⟩ := mem_endShell_sent new
        cases same
        exact absurd rfl other

/-- A shell that runs is still answered, ended or held when the next ask is answered. -/
theorem running_of_asked (sound : Sound state) {cols rows : UInt16} {ask : Ask} {rest : List ToHost}
    (next : state.toHost = .openRequest cols rows ask :: rest) (answer : ToGuest) {shell : ShellId}
    {owner : Ask} (found : state.host.shells.lookup shell = some owner) :
    .openResponse shell none owner ∈ state.toGuest ++ [answer] ∨ .close shell ∈ rest ∨
      (state.guest.shellWindows.lookup shell).isSome := by
  rcases sound.running shell owner found with answered | closing | held
  · exact .inl (List.mem_append_left _ answered)
  · rw [next] at closing
    rcases List.mem_cons.mp closing with same | later
    · cases same
    · exact .inr (.inl later)
  · exact .inr (.inr held)

/-- The next ask is refused. -/
theorem sound_refuses (sound : Sound state) {cols rows : UInt16} {ask : Ask} {rest : List ToHost}
    (next : state.toHost = .openRequest cols rows ask :: rest) (reason : TerminalRefusal) :
    Sound ({ state with toHost := rest }.hostSends
      ({ sent := [.openResponse 0 (some reason) ask] }, state.host)) := by
  have fewer : ∀ entry ∈ ({ state with toHost := rest }.hostSends
      ({ sent := [.openResponse 0 (some reason) ask] }, state.host)).inUse, entry ∈ state.inUse := by
    intro entry member
    rcases mem_inUse.mp member with running | reader | framed | sent | ⟨_, held⟩ | ⟨_, unread⟩
    · exact inUse_of_running running
    · exact inUse_of_reader reader
    · exact inUse_of_frame (by simpa [hostSends] using framed)
    · exact inUse_of_message (by simpa [hostSends, ofMessage] using sent)
    · exact inUse_of_held held
    · exact inUse_of_unread unread
  have awaits : ({ state with toHost := rest }.hostSends
      ({ sent := [.openResponse 0 (some reason) ask] }, state.host)).awaited = state.awaited := by
    simp [awaited, hostSends, next]
  refine ⟨sound.told, ?_, fun p isP q isQ => sound.agree p (fewer p isP) q (fewer q isQ), ?_, ?_, ?_,
    sound.speaks⟩
  · rw [awaits]
    exact sound.paired
  · exact fun which seen => sound.born which
      (seen.of_subset (by rw [awaits]; exact fun _ => id) fewer (fun _ => id) (fun _ => id))
  · exact fun _ _ found => running_of_asked sound next _ found
  · intro which owner member
    rcases List.mem_append.mp member with old | new
    · exact sound.gone which owner old
    · exact absurd (List.mem_singleton.mp new) nofun

/-- A shell is started under a number that nothing uses. -/
theorem sound_starts (sound : Sound state) {cols rows : UInt16} {ask : Ask} {rest : List ToHost}
    (next : state.toHost = .openRequest cols rows ask :: rest)
    (fresh : ∀ entry ∈ state.inUse, entry.1 ≠ state.host.nextShell) :
    Sound ({ state with toHost := rest }.hostSends
      ({ sent := [.openResponse state.host.nextShell none ask] },
        { state.host with
          nextShell := TerminalHost.advance state.host.nextShell
          shells := state.host.shells.insert state.host.nextShell ask
          readers := state.host.readers ++ [(state.host.nextShell, ask)] })) := by
  have fewer : ∀ entry ∈ ({ state with toHost := rest }.hostSends
      ({ sent := [.openResponse state.host.nextShell none ask] },
        { state.host with
          nextShell := TerminalHost.advance state.host.nextShell
          shells := state.host.shells.insert state.host.nextShell ask
          readers := state.host.readers ++ [(state.host.nextShell, ask)] })).inUse,
      entry ∈ state.inUse ∨ entry = (state.host.nextShell, ask) := by
    rintro ⟨shell, owner⟩ member
    rcases mem_inUse.mp member with running | reader | framed | sent | ⟨_, held⟩ | ⟨_, unread⟩
    · simp only [hostSends, HashMap.lookup_insert_eq] at running
      split at running
      next same =>
        cases running
        exact .inr (by rw [same])
      next => exact .inl (inUse_of_running running)
    · rcases List.mem_append.mp reader with old | new
      · exact .inl (inUse_of_reader old)
      · exact .inr (List.mem_singleton.mp new)
    · exact .inl (inUse_of_frame (by simpa [hostSends] using framed))
    · simp only [hostSends, List.filterMap_append] at sent
      rcases List.mem_append.mp sent with old | new
      · exact .inl (inUse_of_message old)
      · exact .inr (List.mem_singleton.mp new)
    · exact .inl (inUse_of_held held)
    · exact .inl (inUse_of_unread unread)
  have awaits : ({ state with toHost := rest }.hostSends
      ({ sent := [.openResponse state.host.nextShell none ask] },
        { state.host with
          nextShell := TerminalHost.advance state.host.nextShell
          shells := state.host.shells.insert state.host.nextShell ask
          readers := state.host.readers ++ [(state.host.nextShell, ask)] })).awaited =
      state.awaited := by
    simp [awaited, hostSends, next]
  have asked : ask ∈ state.awaited := by
    simp [awaited, next]
  refine ⟨sound.told, ?_, ?_, ?_, ?_, ?_, sound.speaks⟩
  · rw [awaits]
    exact sound.paired
  · intro p isP q isQ same
    rcases fewer p isP with oldP | rfl
    · rcases fewer q isQ with oldQ | rfl
      · exact sound.agree p oldP q oldQ same
      · exact absurd same (fresh p oldP)
    · rcases fewer q isQ with oldQ | rfl
      · exact absurd same.symm (fresh q oldQ)
      · rfl
  · rintro which (pending | ⟨used, isUsed⟩ | older)
    · exact sound.born which (.inl (awaits ▸ pending))
    · rcases fewer _ isUsed with old | new
      · exact sound.born which (.inr (.inl ⟨used, old⟩))
      · cases new
        exact sound.born ask (.inl asked)
    · exact sound.born which (.inr (.inr older))
  · intro which owner found
    simp only [hostSends, HashMap.lookup_insert_eq] at found
    split at found
    next same =>
      cases found
      rw [same]
      exact .inl (List.mem_append_right _ List.mem_cons_self)
    next => exact running_of_asked sound next _ found
  · intro which owner member
    rcases List.mem_append.mp member with old | new
    · simp only [hostSends, HashMap.lookup_insert_eq]
      split
      next same =>
        have used : (which, owner) ∈ state.inUse :=
          inUse_of_message (List.mem_filterMap.mpr ⟨_, old, rfl⟩)
        exact absurd same (fresh _ used)
      next => exact sound.gone which owner old
    · exact absurd (List.mem_singleton.mp new) nofun

theorem sound_hostReads (sound : Sound state) {granted : Bool} {spawned : Except ShellError Unit}
    (inTime : state.InTime (.hostReads granted spawned)) :
    Sound (state.step (.hostReads granted spawned)).2 := by
  cases next : state.toHost with
  | nil =>
      simp only [step, next]
      exact sound
  | cons message rest =>
      cases message with
      | openRequest cols rows ask =>
          simp only [step, next, TerminalHost.onTerminalOpenRequest]
          rw [if_neg (by simp [sound.speaks])]
          split
          · exact sound_refuses sound next _
          next isGranted =>
            split
            · exact sound_refuses sound next _
            next few =>
              cases spawned with
              | error reason =>
                  cases reason <;> exact sound_refuses sound next _
              | ok _ =>
                  apply sound_starts sound next
                  apply inTime
                  refine ⟨by simp [next, asks], sound.speaks, ?_, ?_, rfl⟩
                  · simpa using isGranted
                  · simpa using few
      | close shell =>
          simp only [step, next]
          apply sound_endShell sound shell false rfl rfl rfl
          · simp [awaited, next]
          · intro which other closing
            rw [next] at closing
            rcases List.mem_cons.mp closing with same | later
            · cases same
              exact absurd rfl other
            · exact later

theorem sound_prints (sound : Sound state) {shell : ShellId} {ask : Ask}
    (reader : (shell, ask) ∈ state.host.readers) (payload : List UInt8) :
    Sound { state with
      frames := state.frames ++ [TerminalWrite.data shell payload ask]
      printed := state.printed ++ [(ask, payload)] } := by
  have fewer : ∀ entry ∈ { state with
      frames := state.frames ++ [TerminalWrite.data shell payload ask]
      printed := state.printed ++ [(ask, payload)] }.inUse, entry ∈ state.inUse := by
    intro entry member
    rcases mem_inUse.mp member with running | reads | framed | sent | ⟨_, held⟩ | ⟨_, unread⟩
    · exact inUse_of_running running
    · exact inUse_of_reader reads
    · rw [List.filterMap_append] at framed
      rcases List.mem_append.mp framed with old | new
      · exact inUse_of_frame old
      · obtain rfl := List.mem_singleton.mp new
        exact inUse_of_reader reader
    · exact inUse_of_message sent
    · exact inUse_of_held held
    · exact inUse_of_unread unread
  refine ⟨sound.told, sound.paired, fun p isP q isQ => sound.agree p (fewer p isP) q (fewer q isQ), ?_,
    sound.running, sound.gone, sound.speaks⟩
  rintro which (pending | ⟨used, isUsed⟩ | isOpen | ⟨bytes, wasPrinted⟩)
  · exact sound.born which (.inl pending)
  · exact sound.born which (.inr (.inl ⟨used, fewer _ isUsed⟩))
  · exact sound.born which (.inr (.inr (.inl isOpen)))
  · rcases List.mem_append.mp wasPrinted with old | new
    · exact sound.born which (.inr (.inr (.inr ⟨bytes, old⟩)))
    · cases List.mem_singleton.mp new
      exact sound.born ask (.inr (.inl ⟨shell, inUse_of_reader reader⟩))

/-- The host goes on without some of its threads. -/
theorem sound_host (sound : Sound state) {host : TerminalHost}
    (sameShells : host.shells = state.host.shells) (fewer : host.readers ⊆ state.host.readers)
    (sameSpeaks : host.speaksTerminal = state.host.speaksTerminal) :
    Sound { state with host } := by
  have fewer : ∀ entry ∈ { state with host }.inUse, entry ∈ state.inUse := by
    intro entry member
    rcases mem_inUse.mp member with running | reader | framed | sent | ⟨_, held⟩ | ⟨_, unread⟩
    · simp only [sameShells] at running
      exact inUse_of_running running
    · exact inUse_of_reader (fewer reader)
    · exact inUse_of_frame framed
    · exact inUse_of_message sent
    · exact inUse_of_held held
    · exact inUse_of_unread unread
  exact ⟨sound.told, sound.paired, fun p isP q isQ => sound.agree p (fewer p isP) q (fewer q isQ),
    fun which seen => sound.born which
      (seen.of_subset (fun _ => id) fewer (fun _ => id) (fun _ => id)),
    fun which owner found => sound.running which owner (by simpa only [sameShells] using found),
    fun which owner member => by simpa only [sameShells] using sound.gone which owner member,
    sameSpeaks.trans sound.speaks⟩

theorem sound_step {op : Happening} (sound : Sound state) (inTime : state.InTime op) :
    Sound (state.step op).2 := by
  cases op with
  | opens window cols rows => exact sound_opens sound window cols rows
  | drains window => exact sound_drains sound inTime
  | closes shell =>
      obtain ⟨ask, isAsk, known⟩ := inTime
      exact sound_closes sound isAsk known
  | windowCloses window => exact sound_windowCloses sound window
  | guestReads =>
      cases next : state.toGuest with
      | nil =>
          simp only [step, next]
          exact sound
      | cons message rest =>
          have head := inTime message (by simp [next])
          cases message with
          | openResponse shell refused ask =>
              simp only [step, next]
              exact sound_answered sound next
          | close shell ask =>
              simp only [step, next]
              exact sound_closeRead sound next head
  | frame =>
      cases dialed : state.guest.dialed with
      | false =>
          simp only [step, dialed]
          exact sound
      | true =>
          cases next : state.frames with
          | nil =>
              simp only [step, dialed, next]
              exact sound
          | cons frame rest =>
              have head := inTime dialed frame (by simp [next])
              cases frame with
              | data shell payload ask =>
                  simp only [step, dialed, next]
                  exact sound_frame sound next head
              | close shell =>
                  simp only [step, dialed, next]
                  exact sound_frames sound (by rw [next]; exact fun _ => id)
  | hostReads granted spawned => exact sound_hostReads sound inTime
  | prints reader payload =>
      cases reads : state.host.readers[reader]? with
      | none =>
          simp only [step, reads]
          exact sound
      | some entry =>
          simp only [step, reads]
          split
          · exact sound
          · exact sound_prints sound (List.mem_of_getElem? reads) payload
  | exits reader =>
      cases reads : state.host.readers[reader]? with
      | none =>
          simp only [step, reads]
          exact sound
      | some entry =>
          simp only [step, reads]
          have ended := @sound_host state sound { state.host with
              readers := state.host.readers.eraseIdx reader
              ended := state.host.ended ++ [entry.1] } rfl (List.eraseIdx_subset ..) rfl
          exact sound_frames ended (by
            rw [List.filterMap_append]
            exact List.append_subset.mpr ⟨fun _ => id, List.nil_subset _⟩)
  | shellEnded position =>
      cases ends : state.host.ended[position]? with
      | none =>
          simp only [step, ends]
          exact sound
      | some shell =>
          simp only [step, ends]
          exact sound_endShell sound shell true rfl rfl rfl rfl (fun _ _ closing => closing)
  | otherShell => exact sound_host sound rfl (fun _ => id) rfl

end sound

section flow
variable {state : Terminals} {ask : Ask}

/-- What of the shell of `ask` was told to its window or is on its way there. -/
def conveyed (state : Terminals) (ask : Ask) : List (List UInt8) :=
  outputs ask (state.told ask.window) ++ state.inFlight ask

/-- What a step does to the output of the shell of `ask`: `fits` if nothing scrolls off. -/
def Carries (state state' : Terminals) (ask : Ask) (fits : Prop) : Prop :=
  ∃ fresh, state'.printedBy ask = state.printedBy ask ++ fresh
    ∧ (state'.conveyed ask).Sublist (state.conveyed ask ++ fresh)
    ∧ (fits → state'.conveyed ask = state.conveyed ask ++ fresh)

theorem carries_of_same {state' : Terminals} {fits : Prop} (printed : state'.printed = state.printed)
    (conveyed : state'.conveyed ask = state.conveyed ask) : Carries state state' ask fits := by
  refine ⟨[], ?_, ?_, fun _ => ?_⟩
  · rw [printedBy, printed, List.append_nil]
    rfl
  · rw [conveyed, List.append_nil]
  · rw [conveyed, List.append_nil]

theorem outputs_append (records later : List TerminalRecord) :
    outputs ask (records ++ later) = outputs ask records ++ outputs ask later :=
  List.filterMap_append ..

/-- A record that is no output leaves the output as it was. -/
theorem outputs_told_queueTerminal {window : TerminalWindow} {record : TerminalRecord}
    {guest : TerminalGuest} {read : TerminalWindow → List TerminalRecord} (told : Told guest read)
    (other : record.event ≠ terminalEventOutput) (which : TerminalWindow) :
    outputs ask (read which ++ (guest.queueTerminal window record).pending which) =
      outputs ask (read which ++ guest.pending which) := by
  rw [TerminalGuest.queueTerminal_pending_of_ne other (told.bounded _ _), ← List.append_assoc,
    outputs_append]
  split
  · simp [outputs, other]
  · simp [outputs]

/-- Frames that end shells carry nothing. -/
theorem inFlight_append_of_close {frames : List TerminalWrite}
    (closes : ∀ frame ∈ frames, ∃ shell, frame = .close shell) :
    inFlight { state with frames := state.frames ++ frames } ask = state.inFlight ask := by
  simp only [inFlight, List.filterMap_append]
  refine List.append_right_eq_self.mpr (List.filterMap_eq_nil_iff.mpr ?_)
  intro frame member
  obtain ⟨shell, rfl⟩ := closes frame member
  rfl

theorem close_of_mem_endShell_frames {host : TerminalHost} {shell : ShellId} {announce : Bool} :
    ∀ frame ∈ (host.endShell shell announce).1.frames, ∃ which, frame = .close which := by
  intro frame member
  unfold TerminalHost.endShell at member
  split at member
  · exact absurd member List.not_mem_nil
  · exact ⟨shell, List.mem_singleton.mp member⟩

theorem carries_answered (sound : Sound state) {shell : ShellId}
    {refused : Option TerminalRefusal} {owner : Ask} {rest : List ToGuest}
    (next : state.toGuest = .openResponse shell refused owner :: rest) {fits : Prop} :
    Carries state ({ state with toGuest := rest }.guestSends
      (state.guest.onTerminalOpenResponse shell refused owner)) ask fits := by
  have oldest : state.awaited = owner :: { state with toGuest := rest }.awaited := by
    simp [awaited, next]
  rw [onTerminalOpenResponse_eq sound oldest]
  have told : Told { state.guest with asks := state.guest.asks.tail } state.read :=
    sound.told.congr rfl rfl rfl (fun _ _ found => found)
  split
  · cases refused with
    | some reason =>
        refine carries_of_same rfl (congrArg (· ++ _) ?_)
        exact outputs_told_queueTerminal told (terminalRefusalEvent_ne reason) _
    | none =>
        refine carries_of_same rfl (congrArg (· ++ _) ?_)
        exact outputs_told_queueTerminal told (show terminalEventOpened ≠ _ by decide) _
  · exact carries_of_same rfl rfl

theorem carries_closed {guest : TerminalGuest} {shell : ShellId} {owner : Option Ask}
    (told : Told state.guest state.read) {toGuest : List ToGuest} {toHost : List ToHost}
    (isGuest : guest = state.guest.queueTerminalClosed shell owner) {fits : Prop} :
    Carries state { state with guest, toGuest, toHost } ask fits := by
  subst isGuest
  refine carries_of_same rfl (congrArg (· ++ _) ?_)
  have forgotten : Told { state.guest with
      shellWindows := state.guest.shellWindows.erase shell } state.read :=
    told.congr rfl rfl rfl (fun _ _ onRecord => (lookup_of_lookup_erase onRecord).2)
  exact outputs_told_queueTerminal forgotten (show terminalEventClosed ≠ _ by decide) _

theorem carries_drains {window : TerminalWindow}
    (counted : (state.guest.pending window).length < 2 ^ 16) {fits : Prop} :
    Carries state (state.step (.drains window)).2 ask fits := by
  have all : state.guest.drained window = state.guest.pending window := by
    rw [TerminalGuest.drained, if_pos counted, List.take_length]
  refine carries_of_same rfl (congrArg (outputs ask · ++ _) ?_)
  simp only [told, step, TerminalGuest.terminalDrain, Function.update_apply, all]
  split
  next same => rw [same, List.append_nil]
  next => rfl

/-- What scrolls off is output of one shell. -/
theorem outputs_scrollOff {shell : ShellId} {queue : List TerminalRecord} (held : Nat)
    (foreign : ∀ record ∈ queue, TerminalGuest.isOutput shell record = true →
      record.ask ≠ some ask) :
    outputs ask (TerminalGuest.scrollOff shell held queue) = outputs ask queue := by
  induction queue generalizing held with
  | nil => rfl
  | cons record queue ih =>
      have later := fun held => ih held
        (fun other member => foreign other (List.mem_cons_of_mem _ member))
      unfold TerminalGuest.scrollOff
      split
      · rfl
      · split
        next output =>
          have other := foreign record List.mem_cons_self output
          rw [later]
          simp [outputs, other]
        next =>
          simp only [outputs, List.filterMap_cons] at later ⊢
          rw [later]

/-- Output that fits is told to the window of its shell, and is no longer on its way. -/
theorem carries_frame (sound : Sound state) {shell : ShellId} {payload : List UInt8} {owner : Ask}
    {rest : List TerminalWrite} (next : state.frames = .data shell payload owner :: rest)
    (known : state.guest.Known shell owner) :
    Carries state { state with
      frames := rest
      guest := state.guest.onTerminalFrame shell payload owner } ask
      (owner = ask → TerminalGuest.heldBytes shell
        (state.guest.pending (state.guest.windowOfShell shell)) + payload.length
          ≤ terminalScrollbackBytes) := by
  have named : (shell, owner) ∈ state.inUse := by
    apply inUse_of_frame
    rw [next]
    exact List.mem_cons_self
  obtain ⟨isWindow, -, -⟩ := sound.told.window_of_known known (fun held onRecord =>
    sound.agree (shell, held.ask) (inUse_of_held onRecord) _ named rfl)
  have passes : outputs ask [{ shell, event := terminalEventOutput, payload, ask := some owner }]
      ++ { state with frames := rest }.inFlight ask = state.inFlight ask := by
    by_cases mine : owner = ask <;> simp [outputs, inFlight, next, mine]
  refine ⟨[], by simp [printedBy], ?_, fun fits => ?_⟩
  · rw [List.append_nil, conveyed, conveyed, ← passes, ← List.append_assoc]
    refine List.Sublist.append ?_ (List.Sublist.refl _)
    rw [told, told, ← outputs_append, List.append_assoc]
    by_cases mine : ask.window = state.guest.windowOfShell shell
    · refine List.Sublist.filterMap _ (List.Sublist.append (List.Sublist.refl _) ?_)
      have queued := @TerminalGuest.queueTerminal_pending_sublist state.guest
        (state.guest.windowOfShell shell)
        { shell, event := terminalEventOutput, payload, ask := some owner } ask.window
      rw [if_pos mine] at queued
      exact queued
    · refine List.Sublist.filterMap _ (List.Sublist.append (List.Sublist.refl _) ?_)
      have queued := @TerminalGuest.queueTerminal_pending_sublist state.guest
        (state.guest.windowOfShell shell)
        { shell, event := terminalEventOutput, payload, ask := some owner } ask.window
      rw [if_neg mine, List.append_nil] at queued
      exact queued.trans (List.sublist_append_left _ _)
  · rw [List.append_nil, conveyed, conveyed, ← passes, ← List.append_assoc]
    refine congrArg (· ++ _) ?_
    rw [told, told, ← outputs_append, List.append_assoc, outputs_append, outputs_append]
    refine congrArg (_ ++ ·) ?_
    by_cases mine : owner = ask
    · subst mine
      have queued := @TerminalGuest.queueTerminal_pending_of_fits state.guest
        (state.guest.windowOfShell shell)
        { shell, event := terminalEventOutput, payload, ask := some owner } (fits rfl) owner.window
      rw [if_pos isWindow] at queued
      exact congrArg (outputs owner) queued
    · rw [outputs_append]
      have nothing : outputs ask
          [{ shell, event := terminalEventOutput, payload, ask := some owner }] = [] := by
        simp [outputs, mine]
      have foreign : ∀ record ∈ state.guest.pending ask.window,
          TerminalGuest.isOutput shell record = true → record.ask ≠ some ask := by
        intro record queued output isAsk
        simp only [TerminalGuest.isOutput, Bool.and_eq_true, decide_eq_true_eq] at output
        have used : (shell, ask) ∈ state.inUse :=
          inUse_of_unread (List.mem_filterMap.mpr ⟨record, queued, by
            simp [ofRecord, output, isAsk]⟩)
        exact mine (sound.agree _ named _ used rfl)
      rw [nothing, List.append_nil]
      show outputs ask ((state.guest.queueTerminal _ _).pending ask.window) = _
      rw [TerminalGuest.queueTerminal_pending]
      split
      next same =>
        rw [outputs_scrollOff, ← same, outputs_append, nothing, List.append_nil]
        rw [← same]
        intro record member output
        rcases List.mem_append.mp member with old | new
        · exact foreign record old output
        · obtain rfl := List.mem_singleton.mp new
          simpa using mine
      next => rfl

theorem carries_hostSends {result : HostOut × TerminalHost} {toHost : List ToHost}
    {toGuest : List ToGuest} {host : TerminalHost}
    (closes : ∀ frame ∈ result.1.frames, ∃ shell, frame = .close shell) {fits : Prop} :
    Carries state ({ state with toHost, toGuest, host }.hostSends result) ask fits :=
  carries_of_same rfl (congrArg (_ ++ ·) (inFlight_append_of_close closes))

theorem carries_prints {shell : ShellId} {payload : List UInt8} {owner : Ask} {fits : Prop} :
    Carries state { state with
      frames := state.frames ++ [.data shell payload owner]
      printed := state.printed ++ [(owner, payload)] } ask fits := by
  refine ⟨if owner = ask then [payload] else [], ?_, ?_⟩
  · by_cases mine : owner = ask <;> simp [printedBy, mine]
  · have grown : conveyed { state with
        frames := state.frames ++ [.data shell payload owner]
        printed := state.printed ++ [(owner, payload)] } ask =
          state.conveyed ask ++ if owner = ask then [payload] else [] := by
      by_cases mine : owner = ask <;> simp [conveyed, told, inFlight, mine]
    exact ⟨grown ▸ List.Sublist.refl _, fun _ => grown⟩

/-- Unless the window closes, each step hands on what the shell of an ask prints. -/
theorem carries_step {op : Happening} (sound : Sound state) (inTime : state.InTime op)
    (stays : op ≠ .windowCloses ask.window) :
    Carries state (state.step op).2 ask (Fits ask (Event.of step state op)) := by
  cases op with
  | opens window cols rows =>
      simp only [step, TerminalGuest.onTerminalOpen]
      split
      · exact carries_of_same rfl rfl
      · split <;> exact carries_of_same rfl rfl
  | drains window => exact carries_drains inTime
  | closes shell => exact carries_closed sound.told rfl
  | windowCloses window =>
      have other : ask.window ≠ window := fun same => stays (same ▸ rfl)
      refine carries_of_same rfl (congrArg (outputs ask · ++ _) ?_)
      simp [told, step, guestSends, TerminalGuest.onTerminalWindowClosed,
        Function.update_of_ne other]
  | guestReads =>
      cases next : state.toGuest with
      | nil =>
          simp only [step, next]
          exact carries_of_same rfl rfl
      | cons message rest =>
          cases message with
          | openResponse shell refused owner =>
              simp only [step, next]
              exact carries_answered sound next
          | close shell owner =>
              simp only [step, next]
              exact carries_closed sound.told rfl
  | frame =>
      cases dialed : state.guest.dialed with
      | false =>
          simp only [step, dialed]
          exact carries_of_same rfl rfl
      | true =>
          cases next : state.frames with
          | nil =>
              simp only [step, dialed, next]
              exact carries_of_same rfl rfl
          | cons frame rest =>
              have head := inTime dialed frame (by simp [next])
              cases frame with
              | data shell payload owner =>
                  simp only [step, dialed, next]
                  obtain ⟨fresh, printed, kept, exactly⟩ :=
                    @carries_frame state ask sound shell payload owner rest next head
                  refine ⟨fresh, printed, kept, fun fits => exactly fun mine => ?_⟩
                  exact fits rfl shell payload (by simp [next, mine])
              | close shell =>
                  simp only [step, dialed, next]
                  exact carries_of_same rfl (by simp [conveyed, told, inFlight, next])
  | hostReads granted spawned =>
      cases next : state.toHost with
      | nil =>
          simp only [step, next]
          exact carries_of_same rfl rfl
      | cons message rest =>
          cases message with
          | openRequest cols rows owner =>
              simp only [step, next]
              refine carries_hostSends (fun frame member => ?_)
              unfold TerminalHost.onTerminalOpenRequest at member
              repeat' split at member
              all_goals exact absurd member List.not_mem_nil
          | close shell =>
              simp only [step, next]
              exact carries_hostSends close_of_mem_endShell_frames
  | prints reader payload =>
      cases reads : state.host.readers[reader]? with
      | none =>
          simp only [step, reads]
          exact carries_of_same rfl rfl
      | some entry =>
          simp only [step, reads]
          split
          · exact carries_of_same rfl rfl
          · exact carries_prints
  | exits reader =>
      cases reads : state.host.readers[reader]? with
      | none =>
          simp only [step, reads]
          exact carries_of_same rfl rfl
      | some entry =>
          simp only [step, reads]
          refine carries_of_same rfl (congrArg (_ ++ ·) (inFlight_append_of_close ?_))
          exact fun frame member => ⟨entry.1, List.mem_singleton.mp member⟩
  | shellEnded position =>
      cases ends : state.host.ended[position]? with
      | none =>
          simp only [step, ends]
          exact carries_of_same rfl rfl
      | some shell =>
          simp only [step, ends]
          exact carries_hostSends close_of_mem_endShell_frames
  | otherShell => exact carries_of_same rfl rfl

theorem openings_step {op : Happening} {window : TerminalWindow}
    (stays : op ≠ .windowCloses window) :
    (state.step op).2.guest.openings window = state.guest.openings window := by
  cases op with
  | opens =>
      simp only [step, TerminalGuest.onTerminalOpen]
      split
      · rfl
      · split <;> rfl
  | windowCloses which =>
      have other : window ≠ which := fun same => stays (same ▸ rfl)
      simp [step, guestSends, TerminalGuest.onTerminalWindowClosed, Function.update_of_ne other]
  | guestReads =>
      simp only [step]
      split
      · rfl
      · simp only [guestSends, TerminalGuest.onTerminalOpenResponse]
        split
        · rfl
        · split <;> rfl
      · rfl
  | drains | closes | otherShell => rfl
  | hostReads | prints | exits | shellEnded | frame =>
      simp only [step]
      repeat' split
      all_goals rfl

end flow

section runs

/-- A shell that the closed window would have asked for never printed. -/
theorem conveyed_of_reopened {state : Terminals} {ask : Ask} (sound : Sound state)
    (fresh : ask.opening = state.guest.openings ask.window + 1) :
    (state.step (.windowCloses ask.window)).2.conveyed ask = []
      ∧ (state.step (.windowCloses ask.window)).2.printedBy ask = [] := by
  have unseen : ¬ state.Seen ask := fun seen => by
    have bound := sound.born ask seen
    omega
  have notPrinted : state.printedBy ask = [] := by
    rw [printedBy, List.filterMap_eq_nil_iff]
    rintro ⟨owner, payload⟩ member
    simp only [ite_eq_right_iff, reduceCtorEq, imp_false]
    rintro rfl
    exact unseen (.inr (.inr (.inr ⟨payload, member⟩)))
  have notFramed : state.inFlight ask = [] := by
    rw [inFlight, List.filterMap_eq_nil_iff]
    rintro (⟨shell, payload, owner⟩ | shell) member
    · simp only [ite_eq_right_iff, reduceCtorEq, imp_false]
      rintro rfl
      exact unseen (.inr (.inl ⟨shell, inUse_of_frame (List.mem_filterMap.mpr ⟨_, member, rfl⟩)⟩))
    · rfl
  refine ⟨?_, notPrinted⟩
  have toldNothing : (state.step (.windowCloses ask.window)).2.told ask.window = [] := by
    simp [told, step, guestSends, TerminalGuest.onTerminalWindowClosed]
  rw [conveyed, toldNothing]
  exact notFramed

/-- What the shells of open windows print comes in order. -/
def InOrder (state : Terminals) (ask : Ask) : Prop :=
  state.guest.Current ask → (state.conveyed ask).Sublist (state.printedBy ask)

/-- ... and none of it is lost. -/
def Complete (state : Terminals) (ask : Ask) : Prop :=
  state.guest.Current ask → state.conveyed ask = state.printedBy ask

/-- An ask whose window is open after a step was made before it, or by the window that opens next. -/
theorem current_of_step {state : Terminals} {ask : Ask} {op : Happening}
    (current : (state.step op).2.guest.Current ask) :
    op ≠ .windowCloses ask.window ∧ state.guest.Current ask
      ∨ op = .windowCloses ask.window ∧ ask.opening = state.guest.openings ask.window + 1 := by
  by_cases closes : op = .windowCloses ask.window
  · refine .inr ⟨closes, ?_⟩
    subst closes
    have reopened := current_windowClosed.mp current
    rwa [if_pos rfl] at reopened
  · refine .inl ⟨closes, ?_⟩
    rwa [TerminalGuest.Current, openings_step closes] at current

theorem inOrder_step {state : Terminals} {op : Happening} (sound : Sound state)
    (inTime : state.InTime op) {ask : Ask} (ordered : InOrder state ask) :
    InOrder (state.step op).2 ask := by
  intro current
  rcases current_of_step current with ⟨stays, wasCurrent⟩ | ⟨rfl, fresh⟩
  · obtain ⟨fresh, printed, kept, -⟩ := carries_step sound inTime stays
    rw [printed]
    exact kept.trans ((ordered wasCurrent).append (List.Sublist.refl _))
  · rw [(conveyed_of_reopened sound fresh).1]
    exact List.nil_sublist _

theorem complete_step {state : Terminals} {op : Happening} {ask : Ask} (sound : Sound state)
    (inTime : state.InTime op) (fits : Fits ask (Event.of step state op))
    (complete : Complete state ask) : Complete (state.step op).2 ask := by
  intro current
  rcases current_of_step current with ⟨stays, wasCurrent⟩ | ⟨rfl, fresh⟩
  · obtain ⟨fresh, printed, -, exactly⟩ := carries_step sound inTime stays
    rw [exactly fits, printed, complete wasCurrent]
  · obtain ⟨nothing, unprinted⟩ := conveyed_of_reopened sound fresh
    rw [nothing, unprinted]

theorem drainsItsOwn_of_sound {state : Terminals} (sound : Sound state) (op : Happening) :
    DrainsItsOwn (Event.of step state op) := by
  rintro window rfl record member
  exact sound.told.own window record (List.mem_append_right _ ((List.take_sublist _ _).subset member))

theorem endsUnwanted_of_sound {state : Terminals} (sound : Sound state) : EndsUnwanted state := by
  intro shell ask runs closed
  rcases sound.running shell ask runs with answered | closing | onRecord
  · exact .inl answered
  · exact .inr closing
  · obtain ⟨held, isHeld⟩ := Option.isSome_iff_exists.mp onRecord
    have same := sound.agree (shell, ask) (inUse_of_running runs) (shell, held.ask)
      (inUse_of_held isHeld) rfl
    obtain ⟨-, current, -⟩ := sound.told.held shell held isHeld
    obtain rfl : ask = held.ask := same
    exact absurd current closed

/-- In a run every drain returns records of the window's own shells, every shell is opened before it
prints, its output comes in order and loses nothing while it fits, and a shell whose window closed
does not stay. -/
def ReadsItsOwn (ops : List Happening) : Prop :=
  (∀ e ∈ history step {} ops, DrainsItsOwn e)
    ∧ (∀ window, OpenedFirst ((exec step {} ops).told window))
    ∧ (∀ ask, (exec step {} ops).guest.Current ask →
      ((exec step {} ops).conveyed ask).Sublist ((exec step {} ops).printedBy ask)
        ∧ ((∀ e ∈ history step {} ops, Fits ask e) →
          (exec step {} ops).conveyed ask = (exec step {} ops).printedBy ask))
    ∧ EndsUnwanted (exec step {} ops)

/-- A run in which the guest hears of shells only what it can place. -/
theorem windows_read_their_own_shells (ops : List Happening)
    (inTime : ∀ e ∈ history step {} ops, e.pre.InTime e.op) :
    ReadsItsOwn ops := by
  have sound : Sound (exec step {} ops) :=
    exec_induction (fun _ _ sound inTime => sound_step sound inTime) sound_new inTime
  refine ⟨?_, sound.told.first, fun ask current => ⟨?_, fun fits => ?_⟩, endsUnwanted_of_sound sound⟩
  · intro e member
    have before := (history_induction (fun _ _ sound inTime => sound_step sound inTime) sound_new
      inTime e member).1
    rw [eq_of_mem_history member]
    exact drainsItsOwn_of_sound before e.op
  · have keeps : ∀ state op, Sound state ∧ InOrder state ask → state.InTime op →
        Sound (step state op).2 ∧ InOrder (step state op).2 ask :=
      fun _ _ kept inTime => ⟨sound_step kept.1 inTime, inOrder_step kept.1 inTime kept.2⟩
    exact (exec_induction keeps ⟨sound_new, fun _ => List.nil_sublist _⟩ inTime).2 current
  · have keeps : ∀ state op, Sound state ∧ Complete state ask →
        state.InTime op ∧ Fits ask (Event.of step state op) →
          Sound (step state op).2 ∧ Complete (step state op).2 ask :=
      fun _ _ kept allowed => ⟨sound_step kept.1 allowed.1,
        complete_step kept.1 allowed.1 allowed.2 kept.2⟩
    refine (exec_induction keeps ⟨sound_new, fun _ => rfl⟩ ?_).2 current
    intro e member
    have fitting := fits e member
    rw [eq_of_mem_history member] at fitting
    exact ⟨inTime e member, fitting⟩

/-- The window of the session opens a shell, and then a window beside it does. -/
def sampleOpened : List Happening :=
  [.opens .session 80 24, .hostReads true (.ok ()), .guestReads, .opens .beside 80 24,
    .hostReads true (.ok ())]

/-- Both shells print, the second one after its answer has arrived, and its window closes. -/
theorem windows_read_two_shells :
    ReadsItsOwn (sampleOpened ++ [.guestReads, .prints 1 [36], .prints 0 [35], .frame, .frame,
      .drains .session, .drains .beside, .windowCloses .beside, .hostReads true (.ok ())]) :=
  windows_read_their_own_shells _ (by decide +kernel)

/-- The second shell prints before its answer has arrived, and the window of the session reads it. -/
theorem window_reads_another_shell : ¬ ∀ ops : List Happening, ReadsItsOwn ops := by
  intro all
  have drains := (all (sampleOpened ++ [.prints 1 [36], .frame, .drains .session])).1
    (Event.of step (exec step {} (sampleOpened ++ [.prints 1 [36], .frame])) (.drains .session))
    (by
      rw [show sampleOpened ++ [.prints 1 [36], .frame, .drains .session] =
        (sampleOpened ++ [.prints 1 [36], .frame]) ++ [.drains .session] by simp, history_concat]
      simp)
  obtain ⟨ask, isAsk, isSession, -⟩ := drains .session rfl
    { shell := 2, event := terminalEventOutput, payload := [36]
      ask := some { number := 1, window := .beside, opening := 0 } } (by decide +kernel)
  cases isAsk
  cases isSession

end runs

end Terminals

end Lumepeer.Runtime
