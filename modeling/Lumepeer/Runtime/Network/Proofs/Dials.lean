import Lumepeer.Runtime.Network.Credentials
import Lumepeer.Runtime.Network.Proofs.Credentials
import Lumepeer.Runtime.Network.Proofs.Lines

/-!
# Outcomes of superseded dials

A wait knows its dial by the number, the connect form knows its own by the host
alone. What an outcome finds is therefore right while the host of a dial in flight
is left alone: it is not dialed again and does not come in itself, no connection
with it ends, and no wait for it is given up behind the form. The flag of a wait
then says whether its dial is in flight, and a dial that the form is about is one
that it has started last.
-/

namespace Lumepeer.Runtime.Dials
open Lumepeer.Lib Lumepeer.Core Guest

variable {env : GuestEnv} {dials : Dials}

/-- An event of the guest with its dials. -/
abbrev DialEvent := Event Dials Op Reply

/-- The dial is the one that the wait for its host has started last, or that the form has. -/
def Current (dials : Dials) (flight : Flight) : Prop :=
  (dials.guest.reconnectWaits.lookup flight.peer).any
      (fun wait => wait.dialing && wait.dialSeq = flight.seq) ∨
    dials.formLatest = some flight.number

/-- The host whose lines an event ends: a connection with it has ended, and not one that the actor
had let go of before without a window or a wait left; or its wait is given up while the wait dials and
the form is about the host. -/
def Ends (guest : Guest) (p : NodeId) : Happening → Prop
  | .closed peer _ _ => p = peer ∧ Engaged guest peer
  | .leaveView peer => p = peer ∧ LeavesDial guest peer
  | .reconnectWaitTick generation =>
      ∃ entry ∈ guest.reconnectWaits.entries.find? (·.2.generation = generation),
        p = entry.2.peer ∧ GivesUpDial guest entry.2
  | _ => False

/-- The host is dialed, comes in as a guest, or has its lines ended. -/
def Disturbs (env : GuestEnv) (guest : Guest) (happening : Happening) (p : NodeId) : Prop :=
  (guest.starts env happening).map Prod.fst = some p ∨
    (∃ control, happening = .accepted control ∧ control.peer = p) ∨ Ends guest p happening

/-- No event disturbs the host of a dial in flight. -/
def Undisturbed (env : GuestEnv) (dials : Dials) : Op → Prop
  | .happens happening => ∀ flight ∈ dials.flights, ¬ Disturbs env dials.guest happening flight.peer
  | .lands .. => True

instance (dials : Dials) (flight : Flight) : Decidable (dials.Current flight) :=
  inferInstanceAs (Decidable (_ ∨ _))

instance (guest : Guest) (peer : NodeId) : Decidable (Engaged guest peer) :=
  inferInstanceAs (Decidable (_ ∨ _ ∨ _))

instance (guest : Guest) (peer : NodeId) : Decidable (LeavesDial guest peer) :=
  inferInstanceAs (Decidable (_ ∧ _))

instance (guest : Guest) (wait : ReconnectWait) : Decidable (GivesUpDial guest wait) :=
  inferInstanceAs (Decidable (_ ∧ _))

instance (guest : Guest) (p : NodeId) (happening : Happening) :
    Decidable (Ends guest p happening) := by
  unfold Ends
  split <;> infer_instance

instance (happening : Happening) (p : NodeId) :
    Decidable (∃ control, happening = .accepted control ∧ control.peer = p) :=
  match happening with
  | .accepted control =>
      decidable_of_iff (control.peer = p) ⟨fun same => ⟨control, rfl, same⟩, by
        rintro ⟨_, ⟨⟩, same⟩
        exact same⟩
  | .dial _ | .historyConnect _ | .submit .. | .cancel | .leaveView _ | .historyRemove _
  | .historyForgetPassword _ | .historySetTrusted .. | .dialed .. | .inbound .. | .closed ..
  | .connectRetryTick _ | .reconnectWaitTick _ | .keystore _ | .elapse _ => .isFalse nofun

instance (guest : Guest) (happening : Happening) (p : NodeId) :
    Decidable (Disturbs env guest happening p) :=
  inferInstanceAs (Decidable (_ ∨ _))

instance (op : Op) : Decidable (Undisturbed env dials op) := by
  unfold Undisturbed
  split <;> infer_instance

/-- The outcome of a dial that is not current changes nothing but what goodbyes are owed. -/
def SupersededChangesNothing (e : DialEvent) : Prop :=
  ∀ number result flight, e.op = .lands number result → e.pre.flight number = some flight →
    ¬ e.pre.Current flight → e.post.guest = { e.pre.guest with leaving := e.post.guest.leaving }

/-- A connection that is there is not replaced, unless a guest of this node comes in again. -/
def KeepsLive (e : DialEvent) : Prop :=
  (∀ control, e.op ≠ .happens (.accepted control)) → ∀ p handle handle',
    e.pre.guest.connections.lookup p = some handle →
    e.post.guest.connections.lookup p = some handle' → handle'.id = handle.id

/-- The flag of a wait says whether the dial with its number is in flight. -/
def FlagsTrue (dials : Dials) : Prop :=
  ∀ p wait, dials.guest.reconnectWaits.lookup p = some wait →
    (wait.dialing = true ↔ ∃ flight ∈ dials.flights, flight.peer = p ∧ flight.seq = wait.dialSeq)

/-! ## Steps -/

/-- What an event does to connections and waits. -/
inductive Goes (env : GuestEnv) (guest : Guest) : Happening → Lines → Prop
  | rests {happening : Happening} {after : Lines} (none : guest.starts env happening = none)
      (keeps : Keeps (Ends guest · happening) guest.lines after) : Goes env guest happening after
  | launches {happening : Happening} {between after : Lines} {host : NodeId} {raw : String}
      (start : guest.starts env happening = some (host, raw))
      (keeps : Keeps (Ends guest · happening) guest.lines between)
      (launches : Launches env raw host between after) : Goes env guest happening after
  | accepts (control : Control) (handle : ConnectionHandle) :
      Goes env guest (.accepted control)
        { guest.lines with connections := guest.connections.insert control.peer handle }

theorem goes_of_keeps {guest : Guest} {happening : Happening}
    (keeps : Keeps (Ends guest · happening) guest.lines (guest.step env happening).2.lines) :
    Goes env guest happening (guest.step env happening).2.lines := by
  refine .rests ?_ keeps
  have same : (guest.step env happening).2.dialSeq = guest.dialSeq := keeps.dialSeq
  simp only [starts, same, if_true]

theorem goes_of_moves {guest : Guest} {happening : Happening}
    (moves : Moves env (Ends guest · happening) (guest.dialCode happening) guest.lines
      (guest.step env happening).2.lines) :
    Goes env guest happening (guest.step env happening).2.lines := by
  rcases moves with keeps | ⟨raw, host, between, isCode, keeps, launches⟩
  · exact goes_of_keeps keeps
  · refine .launches ?_ keeps launches
    have numbered : (guest.step env happening).2.dialSeq = between.dialSeq + 1 :=
      congrArg Lines.dialSeq launches.isAfter
    have other : (guest.step env happening).2.dialSeq ≠ guest.dialSeq := by
      rw [numbered, keeps.dialSeq]
      show guest.dialSeq + 1 ≠ guest.dialSeq
      grind
    simp [starts, other, isCode, launches.issued, Except.toOption]

theorem goes_of_step (guest : Guest) (happening : Happening)
    (keyed : ∀ p wait, guest.reconnectWaits.lookup p = some wait → wait.peer = p)
    (notDialed : ∀ peer seq code result, happening ≠ .dialed peer seq code result) :
    Goes env guest happening (guest.step env happening).2.lines := by
  cases happening with
  | dial raw =>
      apply goes_of_moves
      exact moves_spawnDialAs guest raw none
  | historyConnect label =>
      apply goes_of_moves
      simp only [Guest.step, dialCode]
      split
      · next code isCode =>
          rw [isCode]
          exact moves_spawnDialAs guest code none
      · exact .inl (.of_eq rfl)
  | connectRetryTick generation =>
      apply goes_of_moves
      exact moves_onConnectRetryTick guest generation
  | reconnectWaitTick generation =>
      apply goes_of_moves
      exact moves_onReconnectWaitTick guest generation keyed
        fun entry isEntry gives => ⟨entry, isEntry, rfl, gives⟩
  | accepted control => exact .accepts control _
  | dialed peer seq code result => exact absurd rfl (notDialed peer seq code result)
  | closed peer connection ending =>
      apply goes_of_keeps
      exact keeps_onClosed guest connection ending fun engaged => ⟨rfl, engaged⟩
  | inbound peer connection kind draw =>
      apply goes_of_keeps
      exact keeps_onInbound guest peer connection kind draw
  | cancel =>
      apply goes_of_keeps
      exact keeps_onConnectCancel guest
  | leaveView peer =>
      apply goes_of_keeps
      exact keeps_leaveView guest fun leaves => ⟨rfl, leaves⟩
  | submit password code remember draw =>
      apply goes_of_keeps
      exact keeps_onUnattendedSubmit guest _ code remember draw
  | historyRemove _ | historyForgetPassword _ | historySetTrusted _ _ | keystore _ | elapse _ =>
      apply goes_of_keeps
      exact .of_eq rfl

/-! ## Dials and connections stay apart -/

/-- No two dials of one host are in flight, and none of a host that is connected; the flags of the
waits are true; no goodbye is owed to a host that is waited for; and a dial whose host the form is
about is current. -/
structure Sound (dials : Dials) : Prop where
  apart : (dials.flights.map Flight.peer).Nodup
  unconnected : ∀ flight ∈ dials.flights, dials.guest.connections.lookup flight.peer = none
  flags : FlagsTrue dials
  keyed : ∀ p wait, dials.guest.reconnectWaits.lookup p = some wait → wait.peer = p
  gone : ∀ p, (dials.guest.leaving.lookup p).isSome → dials.guest.reconnectWaits.lookup p = none
  current : ∀ flight ∈ dials.flights, dials.guest.connectPeer = some flight.peer →
    dials.Current flight

theorem Sound.eq_of_peer (sound : Sound dials) {one two : Flight} (isOne : one ∈ dials.flights)
    (isTwo : two ∈ dials.flights) (same : one.peer = two.peer) : one = two :=
  List.inj_on_of_nodup_map sound.apart isOne isTwo same

theorem current_iff {flight : Flight} :
    dials.Current flight ↔
      (∃ wait, dials.guest.reconnectWaits.lookup flight.peer = some wait ∧ wait.dialing = true ∧
        wait.dialSeq = flight.seq) ∨ dials.formLatest = some flight.number := by
  unfold Current
  cases dials.guest.reconnectWaits.lookup flight.peer <;> simp

/-! ## Outcomes -/

theorem supersededChangesNothing_step (sound : Sound dials) (op : Op) :
    SupersededChangesNothing (Event.of (step env) dials op) := by
  rintro number result flight rfl isFlight superseded
  have isFlight' : dials.flight number = some flight := isFlight
  have inFlight : flight ∈ dials.flights := List.mem_of_find?_eq_some isFlight'
  have elsewhere : dials.guest.connectPeer ≠ some flight.peer :=
    fun shown => superseded (sound.current flight inFlight shown)
  have unwaited := mt Or.inl superseded
  simp only [Event.of_post, Event.of_pre, step, isFlight']
  unfold onDialed
  split
  · rfl
  · dsimp only
    rw [if_pos]
    simpa [elsewhere] using unwaited

/-- Whether an outcome is acted on or not, the wait for its host dials no more. -/
theorem lands_onDialed (sound : Sound dials) {flight : Flight} (inFlight : flight ∈ dials.flights)
    (result : Except DialError Control) :
    Lands flight.peer dials.guest.lines
      (dials.guest.onDialed flight.peer flight.seq flight.code result).lines := by
  unfold onDialed
  split
  · rename_i owed
    have none := sound.gone flight.peer (by rw [owed]; rfl)
    refine ⟨_, ?_, fun wait found => ?_, .inl rfl⟩
    · exact
        { Keeps.of_eq (rfl : dials.guest.lines = dials.guest.lines) with
          leaving := fun p owed waits => by
            have owed' : ((dials.guest.leaving.erase flight.peer).lookup p).isSome := owed
            rw [HashMap.lookup_erase_eq] at owed'
            split at owed'
            · cases owed'
            · exact ⟨owed', waits⟩ }
    · exact absurd (none.symm.trans found) nofun
  · dsimp only
    split
    · rename_i unwanted
      refine ⟨_, .of_eq rfl, fun wait found => ?_, .inl rfl⟩
      by_contra dialing
      have isDialing : wait.dialing = true := by simpa using dialing
      obtain ⟨other, inFlight', samePeer, sameSeq⟩ :=
        (sound.flags flight.peer wait found).mp isDialing
      obtain rfl := sound.eq_of_peer inFlight' inFlight samePeer
      have isWait : dials.guest.reconnectWaits.lookup other.peer = some wait := found
      simp [isWait, isDialing, sameSeq] at unwanted
    · exact lands_onConnected dials.guest flight.peer flight.code result _

/-! ## Preservation -/

theorem gone_of_rests {free : NodeId → Prop} {before after : Lines}
    (rests : Rests free before after)
    (gone : ∀ p, (before.leaving.lookup p).isSome → before.waits.lookup p = none) :
    ∀ p, (after.leaving.lookup p).isSome → after.waits.lookup p = none := by
  intro p owed
  cases found : after.waits.lookup p with
  | none => rfl
  | some wait =>
      obtain ⟨owed', waits⟩ := rests.leaving p owed (by rw [found]; rfl)
      rw [gone p owed'] at waits
      cases waits

theorem keyed_of_rests {free : NodeId → Prop} {before after : Lines}
    (rests : Rests free before after)
    (keyed : ∀ p wait, before.waits.lookup p = some wait → wait.peer = p) :
    ∀ p wait, after.waits.lookup p = some wait → wait.peer = p := by
  intro p wait found
  rcases rests.keyed p wait found with isPeer | ⟨earlier, isEarlier, same⟩
  · exact isPeer
  · exact same.trans (keyed p earlier isEarlier)

theorem unconnected_of_rests {free : NodeId → Prop} {before after : Lines} {peer : NodeId}
    (rests : Rests free before after) (unconnected : before.connections.lookup peer = none) :
    after.connections.lookup peer = none := by
  cases found : after.connections.lookup peer with
  | none => rfl
  | some handle =>
      obtain ⟨earlier, isEarlier, -⟩ := rests.connections peer handle found
      exact absurd (isEarlier.symm.trans unconnected) nofun

/-- The dial that the form is about stays current, while its host is left alone. -/
theorem Sound.current_of_keeps (sound : Sound dials) {free : NodeId → Prop} {after : Lines}
    (keeps : Keeps free dials.guest.lines after) {flight : Flight}
    (inFlight : flight ∈ dials.flights) (isApart : ¬ free flight.peer)
    (shown : after.shown = some flight.peer) :
    (∃ wait, after.waits.lookup flight.peer = some wait ∧ wait.dialing = true ∧
      wait.dialSeq = flight.seq) ∨ dials.formLatest = some flight.number := by
  have shown' : dials.guest.connectPeer = some flight.peer :=
    (keeps.shown flight.peer shown).resolve_right isApart
  rcases current_iff.mp (sound.current flight inFlight shown') with
    ⟨wait, found, dialing, isSeq⟩ | latest
  · rcases keeps.stays flight.peer wait found dialing shown with
      ⟨later, isLater, dialing', same⟩ | connected | isFree
    · exact .inl ⟨later, isLater, dialing', same.trans isSeq⟩
    · have none : dials.guest.lines.connections.lookup flight.peer = none :=
        sound.unconnected flight inFlight
      rw [none] at connected
      cases connected
    · exact absurd isFree isApart
  · exact .inr latest

/-- Connections and waits that are only kept leave the dials sound. -/
theorem sound_of_keeps (sound : Sound dials) {free : NodeId → Prop} {after : Guest}
    (keeps : Keeps free dials.guest.lines after.lines)
    (isApart : ∀ flight ∈ dials.flights, ¬ free flight.peer) :
    Sound { dials with guest := after } where
  apart := sound.apart
  unconnected flight inFlight :=
    unconnected_of_rests keeps.toRests (sound.unconnected flight inFlight)
  flags p wait found := by
    rcases keeps.waits p wait found with ⟨idle, isFree⟩ | ⟨earlier, isEarlier, dialing, dialSeq⟩
    · rw [idle]
      refine ⟨nofun, ?_⟩
      rintro ⟨flight, inFlight, rfl, -⟩
      exact absurd isFree (isApart flight inFlight)
    · rw [dialing, dialSeq]
      exact sound.flags p earlier isEarlier
  keyed := keyed_of_rests keeps.toRests sound.keyed
  gone := gone_of_rests keeps.toRests sound.gone
  current flight inFlight shown :=
    current_iff.mpr (sound.current_of_keeps keeps inFlight (isApart flight inFlight) shown)

/-- A dial that is started alone with its host keeps them apart, and is current. -/
theorem sound_of_launches (sound : Sound dials) {after : Guest} {host : NodeId} {raw : String}
    (launches : Launches env raw host dials.guest.lines after.lines)
    (alone : ∀ flight ∈ dials.flights, flight.peer ≠ host) :
    Sound (dials.launch after (some (host, raw))) := by
  have isAfter := launches.isAfter
  have seq : after.dialSeq = dials.guest.dialSeq + 1 := congrArg Lines.dialSeq isAfter
  have connections : after.connections = dials.guest.connections :=
    congrArg Lines.connections isAfter
  have waits : after.reconnectWaits = HashMap.modify host
      (fun wait => { wait with dialing := true, dialSeq := dials.guest.dialSeq + 1 })
      dials.guest.reconnectWaits := congrArg Lines.waits isAfter
  have leaving : after.leaving = dials.guest.leaving := congrArg Lines.leaving isAfter
  exact
    { apart := by
        refine List.nodup_cons.mpr ⟨?_, sound.apart⟩
        rw [List.mem_map]
        rintro ⟨flight, inFlight, isHost⟩
        exact alone flight inFlight isHost
      unconnected := fun flight inFlight => by
        show after.connections.lookup flight.peer = none
        rw [connections]
        rcases List.mem_cons.mp inFlight with rfl | earlier
        · exact launches.apart
        · exact sound.unconnected flight earlier
      flags := fun p wait found => by
        have written : after.reconnectWaits.lookup p = some wait := found
        rw [waits, HashMap.lookup_modify_eq] at written
        split at written
        · rename_i isHost
          obtain ⟨earlier, -, rfl⟩ := Option.map_eq_some_iff.mp written
          exact ⟨fun _ => ⟨_, List.mem_cons_self, isHost.symm, seq⟩, fun _ => rfl⟩
        · rename_i other
          rw [sound.flags p wait written]
          constructor
          · rintro ⟨flight, inFlight, isPeer, isSeq⟩
            exact ⟨flight, List.mem_cons_of_mem _ inFlight, isPeer, isSeq⟩
          · rintro ⟨flight, inFlight, isPeer, isSeq⟩
            rcases List.mem_cons.mp inFlight with rfl | earlier
            · exact absurd isPeer.symm other
            · exact ⟨flight, earlier, isPeer, isSeq⟩
      keyed := fun p wait found => by
        have written : after.reconnectWaits.lookup p = some wait := found
        rw [waits, HashMap.lookup_modify_eq] at written
        split at written
        · rename_i isHost
          obtain ⟨earlier, isEarlier, rfl⟩ := Option.map_eq_some_iff.mp written
          exact sound.keyed p earlier (isHost ▸ isEarlier)
        · exact sound.keyed p wait written
      gone := fun p owed => by
        have owed' : (dials.guest.leaving.lookup p).isSome := leaving ▸ owed
        show after.reconnectWaits.lookup p = none
        rw [waits, HashMap.lookup_modify_eq, sound.gone p owed']
        split
        · rename_i isHost
          rw [← isHost, sound.gone p owed']
          rfl
        · rfl
      current := fun flight inFlight shown => by
        have isShown : after.connectPeer = some flight.peer := shown
        rw [current_iff]
        show (∃ wait, after.reconnectWaits.lookup flight.peer = some wait ∧ _) ∨
          (if (after.reconnectWaits.lookup host).isSome then dials.formLatest
            else some dials.started) = some flight.number
        rcases List.mem_cons.mp inFlight with rfl | earlier
        · rw [waits, HashMap.lookup_modify_eq, if_pos rfl]
          cases dials.guest.reconnectWaits.lookup host with
          | none => exact .inr rfl
          | some wait => exact .inl ⟨_, rfl, rfl, seq.symm⟩
        · have other : flight.peer ≠ host := alone flight earlier
          rcases launches.shown with isHost | ⟨same, waited⟩
          · exact absurd (Option.some.inj (isShown.symm.trans isHost)) other
          · have waited' : (after.reconnectWaits.lookup host).isSome := by
              rw [waits, HashMap.lookup_modify_eq, if_pos rfl, Option.isSome_map]
              exact waited
            rw [if_pos waited', waits, HashMap.lookup_modify_eq, if_neg other]
            exact current_iff.mp (sound.current flight earlier (same.symm.trans isShown)) }

/-- A guest that comes in is not one that is being dialed. -/
theorem sound_of_accepts (sound : Sound dials) {after : Guest} {control : Control}
    {handle : ConnectionHandle}
    (isAfter : after.lines = { dials.guest.lines with
      connections := dials.guest.connections.insert control.peer handle })
    (alone : ∀ flight ∈ dials.flights, flight.peer ≠ control.peer) :
    Sound { dials with guest := after } := by
  have shown : after.connectPeer = dials.guest.connectPeer := congrArg Lines.shown isAfter
  have connections : after.connections = dials.guest.connections.insert control.peer handle :=
    congrArg Lines.connections isAfter
  have waits : after.reconnectWaits = dials.guest.reconnectWaits := congrArg Lines.waits isAfter
  have leaving : after.leaving = dials.guest.leaving := congrArg Lines.leaving isAfter
  exact
    { apart := sound.apart
      unconnected := fun flight inFlight => by
        show after.connections.lookup flight.peer = none
        rw [connections, AList.lookup_insert_ne (alone flight inFlight)]
        exact sound.unconnected flight inFlight
      flags := fun p wait found => sound.flags p wait (waits ▸ found)
      keyed := fun p wait found => sound.keyed p wait (waits ▸ found)
      gone := fun p owed => by
        show after.reconnectWaits.lookup p = none
        rw [waits]
        exact sound.gone p (leaving ▸ owed)
      current := fun flight inFlight isShown => by
        have kept := current_iff.mp (sound.current flight inFlight (shown.symm.trans isShown))
        rw [← waits] at kept
        exact current_iff.mpr kept }

theorem sound_of_lands (sound : Sound dials) {flight : Flight} (inFlight : flight ∈ dials.flights)
    {after : Guest} (lands : Lands flight.peer dials.guest.lines after.lines) :
    Sound { dials with guest := after, flights := dials.flights.erase flight } := by
  have distinct : dials.flights.Nodup := sound.apart.of_map
  have left : ∀ other ∈ dials.flights.erase flight,
      other ∈ dials.flights ∧ other.peer ≠ flight.peer := by
    intro other member
    obtain ⟨differs, stays⟩ := distinct.mem_erase_iff.mp member
    exact ⟨stays, fun same => differs (sound.eq_of_peer stays inFlight same)⟩
  obtain ⟨between, keeps, idle, isAfter⟩ := lands
  have shown : after.connectPeer = between.shown := by
    rcases isAfter with same | ⟨handle, same⟩ <;> exact congrArg Lines.shown same
  have waits : after.reconnectWaits = between.waits := by
    rcases isAfter with same | ⟨handle, same⟩ <;> exact congrArg Lines.waits same
  have leaving : after.leaving = between.leaving := by
    rcases isAfter with same | ⟨handle, same⟩ <;> exact congrArg Lines.leaving same
  exact
    { apart := sound.apart.sublist ((List.erase_sublist).map Flight.peer)
      unconnected := fun other member => by
        obtain ⟨stays, differs⟩ := left other member
        have connections : after.connections.lookup other.peer =
            between.connections.lookup other.peer := by
          rcases isAfter with same | ⟨handle, same⟩
          · exact congrArg (fun lines => lines.connections.lookup other.peer) same
          · exact (congrArg (fun lines => lines.connections.lookup other.peer) same).trans
              (AList.lookup_insert_ne differs)
        show after.connections.lookup other.peer = none
        rw [connections]
        exact unconnected_of_rests keeps.toRests (sound.unconnected other stays)
      flags := fun p wait found => by
        have found' : between.waits.lookup p = some wait := waits ▸ found
        by_cases isPeer : p = flight.peer
        · rw [idle wait (isPeer ▸ found')]
          refine ⟨nofun, ?_⟩
          rintro ⟨other, member, isOther, -⟩
          exact absurd (isOther.trans isPeer) (left other member).2
        · have still : (∃ other ∈ dials.flights, other.peer = p ∧ other.seq = wait.dialSeq) ↔
              ∃ other ∈ dials.flights.erase flight, other.peer = p ∧ other.seq = wait.dialSeq := by
            constructor
            · rintro ⟨other, stays, rfl, isSeq⟩
              refine ⟨other, distinct.mem_erase_iff.mpr ⟨?_, stays⟩, rfl, isSeq⟩
              rintro rfl
              exact isPeer rfl
            · rintro ⟨other, member, same, isSeq⟩
              exact ⟨other, (left other member).1, same, isSeq⟩
          rw [← still]
          rcases keeps.waits p wait found' with ⟨-, same⟩ | ⟨earlier, isEarlier, dialing, dialSeq⟩
          · exact absurd same isPeer
          · rw [dialing, dialSeq]
            exact sound.flags p earlier isEarlier
      keyed := fun p wait found =>
        keyed_of_rests keeps.toRests sound.keyed p wait (waits ▸ found)
      gone := fun p owed => by
        show after.reconnectWaits.lookup p = none
        rw [waits]
        exact gone_of_rests keeps.toRests sound.gone p (leaving ▸ owed)
      current := fun other member isShown => by
        obtain ⟨stays, differs⟩ := left other member
        have kept := sound.current_of_keeps keeps stays differs (shown.symm.trans isShown)
        rw [← waits] at kept
        exact current_iff.mpr kept }

theorem step_happens {happening : Happening}
    (notDialed : ∀ peer seq code result, happening ≠ .dialed peer seq code result) :
    dials.step env (.happens happening) =
      ((dials.guest.step env happening).1,
        dials.launch (dials.guest.step env happening).2 (dials.guest.starts env happening)) := by
  cases happening with
  | dialed peer seq code result => exact absurd rfl (notDialed peer seq code result)
  | _ => rfl

/-- A guest with these connections and waits. -/
def withLines (guest : Guest) (lines : Lines) : Guest :=
  { guest with
    connectPeer := lines.shown
    dialSeq := lines.dialSeq
    connections := lines.connections
    reconnectWaits := lines.waits
    leaving := lines.leaving }

theorem sound_happens (sound : Sound dials) {happening : Happening}
    (notDialed : ∀ peer seq code result, happening ≠ .dialed peer seq code result)
    (undisturbed : Undisturbed env dials (.happens happening)) :
    Sound (dials.step env (.happens happening)).2 := by
  have goes : Goes env dials.guest happening (dials.guest.step env happening).2.lines :=
    goes_of_step dials.guest happening sound.keyed notDialed
  have isApart : ∀ flight ∈ dials.flights, ¬ Ends dials.guest flight.peer happening :=
    fun flight inFlight ends => undisturbed flight inFlight (.inr (.inr ends))
  rw [step_happens notDialed]
  generalize (dials.guest.step env happening).2 = after at goes ⊢
  generalize isAfter : after.lines = lines at goes
  cases goes with
  | rests none keeps =>
      rw [none]
      subst isAfter
      exact sound_of_keeps sound keeps isApart
  | @launches _ between _ host raw start keeps launches =>
      subst isAfter
      have middle : Sound { dials with guest := withLines dials.guest between } :=
        sound_of_keeps sound keeps isApart
      rw [start]
      refine sound_of_launches middle launches fun flight inFlight same => ?_
      exact undisturbed flight inFlight (.inl (by rw [start, same]; rfl))
  | accepts control handle =>
      have started : dials.guest.starts env (.accepted control) = none := if_pos rfl
      rw [started]
      exact sound_of_accepts sound isAfter fun flight inFlight same =>
        undisturbed flight inFlight (.inr (.inl ⟨control, rfl, same.symm⟩))

theorem sound_step (sound : Sound dials) {op : Op} (undisturbed : Undisturbed env dials op) :
    Sound (dials.step env op).2 := by
  cases op with
  | happens happening =>
      by_cases isDialed : ∃ peer seq code result, happening = .dialed peer seq code result
      · obtain ⟨peer, seq, code, result, rfl⟩ := isDialed
        exact sound
      · exact sound_happens sound
          (fun peer seq code result same => isDialed ⟨peer, seq, code, result, same⟩) undisturbed
  | lands number result =>
      cases isFlight : dials.flight number with
      | none =>
          simp only [step, isFlight]
          exact sound
      | some flight =>
          have inFlight : flight ∈ dials.flights := List.mem_of_find?_eq_some isFlight
          simp only [step, isFlight]
          exact sound_of_lands sound inFlight (lands_onDialed sound inFlight result)

theorem launch_guest (after : Guest) (start : Option (NodeId × String)) :
    (dials.launch after start).guest = after := by
  cases start <;> rfl

theorem keepsLive_step (sound : Sound dials) (op : Op) :
    KeepsLive (Event.of (step env) dials op) := by
  intro notAccepted p handle handle' before after
  have isBefore : dials.guest.connections.lookup p = some handle := before
  have same (earlier : ConnectionHandle)
      (isEarlier : dials.guest.connections.lookup p = some earlier) : earlier = handle :=
    Option.some.inj (isEarlier.symm.trans isBefore)
  cases op with
  | happens happening =>
      by_cases isDialed : ∃ peer seq code result, happening = .dialed peer seq code result
      · obtain ⟨peer, seq, code, result, rfl⟩ := isDialed
        exact congrArg ConnectionHandle.id (Option.some.inj (after.symm.trans isBefore))
      · have notDialed (peer : NodeId) (seq : UInt64) (code : String)
            (result : Except DialError Control) : happening ≠ .dialed peer seq code result :=
          fun same => isDialed ⟨peer, seq, code, result, same⟩
        have goes : Goes env dials.guest happening (dials.guest.step env happening).2.lines :=
          goes_of_step dials.guest happening sound.keyed notDialed
        rw [Event.of_post, step_happens notDialed, launch_guest] at after
        have isAfter : (dials.guest.step env happening).2.lines.connections.lookup p =
          some handle' := after
        generalize (dials.guest.step env happening).2.lines = lines at goes isAfter
        cases goes with
        | rests none keeps =>
            obtain ⟨earlier, isEarlier, sameId⟩ := keeps.connections p handle' isAfter
            rw [← sameId, same earlier isEarlier]
        | @launches _ between _ host raw start keeps launches =>
            rw [launches.isAfter] at isAfter
            obtain ⟨earlier, isEarlier, sameId⟩ := keeps.connections p handle' isAfter
            rw [← sameId, same earlier isEarlier]
        | accepts control connection => exact absurd rfl (notAccepted control)
  | lands number result =>
      cases isFlight : dials.flight number with
      | none =>
          simp only [Event.of_post, step, isFlight] at after
          exact congrArg ConnectionHandle.id (Option.some.inj (after.symm.trans isBefore))
      | some flight =>
          have inFlight : flight ∈ dials.flights := List.mem_of_find?_eq_some isFlight
          obtain ⟨between, keeps, -, isAfter⟩ := lands_onDialed sound inFlight result
          simp only [Event.of_post, step, isFlight] at after
          have elsewhere : p ≠ flight.peer := by
            rintro rfl
            rw [sound.unconnected flight inFlight] at isBefore
            cases isBefore
          have kept : between.connections.lookup p = some handle' := by
            rw [← after]
            rcases isAfter with isBetween | ⟨connection, isBetween⟩
            · exact congrArg (fun lines => lines.connections.lookup p) isBetween.symm
            · exact ((congrArg (fun lines => lines.connections.lookup p) isBetween).trans
                (AList.lookup_insert_ne elsewhere)).symm
          obtain ⟨earlier, isEarlier, sameId⟩ := keeps.connections p handle' kept
          rw [← sameId, same earlier isEarlier]

theorem sound_new (rows : ConnectionHistory) (stored : List (String × String)) :
    Sound (new rows stored) where
  apart := List.nodup_nil
  unconnected := nofun
  flags _ _ found := by cases found
  keyed _ _ found := by cases found
  gone _ _ := rfl
  current := nofun

/-- In a run in which no event disturbs the host of a dial in flight, an outcome changes nothing
unless it is of a current dial, no connection is replaced by another, and the flag of every wait says
whether its dial is in flight. -/
theorem superseded_dials_change_nothing (env : GuestEnv) (rows : ConnectionHistory)
    (stored : List (String × String)) (ops : List Op)
    (undisturbed : ∀ e ∈ history (step env) (new rows stored) ops, Undisturbed env e.pre e.op) :
    FlagsTrue (exec (step env) (new rows stored) ops) ∧
      ∀ e ∈ history (step env) (new rows stored) ops, SupersededChangesNothing e ∧ KeepsLive e := by
  have keep (dials : Dials) (op : Op) (sound : Sound dials) (regular : Undisturbed env dials op) :
      Sound (dials.step env op).2 := sound_step sound regular
  refine ⟨(exec_induction keep (sound_new rows stored) undisturbed).flags, fun e member => ?_⟩
  have sound := (history_induction keep (sound_new rows stored) undisturbed e member).1
  rw [eq_of_mem_history member]
  exact ⟨supersededChangesNothing_step sound e.op, keepsLive_step sound e.op⟩

def sampleControl (host : NodeId) : Control := ⟨host, 23, List.Vector.replicate 16 1⟩

/-- `b` is dialed, called off, and dialed again before its first connection is reported closed; then a
session with `b` is lost, and the wait for `b` dials it. -/
def sampleRedial : List Op :=
  [.happens (.dial "invite of b"), .lands 0 (.ok (sampleControl sampleHostB)),
    .happens .cancel, .happens (.dial "invite of b"),
    .happens (.closed sampleHostB 1 .closedHere), .lands 1 (.ok (sampleControl sampleHostB)),
    .happens (.inbound sampleHostB 2 (.consentGrant .viewOnly) []),
    .happens (.closed sampleHostB 2 .lost), .happens (.reconnectWaitTick 1)]

theorem redial_is_flagged : FlagsTrue (exec (step sampleEnv) (new [] []) sampleRedial) :=
  (superseded_dials_change_nothing sampleEnv [] [] sampleRedial (by decide +kernel)).1

/-- A connect to `a` is called off, and `a` is dialed again before the first dial is back. -/
def sampleSuperseded : List Op :=
  [.happens (.dial "invite of a"), .happens .cancel, .happens (.dial "invite of a")]

/-- The outcome of the first dial is taken for that of the second. -/
theorem superseded_dial_is_adopted :
    ¬ ∀ (env : GuestEnv) (rows : ConnectionHistory) (stored : List (String × String))
      (ops : List Op), ∀ e ∈ history (step env) (new rows stored) ops,
        SupersededChangesNothing e := by
  intro all
  let late : Op := .lands 0 (.ok (sampleControl sampleHostA))
  have nothing := all sampleEnv [] [] (sampleSuperseded ++ [late])
    (Event.of (step sampleEnv) (exec (step sampleEnv) (new [] []) sampleSuperseded) late)
    (by simp [history_append])
  have same := nothing 0 _ ⟨0, sampleHostA, 1, "invite of a"⟩ rfl (by decide +kernel)
    (by decide +kernel)
  have phase := congrArg Guest.connectPhase same
  revert phase
  decide +kernel

end Lumepeer.Runtime.Dials
