import Lumepeer.Runtime.Network.DisplayMode
import Lumepeer.Runtime.Network.Proofs.Parked
import Lumepeer.Runtime.Network.Proofs.Reboot

/-!
# A switch of the monitor is undone

While a switch stands, its owner is a guest whose session carries the grant for
it, and the mode from before the first switch is kept beside it. The owner loses
its session to a disconnect, which undoes the switch, or to a revoke, which does
not; it loses the grant to the switch of the grant, which undoes it, or to a grant
of another role, which does not.
-/

namespace Lumepeer.Runtime.Displays
open Lumepeer.Lib Lumepeer.Core

abbrev DisplayEvent := Event Displays Happening Unit

/-- The session of `peer` is in use and carries `display_mode`. -/
def Carries (host : Host) (peer : NodeId) : Prop :=
  ∃ session, host.sessions.sessions.lookup peer = some session ∧ session.state = .active
    ∧ session.grants.displayMode = true

/-- The monitor is in the mode it had at first, or a switch stands that is undone to that mode and
whose owner may have it. -/
def Undone (first : DisplayMode) (state : Displays) : Prop :=
  state.monitor = first ∨ ∃ switched, state.displayModeState = some switched
    ∧ switched.original = first ∧ Carries state.host switched.owner

/-- A timeout that undoes a switch is the one of that switch. -/
def RevertsItsOwn (e : DisplayEvent) : Prop :=
  ∀ position healthy platform, e.op = .confirmTimeout position healthy platform →
    ∀ timeout, e.pre.timeouts[position]? = some timeout →
      ∀ switched, e.pre.displayModeState = some switched → e.post.displayModeState = none →
        timeout.switch = switched.switch

/-- Nothing but a disconnect or the switch of the grant takes `display_mode` from `owner`: it is not
revoked, other than by leaving a window onto it, and not granted a role without it. -/
def SparesOwner (host : Host) (owner : NodeId) (happening : Host.Happening) : Prop :=
  (match happening with
    | .revoke peer => peer = owner → host.views peer ∨ host.parkedViews peer
    | _ => True)
  ∧ ((host.step happening).1 = some (.granted owner) →
      Host.roleAsked happening = some .fullControl ∧ host.sessionKindAsked owner = .screen)

/-- The owner of a switch is spared, and the number of a switch is not that of a timeout that has
not reported back. -/
def Lasting (state : Displays) : Happening → Prop
  | .host happening _ =>
      (∀ switched ∈ state.displayModeState, SparesOwner state.host switched.owner happening)
      ∧ ∀ timeout ∈ state.timeouts, timeout.generation ≠ state.displayModeGeneration + 1
  | .confirmTimeout .. => True

instance (host : Host) (owner : NodeId) : DecidablePred (SparesOwner host owner)
  | .revoke _ | .handshaked _ | .inbound .. | .closed .. | .grant .. | .setGrant .. | .setTarget ..
  | .resumeWindowElapsed .. | .setPlan _ | .setControlPolicy _ | .invite _ | .trust ..
  | .attendance _ | .restart | .dialed .. | .view .. | .letGo _ =>
      inferInstanceAs (Decidable (_ ∧ _))

instance (state : Displays) : DecidablePred state.Lasting
  | .host _ _ => inferInstanceAs (Decidable (_ ∧ _))
  | .confirmTimeout .. => inferInstanceAs (Decidable True)

/-! ## The session of an owner -/

theorem Carries.of_same {before after : Host} {owner : NodeId} (carries : Carries before owner)
    (same : after.sessions.sessions.lookup owner = before.sessions.sessions.lookup owner) :
    Carries after owner := by
  obtain ⟨session, found, inUse⟩ := carries
  exact ⟨session, same.trans found, inUse⟩

theorem carries_of_isGrant {host : Host} {happening : Host.Happening} {owner : NodeId} {role : Role}
    {freshId : SessionId} (isGrant : Host.IsGrant host happening owner role freshId)
    (full : Host.roleAsked happening = some .fullControl)
    (screen : host.sessionKindAsked owner = .screen) : Carries (host.step happening).2 owner := by
  obtain rfl : role = .fullControl := Option.some.inj (isGrant.asked.symm.trans full)
  have accepted := isGrant.accepted
  rw [screen] at accepted
  refine ⟨host.sessions.grantedSession owner .fullControl .screen freshId, ?_, rfl, rfl⟩
  rw [isGrant.granted, screen, SessionManager.lookup_grantAs]
  simp [SessionManager.nextSession, accepted]

/-- A new connection of a guest that has no parked session leaves its session. -/
theorem sessions_onNewConnection {host : Host} {shake : Handshake}
    (unparked : host.parkedSessions.lookup shake.peer = none) :
    (host.onNewConnection shake).sessions.sessions = host.sessions.sessions := by
  have kept : (host.endParkedSession shake.peer).sessions = host.sessions := by
    unfold Host.endParkedSession
    simp [unparked]
  unfold Host.onNewConnection
  dsimp only
  rcases (host.endParkedSession shake.peer).tickets.claim shake.ticket shake.unixNow with
    ⟨_ | _, tickets⟩
  · rw [kept]
  · rcases Host.askOrChallenge_sessions { host.endParkedSession shake.peer with tickets } shake with
      same | asked
    · rw [same, kept]
    · rw [asked, (Host.requestConsent_spec _ shake).2, kept]

theorem sessions_onResumeClaim {host : Host} {shake : Handshake} {claim : SessionId}
    (unparked : host.parkedSessions.lookup shake.peer = none) :
    (host.onResumeClaim shake claim).2.sessions = host.sessions := by
  unfold Host.onResumeClaim Host.endParkedSession
  simp [unparked]

/-- A handshake that takes no connection down leaves the session of a guest that has none parked. -/
theorem sessions_onHandshaked {host : Host} {shake : Handshake}
    (unparked : host.parkedSessions.lookup shake.peer = none)
    (stays : closes host (.handshaked shake) ≠ some shake.peer) :
    (host.onHandshaked shake).2.sessions.sessions = host.sessions.sessions
      ∧ (host.onHandshaked shake).2.parkedSessions.lookup shake.peer = none := by
  unfold Host.onHandshaked
  split
  · exact ⟨rfl, unparked⟩
  next running =>
    simp only [closes, running] at stays
    cases claims : shake.resumeClaim with
    | none =>
        dsimp only
        split
        · exact ⟨rfl, unparked⟩
        · exact ⟨sessions_onNewConnection unparked, (Host.onNewConnection_spec _ shake).1⟩
    | some claim =>
        have released : host.releaseConnectionClaimedBy shake.peer claim shake.disconnectedAt = host := by
          unfold Host.releaseConnectionClaimedBy
          cases stored : host.connections.lookup shake.peer with
          | none => rfl
          | some handle =>
              have differs : handle.sessionId ≠ claim := by
                intro same
                simp [claims, stored, same] at stays
              simp [Option.filter, differs]
        dsimp only
        rw [released]
        split
        · exact ⟨rfl, unparked⟩
        · have resumed := @sessions_onResumeClaim
            { host with
              terminalOnlyGuests :=
                Function.update host.terminalOnlyGuests shake.peer shake.terminalOnly }
            shake claim unparked
          exact ⟨by rw [resumed], Host.parked_onResumeClaim _ shake claim⟩

theorem onClosed_of_stays {host : Host} {peer : NodeId} {id : UInt64} {ending : Ending} {now : Instant}
    (stays : closes host (.closed peer id ending now) ≠ some peer) :
    host.onClosed peer id ending now = host := by
  unfold Host.onClosed
  dsimp only
  split
  · rfl
  next current => exact absurd (by rw [closes, if_neg current]) stays

/-- A ruling on the session of a spared owner leaves it the grant. -/
theorem carries_of_ruled {host : Host} {happening : Host.Happening} {owner : NodeId}
    (carries : Carries host owner) (spared : SparesOwner host owner happening)
    (ruled : (host.step happening).2.sessions = host.sessions ∨
      ∃ role freshId, Host.IsGrant host happening owner role freshId) :
    Carries (host.step happening).2 owner := by
  rcases ruled with same | ⟨role, freshId, isGrant⟩
  · exact carries.of_same (by rw [same])
  · obtain ⟨full, screen⟩ := spared.2 isGrant.ruling
    exact carries_of_isGrant isGrant full screen

/-- A guest that only has a window onto this host closed is not revoked. -/
theorem sessions_onRevoke {host : Host} {peer : NodeId}
    (left : host.views peer ∨ host.parkedViews peer) :
    (host.onRevoke peer).2.sessions = host.sessions := by
  unfold Host.onRevoke
  split
  · rfl
  next unparkedView =>
    have watched := left.resolve_right (by simpa using unparkedView)
    simp [watched]

theorem Carries.setGrant {host : Host} {peer : NodeId} {which : IndependentGrant} {allowed : Bool}
    (carries : Carries host peer) (kept : which = .displayMode → allowed = true) :
    Carries (host.step (.setGrant peer which allowed)).2 peer := by
  obtain ⟨session, found, inUse, carried⟩ := carries
  refine ⟨{ session with grants := session.grants.set which allowed }, ?_, inUse, ?_⟩
  · show (host.sessions.setGrant peer which allowed).2.sessions.lookup peer = _
    rw [SessionManager.lookup_setGrant]
    simp [SessionManager.nextSession, found, inUse]
  · have moved := Grants.get_set session.grants which .displayMode allowed
    have isNow : (session.grants.set which allowed).displayMode =
      (session.grants.set which allowed).get .displayMode := rfl
    rw [isNow, moved]
    split
    next same => exact kept same.symm
    next => exact carried

theorem Carries.setTarget {host : Host} {peer : NodeId} {target : TunnelTarget} {allowed : Bool}
    (carries : Carries host peer) :
    Carries (host.step (.setTarget peer target allowed)).2 peer := by
  obtain ⟨session, found, inUse, carried⟩ := carries
  cases allowed with
  | false =>
      refine ⟨{ session with allowedTargets := session.allowedTargets.filter (· ≠ target) },
        ?_, inUse, carried⟩
      show (host.sessions.denyTunnelTarget peer target).sessions.lookup peer = _
      rw [SessionManager.lookup_denyTunnelTarget]
      simp [SessionManager.nextSession, found]
  | true =>
      have moved := SessionManager.lookup_allowTunnelTarget host.sessions peer peer target
      simp only [SessionManager.nextSession, found, Option.map_some] at moved
      refine ⟨_, moved, ?_, ?_⟩
      · split <;> exact inUse
      · split <;> exact carried

/-- An owner that is spared, has nothing parked and keeps its connection and its grant carries the
grant after a step. -/
theorem carries_of_step {host : Host} {happening : Host.Happening} {owner : NodeId}
    (carries : Carries host owner) (unparked : host.parkedSessions.lookup owner = none)
    (stays : closes host happening ≠ some owner) (spared : SparesOwner host owner happening)
    (kept : happening ≠ .setGrant owner .displayMode false) :
    Carries (host.step happening).2 owner ∧
      (host.step happening).2.parkedSessions.lookup owner = none := by
  by_cases about : Host.subject happening = some owner
  · cases happening with
    | setPlan _ | setControlPolicy _ | invite _ | trust _ _ | attendance _ | restart => cases about
    | dialed _ _ | view _ _ _ | letGo _ => exact ⟨carries, unparked⟩
    | handshaked shake =>
        obtain rfl := Option.some.inj about
        have isStep : (host.step (.handshaked shake)).2 = (host.onHandshaked shake).2 := by
          simp only [Host.step]
          rcases host.onHandshaked shake with ⟨_ | _, after⟩ <;> rfl
        rw [isStep]
        obtain ⟨same, stillUnparked⟩ := sessions_onHandshaked unparked stays
        exact ⟨carries.of_same (by rw [same]), stillUnparked⟩
    | inbound peer id kind verdict =>
        obtain rfl := Option.some.inj about
        refine ⟨carries_of_ruled carries spared
          (Host.isGrant_of_inbound host peer id kind verdict), ?_⟩
        exact (congrArg (AList.lookup peer) (Host.onInbound_rest host peer id kind verdict).1).trans
          unparked
    | grant peer role freshId =>
        obtain rfl := Option.some.inj about
        refine ⟨carries_of_ruled carries spared (Host.isGrant_of_grant host peer role freshId), ?_⟩
        have isStep : (host.step (.grant peer role freshId)).2 =
          (host.grantSession peer role freshId).2 := Host.granting_host peer _
        rw [isStep, (Host.grantSession_rest host peer role freshId).1]
        exact unparked
    | closed peer id ending now =>
        obtain rfl := Option.some.inj about
        have isStep : (host.step (.closed peer id ending now)).2 = host := onClosed_of_stays stays
        rw [isStep]
        exact ⟨carries, unparked⟩
    | revoke peer =>
        obtain rfl := Option.some.inj about
        have same := sessions_onRevoke (spared.1 rfl)
        refine ⟨carries.of_same (congrArg (AList.lookup peer ·.sessions) same), ?_⟩
        exact (congrArg (AList.lookup peer) (Host.onRevoke_rest host peer).1).trans unparked
    | setGrant peer which allowed =>
        obtain rfl := Option.some.inj about
        refine ⟨carries.setGrant ?_, unparked⟩
        rintro rfl
        exact Bool.eq_true_of_not_eq_false fun withdrawn => kept (by rw [withdrawn])
    | setTarget peer target allowed =>
        obtain rfl := Option.some.inj about
        exact ⟨carries.setTarget, unparked⟩
    | resumeWindowElapsed peer sessionId =>
        obtain rfl := Option.some.inj about
        have isStep : (host.step (.resumeWindowElapsed peer sessionId)).2 = host := by
          simp [Host.step, Host.onResumeWindowElapsed, unparked]
        rw [isStep]
        exact ⟨carries, unparked⟩
  · obtain ⟨parked, -⟩ := Host.rest_of_other about
    exact ⟨carries.of_same (Host.lookup_of_step about), parked.trans unparked⟩

/-! ## Steps of the monitor -/

/-- What a step does with the switch that stands, for a monitor that was in the mode `first`. -/
structure Sound (first : DisplayMode) (state : Displays) : Prop where
  undone : state.displayModeState = none → state.monitor = first
  original : ∀ switched, state.displayModeState = some switched → switched.original = first
  carries : ∀ switched, state.displayModeState = some switched → Carries state.host switched.owner
  unparked : ∀ switched, state.displayModeState = some switched →
    state.host.parkedSessions.lookup switched.owner = none
  guests : Host.Unparked state.host
  numbers : ∀ switched, state.displayModeState = some switched → ∀ timeout ∈ state.timeouts,
    timeout.generation = switched.generation → timeout.switch = switched.switch

variable {first : DisplayMode}

theorem sound_restoreDisplayMode {state : Displays} {platform : Platform}
    (original : ∀ switched, state.displayModeState = some switched → switched.original = first)
    (undone : state.displayModeState = none → state.monitor = first)
    (guests : Host.Unparked state.host) (restores : platform.restores = true) :
    Sound first (state.restoreDisplayMode platform) := by
  unfold restoreDisplayMode
  cases stands : state.displayModeState with
  | none =>
      dsimp only
      refine ⟨fun _ => undone stands, ?_, ?_, ?_, guests, ?_⟩ <;> intro switched isSwitched <;>
        rw [stands] at isSwitched <;> cases isSwitched
  | some switched =>
      dsimp only
      rw [if_pos restores]
      refine ⟨fun _ => original switched stands, ?_, ?_, ?_, guests, ?_⟩ <;>
        intro other isOther <;> cases isOther

/-- Undoing the switch of a peer is sound when only that peer's session may have changed for the
worse. -/
theorem sound_restoreIfOwner {state : Displays} {peer : NodeId} {platform : Platform}
    (undone : state.displayModeState = none → state.monitor = first)
    (original : ∀ switched, state.displayModeState = some switched → switched.original = first)
    (others : ∀ switched, state.displayModeState = some switched → switched.owner ≠ peer →
      Carries state.host switched.owner ∧ state.host.parkedSessions.lookup switched.owner = none)
    (guests : Host.Unparked state.host)
    (numbers : ∀ switched, state.displayModeState = some switched → ∀ timeout ∈ state.timeouts,
      timeout.generation = switched.generation → timeout.switch = switched.switch)
    (restores : platform.restores = true) : Sound first (state.restoreIfOwner peer platform) := by
  unfold restoreIfOwner
  split
  · exact sound_restoreDisplayMode original undone guests restores
  next stays =>
    have differs : ∀ switched, state.displayModeState = some switched → switched.owner ≠ peer := by
      intro switched stands same
      exact stays (by simp [stands, same])
    exact ⟨undone, original, fun switched stands => (others switched stands (differs switched stands)).1,
      fun switched stands => (others switched stands (differs switched stands)).2, guests, numbers⟩

theorem sound_onDisplaySetMode {state : Displays} {peer : NodeId} {modeId : UInt32}
    {platform : Platform} (sound : Sound first state)
    (unparked : state.host.parkedSessions.lookup peer = none)
    (fresh : ∀ timeout ∈ state.timeouts, timeout.generation ≠ state.displayModeGeneration + 1) :
    Sound first (state.onDisplaySetMode peer modeId platform) := by
  unfold onDisplaySetMode
  dsimp only
  split
  · exact sound
  next granted =>
    split
    · exact sound
    · split
      · exact sound
      next original isOriginal =>
        split
        · exact sound
        · have isFirst : original = first := by
            unfold originalMode at isOriginal
            split at isOriginal
            next switched stands =>
              obtain rfl := Option.some.inj isOriginal
              exact sound.original switched stands
            next stands =>
              split at isOriginal
              · obtain rfl := Option.some.inj isOriginal
                exact sound.undone stands
              · cases isOriginal
          have carries : Carries state.host peer := by
            simp only [Bool.not_eq_true', Bool.not_eq_false, Bool.and_eq_true, decide_eq_true_eq]
              at granted
            obtain ⟨⟨-, active⟩, carried⟩ := granted
            obtain ⟨session, found, inUse⟩ := (Host.state_eq_active_iff _ peer).mp active
            refine ⟨session, found, inUse, ?_⟩
            simpa [SessionManager.grants, found] using carried
          refine ⟨fun none_ => (by cases none_), ?_, ?_, ?_, sound.guests, ?_⟩
          · rintro switched ⟨rfl⟩
            exact isFirst
          · rintro switched ⟨rfl⟩
            exact carries
          · rintro switched ⟨rfl⟩
            exact unparked
          · rintro switched ⟨rfl⟩ timeout member number
            rcases List.mem_append.mp member with isEarlier | isLast
            · exact absurd number (fresh timeout isEarlier)
            · rw [List.mem_singleton.mp isLast]

theorem sound_onDisplayModeConfirmTimeout {state : Displays} {generation : UInt64} {healthy : Bool}
    {platform : Platform} (sound : Sound first state) (restores : platform.restores = true) :
    Sound first (state.onDisplayModeConfirmTimeout generation healthy platform) := by
  unfold onDisplayModeConfirmTimeout
  dsimp only
  split
  · exact sound
  · exact sound_restoreDisplayMode sound.original sound.undone sound.guests restores

/-- A step of the host with the switch of `peer` undone. -/
theorem sound_of_host {state : Displays} {happening : Host.Happening} {platform : Platform}
    {peer : NodeId} (sound : Sound first state)
    (spared : ∀ switched ∈ state.displayModeState, SparesOwner state.host switched.owner happening)
    (stays : ∀ p, p ≠ peer → closes state.host happening ≠ some p)
    (kept : ∀ p, p ≠ peer → happening ≠ .setGrant p .displayMode false)
    (restores : platform.restores = true) :
    Sound first ({ state with host := (state.host.step happening).2 }.restoreIfOwner peer platform) := by
  have others : ∀ switched, state.displayModeState = some switched → switched.owner ≠ peer →
      Carries (state.host.step happening).2 switched.owner ∧
        (state.host.step happening).2.parkedSessions.lookup switched.owner = none := by
    intro switched stands differs
    exact carries_of_step (sound.carries switched stands) (sound.unparked switched stands)
      (stays _ differs) (spared switched stands) (kept _ differs)
  exact @sound_restoreIfOwner first { state with host := (state.host.step happening).2 } peer platform
    sound.undone sound.original others (Host.unparked_step sound.guests happening) sound.numbers
    restores

/-- ... and one that takes nobody's connection down and switches nobody's grant. -/
theorem sound_of_quiet {state : Displays} {happening : Host.Happening}
    (sound : Sound first state)
    (spared : ∀ switched ∈ state.displayModeState, SparesOwner state.host switched.owner happening)
    (stays : closes state.host happening = none)
    (kept : ∀ p, happening ≠ .setGrant p .displayMode false) :
    Sound first { state with host := (state.host.step happening).2 } := by
  have carries : ∀ switched, state.displayModeState = some switched →
      Carries (state.host.step happening).2 switched.owner ∧
        (state.host.step happening).2.parkedSessions.lookup switched.owner = none := by
    intro switched stands
    exact carries_of_step (sound.carries switched stands) (sound.unparked switched stands)
      (by rw [stays]; exact nofun) (spared switched stands) (kept _)
  exact ⟨sound.undone, sound.original, fun switched stands => (carries switched stands).1,
    fun switched stands => (carries switched stands).2, Host.unparked_step sound.guests happening,
    sound.numbers⟩

theorem accepted_of_delivers {host : Host} {peer : NodeId} {id : UInt64} {modeId : UInt32}
    (delivers : host.delivers peer id (.displaySetMode modeId)) :
    ∃ handle, host.connections.lookup peer = some handle ∧ handle.origin = .accepted := by
  unfold Host.delivers at delivers
  cases stored : host.connections.lookup peer with
  | none => simp [stored] at delivers
  | some handle =>
      refine ⟨handle, rfl, ?_⟩
      by_cases current : handle.id = id
      · cases isOrigin : handle.origin with
        | accepted => rfl
        | dialed =>
            simp [stored, Option.filter, current, MessageKind.direction, Origin.inbound, isOrigin] at delivers
      · simp [stored, Option.filter, current] at delivers

theorem sound_setMode {state : Displays} {peer : NodeId} {id : UInt64} {modeId : UInt32}
    {verdict : Host.Verdict} {platform : Platform} (sound : Sound first state)
    (lasting : state.Lasting (.host (.inbound peer id (.displaySetMode modeId) verdict) platform)) :
    Sound first (step state (.host (.inbound peer id (.displaySetMode modeId) verdict) platform)).2 := by
  have after := @sound_of_quiet first state (.inbound peer id (.displaySetMode modeId) verdict) sound
    lasting.1 rfl (fun _ => nofun)
  simp only [step]
  split
  next delivers =>
    obtain ⟨handle, stored, accepted⟩ := accepted_of_delivers delivers
    refine sound_onDisplaySetMode after ?_ lasting.2
    have rest := (Host.onInbound_rest state.host peer id (.displaySetMode modeId) verdict).1
    exact (congrArg (AList.lookup peer) rest).trans (sound.guests peer handle stored accepted)
  next => exact after

theorem sound_onSetGrant {state : Displays} {peer : NodeId} {which : IndependentGrant}
    {allowed : Bool} {platform : Platform} (sound : Sound first state)
    (spared : ∀ switched ∈ state.displayModeState,
      SparesOwner state.host switched.owner (.setGrant peer which allowed))
    (restores : platform.restores = true) :
    Sound first (state.onSetGrant peer which allowed platform) := by
  have stays : closes state.host (.setGrant peer which allowed) = none := rfl
  unfold onSetGrant
  rcases moved : state.host.sessions.setGrant peer which allowed with ⟨_ | _, sessions⟩
  · exact sound
  · have isStep : (state.host.step (.setGrant peer which allowed)).2 =
        { state.host with sessions } := by
      simp [Host.step, moved]
    dsimp only
    rw [← isStep]
    split
    next off =>
      refine sound_of_host sound spared (by rw [stays]; intro _ _ same; cases same) ?_ restores
      intro p differs same
      cases same
      exact differs rfl
    next on =>
      refine sound_of_quiet sound spared stays ?_
      intro p same
      cases same
      exact on (by simp)

theorem sound_step {state : Displays} {op : Happening} (sound : Sound first state)
    (lasting : state.Lasting op) (restores : op.platform.restores = true) :
    Sound first (state.step op).2 := by
  cases op with
  | confirmTimeout position healthy platform =>
      simp only [step]
      split
      · exact sound
      · apply sound_onDisplayModeConfirmTimeout _ restores
        exact ⟨sound.undone, sound.original, sound.carries, sound.unparked, sound.guests,
          fun switched stands timeout member =>
            sound.numbers switched stands timeout (List.mem_of_mem_eraseIdx member)⟩
  | host happening platform =>
      by_cases isSetMode : ∃ peer id modeId verdict,
          happening = .inbound peer id (.displaySetMode modeId) verdict
      · obtain ⟨peer, id, modeId, verdict, rfl⟩ := isSetMode
        exact sound_setMode sound lasting
      · by_cases isSwitch : ∃ peer which allowed, happening = .setGrant peer which allowed
        · obtain ⟨peer, which, allowed, rfl⟩ := isSwitch
          exact sound_onSetGrant sound lasting.1 restores
        · have kept : ∀ p, happening ≠ .setGrant p .displayMode false :=
            fun p same => isSwitch ⟨p, _, _, same⟩
          have isStep : (state.step (.host happening platform)).2 =
              (closes state.host happening).elim { state with host := (state.host.step happening).2 }
                fun peer =>
                  { state with host := (state.host.step happening).2 }.restoreIfOwner peer platform := by
            unfold step
            split
            next same => cases same; exact absurd ⟨_, _, _, _, rfl⟩ isSetMode
            next same => cases same; exact absurd ⟨_, _, _, rfl⟩ isSwitch
            next same => cases same; cases closes state.host happening <;> rfl
            all_goals contradiction
          rw [isStep]
          cases isPeer : closes state.host happening with
          | none => exact sound_of_quiet sound lasting.1 isPeer kept
          | some peer =>
            refine sound_of_host sound lasting.1 ?_ (fun p _ => kept p) restores
            intro p differs same
            exact differs (Option.some.inj (same.symm.trans isPeer))

/-- A timeout undoes a switch only under its number. -/
theorem revertsItsOwn_of_sound {state : Displays} {op : Happening} (sound : Sound first state) :
    RevertsItsOwn (Event.of step state op) := by
  rintro position healthy platform rfl timeout isTimeout switched stands undone
  rw [Event.of_pre] at isTimeout stands
  rw [Event.of_post] at undone
  simp only [step, isTimeout, onDisplayModeConfirmTimeout] at undone
  split at undone
  next => rw [stands] at undone; cases undone
  next reverts =>
    have same : switched.generation = timeout.generation := by
      simp [shouldAutoRevertDisplayMode, stands] at reverts
      exact reverts.1
    exact sound.numbers switched stands timeout (List.mem_of_getElem? isTimeout) same.symm

theorem sound_new (plan : Plan) (hosting : Bool) (first : DisplayMode) :
    Sound first (new plan hosting first) := by
  refine ⟨fun _ => rfl, ?_, ?_, ?_, ?_, ?_⟩
  · exact fun _ stands => (by cases stands)
  · exact fun _ stands => (by cases stands)
  · exact fun _ stands => (by cases stands)
  · exact fun peer handle stored => (by cases stored)
  · exact fun _ stands => (by cases stands)

theorem undone_of_sound {state : Displays} (sound : Sound first state) : Undone first state := by
  cases stands : state.displayModeState with
  | none => exact .inl (sound.undone stands)
  | some switched =>
      exact .inr ⟨switched, stands, sound.original switched stands, sound.carries switched stands⟩

/-- In every run in which no owner of a switch is revoked or granted a role without `display_mode`,
the monitor is in its first mode, or in one that is undone to it when its owner loses the grant; and
a timeout undoes no switch but its own. -/
theorem every_switch_is_undone (plan : Plan) (hosting : Bool) (first : DisplayMode)
    (ops : List Happening) (restores : ∀ op ∈ ops, op.platform.restores = true)
    (lasting : ∀ e ∈ history step (new plan hosting first) ops, e.pre.Lasting e.op) :
    ∀ e ∈ history step (new plan hosting first) ops,
      Undone first e.pre ∧ Undone first e.post ∧ RevertsItsOwn e := by
  have keeps : ∀ state op, Sound first state → Lasting state op ∧ op.platform.restores = true →
      Sound first (step state op).2 :=
    fun state op sound allowed => sound_step sound allowed.1 allowed.2
  have sound := history_induction keeps (sound_new plan hosting first)
    (fun e member => ⟨lasting e member, restores e.op (op_mem_of_mem_history member)⟩)
  intro e member
  obtain ⟨before, after⟩ := sound e member
  refine ⟨undone_of_sound before, undone_of_sound after, ?_⟩
  rw [eq_of_mem_history member]
  exact revertsItsOwn_of_sound before

def sampleFirst : DisplayMode := ⟨1920, 1080, 60⟩

def samplePlatform : Platform := { modes := [⟨1280, 720, 60⟩, ⟨800, 600, 60⟩] }

/-- A guest that was let in switches the monitor. -/
def sampleSwitched : List Happening :=
  Host.sampleGranted.map (.host · samplePlatform) ++
    [.host (.inbound Host.sampleGuest 1 (.displaySetMode 0) Host.sampleVerdict) samplePlatform]

/-- It switches again, the timeout of the first switch reports back, and it loses the grant. -/
theorem switch_is_undone_with_its_grant :
    let events := history step (new .free true sampleFirst) (sampleSwitched ++
        [.host (.inbound Host.sampleGuest 1 (.displaySetMode 1) Host.sampleVerdict) samplePlatform,
          .confirmTimeout 0 false samplePlatform,
          .host (.setGrant Host.sampleGuest .displayMode false) samplePlatform])
    events ≠ [] ∧ ∀ e ∈ events,
      Undone sampleFirst e.pre ∧ Undone sampleFirst e.post ∧ RevertsItsOwn e :=
  ⟨List.cons_ne_nil _ _,
    every_switch_is_undone .free true sampleFirst _ (by decide) (by decide +kernel)⟩

/-- The guest is revoked, and the monitor stays as it is. -/
theorem switch_outlives_its_session :
    ¬ ∀ (plan : Plan) (hosting : Bool) (first : DisplayMode) (ops : List Happening),
      (∀ op ∈ ops, op.platform.restores = true) →
        ∀ e ∈ history step (new plan hosting first) ops,
          Undone first e.pre ∧ Undone first e.post ∧ RevertsItsOwn e := by
  intro all
  let revoke : Happening := .host (.revoke Host.sampleGuest) samplePlatform
  have undone := (all .free true sampleFirst (sampleSwitched ++ [revoke]) (by decide)
    (Event.of step (exec step (new .free true sampleFirst) sampleSwitched) revoke)
    (by simp [history_append])).2.1
  rcases undone with first | ⟨switched, stands, -, session, found, -⟩
  · exact absurd first (by decide +kernel)
  · have owner : ∀ other ∈ (step (exec step (new .free true sampleFirst) sampleSwitched)
        revoke).2.displayModeState, other.owner = Host.sampleGuest := by decide +kernel
    rw [owner switched stands] at found
    have gone : (step (exec step (new .free true sampleFirst) sampleSwitched)
        revoke).2.host.sessions.sessions.lookup Host.sampleGuest = none := by decide +kernel
    rw [Event.of_post, gone] at found
    cases found

end Lumepeer.Runtime.Displays
