import Lumepeer.Runtime.Network.Credentials

/-!
# What a guest's handlers do to its connections and waits

A handler of the guest starts a dial (`spawnDialAs`), takes in a connection (`adopt`),
or does neither: then it closes connections and waits, and no more, but for the one
host that it is about. What it is about is the host of a connection that has ended, of
a dial that has reported back, or of a window that the user has closed.
-/

namespace Lumepeer.Runtime.Guest
open Lumepeer.Lib Lumepeer.Core

variable {env : GuestEnv} {free : NodeId → Prop}

/-- The part of the guest that says whom it dials, whom it is connected to and whom the form is
about. -/
structure Lines where
  shown : Option NodeId
  dialSeq : UInt64
  connections : HashMap NodeId ConnectionHandle
  waits : HashMap NodeId ReconnectWait
  leaving : HashMap NodeId UInt64

def lines (guest : Guest) : Lines where
  shown := guest.connectPeer
  dialSeq := guest.dialSeq
  connections := guest.connections
  waits := guest.reconnectWaits
  leaving := guest.leaving

/-- No dial is started and no connection taken in. The form turns to no host, and a wait has the dial
that it had, but for a host that is `free`: a wait for that may begin, or rest. No wait begins for a
host that a goodbye is owed to. -/
structure Rests (free : NodeId → Prop) (before after : Lines) : Prop where
  shown : ∀ p, after.shown = some p → before.shown = some p ∨ free p
  dialSeq : after.dialSeq = before.dialSeq
  connections : ∀ p handle, after.connections.lookup p = some handle →
    ∃ earlier, before.connections.lookup p = some earlier ∧ earlier.id = handle.id
  waits : ∀ p wait, after.waits.lookup p = some wait →
    wait.dialing = false ∧ free p ∨
      ∃ earlier, before.waits.lookup p = some earlier ∧ wait.dialing = earlier.dialing ∧
        wait.dialSeq = earlier.dialSeq
  keyed : ∀ p wait, after.waits.lookup p = some wait →
    wait.peer = p ∨ ∃ earlier, before.waits.lookup p = some earlier ∧ wait.peer = earlier.peer
  leaving : ∀ p, (after.leaving.lookup p).isSome → (after.waits.lookup p).isSome →
    (before.leaving.lookup p).isSome ∧ (before.waits.lookup p).isSome

/-- And no wait is given up while its dial is in flight and the form stays about its host, unless
there is a connection with it. -/
structure Keeps (free : NodeId → Prop) (before after : Lines) : Prop extends
    Rests free before after where
  stays : ∀ p wait, before.waits.lookup p = some wait → wait.dialing = true →
    after.shown = some p →
      (∃ later, after.waits.lookup p = some later ∧ later.dialing = true ∧
        later.dialSeq = wait.dialSeq) ∨ (before.connections.lookup p).isSome ∨ free p

theorem Rests.trans {first second third : Lines} (one : Rests free first second)
    (two : Rests free second third) : Rests free first third where
  shown p isShown := (two.shown p isShown).elim (one.shown p) .inr
  dialSeq := two.dialSeq.trans one.dialSeq
  connections p handle found := by
    obtain ⟨between, isBetween, same⟩ := two.connections p handle found
    obtain ⟨earlier, isEarlier, same'⟩ := one.connections p between isBetween
    exact ⟨earlier, isEarlier, same'.trans same⟩
  waits p wait found := by
    rcases two.waits p wait found with idle | ⟨between, isBetween, dialing, dialSeq⟩
    · exact .inl idle
    · rcases one.waits p between isBetween with
        ⟨idle, isFree⟩ | ⟨earlier, isEarlier, dialing', dialSeq'⟩
      · exact .inl ⟨dialing.trans idle, isFree⟩
      · exact .inr ⟨earlier, isEarlier, dialing.trans dialing', dialSeq.trans dialSeq'⟩
  keyed p wait found := by
    rcases two.keyed p wait found with isPeer | ⟨between, isBetween, same⟩
    · exact .inl isPeer
    · rcases one.keyed p between isBetween with isPeer | ⟨earlier, isEarlier, same'⟩
      · exact .inl (same.trans isPeer)
      · exact .inr ⟨earlier, isEarlier, same.trans same'⟩
  leaving p owed waits := by
    obtain ⟨owed', waits'⟩ := two.leaving p owed waits
    exact one.leaving p owed' waits'

theorem Keeps.trans {first second third : Lines} (one : Keeps free first second)
    (two : Keeps free second third) : Keeps free first third where
  toRests := one.toRests.trans two.toRests
  stays p wait found dialing isShown := by
    rcases two.shown p isShown with isShown' | isFree
    · rcases one.stays p wait found dialing isShown' with ⟨between, isBetween, dialing', same⟩ | ended
      · rcases two.stays p between isBetween dialing' isShown with
          ⟨later, isLater, dialing'', same'⟩ | connected | isFree
        · exact .inl ⟨later, isLater, dialing'', same'.trans same⟩
        · obtain ⟨handle, isHandle⟩ := Option.isSome_iff_exists.mp connected
          obtain ⟨earlier, isEarlier, -⟩ := one.connections p handle isHandle
          exact .inr (.inl (by rw [isEarlier]; rfl))
        · exact .inr (.inr isFree)
      · exact .inr ended
    · exact .inr (.inr isFree)

/-- While the form is about nobody, no wait can be given up behind it. -/
theorem Rests.keeps_of_hidden {before after : Lines} (rests : Rests free before after)
    (hidden : after.shown = none) : Keeps free before after where
  toRests := rests
  stays p _ _ _ isShown := by
    rw [hidden] at isShown
    cases isShown

theorem Keeps.of_eq {before after : Lines} (same : after = before) : Keeps free before after := by
  subst same
  exact
    { shown := fun _ isShown => .inl isShown
      dialSeq := rfl
      connections := fun _ handle found => ⟨handle, found, rfl⟩
      waits := fun _ wait found => .inr ⟨wait, found, rfl, rfl⟩
      keyed := fun _ wait found => .inr ⟨wait, found, rfl⟩
      leaving := fun _ owed waits => ⟨owed, waits⟩
      stays := fun _ wait found dialing _ => .inl ⟨wait, found, dialing, rfl⟩ }

/-! ## Parts -/

/-- The form is about what it was about, about nobody or about a host that is free. -/
theorem Keeps.turns (lines : Lines) {shown : Option NodeId}
    (turns : ∀ p, shown = some p → lines.shown = some p ∨ free p) :
    Keeps free lines { lines with shown } :=
  { Keeps.of_eq (rfl : lines = lines) with
    shown := turns
    stays := fun _ wait found dialing _ => .inl ⟨wait, found, dialing, rfl⟩ }

theorem Keeps.hides (lines : Lines) : Keeps free lines { lines with shown := none } :=
  .turns lines nofun

theorem Keeps.closes (lines : Lines) (peer : NodeId) :
    Keeps free lines { lines with connections := lines.connections.erase peer } :=
  { Keeps.of_eq (rfl : lines = lines) with
    connections := fun p handle found => by
      rw [HashMap.lookup_erase_eq] at found
      split at found
      · cases found
      · exact ⟨handle, found, rfl⟩ }

theorem Rests.ends (lines : Lines) (peer : NodeId) :
    Rests free lines { lines with waits := lines.waits.erase peer } where
  shown _ isShown := .inl isShown
  dialSeq := rfl
  connections _ handle found := ⟨handle, found, rfl⟩
  waits p wait found := by
    rw [HashMap.lookup_erase_eq] at found
    split at found
    · cases found
    · exact .inr ⟨wait, found, rfl, rfl⟩
  keyed p wait found := by
    rw [HashMap.lookup_erase_eq] at found
    split at found
    · cases found
    · exact .inr ⟨wait, found, rfl⟩
  leaving p owed waits := by
    rw [HashMap.lookup_erase_eq] at waits
    split at waits
    · cases waits
    · exact ⟨owed, waits⟩

/-- A wait may end when its dial is not in flight behind the form. -/
theorem Keeps.ends (lines : Lines) {peer : NodeId}
    (ended : ∀ wait, lines.waits.lookup peer = some wait → wait.dialing = true →
      lines.shown = some peer → (lines.connections.lookup peer).isSome ∨ free peer) :
    Keeps free lines { lines with waits := lines.waits.erase peer } where
  toRests := Rests.ends lines peer
  stays p wait found dialing isShown := by
    rw [HashMap.lookup_erase_eq]
    split
    · rename_i isPeer
      subst isPeer
      exact .inr (ended wait found dialing isShown)
    · exact .inl ⟨wait, found, dialing, rfl⟩

/-- A wait is written again, with the dial that it had or without one. -/
theorem Keeps.rewrites (lines : Lines) (peer : NodeId) (f : ReconnectWait → ReconnectWait)
    (samePeer : ∀ wait, (f wait).peer = wait.peer)
    (keeps : ∀ wait, (f wait).dialing = false ∧ free peer ∨
      (f wait).dialing = wait.dialing ∧ (f wait).dialSeq = wait.dialSeq) :
    Keeps free lines { lines with waits := HashMap.modify peer f lines.waits } where
  shown _ isShown := .inl isShown
  dialSeq := rfl
  connections _ handle found := ⟨handle, found, rfl⟩
  waits p wait found := by
    rw [HashMap.lookup_modify_eq] at found
    split at found
    · rename_i same
      subst same
      obtain ⟨earlier, isEarlier, rfl⟩ := Option.map_eq_some_iff.mp found
      rcases keeps earlier with ⟨idle, isFree⟩ | ⟨dialing, dialSeq⟩
      · exact .inl ⟨idle, isFree⟩
      · exact .inr ⟨earlier, isEarlier, dialing, dialSeq⟩
    · exact .inr ⟨wait, found, rfl, rfl⟩
  keyed p wait found := by
    rw [HashMap.lookup_modify_eq] at found
    split at found
    · rename_i same
      subst same
      obtain ⟨earlier, isEarlier, rfl⟩ := Option.map_eq_some_iff.mp found
      exact .inr ⟨earlier, isEarlier, samePeer earlier⟩
    · exact .inr ⟨wait, found, rfl⟩
  leaving p owed waits := by
    rw [HashMap.lookup_modify_eq] at waits
    split at waits
    · rename_i same
      subst same
      exact ⟨owed, by simpa using waits⟩
    · exact ⟨owed, waits⟩
  stays p wait found dialing isShown := by
    rw [HashMap.lookup_modify_eq]
    split
    · rename_i same
      subst same
      rcases keeps wait with ⟨-, isFree⟩ | ⟨dialing', dialSeq⟩
      · exact .inr (.inr isFree)
      · exact .inl ⟨f wait, by rw [found]; rfl, dialing'.trans dialing, dialSeq⟩
    · exact .inl ⟨wait, found, dialing, rfl⟩

/-- A connection that is there is written again, under the id that it had. -/
theorem Keeps.hears (lines : Lines) {peer : NodeId} {handle handle' : ConnectionHandle}
    (found : lines.connections.lookup peer = some handle) (same : handle'.id = handle.id) :
    Keeps free lines { lines with connections := lines.connections.insert peer handle' } :=
  { Keeps.of_eq (rfl : lines = lines) with
    connections := fun p other isOther => by
      rw [HashMap.lookup_insert_eq] at isOther
      split at isOther
      · rename_i isPeer
        cases isOther
        exact ⟨handle, by rw [isPeer, found], same.symm⟩
      · exact ⟨other, isOther, rfl⟩ }

/-- A wait begins, with no dial yet, and no goodbye is owed any more. -/
theorem Keeps.begins (lines : Lines) {peer : NodeId} {wait : ReconnectWait}
    (idle : wait.dialing = false) (isPeer : wait.peer = peer) (isFree : free peer) :
    Keeps free lines { lines with
      waits := lines.waits.insert peer wait
      leaving := lines.leaving.erase peer } where
  shown _ isShown := .inl isShown
  dialSeq := rfl
  connections _ handle found := ⟨handle, found, rfl⟩
  waits p other found := by
    rw [HashMap.lookup_insert_eq] at found
    split at found
    · rename_i same
      cases found
      exact .inl ⟨idle, same ▸ isFree⟩
    · exact .inr ⟨other, found, rfl, rfl⟩
  keyed p other found := by
    rw [HashMap.lookup_insert_eq] at found
    split at found
    · rename_i same
      cases found
      exact .inl (isPeer.trans same.symm)
    · exact .inr ⟨other, found, rfl⟩
  leaving p owed waits := by
    rw [HashMap.lookup_erase_eq] at owed
    split at owed
    · cases owed
    · rename_i other
      rw [HashMap.lookup_insert_eq, if_neg other] at waits
      exact ⟨owed, waits⟩
  stays p other found dialing isShown := by
    rw [HashMap.lookup_insert_eq]
    split
    · rename_i same
      exact .inr (.inr (same ▸ isFree))
    · exact .inl ⟨other, found, dialing, rfl⟩

/-- A goodbye is owed once the wait is over. -/
theorem Rests.leaves (lines : Lines) (peer : NodeId) (seq : UInt64) :
    Rests free lines { lines with
      waits := lines.waits.erase peer
      leaving := lines.leaving.insert peer seq } :=
  { Rests.ends lines peer with
    leaving := fun p owed waits => by
      have other : p ≠ peer := by
        rintro rfl
        rw [HashMap.lookup_erase_eq, if_pos rfl] at waits
        cases waits
      rw [AList.lookup_insert_ne other] at owed
      rw [AList.lookup_erase_ne other] at waits
      exact ⟨owed, waits⟩ }

/-! ## What leaves connections and waits alone -/

@[simp] theorem lines_stopConnectRetry (guest : Guest) : guest.stopConnectRetry.lines = guest.lines := by
  unfold stopConnectRetry
  split <;> rfl

theorem keeps_settleConnect (guest : Guest) (peer : NodeId) (outcome : ConnectPhase) :
    Keeps free guest.lines (guest.settleConnect peer outcome).lines := by
  have kept := lines_stopConnectRetry guest
  unfold settleConnect
  split_ifs
  · exact .of_eq rfl
  · exact .of_eq rfl
  · exact .of_eq kept
  · refine Keeps.trans (.of_eq kept) ?_
    exact Keeps.hides guest.stopConnectRetry.lines

theorem keeps_retryConnectSoon (guest : Guest) {peer : NodeId}
    (turns : guest.connectPeer = some peer ∨ free peer) :
    Keeps free guest.lines (guest.retryConnectSoon peer).2.lines := by
  unfold retryConnectSoon
  split
  · exact .of_eq rfl
  · refine Keeps.turns guest.lines ?_
    rintro p ⟨⟩
    exact turns

theorem keeps_showWaitInForm (guest : Guest) {peer : NodeId} (phase : ConnectPhase)
    (isFree : free peer) :
    Keeps free guest.lines (guest.showWaitInForm peer phase).2.lines := by
  unfold showWaitInForm
  split
  · refine Keeps.turns guest.lines ?_
    rintro p ⟨⟩
    exact .inr isFree
  · exact .of_eq rfl

theorem lines_of_showWaitInForm {guest next : Guest} {peer : NodeId} {phase : ConnectPhase}
    {onForm : Bool} (equation : guest.showWaitInForm peer phase = (onForm, next)) :
    next.lines = { guest.lines with shown := next.connectPeer } := by
  unfold showWaitInForm at equation
  split at equation <;>
    · cases equation
      rfl

theorem eq_of_showWaitInForm {guest next : Guest} {peer : NodeId} {phase : ConnectPhase}
    (equation : guest.showWaitInForm peer phase = (false, next)) : next = guest := by
  unfold showWaitInForm at equation
  split at equation
  · cases equation
  · cases equation
    rfl

@[simp] theorem lines_recordVisit (guest : Guest) (peer : NodeId) :
    (guest.recordVisit env peer).lines = guest.lines := by
  unfold recordVisit
  split <;> rfl

@[simp] theorem lines_endView (guest : Guest) (peer : NodeId) (parks : Bool) :
    (guest.endView env peer parks).lines = guest.lines := by
  unfold endView
  split
  · have kept := @lines_recordVisit env
      { guest with views := Function.update guest.views peer false } peer
    dsimp only
    split <;> exact kept
  · rfl

@[simp] theorem lines_startView (guest : Guest) (peer : NodeId) (role : Role) :
    (guest.startView env peer role).lines = guest.lines := by
  unfold startView
  split_ifs <;> first | exact lines_endView _ _ _ | rfl

@[simp] theorem lines_rememberPending (guest : Guest) (peer : NodeId) :
    (rememberPending env guest peer).2.lines = guest.lines := by
  unfold rememberPending
  split
  · unfold rememberPassword
    split <;> rfl
  · rfl

@[simp] theorem lines_forgetCredentialExchange (guest : Guest) (peer : NodeId) :
    (guest.forgetCredentialExchange peer).lines = guest.lines := by
  unfold forgetCredentialExchange
  dsimp only
  split_ifs <;> rfl

@[simp] theorem lines_dropRefused (guest : Guest) (peer : NodeId) :
    (dropRefused env guest peer).lines = guest.lines := by
  unfold dropRefused
  dsimp only
  split <;> rfl

theorem keeps_onUnattendedSubmit (guest : Guest) (password : Password) (code : Option String)
    (remember : Bool) (draw : List UInt8) :
    Keeps free guest.lines (onUnattendedSubmit env guest password code remember draw).2.lines := by
  unfold onUnattendedSubmit
  split
  · exact .of_eq rfl
  · split
    · exact .of_eq rfl
    · dsimp only
      split
      · unfold answerChallenge
        split
        · exact .of_eq rfl
        · split
          · exact Keeps.hides guest.lines
          · exact .of_eq rfl
      · split
        · exact .of_eq rfl
        · unfold sendPassword
          split <;> exact .of_eq rfl

theorem keeps_onCredentialChallenge (guest : Guest) (peer : NodeId) (codeRequired : Bool)
    (draw : List UInt8) :
    Keeps free guest.lines (onCredentialChallenge env guest peer codeRequired draw).2.lines := by
  unfold onCredentialChallenge
  dsimp only
  split
  · split
    · exact keeps_onUnattendedSubmit { guest with
        connectPhase := .awaitingCredentials
        connectCodeRequired := codeRequired
        connectFailure := none
        connectRetrySecs := none
        connectCredentialsAuto := true } _ none false draw
    · exact .of_eq rfl
  · exact .of_eq rfl

theorem keeps_onUnattendedChallenge (guest : Guest) (peer : NodeId) (codeRequired : Bool)
    (draw : List UInt8) :
    Keeps free guest.lines (onUnattendedChallenge env guest peer codeRequired draw).2.lines := by
  unfold onUnattendedChallenge
  split
  · exact .of_eq rfl
  · exact keeps_onCredentialChallenge { guest with
      proofChallenge := none
      proofHost := none
      queuedProof := none } peer codeRequired draw

theorem keeps_onUnattendedProofChallenge (guest : Guest) (peer : NodeId) (codeRequired : Bool)
    (kdf : ProofKdf) (hostMessage : List UInt8) (draw : List UInt8) :
    Keeps free guest.lines
      (onUnattendedProofChallenge env guest peer codeRequired kdf hostMessage draw).2.lines := by
  unfold onUnattendedProofChallenge
  split
  · exact .of_eq rfl
  · dsimp only
    split
    · split
      · exact keeps_onUnattendedSubmit { guest with
          proofChallenge := some (peer, kdf, hostMessage)
          proofHost := some peer
          connectCodeRequired := codeRequired
          queuedProof := none } _ _ _ draw
      · exact .of_eq rfl
    · exact keeps_onCredentialChallenge { guest with
        proofChallenge := some (peer, kdf, hostMessage)
        proofHost := some peer } peer codeRequired draw

theorem keeps_onUnattendedReject (guest : Guest) (peer : NodeId) (reason : UnattendedRejection) :
    Keeps free guest.lines (onUnattendedReject env guest peer reason).lines := by
  have dropped := @lines_dropRefused env guest peer
  unfold onUnattendedReject
  split
  · exact .of_eq rfl
  · dsimp only
    refine Keeps.trans (.of_eq dropped) ?_
    split
    · exact Keeps.hides (dropRefused env guest peer).lines
    · exact .of_eq rfl

/-! ## Waits and windows -/

theorem keeps_stopReconnectWait (guest : Guest) {peer : NodeId}
    (ended : ∀ wait, guest.reconnectWaits.lookup peer = some wait → wait.dialing = true →
      guest.connectPeer = some peer → (guest.connections.lookup peer).isSome ∨ free peer) :
    Keeps free guest.lines (guest.stopReconnectWait peer).lines := Keeps.ends guest.lines ended

theorem keeps_startReconnectWait (guest : Guest) {peer : NodeId} (resume : Option SessionId)
    (sessionOver : Bool) (isFree : free peer) :
    Keeps free guest.lines (guest.startReconnectWait env peer resume sessionOver).lines := by
  have begins : Keeps free guest.lines { guest with
      reconnectWaitGeneration := guest.reconnectWaitGeneration + 1
      reconnectWaits := guest.reconnectWaits.insert peer
        { peer, hostTag := env.hostTag peer, startedAt := guest.now
          generation := guest.reconnectWaitGeneration + 1, resume
          dialing := false, dialSeq := 0, refused := sessionOver }
      leaving := guest.leaving.erase peer }.lines := Keeps.begins guest.lines rfl rfl isFree
  unfold startReconnectWait
  dsimp only
  generalize ({ guest with
    reconnectWaitGeneration := guest.reconnectWaitGeneration + 1
    reconnectWaits := guest.reconnectWaits.insert peer
      { peer, hostTag := env.hostTag peer, startedAt := guest.now
        generation := guest.reconnectWaitGeneration + 1, resume
        dialing := false, dialSeq := 0, refused := sessionOver }
    leaving := guest.leaving.erase peer } : Guest) = waiting at begins ⊢
  have shows (phase : ConnectPhase) := begins.trans (keeps_showWaitInForm waiting phase isFree)
  split
  all_goals
    next equation =>
      have kept := shows (if resume.isSome then .resuming else .waitingForHost)
      rw [equation] at kept
      exact kept

theorem keeps_onResumeRefused (guest : Guest) {peer : NodeId} (isFree : free peer) :
    Keeps free guest.lines (guest.onResumeRefused peer).lines := by
  unfold onResumeRefused
  split
  · exact .of_eq rfl
  · next wait isWait =>
      have found : guest.lines.waits.lookup peer = some wait := isWait
      have refuses : Keeps free guest.lines { guest with
          reconnectWaits := guest.reconnectWaits.insert peer
            { wait with resume := none, dialing := false, refused := true } }.lines := by
        have rewrites := Keeps.rewrites guest.lines peer
          (fun wait => { wait with resume := none, dialing := false, refused := true })
          (fun _ => rfl) (fun _ => .inl ⟨rfl, isFree⟩)
        unfold HashMap.modify at rewrites
        rw [found] at rewrites
        exact rewrites
      refine refuses.trans ?_
      have shows := @keeps_showWaitInForm free { guest with
        reconnectWaits := guest.reconnectWaits.insert peer
          { wait with resume := none, dialing := false, refused := true } } peer .waitingForHost
        isFree
      have stops := @keeps_stopReconnectWait free { guest with
        reconnectWaits := guest.reconnectWaits.insert peer
          { wait with resume := none, dialing := false, refused := true } } peer
        fun _ _ _ _ => .inr isFree
      dsimp only
      split
      · split
        all_goals
          next equation =>
            rw [equation] at shows
            exact shows
      · split
        · exact stops.trans (Keeps.hides _)
        · exact stops

theorem keeps_onConsentGrant (guest : Guest) {peer : NodeId} (role : Role)
    (connected : (guest.connections.lookup peer).isSome) :
    Keeps free guest.lines (onConsentGrant env guest peer role).2.lines := by
  have ends : Keeps free guest.lines (guest.finishReconnectWait peer).lines :=
    Keeps.ends guest.lines fun _ _ _ _ => .inl connected
  have settles := ends.trans
    (keeps_settleConnect (guest.finishReconnectWait peer) peer .connected)
  unfold onConsentGrant
  dsimp only
  have kept := @lines_rememberPending env
    (((guest.finishReconnectWait peer).settleConnect peer .connected).recordVisit env peer) peer
  rw [lines_recordVisit] at kept
  rcases remembered : rememberPending env
    (((guest.finishReconnectWait peer).settleConnect peer .connected).recordVisit env peer) peer
    with ⟨deeds, after⟩
  rw [remembered] at kept
  rw [← kept] at settles
  exact settles.trans (.of_eq (lines_startView _ _ _))

theorem keeps_onConsentRevoke (guest : Guest) {peer : NodeId}
    (connected : (guest.connections.lookup peer).isSome) :
    Keeps free guest.lines (onConsentRevoke env guest peer).lines := by
  unfold onConsentRevoke
  generalize stopped : (if !guest.views peer && (guest.reconnectWaits.lookup peer).isSome then
    guest.stopReconnectWait peer else guest) = left
  have stops : Keeps free guest.lines left.lines := by
    rw [← stopped]
    split
    · exact keeps_stopReconnectWait guest fun _ _ _ _ => .inl connected
    · exact .of_eq rfl
  have ended : Keeps free guest.lines ((left.settleConnect peer .denied).endView env peer false).lines := by
    rw [lines_endView]
    exact stops.trans (keeps_settleConnect left peer .denied)
  dsimp only
  split
  · exact ended.trans (Keeps.closes _ peer)
  · exact ended

theorem keeps_onInbound (guest : Guest) (peer : NodeId) (id : UInt64) (kind : MessageKind)
    (draw : List UInt8) : Keeps free guest.lines (onInbound env guest peer id kind draw).2.lines := by
  unfold onInbound
  split
  · exact .of_eq rfl
  · next handle isHandle =>
      obtain ⟨found, -⟩ := Option.filter_eq_some_iff.mp isHandle
      have hears : Keeps free guest.lines { guest with
          connections := guest.connections.insert peer
            { handle with lastHeard := guest.now } }.lines :=
        Keeps.hears guest.lines found rfl
      have connected : (({ guest with
          connections := guest.connections.insert peer
            { handle with lastHeard := guest.now } } : Guest).connections.lookup peer).isSome := by
        simp
      dsimp only
      split
      · exact hears
      · refine hears.trans ?_
        split
        · exact keeps_onConsentGrant _ _ connected
        · exact keeps_onConsentRevoke _ connected
        · exact keeps_onUnattendedChallenge _ _ _ draw
        · exact keeps_onUnattendedProofChallenge _ _ _ _ _ draw
        · exact keeps_onUnattendedReject _ _ _
        · exact .of_eq rfl

/-! ## Endings -/

theorem keeps_settleClosed (guest : Guest) (peer : NodeId) (wasWatching closedByPeer : Bool) :
    Keeps free guest.lines (guest.settleClosed peer wasWatching closedByPeer).lines := by
  unfold settleClosed
  split
  · rename_i unanswered
    have shown : guest.connectPeer = some peer := by
      simp only [connectIsStillUnanswered, Bool.and_eq_true, decide_eq_true_eq] at unanswered
      exact unanswered.1.1.1.2
    have retries : Keeps free guest.lines (guest.retryConnectSoon peer).2.lines :=
      keeps_retryConnectSoon guest (.inl shown)
    split
    · next again =>
        rw [again] at retries
        exact retries
    · next again =>
        rw [again] at retries
        exact retries.trans (keeps_settleConnect _ peer .failed)
  · exact keeps_settleConnect guest peer .failed

theorem keeps_waitAfterClose (guest : Guest) {peer : NodeId} (resume : Option SessionId)
    (wasWatching sessionOver hostRestarting resumingOverThis resumeRefused : Bool)
    (isFree : wasWatching ∨ hostRestarting ∨ resumeRefused ∨ resumingOverThis → free peer) :
    Keeps free guest.lines (waitAfterClose env guest peer resume wasWatching sessionOver
      hostRestarting resumingOverThis resumeRefused).lines := by
  have ended (parks : Bool) : (guest.endView env peer parks).lines = guest.lines :=
    lines_endView guest peer parks
  unfold waitAfterClose
  split
  · next watching =>
      refine Keeps.trans (.of_eq (ended true)) ?_
      exact keeps_startReconnectWait _ _ _ (isFree (.inl watching))
  · refine Keeps.trans (.of_eq (ended false)) ?_
    dsimp only
    split
    · next restarts =>
        rw [Bool.and_eq_true] at restarts
        exact keeps_startReconnectWait _ _ _ (isFree (.inr (.inl restarts.1)))
    · split
      · next refused => exact keeps_onResumeRefused _ (isFree (.inr (.inr (.inl refused))))
      · split
        · next resumes =>
            exact keeps_showWaitInForm _ .resuming (isFree (.inr (.inr (.inr resumes))))
        · exact .of_eq rfl

/-- There is a connection with the host, its window is on the screen, or a wait resumes its
session. -/
def Engaged (guest : Guest) (peer : NodeId) : Prop :=
  (guest.connections.lookup peer).isSome ∨ guest.views peer ∨
    (guest.reconnectWaits.lookup peer).any (·.resume.isSome)

theorem engaged_forgetCredentialExchange (guest : Guest) (peer : NodeId) :
    (guest.forgetCredentialExchange peer).views = guest.views ∧
      (guest.forgetCredentialExchange peer).reconnectWaits = guest.reconnectWaits := by
  unfold forgetCredentialExchange
  dsimp only
  split <;> split <;> exact ⟨rfl, rfl⟩

theorem keeps_onClosed (guest : Guest) {peer : NodeId} (id : UInt64) (ending : Ending)
    (isFree : Engaged guest peer → free peer) :
    Keeps free guest.lines (onClosed env guest peer id ending).lines := by
  unfold onClosed
  dsimp only
  split
  · exact .of_eq rfl
  · have closes : Keeps free guest.lines
        ({ guest with connections := guest.connections.erase peer }.forgetCredentialExchange
          peer).lines := by
      rw [lines_forgetCredentialExchange]
      exact Keeps.closes guest.lines peer
    obtain ⟨views, waits⟩ := engaged_forgetCredentialExchange
      { guest with connections := guest.connections.erase peer } peer
    generalize { guest with
      connections := guest.connections.erase peer }.forgetCredentialExchange peer = forgot
      at closes views waits ⊢
    have settles := closes.trans (keeps_settleClosed forgot peer (forgot.views peer)
      ((guest.connections.lookup peer).isSome && ending.byPeer))
    refine settles.trans ?_
    apply keeps_waitAfterClose
    intro engaged
    rw [views, waits] at engaged
    apply isFree
    simp only [Bool.and_eq_true] at engaged
    rcases engaged with watching | ⟨connected, -⟩ | ⟨⟨-, connected⟩, -⟩ | ⟨-, resumes⟩
    · exact .inr (.inl watching)
    · exact .inl connected
    · exact .inl connected
    · exact .inr (.inr resumes)

theorem keeps_onConnectCancel (guest : Guest) : Keeps free guest.lines guest.onConnectCancel.lines := by
  have called : Rests free guest.lines guest.callOffWaits.stopConnectRetry.lines := by
    rw [lines_stopConnectRetry]
    unfold callOffWaits
    split
    · exact Rests.ends guest.lines _
    · exact
        { shown := fun _ isShown => .inl isShown
          dialSeq := rfl
          connections := fun _ handle found => ⟨handle, found, rfl⟩
          waits := fun _ _ found => by cases found
          keyed := fun _ _ found => by cases found
          leaving := fun _ _ waits => by cases waits }
  unfold onConnectCancel
  dsimp only
  split
  · next hidden => exact called.keeps_of_hidden hidden
  · refine Rests.keeps_of_hidden ?_ rfl
    refine called.trans ?_
    split
    · exact ((Keeps.hides _).trans (Keeps.closes _ _)).toRests
    · exact (Keeps.hides _).toRests

/-- A parked window is closed while the dial of its wait is in flight, and the form stays about its
host: `settle_connect` takes the dial for a connect of the form. -/
def LeavesDial (guest : Guest) (peer : NodeId) : Prop :=
  guest.parkedViews peer ∧ guest.connectPeer = some peer ∧ guest.connectPhase = .dialing

theorem rests_goodbye (guest : Guest) (peer : NodeId) :
    Rests free guest.lines ((guest.sayGoodbye peer).stopReconnectWait peer).lines := by
  unfold sayGoodbye
  split
  · split
    · exact Rests.leaves guest.lines peer _
    · exact Rests.ends guest.lines peer
  · exact Rests.ends guest.lines peer

theorem shown_goodbye (guest : Guest) (peer : NodeId) :
    ((guest.sayGoodbye peer).stopReconnectWait peer).connectPeer = guest.connectPeer ∧
      ((guest.sayGoodbye peer).stopReconnectWait peer).connectPhase = guest.connectPhase ∧
      ((guest.sayGoodbye peer).stopReconnectWait peer).reconnectWaits =
        guest.reconnectWaits.erase peer := by
  unfold sayGoodbye
  split
  · split <;> exact ⟨rfl, rfl, rfl⟩
  · exact ⟨rfl, rfl, rfl⟩

theorem keeps_leaveView (guest : Guest) {peer : NodeId}
    (isFree : LeavesDial guest peer → free peer) :
    Keeps free guest.lines (leaveView env guest peer).2.lines := by
  unfold leaveView
  split
  · rename_i parked
    have left : Rests free guest.lines ((guest.sayGoodbye peer).stopReconnectWait peer).lines :=
      rests_goodbye guest peer
    obtain ⟨shown, phase, waits⟩ := shown_goodbye guest peer
    show Keeps free guest.lines
      (((guest.sayGoodbye peer).stopReconnectWait peer).settleConnect peer .idle).lines
    generalize (guest.sayGoodbye peer).stopReconnectWait peer = gone at left shown phase waits ⊢
    have settles := @keeps_settleConnect free gone peer .idle
    by_cases behind : guest.connectPeer = some peer ∧ guest.connectPhase ≠ .dialing
    · -- The form turns away from the host with the wait.
      refine (left.trans settles.toRests).keeps_of_hidden ?_
      show (gone.settleConnect peer .idle).connectPeer = none
      simp [settleConnect, shown, phase, behind]
    · have ends : Keeps free guest.lines gone.lines :=
        { left with
          stays := fun p wait found dialing isShown => by
            have isShown' : guest.connectPeer = some p := shown.symm.trans isShown
            show (∃ later, gone.reconnectWaits.lookup p = some later ∧ _) ∨ _
            rw [waits, HashMap.lookup_erase_eq]
            split
            · rename_i same
              subst same
              have inDial : guest.connectPhase = .dialing := by simpa [isShown'] using behind
              exact .inr (.inr (isFree ⟨parked, isShown', inDial⟩))
            · exact .inl ⟨wait, found, dialing, rfl⟩ }
      exact ends.trans settles
  · split
    · have ended : Keeps free guest.lines
          ((guest.settleConnect peer .idle).endView env peer false).lines := by
        rw [lines_endView]
        exact keeps_settleConnect guest peer .idle
      exact ended.trans (Keeps.closes _ peer)
    · exact .of_eq rfl

/-! ## A dial is started -/

/-- A dial of `host` is started, and is that of the wait for it, if there is one. The form turns to
`host`, but for a dial of a wait that it is not free for. -/
structure Launches (env : GuestEnv) (raw : String) (host : NodeId) (before after : Lines) : Prop where
  issued : env.issuer raw = .ok host
  apart : before.connections.lookup host = none
  shown : after.shown = some host ∨
    after.shown = before.shown ∧ (before.waits.lookup host).isSome
  isAfter : after = { before with
    shown := after.shown
    dialSeq := before.dialSeq + 1
    waits := HashMap.modify host
      (fun wait => { wait with dialing := true, dialSeq := before.dialSeq + 1 }) before.waits }

/-- A dial is started, or nothing happens. -/
theorem launches_spawnDialAs (guest : Guest) (raw : String) (resume : Option SessionId) :
    (∃ error, guest.spawnDialAs env raw resume = (.error error, guest)) ∨
      ∃ host, (guest.spawnDialAs env raw resume).1 = .ok () ∧
        Launches env raw host guest.lines (guest.spawnDialAs env raw resume).2.lines := by
  unfold spawnDialAs
  split
  · exact .inl ⟨_, rfl⟩
  · next host isHost =>
      by_cases connected : (guest.connections.lookup host).isSome
      · rw [if_pos connected]
        exact .inl ⟨_, rfl⟩
      · rw [if_neg connected]
        have apart : guest.connections.lookup host = none := by simpa using connected
        cases isWait : guest.reconnectWaits.lookup host with
        | none =>
            dsimp only
            split
            · exact .inl ⟨_, rfl⟩
            · exact .inr ⟨host, rfl, isHost, apart, .inl rfl, rfl⟩
        | some wait =>
            have waits : (guest.lines.waits.lookup host).isSome := by
              show (guest.reconnectWaits.lookup host).isSome
              rw [isWait]
              rfl
            simp only [Option.isSome_some, if_true]
            split
            · exact .inl ⟨_, rfl⟩
            · generalize equation : showWaitInForm _ host _ = answer
              obtain ⟨onForm, next⟩ := answer
              right
              refine ⟨host, ?_⟩
              cases onForm with
              | true =>
                  have kept := lines_of_showWaitInForm equation
                  exact ⟨rfl, isHost, apart, .inl rfl,
                    congrArg (fun lines => { lines with shown := some host }) kept⟩
              | false =>
                  have same := eq_of_showWaitInForm equation
                  subst same
                  exact ⟨rfl, isHost, apart, .inr ⟨rfl, waits⟩, rfl⟩

/-- What an event does that may start a dial with the code `code`. -/
def Moves (env : GuestEnv) (free : NodeId → Prop) (code : Option String) (before after : Lines) :
    Prop :=
  Keeps free before after ∨
    ∃ raw host between, code = some raw ∧ Keeps free before between ∧
      Launches env raw host between after

theorem Moves.after {code : Option String} {first second third : Lines}
    (keeps : Keeps free first second) (moves : Moves env free code second third) :
    Moves env free code first third := by
  rcases moves with rest | ⟨raw, host, between, isCode, rest, launches⟩
  · exact .inl (keeps.trans rest)
  · exact .inr ⟨raw, host, between, isCode, keeps.trans rest, launches⟩

theorem moves_spawnDialAs (guest : Guest) (raw : String) (resume : Option SessionId) :
    Moves env free (some raw) guest.lines (guest.spawnDialAs env raw resume).2.lines := by
  rcases launches_spawnDialAs guest raw resume with ⟨error, same⟩ | ⟨host, -, launches⟩
  · rw [same]
    exact .inl (.of_eq rfl)
  · exact .inr ⟨raw, host, _, rfl, .of_eq rfl, launches⟩

theorem moves_onConnectRetryTick (guest : Guest) (generation : UInt64) :
    Moves env free (guest.connectRetry.map (·.code)) guest.lines
      (guest.onConnectRetryTick env generation).lines := by
  have stops : Keeps free guest.lines guest.stopConnectRetry.lines :=
    .of_eq (lines_stopConnectRetry guest)
  have about : ({ guest with connectPhase := .idle } : Guest).connectPeer = guest.connectPeer := rfl
  have idles : Keeps free guest.lines ({ guest with connectPhase := .idle } : Guest).lines :=
    .of_eq rfl
  unfold onConnectRetryTick
  generalize ({ guest with connectPhase := .idle } : Guest) = idle at about idles ⊢
  split
  · exact .inl (.of_eq rfl)
  · next retry isRetry =>
      rw [isRetry]
      split
      · exact .inl (.of_eq rfl)
      · split
        · exact .inl stops
        · split
          · exact .inl stops
          · next isShown _ =>
              refine Moves.after idles ?_
              have retries : Keeps free idle.lines (idle.retryConnectSoon retry.peer).2.lines :=
                keeps_retryConnectSoon idle (.inl (about.trans (not_not.mp isShown)))
              rcases @launches_spawnDialAs env idle retry.code none with
                ⟨error, refused⟩ | ⟨host, isOk, -⟩
              · rw [refused]
                dsimp only
                left
                split
                · next again =>
                    rw [again] at retries
                    exact retries
                · next again =>
                    rw [again] at retries
                    exact retries.trans (keeps_settleConnect _ retry.peer .failed)
              · have dialed := @moves_spawnDialAs env free idle retry.code none
                generalize idle.spawnDialAs env retry.code none = answer at isOk dialed ⊢
                obtain ⟨verdict, next⟩ := answer
                cases isOk
                exact dialed

/-- A wait that dials is given up on by a tick of its own, while the form is about its host. -/
def GivesUpDial (guest : Guest) (wait : ReconnectWait) : Prop :=
  wait.dialing = true ∧ guest.connectPeer = some wait.peer ∧
    (guest.connectPhase = .denied ∨ guest.connectPhase = .failed ∨ guest.connectFailure.isSome ∨
      guest.now - wait.startedAt ≥ rebootWaitCeilingSecs)

theorem moves_resumeTick (guest : Guest) (wait : ReconnectWait)
    (isWait : guest.reconnectWaits.lookup wait.peer = some wait) :
    ((guest.resumeTick env wait).1 = true →
      Moves env free (guest.connectionHistory.codeOf wait.hostTag) guest.lines
        (guest.resumeTick env wait).2.lines) ∧
    ((guest.resumeTick env wait).1 = false →
      Keeps free guest.lines (guest.resumeTick env wait).2.lines ∧
        (guest.resumeTick env wait).2.connectionHistory = guest.connectionHistory ∧
        (∀ later, (guest.resumeTick env wait).2.reconnectWaits.lookup wait.peer = some later →
          later.dialing = wait.dialing) ∧
        (GivesUpDial (guest.resumeTick env wait).2 wait → GivesUpDial guest wait)) := by
  have rests : Keeps free guest.lines { guest with
      reconnectWaits := HashMap.modify wait.peer (fun wait => { wait with resume := none })
        guest.reconnectWaits }.lines :=
    Keeps.rewrites guest.lines wait.peer _ (fun _ => rfl) fun _ => .inr ⟨rfl, rfl⟩
  have same : ∀ later, (HashMap.modify wait.peer (fun wait => { wait with resume := none })
      guest.reconnectWaits).lookup wait.peer = some later → later.dialing = wait.dialing := by
    intro later found
    rw [HashMap.lookup_modify_eq, if_pos rfl, isWait] at found
    cases found
    rfl
  unfold resumeTick
  dsimp only
  split
  · split
    · rename_i resuming
      refine ⟨nofun, fun _ => ⟨rests, rfl, same, ?_⟩⟩
      rintro ⟨dialing, shown, stops⟩
      rcases stops with ⟨⟨⟩⟩ | ⟨⟨⟩⟩ | stops
      exact ⟨dialing, shown, .inr (.inr stops)⟩
    · exact ⟨nofun, fun _ => ⟨rests, rfl, same, id⟩⟩
  · split
    · exact ⟨fun _ => .inl (.of_eq rfl), nofun⟩
    · next waiting =>
        have idle : wait.dialing = false := by
          simp only [Bool.or_eq_true, not_or, Bool.not_eq_true] at waiting
          exact waiting.1
        have stops : Keeps free guest.lines (guest.stopReconnectWait wait.peer).lines :=
          keeps_stopReconnectWait guest fun later found dialing _ => by
            rw [isWait] at found
            cases found
            rw [idle] at dialing
            cases dialing
        split
        · refine ⟨fun _ => .inl ?_, by split <;> nofun⟩
          split
          · exact stops.trans (Keeps.hides _)
          · exact stops
        · next code isCode =>
            rw [isCode]
            exact ⟨fun _ => moves_spawnDialAs guest code wait.resume, nofun⟩

theorem moves_waitTick (guest : Guest) (wait : ReconnectWait)
    (isWait : ∀ later, guest.reconnectWaits.lookup wait.peer = some later →
      later.dialing = wait.dialing)
    (isFree : GivesUpDial guest wait → free wait.peer) :
    Moves env free (guest.connectionHistory.codeOf wait.hostTag) guest.lines
      (guest.waitTick env wait).lines := by
  have stops (ended : wait.dialing = true → guest.connectPeer = some wait.peer →
      GivesUpDial guest wait) :
      Keeps free guest.lines (guest.stopReconnectWait wait.peer).lines :=
    keeps_stopReconnectWait guest fun later found dialing shown =>
      .inr (isFree (ended ((isWait later found).symm.trans dialing) shown))
  unfold waitTick
  dsimp only
  split
  · rename_i verdict
    refine .inl (stops fun dialing shown => ⟨dialing, shown, ?_⟩)
    rcases verdict.2 with denied | failed | failure
    · exact .inl denied
    · exact .inr (.inl failed)
    · exact .inr (.inr (.inl failure))
  · split
    · exact .inl (.of_eq rfl)
    · split
      · rename_i ceiling
        have gone := stops fun dialing shown => ⟨dialing, shown, .inr (.inr (.inr ceiling))⟩
        left
        split
        · exact gone.trans (Keeps.hides _)
        · exact gone
      · split
        · exact .inl (.of_eq rfl)
        · next waiting =>
            have idle : wait.dialing = false := by
              simp only [Bool.or_eq_true, not_or, Bool.not_eq_true] at waiting
              exact waiting.1
            have gone := stops fun dialing => absurd (idle.symm.trans dialing) nofun
            split
            · left
              split
              · exact gone.trans (Keeps.hides _)
              · exact gone
            · next code isCode =>
                rw [isCode]
                exact moves_spawnDialAs guest code none

theorem moves_onReconnectWaitTick (guest : Guest) (generation : UInt64)
    (keyed : ∀ p wait, guest.reconnectWaits.lookup p = some wait → wait.peer = p)
    (isFree : ∀ entry ∈ guest.reconnectWaits.entries.find? (·.2.generation = generation),
      GivesUpDial guest entry.2 → free entry.2.peer) :
    Moves env free
      ((guest.reconnectWaits.entries.find? (·.2.generation = generation)).bind fun entry =>
        guest.connectionHistory.codeOf entry.2.hostTag) guest.lines
      (guest.onReconnectWaitTick env generation).lines := by
  unfold onReconnectWaitTick
  split
  · exact .inl (.of_eq rfl)
  · next peer wait isEntry =>
      have found : guest.reconnectWaits.lookup peer = some wait :=
        AList.mem_lookup_iff.mpr (List.mem_of_find?_eq_some isEntry)
      have isWait : guest.reconnectWaits.lookup wait.peer = some wait := by
        rw [keyed peer wait found, found]
      have dialing : ∀ later, guest.reconnectWaits.lookup wait.peer = some later →
          later.dialing = wait.dialing := by
        intro later isLater
        rw [isWait] at isLater
        cases isLater
        rfl
      have isFree' : GivesUpDial guest wait → free wait.peer := isFree _ isEntry
      rw [isEntry, Option.bind_some]
      obtain ⟨dials, rests⟩ := @moves_resumeTick env free guest wait isWait
      split
      · split
        · next equation =>
            rw [equation] at dials
            exact dials rfl
        · next next equation =>
            rw [equation] at rests
            obtain ⟨keeps, sameRows, later, givesUp⟩ := rests rfl
            have waited := @moves_waitTick env free next wait later
              fun gives => isFree' (givesUp gives)
            rw [sameRows] at waited
            exact waited.after keeps
      · exact moves_waitTick guest wait dialing isFree'

/-! ## A dial reports back -/

theorem Keeps.idle {before after : Lines} {peer : NodeId} (keeps : Keeps free before after)
    (idle : ∀ wait, before.waits.lookup peer = some wait → wait.dialing = false) :
    ∀ wait, after.waits.lookup peer = some wait → wait.dialing = false := by
  intro wait found
  rcases keeps.waits peer wait found with ⟨isIdle, -⟩ | ⟨earlier, isEarlier, dialing, -⟩
  · exact isIdle
  · exact dialing.trans (idle earlier isEarlier)

theorem keeps_onDialFailed (guest : Guest) {peer : NodeId} (error : DialError) (resuming : Bool)
    (isFree : free peer) :
    Keeps free guest.lines (guest.onDialFailed peer error resuming).lines := by
  unfold onDialFailed
  generalize ended : (if error.isVerdict && (guest.reconnectWaits.lookup peer).isSome then
    guest.stopReconnectWait peer else guest) = left
  have stops : Keeps free guest.lines left.lines := by
    rw [← ended]
    split
    · exact keeps_stopReconnectWait guest fun _ _ _ _ => .inr isFree
    · exact .of_eq rfl
  refine stops.trans ?_
  dsimp only
  split
  · exact keeps_showWaitInForm left _ isFree
  · generalize retried : (if error.isVerdict then (false, left) else left.retryConnectSoon peer) =
      answer
    have retries : Keeps free left.lines answer.2.lines := by
      rw [← retried]
      split
      · exact .of_eq rfl
      · exact keeps_retryConnectSoon left (.inr isFree)
    obtain ⟨again, next⟩ := answer
    cases again with
    | true => exact retries
    | false =>
        have stopped := retries.trans (.of_eq (lines_stopConnectRetry next))
        exact stopped.trans (Keeps.hides _)

/-- What a dial that is acted on leaves: the wait for its host dials no more, and a connection may be
taken in. -/
def Lands (peer : NodeId) (before after : Lines) : Prop :=
  ∃ between, Keeps (· = peer) before between ∧
    (∀ wait, between.waits.lookup peer = some wait → wait.dialing = false) ∧
    (after = between ∨ ∃ handle, after = { between with
      connections := between.connections.insert peer handle })

theorem lands_of_keeps {peer : NodeId} {before between after : Lines}
    (rests : Keeps (· = peer) before between)
    (idle : ∀ wait, between.waits.lookup peer = some wait → wait.dialing = false)
    (keeps : Keeps (· = peer) between after) : Lands peer before after :=
  ⟨after, rests.trans keeps, keeps.idle idle, .inl rfl⟩

theorem lands_onConnected (guest : Guest) (peer : NodeId) (code : String)
    (result : Except DialError Control) (forWait : Bool) :
    Lands peer guest.lines (guest.onConnected peer code result forWait).lines := by
  have rests : Keeps (· = peer) guest.lines { guest with
      reconnectWaits := HashMap.modify peer (fun wait => { wait with dialing := false })
        guest.reconnectWaits }.lines :=
    Keeps.rewrites guest.lines peer _ (fun _ => rfl) fun _ => .inl ⟨rfl, rfl⟩
  have idle : ∀ wait, ({ guest with
      reconnectWaits := HashMap.modify peer (fun wait => { wait with dialing := false })
        guest.reconnectWaits } : Guest).lines.waits.lookup peer = some wait →
      wait.dialing = false := by
    intro wait found
    have written : (HashMap.modify peer (fun wait => { wait with dialing := false })
      guest.reconnectWaits).lookup peer = some wait := found
    rw [HashMap.lookup_modify_eq, if_pos rfl] at written
    obtain ⟨earlier, -, rfl⟩ := Option.map_eq_some_iff.mp written
    rfl
  unfold onConnected
  dsimp only
  generalize ({ guest with
    reconnectWaits := HashMap.modify peer (fun wait => { wait with dialing := false })
      guest.reconnectWaits } : Guest) = rested at rests idle ⊢
  generalize (guest.reconnectWaits.lookup peer).any (·.resume.isSome) = resuming
  cases result with
  | error error =>
      cases error
      case reconnectRejected =>
        dsimp only
        split
        · exact lands_of_keeps rests idle (keeps_onResumeRefused rested rfl)
        · exact lands_of_keeps rests idle (keeps_onDialFailed rested _ _ rfl)
      all_goals exact lands_of_keeps rests idle (keeps_onDialFailed rested _ _ rfl)
  | ok control =>
      dsimp only
      split
      · exact lands_of_keeps rests idle (keeps_onDialFailed rested _ _ rfl)
      · generalize isFinished : (if !resuming then rested.finishReconnectWait peer else rested) =
          finished
        have finishes : Keeps (· = peer) rested.lines finished.lines := by
          rw [← isFinished]
          split
          · exact Keeps.ends rested.lines fun _ _ _ _ => .inr rfl
          · exact .of_eq rfl
        have turns : Keeps (· = peer) finished.lines { finished.lines with shown := some peer } := by
          refine Keeps.turns finished.lines ?_
          rintro p ⟨⟩
          exact .inr rfl
        split
        · exact ⟨_, (rests.trans finishes).trans turns, (finishes.trans turns).idle idle, .inr ⟨_, rfl⟩⟩
        · exact ⟨_, rests.trans finishes, finishes.idle idle, .inr ⟨_, rfl⟩⟩

end Lumepeer.Runtime.Guest
