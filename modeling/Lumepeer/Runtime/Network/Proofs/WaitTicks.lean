import Lumepeer.Runtime.Network.Proofs.Credentials
import Lumepeer.Runtime.Network.WaitTicks

/-!
# One tick per wait

A wait has one timer from its start on, since a tick either arms the next one or ends its wait. Two
things undo this: the refusal of a resume arms a timer beside the one that is armed already, and a
generation that comes round again may find a timer of its first turn.
-/

namespace Lumepeer.Runtime
open Lumepeer.Lib Lumepeer.Core

namespace Guest

variable {env : GuestEnv}

/-- The last generation that was given out, and the host and the generation that each wait holds. -/
structure Tokens where
  counter : UInt64
  waits : NodeId → Option (NodeId × UInt64)

def tokens (guest : Guest) : Tokens where
  counter := guest.reconnectWaitGeneration
  waits peer := (guest.reconnectWaits.lookup peer).map fun wait => (wait.peer, wait.generation)

/-- No wait starts. -/
structure Tokens.Drops (before after : Tokens) : Prop where
  counter : after.counter = before.counter
  waits : ∀ peer token, after.waits peer = some token → before.waits peer = some token

namespace Tokens.Drops

theorem of_eq {before after : Tokens} (same : after = before) : Drops before after := by
  subst same
  exact ⟨rfl, fun _ _ => id⟩

theorem trans {first second third : Tokens} (one : Drops first second) (two : Drops second third) :
    Drops first third where
  counter := two.counter.trans one.counter
  waits peer token held := one.waits peer token (two.waits peer token held)

end Tokens.Drops

/-! ## What leaves the waits alone -/

/-- The windows, the waits and the remembered hosts. -/
structure Standing where
  views : NodeId → Bool
  parkedViews : NodeId → Bool
  waits : HashMap NodeId ReconnectWait
  counter : UInt64
  history : ConnectionHistory

def standing (guest : Guest) : Standing where
  views := guest.views
  parkedViews := guest.parkedViews
  waits := guest.reconnectWaits
  counter := guest.reconnectWaitGeneration
  history := guest.connectionHistory

theorem tokens_of_standing {before after : Guest} (same : after.standing = before.standing) :
    after.tokens = before.tokens := by
  have counter : after.reconnectWaitGeneration = before.reconnectWaitGeneration :=
    congrArg Standing.counter same
  have waits : after.reconnectWaits = before.reconnectWaits := congrArg Standing.waits same
  unfold tokens
  rw [counter, waits]

@[simp] theorem standing_stopConnectRetry (guest : Guest) :
    guest.stopConnectRetry.standing = guest.standing := by
  unfold stopConnectRetry
  split <;> rfl

@[simp] theorem standing_settleConnect (guest : Guest) (peer : NodeId) (outcome : ConnectPhase) :
    (guest.settleConnect peer outcome).standing = guest.standing := by
  have kept := standing_stopConnectRetry guest
  unfold settleConnect
  dsimp only
  split_ifs <;> first | rfl | exact kept

@[simp] theorem standing_retryConnectSoon (guest : Guest) (peer : NodeId) :
    (guest.retryConnectSoon peer).2.standing = guest.standing := by
  unfold retryConnectSoon
  split <;> rfl

@[simp] theorem standing_forgetCredentialExchange (guest : Guest) (peer : NodeId) :
    (guest.forgetCredentialExchange peer).standing = guest.standing := by
  unfold forgetCredentialExchange
  dsimp only
  split_ifs <;> rfl

@[simp] theorem standing_settleClosed (guest : Guest) (peer : NodeId)
    (wasWatching closedByPeer : Bool) :
    (guest.settleClosed peer wasWatching closedByPeer).standing = guest.standing := by
  have kept := standing_retryConnectSoon guest peer
  unfold settleClosed
  split
  · split
    · next again => rwa [again] at kept
    · next again =>
        rw [again] at kept
        rw [standing_settleConnect, kept]
  · exact standing_settleConnect _ _ _

@[simp] theorem tokens_stopConnectRetry (guest : Guest) :
    guest.stopConnectRetry.tokens = guest.tokens :=
  tokens_of_standing (standing_stopConnectRetry guest)

@[simp] theorem tokens_settleConnect (guest : Guest) (peer : NodeId) (outcome : ConnectPhase) :
    (guest.settleConnect peer outcome).tokens = guest.tokens :=
  tokens_of_standing (standing_settleConnect guest peer outcome)

@[simp] theorem tokens_retryConnectSoon (guest : Guest) (peer : NodeId) :
    (guest.retryConnectSoon peer).2.tokens = guest.tokens :=
  tokens_of_standing (standing_retryConnectSoon guest peer)

@[simp] theorem tokens_showWaitInForm (guest : Guest) (peer : NodeId) (phase : ConnectPhase) :
    (guest.showWaitInForm peer phase).2.tokens = guest.tokens := by
  unfold showWaitInForm
  split <;> rfl

theorem tokens_of_showWaitInForm {guest next : Guest} {peer : NodeId} {phase : ConnectPhase}
    {onForm : Bool} (equation : guest.showWaitInForm peer phase = (onForm, next)) :
    next.tokens = guest.tokens := by
  have kept := tokens_showWaitInForm guest peer phase
  rwa [equation] at kept

@[simp] theorem tokens_recordVisit (guest : Guest) (peer : NodeId) :
    (guest.recordVisit env peer).tokens = guest.tokens := by
  unfold recordVisit
  split <;> rfl

@[simp] theorem tokens_endView (guest : Guest) (peer : NodeId) (parks : Bool) :
    (guest.endView env peer parks).tokens = guest.tokens := by
  unfold endView
  split
  · have kept := @tokens_recordVisit env
      { guest with views := Function.update guest.views peer false } peer
    dsimp only
    split <;> exact kept
  · rfl

@[simp] theorem tokens_startView (guest : Guest) (peer : NodeId) (role : Role) :
    (guest.startView env peer role).tokens = guest.tokens := by
  unfold startView
  split_ifs <;> first | exact tokens_endView _ _ _ | rfl

@[simp] theorem tokens_rememberPending (guest : Guest) (peer : NodeId) :
    (rememberPending env guest peer).2.tokens = guest.tokens := by
  unfold rememberPending
  split
  · unfold rememberPassword
    split <;> rfl
  · rfl

@[simp] theorem tokens_dropRefused (guest : Guest) (peer : NodeId) :
    (dropRefused env guest peer).tokens = guest.tokens := by
  unfold dropRefused
  dsimp only
  split <;> rfl

@[simp] theorem tokens_onUnattendedSubmit (guest : Guest) (password : Password)
    (code : Option String) (remember : Bool) (draw : List UInt8) :
    (onUnattendedSubmit env guest password code remember draw).2.tokens = guest.tokens := by
  unfold onUnattendedSubmit
  split
  · rfl
  · split
    · rfl
    · dsimp only
      split
      · unfold answerChallenge
        split
        · rfl
        · split <;> rfl
      · split
        · rfl
        · unfold sendPassword
          split <;> rfl

@[simp] theorem tokens_onCredentialChallenge (guest : Guest) (peer : NodeId) (codeRequired : Bool)
    (draw : List UInt8) :
    (onCredentialChallenge env guest peer codeRequired draw).2.tokens = guest.tokens := by
  unfold onCredentialChallenge
  dsimp only
  split
  · split
    · exact tokens_onUnattendedSubmit _ _ _ _ _
    · rfl
  · rfl

@[simp] theorem tokens_onUnattendedChallenge (guest : Guest) (peer : NodeId) (codeRequired : Bool)
    (draw : List UInt8) :
    (onUnattendedChallenge env guest peer codeRequired draw).2.tokens = guest.tokens := by
  unfold onUnattendedChallenge
  split
  · rfl
  · exact tokens_onCredentialChallenge _ _ _ _

@[simp] theorem tokens_onUnattendedProofChallenge (guest : Guest) (peer : NodeId)
    (codeRequired : Bool) (kdf : ProofKdf) (hostMessage draw : List UInt8) :
    (onUnattendedProofChallenge env guest peer codeRequired kdf hostMessage draw).2.tokens =
      guest.tokens := by
  unfold onUnattendedProofChallenge
  split
  · rfl
  · dsimp only
    split
    · split
      · exact tokens_onUnattendedSubmit _ _ _ _ _
      · rfl
    · exact tokens_onCredentialChallenge _ _ _ _

@[simp] theorem tokens_onUnattendedReject (guest : Guest) (peer : NodeId)
    (reason : UnattendedRejection) :
    (onUnattendedReject env guest peer reason).tokens = guest.tokens := by
  have kept := @tokens_dropRefused env guest peer
  unfold onUnattendedReject
  dsimp only
  split_ifs <;> first | rfl | exact kept

/-- A change of one wait that is not one of its host or generation. -/
theorem tokens_modify (guest : Guest) (peer : NodeId) (f : ReconnectWait → ReconnectWait)
    (same : ∀ wait, ((f wait).peer, (f wait).generation) = (wait.peer, wait.generation)) :
    ({ guest with
      reconnectWaits := HashMap.modify peer f guest.reconnectWaits } : Guest).tokens =
      guest.tokens := by
  unfold tokens
  congr 1
  funext other
  show ((HashMap.modify peer f guest.reconnectWaits).lookup other).map _ = _
  rw [HashMap.lookup_modify_eq]
  split
  · next is =>
      subst is
      rw [Option.map_map]
      exact congrArg (Option.map · _) (funext same)
  · rfl

@[simp] theorem tokens_spawnDialAs (guest : Guest) (raw : String) (resume : Option SessionId) :
    (guest.spawnDialAs env raw resume).2.tokens = guest.tokens := by
  unfold spawnDialAs
  split
  · rfl
  · next host _ =>
      have kept := tokens_modify { guest with dialSeq := guest.dialSeq + 1 } host
        (fun wait => { wait with dialing := true, dialSeq := guest.dialSeq + 1 }) fun _ => rfl
      split
      · rfl
      · cases guest.reconnectWaits.lookup host with
        | none =>
            dsimp only
            split
            · rfl
            · exact kept
        | some wait =>
            simp only [Option.isSome_some, if_true]
            split
            · rfl
            · generalize equation : showWaitInForm _ host _ = answer
              obtain ⟨onForm, next⟩ := answer
              have shown := (tokens_of_showWaitInForm equation).trans kept
              cases onForm with
              | true => exact shown
              | false => exact shown

@[simp] theorem tokens_adopt (guest : Guest) (control : Control) (peer : NodeId) (origin : Origin) :
    (guest.adopt control peer origin).tokens = guest.tokens := rfl

theorem tokens_onConnectRetryTick (guest : Guest) (generation : UInt64) :
    (guest.onConnectRetryTick env generation).tokens = guest.tokens := by
  unfold onConnectRetryTick
  split
  · rfl
  · next retry _ =>
      split_ifs
      · rfl
      · exact tokens_stopConnectRetry _
      · exact tokens_stopConnectRetry _
      · have dialed := @tokens_spawnDialAs env { guest with connectPhase := .idle } retry.code none
        generalize ({ guest with connectPhase := .idle } : Guest).spawnDialAs env retry.code none =
          answer at dialed ⊢
        obtain ⟨verdict, next⟩ := answer
        cases verdict with
        | ok => exact dialed
        | error =>
            have retries := tokens_retryConnectSoon next retry.peer
            dsimp only
            split
            · next again =>
                rw [again] at retries
                exact retries.trans dialed
            · next again =>
                rw [again] at retries
                rw [tokens_settleConnect]
                exact retries.trans dialed

/-! ## Waits that end -/

theorem drops_finishReconnectWait (guest : Guest) (peer : NodeId) :
    guest.tokens.Drops (guest.finishReconnectWait peer).tokens where
  counter := rfl
  waits other token held := by
    have found : ((guest.reconnectWaits.erase peer).lookup other).map
        (fun wait => (wait.peer, wait.generation)) = some token := held
    rw [HashMap.lookup_erase_eq] at found
    split at found
    · cases found
    · exact found

theorem drops_stopReconnectWait (guest : Guest) (peer : NodeId) :
    guest.tokens.Drops (guest.stopReconnectWait peer).tokens :=
  drops_finishReconnectWait guest peer

theorem drops_callOffWaits (guest : Guest) : guest.tokens.Drops guest.callOffWaits.tokens := by
  unfold callOffWaits
  split
  · exact drops_stopReconnectWait guest _
  · exact ⟨rfl, fun peer token held => by cases held⟩

theorem drops_onConnectCancel (guest : Guest) :
    guest.tokens.Drops guest.onConnectCancel.tokens := by
  have called : guest.tokens.Drops guest.callOffWaits.stopConnectRetry.tokens := by
    rw [tokens_stopConnectRetry]
    exact drops_callOffWaits guest
  unfold onConnectCancel
  dsimp only
  split
  · exact called
  · exact called

theorem drops_onConsentGrant (guest : Guest) (peer : NodeId) (role : Role) :
    guest.tokens.Drops (onConsentGrant env guest peer role).2.tokens := by
  have kept := @tokens_rememberPending env
    (((guest.finishReconnectWait peer).settleConnect peer .connected).recordVisit env peer) peer
  unfold onConsentGrant
  dsimp only
  rw [tokens_startView]
  show guest.tokens.Drops (rememberPending env _ peer).2.tokens
  rw [kept, tokens_recordVisit, tokens_settleConnect]
  exact drops_finishReconnectWait guest peer

theorem drops_onConsentRevoke (guest : Guest) (peer : NodeId) :
    guest.tokens.Drops (onConsentRevoke env guest peer).tokens := by
  unfold onConsentRevoke
  generalize stopped : (if !guest.views peer && (guest.reconnectWaits.lookup peer).isSome then
    guest.stopReconnectWait peer else guest) = left
  have stops : guest.tokens.Drops left.tokens := by
    rw [← stopped]
    split
    · exact drops_stopReconnectWait guest peer
    · exact .of_eq rfl
  have ended : guest.tokens.Drops
      ((left.settleConnect peer .denied).endView env peer false).tokens := by
    rw [tokens_endView, tokens_settleConnect]
    exact stops
  dsimp only
  split <;> exact ended

theorem drops_onInbound (guest : Guest) (peer : NodeId) (id : UInt64) (kind : MessageKind)
    (draw : List UInt8) : guest.tokens.Drops (onInbound env guest peer id kind draw).2.tokens := by
  unfold onInbound
  split
  · exact .of_eq rfl
  · next handle _ =>
      have heard : guest.tokens.Drops { guest with
          connections := guest.connections.insert peer
            { handle with lastHeard := guest.now } }.tokens := .of_eq rfl
      dsimp only
      generalize ({ guest with
        connections := guest.connections.insert peer
          { handle with lastHeard := guest.now } } : Guest) = hearing at heard ⊢
      split
      · exact heard
      · refine heard.trans ?_
        split
        · exact drops_onConsentGrant hearing peer _
        · exact drops_onConsentRevoke hearing peer
        · exact .of_eq (tokens_onUnattendedChallenge hearing _ _ _)
        · exact .of_eq (tokens_onUnattendedProofChallenge hearing _ _ _ _ _)
        · exact .of_eq (tokens_onUnattendedReject hearing _ _)
        · exact .of_eq rfl

theorem drops_leaveView (guest : Guest) (peer : NodeId) :
    guest.tokens.Drops (leaveView env guest peer).2.tokens := by
  unfold leaveView
  split
  · show guest.tokens.Drops
      (((guest.sayGoodbye peer).stopReconnectWait peer).settleConnect peer .idle).tokens
    rw [tokens_settleConnect]
    refine .trans (.of_eq ?_) (drops_stopReconnectWait _ peer)
    unfold sayGoodbye
    split
    · split <;> rfl
    · rfl
  · split
    · show guest.tokens.Drops ((guest.settleConnect peer .idle).endView env peer false).tokens
      rw [tokens_endView, tokens_settleConnect]
      exact .of_eq rfl
    · exact .of_eq rfl

theorem drops_onDialFailed (guest : Guest) (peer : NodeId) (error : DialError) (resuming : Bool) :
    guest.tokens.Drops (guest.onDialFailed peer error resuming).tokens := by
  unfold onDialFailed
  generalize ended : (if error.isVerdict && (guest.reconnectWaits.lookup peer).isSome then
    guest.stopReconnectWait peer else guest) = left
  have stops : guest.tokens.Drops left.tokens := by
    rw [← ended]
    split
    · exact drops_stopReconnectWait guest peer
    · exact .of_eq rfl
  refine stops.trans (.of_eq ?_)
  dsimp only
  split
  · exact tokens_showWaitInForm left peer _
  · have retried :
        (if error.isVerdict then (false, left) else left.retryConnectSoon peer).2.tokens =
          left.tokens := by
      split
      · rfl
      · exact tokens_retryConnectSoon left peer
    split
    · next again => rwa [again] at retried
    · next again =>
        rw [again] at retried
        exact (tokens_stopConnectRetry _).trans retried

/-! ## Waits that start, and resumes that are refused -/

/-- A wait for `peer` starts. -/
structure Tokens.Starts (peer : NodeId) (before after : Tokens) : Prop where
  counter : after.counter = before.counter + 1
  waits : after.waits = Function.update before.waits peer (some (peer, before.counter + 1))

theorem starts_startReconnectWait (guest : Guest) (peer : NodeId) (resume : Option SessionId)
    (sessionOver : Bool) :
    guest.tokens.Starts peer (guest.startReconnectWait env peer resume sessionOver).tokens := by
  have started : guest.tokens.Starts peer { guest with
      reconnectWaitGeneration := guest.reconnectWaitGeneration + 1
      reconnectWaits := guest.reconnectWaits.insert peer
        { peer, hostTag := env.hostTag peer, startedAt := guest.now
          generation := guest.reconnectWaitGeneration + 1, resume
          dialing := false, dialSeq := 0, refused := sessionOver }
      leaving := guest.leaving.erase peer }.tokens := by
    refine ⟨rfl, funext fun other => ?_⟩
    show ((guest.reconnectWaits.insert peer _).lookup other).map _ = _
    rw [HashMap.lookup_insert_eq]
    by_cases same : other = peer
    · rw [if_pos same, same, Function.update_self]
      rfl
    · rw [if_neg same, Function.update_of_ne same]
      rfl
  unfold startReconnectWait
  dsimp only
  split
  all_goals
    next equation =>
      have kept := tokens_of_showWaitInForm equation
      rw [← kept] at started
      exact started

/-- The wait for `peer` is one that a resume is still asked for, and its host can be dialed. -/
def ResumesKnown (guest : Guest) (peer : NodeId) : Prop :=
  ∃ wait, guest.reconnectWaits.lookup peer = some wait ∧ wait.resume.isSome ∧
    (guest.connectionHistory.codeOf wait.hostTag).isSome

theorem onResumeRefused_cases (guest : Guest) (peer : NodeId) :
    (∃ wait, guest.reconnectWaits.lookup peer = some wait ∧
      (guest.connectionHistory.codeOf wait.hostTag).isSome ∧
      guest.refusedArms peer = [guest.armReconnectWait wait.generation 1] ∧
      (guest.onResumeRefused peer).tokens = guest.tokens) ∨
    ((∀ wait, guest.reconnectWaits.lookup peer = some wait →
        ¬(guest.connectionHistory.codeOf wait.hostTag).isSome) ∧
      guest.refusedArms peer = [] ∧ guest.tokens.Drops (guest.onResumeRefused peer).tokens) := by
  unfold onResumeRefused refusedArms
  cases found : guest.reconnectWaits.lookup peer with
  | none => exact .inr ⟨nofun, rfl, .of_eq rfl⟩
  | some wait =>
      have noted : ({ guest with
          reconnectWaits := guest.reconnectWaits.insert peer
            { wait with resume := none, dialing := false, refused := true } } : Guest).tokens =
          guest.tokens := by
        have kept := tokens_modify guest peer
          (fun wait => { wait with resume := none, dialing := false, refused := true }) fun _ => rfl
        unfold HashMap.modify at kept
        rwa [found] at kept
      by_cases known : (guest.connectionHistory.codeOf wait.hostTag).isSome
      · left
        refine ⟨wait, rfl, known, if_pos known, ?_⟩
        dsimp only
        rw [if_pos known]
        split
        all_goals
          next equation => exact (tokens_of_showWaitInForm equation).trans noted
      · right
        refine ⟨?_, if_neg known, ?_⟩
        · rintro _ ⟨⟩
          exact known
        · have stops := Tokens.Drops.trans (.of_eq noted) (drops_stopReconnectWait _ peer)
          dsimp only
          rw [if_neg known]
          split <;> exact stops

/-! ## A connection that ends -/

theorem endView_of_unwatched {guest : Guest} {peer : NodeId} (unwatched : guest.views peer = false)
    (parks : Bool) : guest.endView env peer parks = guest := by
  unfold endView
  rw [unwatched]
  rfl

/-- A wait starts when a connection with `peer` ends, as its host restarts or not. -/
def Begins (guest : Guest) (peer : NodeId) (hostRestarting : Bool) : Prop :=
  guest.views peer ∨
    hostRestarting ∧ ((guest.reconnectWaits.lookup peer).isSome ∨ guest.parkedViews peer)

theorem waitAfterClose_of_begins {guest : Guest} {peer : NodeId} (resume : Option SessionId)
    {hostRestarting : Bool} (sessionOver resumingOverThis resumeRefused : Bool)
    (begins : guest.Begins peer hostRestarting) :
    (∃ due, waitAfterCloseArms env guest peer resume (guest.views peer) sessionOver hostRestarting
      resumeRefused = [⟨guest.reconnectWaitGeneration + 1, due⟩]) ∧
    guest.tokens.Starts peer (waitAfterClose env guest peer resume (guest.views peer) sessionOver
      hostRestarting resumingOverThis resumeRefused).tokens := by
  cases watched : guest.views peer with
  | true =>
      have kept : (guest.endView env peer true).tokens = guest.tokens := tokens_endView _ _ _
      have counter : (guest.endView env peer true).reconnectWaitGeneration =
          guest.reconnectWaitGeneration := congrArg Tokens.counter kept
      have starts := @starts_startReconnectWait env (guest.endView env peer true) peer
        (if sessionOver then none else resume) sessionOver
      rw [kept] at starts
      refine ⟨?_, starts⟩
      unfold waitAfterCloseArms startArms armReconnectWait
      rw [if_pos rfl, counter]
      exact ⟨_, rfl⟩
  | false =>
      have restarts : hostRestarting && ((guest.reconnectWaits.lookup peer).isSome ||
          guest.parkedViews peer) := by
        unfold Begins at begins
        rw [watched] at begins
        simpa using begins
      unfold waitAfterClose waitAfterCloseArms
      simp only [Bool.false_eq_true, if_false, endView_of_unwatched watched, if_pos restarts]
      exact ⟨⟨_, rfl⟩, starts_startReconnectWait guest peer none true⟩

theorem waitAfterClose_of_not_begins {guest : Guest} {peer : NodeId} (resume : Option SessionId)
    {hostRestarting : Bool} (sessionOver resumingOverThis resumeRefused : Bool)
    (begins : ¬guest.Begins peer hostRestarting) :
    waitAfterCloseArms env guest peer resume (guest.views peer) sessionOver hostRestarting
      resumeRefused = (if resumeRefused then guest.refusedArms peer else []) ∧
    (waitAfterClose env guest peer resume (guest.views peer) sessionOver hostRestarting
      resumingOverThis resumeRefused).tokens =
        (if resumeRefused then guest.onResumeRefused peer else guest).tokens := by
  have unwatched : guest.views peer = false := by
    cases watched : guest.views peer with
    | true => exact absurd (.inl watched) begins
    | false => rfl
  have calm : ¬(hostRestarting && ((guest.reconnectWaits.lookup peer).isSome ||
      guest.parkedViews peer)) := by
    intro restarts
    refine begins (.inr ?_)
    simpa using restarts
  unfold waitAfterClose waitAfterCloseArms
  simp only [unwatched, Bool.false_eq_true, if_false, endView_of_unwatched unwatched, if_neg calm]
  refine ⟨trivial, ?_⟩
  split
  · rfl
  · split
    · exact tokens_showWaitInForm guest peer .resuming
    · rfl

/-- A host refuses a resume that its wait asks for, and can be dialed for a new session. -/
def RefusesResume (guest : Guest) : Happening → Prop
  | .closed peer id ending =>
      (guest.connections.lookup peer).any (·.id = id) ∧ ending = .resumeRefused ∧
        guest.views peer = false ∧ guest.ResumesKnown peer
  | .dialed peer seq _ result =>
      result = .error .reconnectRejected ∧ guest.leaving.lookup peer ≠ some seq ∧
        (guest.connectPeer = some peer ∨
          (guest.reconnectWaits.lookup peer).any fun wait => wait.dialing && wait.dialSeq = seq) ∧
        guest.ResumesKnown peer
  | _ => False

/-- A connection ends that a wait follows on. -/
def StartsWait (guest : Guest) : Happening → Prop
  | .closed peer id ending =>
      (guest.connections.lookup peer).all (·.id = id) ∧
        guest.Begins peer ((guest.connections.lookup peer).isSome && ending = .restarting)
  | _ => False

/-- What a happening other than a tick arms, and what it makes of the waits. -/
inductive Turn (guest : Guest) (happening : Happening) (arms : List WaitTimer) (after : Guest) :
    Prop
  | rests (calm : ¬guest.RefusesResume happening) (settled : ¬guest.StartsWait happening)
      (nothing : arms = []) (drops : guest.tokens.Drops after.tokens)
  | starts (peer : NodeId) (due : Nat) (calm : ¬guest.RefusesResume happening)
      (begins : guest.StartsWait happening)
      (armed : arms = [⟨guest.reconnectWaitGeneration + 1, due⟩])
      (started : guest.tokens.Starts peer after.tokens)
  | refuses (peer : NodeId) (wait : ReconnectWait) (due : Nat)
      (refused : guest.RefusesResume happening)
      (found : guest.reconnectWaits.lookup peer = some wait)
      (armed : arms = [⟨wait.generation, due⟩]) (same : after.tokens = guest.tokens)

/-- A connection of `id` ends: the wait that follows, of a guest with the windows and the waits that
it had. -/
theorem onClosed_of_own {guest : Guest} {peer : NodeId} {id : UInt64} (ending : Ending)
    (own : (guest.connections.lookup peer).all (·.id = id)) :
    ∃ settled resume sessionOver, settled.standing = guest.standing ∧
      closedArms env guest peer id ending =
        waitAfterCloseArms env settled peer resume (settled.views peer) sessionOver
          ((guest.connections.lookup peer).isSome && ending = .restarting)
          ((!guest.views peer && (guest.reconnectWaits.lookup peer).any (·.resume.isSome)) &&
            (guest.connections.lookup peer).isSome && ending = .resumeRefused) ∧
      (onClosed env guest peer id ending).tokens =
        (waitAfterClose env settled peer resume (settled.views peer) sessionOver
          ((guest.connections.lookup peer).isSome && ending = .restarting)
          (!guest.views peer && (guest.reconnectWaits.lookup peer).any (·.resume.isSome))
          ((!guest.views peer && (guest.reconnectWaits.lookup peer).any (·.resume.isSome)) &&
            (guest.connections.lookup peer).isSome && ending = .resumeRefused)).tokens := by
  have isOwn : ¬(guest.connections.lookup peer).any (·.id ≠ id) := by
    cases found : guest.connections.lookup peer with
    | none => nofun
    | some handle =>
        rw [found] at own
        simpa using own
  unfold onClosed closedArms
  dsimp only
  rw [if_neg isOwn, if_neg isOwn]
  have forgot := standing_forgetCredentialExchange
    { guest with connections := guest.connections.erase peer } peer
  generalize ({ guest with
    connections := guest.connections.erase peer } : Guest).forgetCredentialExchange peer = forgotten
    at forgot ⊢
  have forgot : forgotten.standing = guest.standing := forgot
  have views : forgotten.views = guest.views := congrArg Standing.views forgot
  have waits : forgotten.reconnectWaits = guest.reconnectWaits := congrArg Standing.waits forgot
  rw [views, waits]
  have settles := (standing_settleClosed forgotten peer (guest.views peer)
    ((guest.connections.lookup peer).isSome && ending.byPeer)).trans forgot
  generalize forgotten.settleClosed peer (guest.views peer)
    ((guest.connections.lookup peer).isSome && ending.byPeer) = settled at settles ⊢
  have views' : settled.views = guest.views := congrArg Standing.views settles
  rw [← views']
  exact ⟨settled, _, _, settles, rfl, rfl⟩

theorem turn_closed (guest : Guest) (peer : NodeId) (id : UInt64) (ending : Ending) :
    Turn guest (.closed peer id ending) (closedArms env guest peer id ending)
      (onClosed env guest peer id ending) := by
  by_cases other : (guest.connections.lookup peer).any (·.id ≠ id)
  · have arms : closedArms env guest peer id ending = [] := if_pos other
    have same : onClosed env guest peer id ending = guest := if_pos other
    obtain ⟨handle, found, differs⟩ := Option.any_eq_true _ _ |>.mp other
    rw [arms, same]
    refine .rests ?_ ?_ rfl (.of_eq rfl)
    · rintro ⟨own, -⟩
      rw [found] at own
      exact of_decide_eq_true differs (of_decide_eq_true own)
    · rintro ⟨own, -⟩
      rw [found] at own
      exact of_decide_eq_true differs (of_decide_eq_true own)
  · have own : (guest.connections.lookup peer).all (·.id = id) := by
      cases found : guest.connections.lookup peer with
      | none => rfl
      | some handle =>
          rw [found] at other
          simpa using other
    obtain ⟨settled, resume, sessionOver, stands, arms, after⟩ :=
      @onClosed_of_own env _ _ _ ending own
    have counter : settled.reconnectWaitGeneration = guest.reconnectWaitGeneration :=
      congrArg Standing.counter stands
    have views : settled.views = guest.views := congrArg Standing.views stands
    have parked : settled.parkedViews = guest.parkedViews := congrArg Standing.parkedViews stands
    have waits : settled.reconnectWaits = guest.reconnectWaits := congrArg Standing.waits stands
    have history : settled.connectionHistory = guest.connectionHistory :=
      congrArg Standing.history stands
    have tokens : settled.tokens = guest.tokens := tokens_of_standing stands
    by_cases begins : guest.Begins peer
        ((guest.connections.lookup peer).isSome && ending = .restarting)
    · have begins' : settled.Begins peer
          ((guest.connections.lookup peer).isSome && ending = .restarting) := by
        unfold Begins
        rw [views, parked, waits]
        exact begins
      obtain ⟨⟨due, armed⟩, started⟩ := @waitAfterClose_of_begins env _ _ resume _ sessionOver
        (!guest.views peer && (guest.reconnectWaits.lookup peer).any (·.resume.isSome))
        ((!guest.views peer && (guest.reconnectWaits.lookup peer).any (·.resume.isSome)) &&
          (guest.connections.lookup peer).isSome && ending = .resumeRefused) begins'
      rw [counter] at armed
      rw [tokens, ← after] at started
      refine .starts peer due ?_ ⟨own, begins⟩ (arms.trans armed) started
      rintro ⟨-, refused, unwatched, -⟩
      rcases begins with watched | ⟨restarts, -⟩
      · rw [unwatched] at watched
        cases watched
      · rw [refused] at restarts
        simp at restarts
    · have calm' : ¬settled.Begins peer
          ((guest.connections.lookup peer).isSome && ending = .restarting) := by
        unfold Begins
        rw [views, parked, waits]
        exact begins
      obtain ⟨armed, left⟩ := @waitAfterClose_of_not_begins env _ _ resume _ sessionOver
        (!guest.views peer && (guest.reconnectWaits.lookup peer).any (·.resume.isSome))
        ((!guest.views peer && (guest.reconnectWaits.lookup peer).any (·.resume.isSome)) &&
          (guest.connections.lookup peer).isSome && ending = .resumeRefused) calm'
      have armed := arms.trans armed
      have left := after.trans left
      have settled' : ¬guest.StartsWait (.closed peer id ending) := fun starts => begins starts.2
      have isRefused : guest.RefusesResume (.closed peer id ending) →
          ((!guest.views peer && (guest.reconnectWaits.lookup peer).any (·.resume.isSome)) &&
            (guest.connections.lookup peer).isSome && ending = .resumeRefused) = true := by
        rintro ⟨own, rfl, unwatched, wait, found, resumes, -⟩
        obtain ⟨handle, connected, -⟩ := (Option.any_eq_true _ _).mp own
        simp [unwatched, found, resumes, connected]
      by_cases refused : ((!guest.views peer &&
          (guest.reconnectWaits.lookup peer).any (·.resume.isSome)) &&
            (guest.connections.lookup peer).isSome && ending = .resumeRefused) = true
      · rw [if_pos refused] at armed left
        rcases onResumeRefused_cases settled peer with
          ⟨wait, found, known, refusedArms, same⟩ | ⟨unknown, refusedArms, drops⟩
        · rw [waits] at found
          rw [history] at known
          simp only [Bool.and_eq_true, Bool.not_eq_true', decide_eq_true_eq] at refused
          obtain ⟨⟨⟨unwatched, resumes⟩, connected⟩, isRefusal⟩ := refused
          obtain ⟨handle, isHandle⟩ := Option.isSome_iff_exists.mp connected
          have own' : (guest.connections.lookup peer).any (·.id = id) := by
            rw [isHandle] at own ⊢
            exact own
          rw [found] at resumes
          exact .refuses peer wait _ ⟨own', isRefusal, unwatched, wait, found, resumes, known⟩ found
            (armed.trans refusedArms) (left.trans (same.trans tokens))
        · refine .rests ?_ settled' (armed.trans refusedArms) ?_
          · rintro ⟨-, -, -, wait, found, -, known⟩
            rw [← waits] at found
            rw [← history] at known
            exact unknown wait found known
          · rw [tokens, ← left] at drops
            exact drops
      · rw [if_neg refused] at armed left
        exact .rests (fun refuses => refused (isRefused refuses)) settled' armed
          (.of_eq (left.trans tokens))

theorem onConnected_cases (guest : Guest) (peer : NodeId) (code : String)
    (result : Except DialError Control) (forWait : Bool) :
    (result = .error .reconnectRejected ∧ guest.ResumesKnown peer ∧
      ∃ wait due, guest.reconnectWaits.lookup peer = some wait ∧
        guest.connectedArms peer result = [⟨wait.generation, due⟩] ∧
        (guest.onConnected peer code result forWait).tokens = guest.tokens) ∨
    (¬(result = .error .reconnectRejected ∧ guest.ResumesKnown peer) ∧
      guest.connectedArms peer result = [] ∧
      guest.tokens.Drops (guest.onConnected peer code result forWait).tokens) := by
  have kept := tokens_modify guest peer (fun wait => { wait with dialing := false }) fun _ => rfl
  have lookup := HashMap.lookup_modify_eq guest.reconnectWaits peer peer
    (fun wait : ReconnectWait => { wait with dialing := false })
  rw [if_pos rfl] at lookup
  unfold onConnected connectedArms
  dsimp only
  have history : ({ guest with
      reconnectWaits := HashMap.modify peer (fun wait => { wait with dialing := false })
        guest.reconnectWaits } : Guest).connectionHistory = guest.connectionHistory := rfl
  have lookup : ({ guest with
      reconnectWaits := HashMap.modify peer (fun wait => { wait with dialing := false })
        guest.reconnectWaits } : Guest).reconnectWaits.lookup peer =
        (guest.reconnectWaits.lookup peer).map fun wait => { wait with dialing := false } := lookup
  generalize ({ guest with
    reconnectWaits := HashMap.modify peer (fun wait => { wait with dialing := false })
      guest.reconnectWaits } : Guest) = rested at kept lookup history ⊢
  have fails (error : DialError) (resuming : Bool) :
      guest.tokens.Drops (rested.onDialFailed peer error resuming).tokens := by
    rw [← kept]
    exact drops_onDialFailed rested peer error resuming
  cases result with
  | error error =>
      cases error
      case reconnectRejected =>
        by_cases resumes : (guest.reconnectWaits.lookup peer).any (·.resume.isSome)
        · rw [if_pos resumes, if_pos resumes]
          rcases onResumeRefused_cases rested peer with
            ⟨rest, found, known, arms, same⟩ | ⟨unknown, arms, drops⟩
          · left
            rw [lookup] at found
            obtain ⟨wait, isWait, rfl⟩ := Option.map_eq_some_iff.mp found
            rw [history] at known
            rw [isWait] at resumes
            exact ⟨rfl, ⟨wait, isWait, resumes, known⟩, wait, _, isWait, arms, same.trans kept⟩
          · right
            refine ⟨?_, arms, ?_⟩
            · rintro ⟨-, wait, isWait, -, known⟩
              rw [← history] at known
              refine unknown { wait with dialing := false } ?_ known
              rw [lookup, isWait]
              rfl
            · rw [← kept]
              exact drops
        · rw [if_neg resumes, if_neg resumes]
          refine .inr ⟨?_, rfl, fails _ _⟩
          rintro ⟨-, wait, isWait, asks, -⟩
          rw [isWait] at resumes
          exact resumes asks
      all_goals exact .inr ⟨fun both => (nomatch both.1), rfl, fails _ _⟩
  | ok control =>
      refine .inr ⟨fun both => (nomatch both.1), rfl, ?_⟩
      dsimp only
      split
      · exact fails _ _
      · rw [tokens_adopt]
        have finishes (resuming : Bool) : guest.tokens.Drops
            (if !resuming then rested.finishReconnectWait peer else rested).tokens := by
          rw [← kept]
          split
          · exact drops_finishReconnectWait rested peer
          · exact .of_eq rfl
        split <;> exact finishes _

theorem turn_dialed (guest : Guest) (peer : NodeId) (seq : UInt64) (code : String)
    (result : Except DialError Control) :
    Turn guest (.dialed peer seq code result) (guest.dialedArms peer seq result)
      (guest.onDialed peer seq code result) := by
  have settled : ¬guest.StartsWait (.dialed peer seq code result) := id
  unfold dialedArms onDialed
  split
  · next leaves =>
      exact .rests (fun refuses => refuses.2.1 leaves) settled rfl (.of_eq rfl)
  · next stays =>
      dsimp only
      split
      · next unwanted =>
          refine .rests ?_ settled rfl (.of_eq rfl)
          rintro ⟨-, -, wanted, -⟩
          simp only [Bool.and_eq_true, Bool.not_eq_true', decide_eq_true_eq] at unwanted
          rcases wanted with shown | dials
          · exact unwanted.2 shown
          · rw [unwanted.1] at dials
            cases dials
      · next wanted =>
          have isWanted : guest.connectPeer = some peer ∨
              (guest.reconnectWaits.lookup peer).any fun wait =>
                wait.dialing && wait.dialSeq = seq := by
            simp only [Bool.and_eq_true, Bool.not_eq_true', decide_eq_true_eq, not_and, not_not,
              Bool.eq_false_iff] at wanted
            exact or_iff_not_imp_right.mpr wanted
          rcases onConnected_cases guest peer code result _ with
            ⟨refused, known, wait, due, found, arms, same⟩ | ⟨calm, arms, drops⟩
          · exact .refuses peer wait due ⟨refused, stays, isWanted, known⟩ found arms same
          · exact .rests (fun refuses => calm ⟨refuses.1, refuses.2.2.2⟩) settled arms drops

theorem turn_step (guest : Guest) (happening : Happening)
    (other : ∀ generation, happening ≠ .reconnectWaitTick generation) :
    Turn guest happening (guest.arms env happening) (step env guest happening).2 := by
  cases happening with
  | dial raw => exact .rests id id rfl (.of_eq (tokens_spawnDialAs guest raw none))
  | historyConnect label =>
      refine .rests id id rfl (.of_eq ?_)
      unfold step
      dsimp only
      split
      · exact tokens_spawnDialAs guest _ none
      · rfl
  | submit password code remember draw =>
      exact .rests id id rfl (.of_eq (tokens_onUnattendedSubmit guest _ code remember draw))
  | cancel => exact .rests id id rfl (drops_onConnectCancel guest)
  | leaveView peer => exact .rests id id rfl (drops_leaveView guest peer)
  | historyRemove label => exact .rests id id rfl (.of_eq rfl)
  | historyForgetPassword label => exact .rests id id rfl (.of_eq rfl)
  | historySetTrusted label trusted => exact .rests id id rfl (.of_eq rfl)
  | dialed peer seq code result => exact turn_dialed guest peer seq code result
  | inbound peer id' kind draw =>
      exact .rests id id rfl (drops_onInbound guest peer id' kind draw)
  | closed peer id ending => exact turn_closed guest peer id ending
  | connectRetryTick generation =>
      exact .rests id id rfl (.of_eq (tokens_onConnectRetryTick guest generation))
  | reconnectWaitTick generation => exact absurd rfl (other generation)
  | accepted control => exact .rests id id rfl (.of_eq (tokens_adopt guest control _ _))
  | keystore answers => exact .rests id id rfl (.of_eq rfl)
  | elapse secs => exact .rests id id rfl (.of_eq rfl)

/-! ## A tick -/

/-- A tick of `wait`: the next one is armed before the ceiling, or the wait ends. -/
def Ticks (guest : Guest) (wait : ReconnectWait) (arms : List WaitTimer) (after : Tokens) : Prop :=
  (∃ due, arms = [⟨wait.generation, due⟩] ∧ after = guest.tokens ∧
    guest.now - wait.startedAt < rebootWaitCeilingSecs) ∨
  (arms = [] ∧ guest.tokens.Drops after ∧ after.waits wait.peer = none)

theorem ticks_of_stops {guest : Guest} {wait : ReconnectWait} {after : Tokens}
    (stopped : after = (guest.stopReconnectWait wait.peer).tokens) : guest.Ticks wait [] after := by
  subst stopped
  refine .inr ⟨rfl, drops_stopReconnectWait guest wait.peer, ?_⟩
  show ((guest.reconnectWaits.erase wait.peer).lookup wait.peer).map _ = none
  rw [AList.lookup_erase]
  rfl

theorem ticks_waitTick (guest : Guest) (wait : ReconnectWait) :
    guest.Ticks wait (guest.waitTickArms wait) (guest.waitTick env wait).tokens := by
  unfold waitTick waitTickArms
  split
  · exact ticks_of_stops rfl
  · split
    · next early =>
        refine .inl ⟨_, rfl, rfl, ?_⟩
        simp only [Bool.and_eq_true, decide_eq_true_eq] at early
        exact early.2.trans (by decide)
    · split
      · refine ticks_of_stops ?_
        dsimp only
        split <;> rfl
      · next before =>
          have before := not_le.mp before
          split
          · exact .inl ⟨_, rfl, rfl, before⟩
          · cases guest.connectionHistory.codeOf wait.hostTag with
            | none =>
                refine ticks_of_stops ?_
                dsimp only
                split <;> rfl
            | some code => exact .inl ⟨_, rfl, tokens_spawnDialAs guest code none, before⟩

theorem ticks_resumeTick (guest : Guest) (wait : ReconnectWait) :
    ((guest.resumeTick env wait).1 = true ∧
      guest.Ticks wait (guest.resumeTickArms wait) (guest.resumeTick env wait).2.tokens) ∨
    ((guest.resumeTick env wait).1 = false ∧
      (guest.resumeTick env wait).2.tokens = guest.tokens ∧
      (guest.resumeTick env wait).2.now = guest.now) := by
  have kept := tokens_modify guest wait.peer (fun wait => { wait with resume := none }) fun _ => rfl
  unfold resumeTick resumeTickArms
  dsimp only
  split
  · right
    split <;> exact ⟨rfl, kept, rfl⟩
  · next before =>
      have before : guest.now - wait.startedAt < rebootWaitCeilingSecs :=
        (not_le.mp before).trans (by decide)
      left
      split
      · exact ⟨rfl, .inl ⟨_, rfl, rfl, before⟩⟩
      · cases guest.connectionHistory.codeOf wait.hostTag with
        | none =>
            dsimp only
            split <;> exact ⟨rfl, ticks_of_stops rfl⟩
        | some code => exact ⟨rfl, .inl ⟨_, rfl, tokens_spawnDialAs guest code wait.resume, before⟩⟩

theorem ticks_onReconnectWaitTick {guest : Guest} {generation : UInt64}
    {entry : Sigma fun _ : NodeId => ReconnectWait}
    (found : guest.reconnectWaits.entries.find? (·.2.generation = generation) = some entry) :
    guest.Ticks entry.2 (guest.tickArms env generation)
      (guest.onReconnectWaitTick env generation).tokens := by
  obtain ⟨peer, wait⟩ := entry
  unfold tickArms onReconnectWaitTick
  rw [found]
  dsimp only
  split
  · rcases @ticks_resumeTick env guest wait with ⟨isDone, ticks⟩ | ⟨handsOn, kept, sameNow⟩
    · rcases equation : guest.resumeTick env wait with ⟨verdict, next⟩
      rw [equation] at isDone ticks
      subst isDone
      exact ticks
    · rcases equation : guest.resumeTick env wait with ⟨verdict, next⟩
      rw [equation] at handsOn kept sameNow
      subst handsOn
      have ticks := @ticks_waitTick env next wait
      unfold Ticks at ticks ⊢
      rw [kept, sameNow] at ticks
      exact ticks
  · exact ticks_waitTick guest wait

theorem idle_onReconnectWaitTick {guest : Guest} {generation : UInt64}
    (absent : guest.reconnectWaits.entries.find? (·.2.generation = generation) = none) :
    guest.tickArms env generation = [] ∧ guest.onReconnectWaitTick env generation = guest := by
  unfold tickArms onReconnectWaitTick
  rw [absent]
  exact ⟨rfl, rfl⟩

end Guest

namespace WaitTicks
open Guest

variable {env : GuestEnv}

/-- An executed step. -/
abbrev Call := Event World Op (List WaitTimer)

/-- A wait of the guest has this generation. -/
def World.Holds (world : World) (generation : UInt64) : Prop :=
  ∃ peer wait, world.guest.reconnectWaits.lookup peer = some wait ∧ wait.generation = generation

/-- The timers that are armed with this generation. -/
def World.armed (world : World) (generation : UInt64) : Nat :=
  world.timers.countP (·.generation = generation)

/-- Each wait has one timer, and a generation of its own. -/
structure OnePerWait (world : World) : Prop where
  counted : ∀ peer wait, world.guest.reconnectWaits.lookup peer = some wait →
    world.armed wait.generation = 1
  distinct : ∀ peer wait other wait', world.guest.reconnectWaits.lookup peer = some wait →
    world.guest.reconnectWaits.lookup other = some wait' → wait.generation = wait'.generation →
    peer = other

/-- What ticks are to come to. -/
structure TicksRight (e : Call) : Prop where
  onePerWait : OnePerWait e.post
  /-- A tick is armed again by the tick that it replaces, or armed first. -/
  replaces : ∀ timer ∈ e.out, (∃ fired, e.op = .fires fired ∧ fired.generation = timer.generation) ∨
    e.pre.armed timer.generation = 0
  /-- The timer of a wait that is gone is never that of another one. -/
  removed : ∀ timer ∈ e.pre.timers, timer ∈ e.post.timers → ¬e.pre.Holds timer.generation →
    ¬e.post.Holds timer.generation
  /-- Its tick does nothing. -/
  idle : ∀ timer, e.op = .fires timer → ¬e.pre.Holds timer.generation →
    e.out = [] ∧ e.post.guest = e.pre.guest
  /-- A tick from the ceiling on ends its wait. -/
  ends : ∀ timer peer wait, e.op = .fires timer → timer ∈ e.pre.timers →
    timer.due ≤ e.pre.guest.now → e.pre.guest.reconnectWaits.lookup peer = some wait →
    wait.generation = timer.generation →
    e.pre.guest.now - wait.startedAt ≥ rebootWaitCeilingSecs →
    e.post.guest.reconnectWaits.lookup peer = none

/-- No host refuses a resume while its wait could still dial it, and no wait starts with a
generation that a timer is armed with. -/
def Orderly (world : World) : Op → Prop
  | .happens happening =>
      ¬world.guest.RefusesResume happening ∧
        (world.guest.StartsWait happening →
          world.armed (world.guest.reconnectWaitGeneration + 1) = 0)
  | .fires _ => True

/-! ## Timers and tokens -/

/-- `OnePerWait`, said of the tokens, and each wait is found under its host. -/
structure Marked (tokens : Tokens) (timers : List WaitTimer) : Prop where
  keyed : ∀ peer token, tokens.waits peer = some token → token.1 = peer
  counted : ∀ peer token, tokens.waits peer = some token →
    timers.countP (·.generation = token.2) = 1
  distinct : ∀ peer token other token', tokens.waits peer = some token →
    tokens.waits other = some token' → token.2 = token'.2 → peer = other

theorem waits_eq_some {guest : Guest} {peer : NodeId} {token : NodeId × UInt64} :
    guest.tokens.waits peer = some token ↔
      ∃ wait, guest.reconnectWaits.lookup peer = some wait ∧ (wait.peer, wait.generation) = token :=
  Option.map_eq_some_iff

theorem waits_of_lookup {guest : Guest} {peer : NodeId} {wait : ReconnectWait}
    (found : guest.reconnectWaits.lookup peer = some wait) :
    guest.tokens.waits peer = some (wait.peer, wait.generation) :=
  waits_eq_some.mpr ⟨wait, found, rfl⟩

theorem holds_iff {world : World} {generation : UInt64} :
    world.Holds generation ↔
      ∃ peer token, world.guest.tokens.waits peer = some token ∧ token.2 = generation := by
  constructor
  · rintro ⟨peer, wait, found, rfl⟩
    exact ⟨peer, _, waits_of_lookup found, rfl⟩
  · rintro ⟨peer, token, held, rfl⟩
    obtain ⟨wait, found, rfl⟩ := waits_eq_some.mp held
    exact ⟨peer, wait, found, rfl⟩

theorem OnePerWait.of_marked {world : World} (marked : Marked world.guest.tokens world.timers) :
    OnePerWait world where
  counted peer _ found := marked.counted peer _ (waits_of_lookup found)
  distinct peer _ other _ found found' same :=
    marked.distinct peer _ other _ (waits_of_lookup found) (waits_of_lookup found') same

namespace Marked

variable {before after : Tokens} {timers : List WaitTimer}

theorem drops (marked : Marked before timers) (drops : before.Drops after) :
    Marked after timers where
  keyed peer token held := marked.keyed peer token (drops.waits peer token held)
  counted peer token held := marked.counted peer token (drops.waits peer token held)
  distinct peer token other token' held held' :=
    marked.distinct peer token other token' (drops.waits peer token held)
      (drops.waits other token' held')

/-- The timer that fires is one of those that were counted. -/
theorem countP_fired {timer : WaitTimer} (isArmed : timer ∈ timers) (generation : UInt64) :
    timers.countP (·.generation = generation) =
      (timers.erase timer).countP (·.generation = generation) +
        if timer.generation = generation then 1 else 0 := by
  rw [(List.perm_cons_erase isArmed).countP_eq, List.countP_cons]
  simp

/-- What a start leaves of the waits. -/
theorem of_started {peer other : NodeId} {token : NodeId × UInt64}
    (started : before.Starts peer after) (held : after.waits other = some token) :
    other = peer ∧ token = (peer, before.counter + 1) ∨
      other ≠ peer ∧ before.waits other = some token := by
  rw [started.waits] at held
  by_cases same : other = peer
  · rw [same, Function.update_self] at held
    exact .inl ⟨same, (Option.some.inj held).symm⟩
  · rw [Function.update_of_ne same] at held
    exact .inr ⟨same, held⟩

/-- A wait that holds a token has a timer, so its generation is not one that no timer has. -/
theorem ne_of_unarmed (marked : Marked before timers) {peer : NodeId} {token : NodeId × UInt64}
    {generation : UInt64} (held : before.waits peer = some token)
    (unarmed : timers.countP (·.generation = generation) = 0) : token.2 ≠ generation := by
  rintro rfl
  have one := marked.counted peer token held
  omega

theorem starts (marked : Marked before timers) {peer : NodeId} (started : before.Starts peer after)
    (unarmed : timers.countP (·.generation = before.counter + 1) = 0) (due : Nat) :
    Marked after (timers ++ [⟨before.counter + 1, due⟩]) where
  keyed other token held := by
    rcases of_started started held with ⟨rfl, rfl⟩ | ⟨-, earlier⟩
    · rfl
    · exact marked.keyed other token earlier
  counted other token held := by
    rw [List.countP_append, List.countP_singleton]
    rcases of_started started held with ⟨rfl, rfl⟩ | ⟨-, earlier⟩
    · rw [unarmed]
      simp
    · have differs := marked.ne_of_unarmed earlier unarmed
      rw [marked.counted other token earlier]
      simp [differs.symm]
  distinct other token other' token' held held' same := by
    rcases of_started started held with ⟨rfl, rfl⟩ | ⟨-, earlier⟩
    · rcases of_started started held' with ⟨rfl, -⟩ | ⟨-, earlier'⟩
      · rfl
      · exact absurd same.symm (marked.ne_of_unarmed earlier' unarmed)
    · rcases of_started started held' with ⟨rfl, rfl⟩ | ⟨-, earlier'⟩
      · exact absurd same (marked.ne_of_unarmed earlier unarmed)
      · exact marked.distinct other token other' token' earlier earlier' same

/-- The tick that fires is replaced. -/
theorem rearms (marked : Marked before timers) {timer : WaitTimer} (isArmed : timer ∈ timers)
    (due : Nat) : Marked before (timers.erase timer ++ [⟨timer.generation, due⟩]) where
  keyed := marked.keyed
  distinct := marked.distinct
  counted peer token held := by
    have one := marked.counted peer token held
    rw [countP_fired isArmed] at one
    rw [List.countP_append, List.countP_singleton]
    simpa using one

/-- The tick that fires ends its wait. -/
theorem ends (marked : Marked before timers) {timer : WaitTimer} (isArmed : timer ∈ timers)
    {peer : NodeId} {token : NodeId × UInt64} (held : before.waits peer = some token)
    (isToken : token.2 = timer.generation) (drops : before.Drops after)
    (ended : after.waits peer = none) : Marked after (timers.erase timer) where
  keyed other token held := marked.keyed other token (drops.waits other token held)
  distinct other token other' token' held held' :=
    marked.distinct other token other' token' (drops.waits other token held)
      (drops.waits other' token' held')
  counted other token' held' := by
    have earlier := drops.waits other token' held'
    have differs : timer.generation ≠ token'.2 := by
      intro same
      have isPeer := marked.distinct peer token other token' held earlier (isToken.trans same)
      subst isPeer
      rw [ended] at held'
      cases held'
    have one := marked.counted other token' earlier
    rw [countP_fired isArmed, if_neg differs] at one
    exact one

end Marked

/-! ## One step -/

/-- A step on which nothing happens. -/
theorem right_of_nothing {world : World} {op : Op} (nothing : world.step env op = ([], world))
    (idle : ∀ timer, op = .fires timer → timer ∉ world.timers ∨ ¬timer.due ≤ world.guest.now)
    (sound : OnePerWait world) : TicksRight (Event.of (World.step env) world op) where
  onePerWait := by
    rw [Event.of_post, nothing]
    exact sound
  replaces timer member := by
    rw [Event.of_out, nothing] at member
    cases member
  removed timer _ _ := by
    rw [Event.of_post, nothing]
    exact id
  idle timer _ _ := by
    rw [Event.of_out, Event.of_post, nothing]
    exact ⟨rfl, rfl⟩
  ends timer peer wait fires isArmed due _ _ _ := by
    rcases idle timer fires with unarmed | early
    · exact absurd isArmed unarmed
    · exact absurd due early

/-- Of the timers that a wait does not hold, none comes to be held where no wait starts. -/
theorem unheld_of_drops {before after : World}
    (drops : before.guest.tokens.Drops after.guest.tokens)
    {generation : UInt64} (unheld : ¬before.Holds generation) : ¬after.Holds generation := by
  intro held
  obtain ⟨peer, token, found, rfl⟩ := holds_iff.mp held
  exact unheld (holds_iff.mpr ⟨peer, token, drops.waits peer token found, rfl⟩)

theorem step_happens (world : World) {happening : Happening}
    (other : ∀ generation, happening ≠ .reconnectWaitTick generation) :
    world.step env (.happens happening) = world.next env happening := by
  cases happening with
  | reconnectWaitTick generation => exact absurd rfl (other generation)
  | _ => rfl

section
variable {world : World} {happening : Happening}

theorem right_happens (marked : Marked world.guest.tokens world.timers)
    (other : ∀ generation, happening ≠ .reconnectWaitTick generation)
    (orderly : Orderly world (.happens happening)) :
    TicksRight (Event.of (World.step env) world (.happens happening)) ∧
      Marked (world.step env (.happens happening)).2.guest.tokens
        (world.step env (.happens happening)).2.timers := by
  have isStep := @step_happens env world _ other
  have turn := @turn_step env world.guest happening other
  cases turn with
  | rests calm settled nothing drops =>
      have next : Marked (world.next env happening).2.guest.tokens
          (world.next env happening).2.timers := by
        show Marked _ (world.timers ++ world.guest.arms env happening)
        rw [nothing, List.append_nil]
        exact marked.drops drops
      refine ⟨?_, by rw [isStep]; exact next⟩
      refine
        { onePerWait := ?_, replaces := ?_, removed := ?_
          idle := fun _ fires => nomatch fires
          ends := fun _ _ _ fires => nomatch fires }
      · rw [Event.of_post, isStep]
        exact .of_marked next
      · intro timer member
        rw [Event.of_out, isStep] at member
        have member : timer ∈ world.guest.arms env happening := member
        rw [nothing] at member
        cases member
      · intro timer _ _ unheld
        rw [Event.of_post, isStep]
        exact unheld_of_drops drops unheld
  | starts peer due calm begins armed started =>
      have unarmed := orderly.2 begins
      have next : Marked (world.next env happening).2.guest.tokens
          (world.next env happening).2.timers := by
        show Marked _ (world.timers ++ world.guest.arms env happening)
        rw [armed]
        exact marked.starts started unarmed due
      refine ⟨?_, by rw [isStep]; exact next⟩
      refine
        { onePerWait := ?_, replaces := ?_, removed := ?_
          idle := fun _ fires => nomatch fires
          ends := fun _ _ _ fires => nomatch fires }
      · rw [Event.of_post, isStep]
        exact .of_marked next
      · intro timer member
        rw [Event.of_out, isStep] at member
        have member : timer ∈ world.guest.arms env happening := member
        rw [armed, List.mem_singleton] at member
        subst member
        exact .inr unarmed
      · intro timer isArmed _ unheld
        rw [Event.of_post, isStep]
        intro held
        obtain ⟨other, token, found, isToken⟩ := holds_iff.mp held
        rcases Marked.of_started started found with ⟨-, rfl⟩ | ⟨-, earlier⟩
        · -- The generation that was given out is that of an armed timer.
          exact List.countP_eq_zero.mp unarmed timer isArmed (decide_eq_true isToken.symm)
        · exact unheld (holds_iff.mpr ⟨other, token, earlier, isToken⟩)
  | refuses peer wait due refused found armed same => exact absurd refused orderly.1

theorem orderly_of_right (marked : Marked world.guest.tokens world.timers)
    (other : ∀ generation, happening ≠ .reconnectWaitTick generation)
    (right : TicksRight (Event.of (World.step env) world (.happens happening))) :
    Orderly world (.happens happening) := by
  have onePerWait := right.onePerWait
  rw [Event.of_post, step_happens world other] at onePerWait
  have turn := @turn_step env world.guest happening other
  -- What is armed now counts beside what was armed before.
  have armedNow (generation : UInt64) : (world.next env happening).2.armed generation =
      world.armed generation +
        (world.guest.arms env happening).countP (·.generation = generation) :=
    List.countP_append
  cases turn with
  | rests calm settled nothing drops => exact ⟨calm, fun starts => absurd starts settled⟩
  | starts peer due calm begins armed started =>
      refine ⟨calm, fun _ => ?_⟩
      have held : (Guest.step env world.guest happening).2.tokens.waits peer =
          some (peer, world.guest.reconnectWaitGeneration + 1) := by
        rw [started.waits, Function.update_self]
        rfl
      obtain ⟨wait, found, isToken⟩ := waits_eq_some.mp held
      have one := onePerWait.counted peer wait found
      rw [(Prod.mk.inj isToken).2, armedNow, armed, List.countP_singleton] at one
      simpa using one
  | refuses peer wait due refused found armed same =>
      have held := waits_of_lookup found
      rw [← same] at held
      obtain ⟨wait', found', isToken⟩ := waits_eq_some.mp held
      have one := onePerWait.counted peer wait' found'
      rw [(Prod.mk.inj isToken).2, armedNow, armed, List.countP_singleton] at one
      have before : world.armed wait.generation = 1 := marked.counted peer _ (waits_of_lookup found)
      rw [before] at one
      simp at one

end

/-- A tick that no wait has the generation of. -/
theorem right_orphan {world : World} (marked : Marked world.guest.tokens world.timers)
    {timer : WaitTimer} (isDue : timer ∈ world.timers ∧ timer.due ≤ world.guest.now)
    (absent : world.guest.reconnectWaits.entries.find?
      (·.2.generation = timer.generation) = none) :
    TicksRight (Event.of (World.step env) world (.fires timer)) ∧
      Marked (world.step env (.fires timer)).2.guest.tokens
        (world.step env (.fires timer)).2.timers := by
  obtain ⟨nothing, same⟩ := @idle_onReconnectWaitTick env _ _ absent
  have unheld : ¬world.Holds timer.generation := by
    rintro ⟨peer, wait, found, isToken⟩
    have unequal := List.find?_eq_none.mp absent ⟨peer, wait⟩ (AList.mem_lookup_iff.mp found)
    exact unequal (decide_eq_true isToken)
  have isStep : world.step env (.fires timer) =
      ([], { guest := world.guest, timers := world.timers.erase timer }) := by
    have fires : world.step env (.fires timer) =
        { world with timers := world.timers.erase timer }.next env
          (.reconnectWaitTick timer.generation) := if_pos isDue
    rw [fires]
    show (world.guest.tickArms env timer.generation, World.mk _ (_ ++ world.guest.tickArms env
      timer.generation)) = _
    rw [nothing, List.append_nil]
    exact congrArg (fun guest => ([], World.mk guest (world.timers.erase timer))) same
  have next : Marked world.guest.tokens (world.timers.erase timer) :=
    { marked with
      counted := fun peer token held => by
        have one := marked.counted peer token held
        rw [Marked.countP_fired isDue.1, if_neg] at one
        · exact one
        · exact fun same => unheld (holds_iff.mpr ⟨peer, token, held, same.symm⟩) }
  refine ⟨?_, by rw [isStep]; exact next⟩
  refine { onePerWait := ?_, replaces := ?_, removed := ?_, idle := ?_, ends := ?_ }
  · rw [Event.of_post, isStep]
    exact .of_marked next
  · intro timer' member
    rw [Event.of_out, isStep] at member
    cases member
  · intro timer' _ _ unheld'
    rw [Event.of_post, isStep]
    exact unheld'
  · intro timer' _ _
    rw [Event.of_out, Event.of_post, isStep]
    exact ⟨rfl, rfl⟩
  · rintro timer' peer wait ⟨⟩ - - found isToken -
    exact absurd ⟨peer, wait, found, isToken⟩ unheld

/-- A tick of a wait. -/
theorem right_tick {world : World} (marked : Marked world.guest.tokens world.timers)
    {timer : WaitTimer} (isDue : timer ∈ world.timers ∧ timer.due ≤ world.guest.now)
    {peer : NodeId} {wait : ReconnectWait}
    (entry : world.guest.reconnectWaits.entries.find?
      (·.2.generation = timer.generation) = some ⟨peer, wait⟩) :
    TicksRight (Event.of (World.step env) world (.fires timer)) ∧
      Marked (world.step env (.fires timer)).2.guest.tokens
        (world.step env (.fires timer)).2.timers := by
  have isToken : wait.generation = timer.generation :=
    of_decide_eq_true (List.find?_eq_some_iff_append.mp entry).1
  have found : world.guest.reconnectWaits.lookup peer = some wait :=
    AList.mem_lookup_iff.mpr (List.mem_of_find?_eq_some entry)
  have held := waits_of_lookup found
  have isPeer : wait.peer = peer := marked.keyed peer _ held
  have isStep : world.step env (.fires timer) =
      { world with timers := world.timers.erase timer }.next env
        (.reconnectWaitTick timer.generation) := if_pos isDue
  -- The wait of another host has another generation.
  have isWait {peer' : NodeId} {wait' : ReconnectWait}
      (found' : world.guest.reconnectWaits.lookup peer' = some wait')
      (same : wait'.generation = timer.generation) : peer' = peer ∧ wait' = wait := by
    have samePeer := marked.distinct peer' _ peer _ (waits_of_lookup found') held
      (same.trans isToken.symm)
    subst samePeer
    rw [found] at found'
    exact ⟨rfl, (Option.some.inj found').symm⟩
  have idle : ∀ timer', Op.fires timer = .fires timer' →
      ¬world.Holds timer'.generation → False := by
    rintro timer' ⟨⟩ unheld
    exact unheld ⟨peer, wait, found, isToken⟩
  have ticks := @ticks_onReconnectWaitTick env _ _ _ entry
  rcases ticks with ⟨due, armed, same, before⟩ | ⟨nothing, drops, ended⟩
  · have next : Marked (World.next env { world with timers := world.timers.erase timer }
        (.reconnectWaitTick timer.generation)).2.guest.tokens
        (World.next env { world with timers := world.timers.erase timer }
          (.reconnectWaitTick timer.generation)).2.timers := by
      show Marked _ (world.timers.erase timer ++ world.guest.tickArms env timer.generation)
      rw [armed, isToken]
      have kept := marked.rearms isDue.1 due
      rw [← same] at kept
      exact kept
    refine ⟨?_, by rw [isStep]; exact next⟩
    refine
      { onePerWait := ?_, replaces := ?_, removed := ?_
        idle := fun timer' fires unheld => absurd unheld (idle timer' fires), ends := ?_ }
    · rw [Event.of_post, isStep]
      exact .of_marked next
    · intro timer' member
      rw [Event.of_out, isStep] at member
      have member : timer' ∈ world.guest.tickArms env timer.generation := member
      rw [armed, List.mem_singleton] at member
      subst member
      exact .inl ⟨timer, rfl, isToken.symm⟩
    · intro timer' _ _ unheld
      rw [Event.of_post, isStep]
      exact unheld_of_drops (.of_eq same) unheld
    · rintro timer' peer' wait' ⟨⟩ - - found' sameToken late
      obtain ⟨-, rfl⟩ := isWait found' sameToken
      exact absurd before (not_lt.mpr late)
  · have next : Marked (World.next env { world with timers := world.timers.erase timer }
        (.reconnectWaitTick timer.generation)).2.guest.tokens
        (World.next env { world with timers := world.timers.erase timer }
          (.reconnectWaitTick timer.generation)).2.timers := by
      show Marked _ (world.timers.erase timer ++ world.guest.tickArms env timer.generation)
      rw [nothing, List.append_nil]
      exact marked.ends isDue.1 held isToken drops (isPeer ▸ ended)
    refine ⟨?_, by rw [isStep]; exact next⟩
    refine
      { onePerWait := ?_, replaces := ?_, removed := ?_
        idle := fun timer' fires unheld => absurd unheld (idle timer' fires), ends := ?_ }
    · rw [Event.of_post, isStep]
      exact .of_marked next
    · intro timer' member
      rw [Event.of_out, isStep] at member
      have member : timer' ∈ world.guest.tickArms env timer.generation := member
      rw [nothing] at member
      cases member
    · intro timer' _ _ unheld
      rw [Event.of_post, isStep]
      exact unheld_of_drops drops unheld
    · rintro timer' peer' wait' ⟨⟩ - - found' sameToken -
      obtain ⟨rfl, rfl⟩ := isWait found' sameToken
      rw [Event.of_post, isStep]
      rw [isPeer] at ended
      exact Option.map_eq_none_iff.mp ended

theorem right_fires {world : World} (marked : Marked world.guest.tokens world.timers)
    (timer : WaitTimer) :
    TicksRight (Event.of (World.step env) world (.fires timer)) ∧
      Marked (world.step env (.fires timer)).2.guest.tokens
        (world.step env (.fires timer)).2.timers := by
  by_cases isDue : timer ∈ world.timers ∧ timer.due ≤ world.guest.now
  · cases entry : world.guest.reconnectWaits.entries.find? (·.2.generation = timer.generation) with
    | none => exact right_orphan marked isDue entry
    | some found => exact right_tick marked isDue entry
  · have nothing : world.step env (.fires timer) = ([], world) := if_neg isDue
    refine ⟨right_of_nothing nothing ?_ (.of_marked marked), by rw [nothing]; exact marked⟩
    rintro timer' ⟨⟩
    exact not_and_or.mp isDue

/-! ## Runs -/

theorem right_iff {world : World} (op : Op) (marked : Marked world.guest.tokens world.timers) :
    (TicksRight (Event.of (World.step env) world op) ↔ Orderly world op) ∧
      (Orderly world op →
        Marked (world.step env op).2.guest.tokens (world.step env op).2.timers) := by
  cases op with
  | fires timer =>
      obtain ⟨right, next⟩ := @right_fires env _ marked timer
      exact ⟨iff_of_true right trivial, fun _ => next⟩
  | happens happening =>
      by_cases ticks : ∃ generation, happening = .reconnectWaitTick generation
      · obtain ⟨generation, rfl⟩ := ticks
        have right : TicksRight (Event.of (World.step env) world
            (.happens (.reconnectWaitTick generation))) :=
          right_of_nothing rfl nofun (.of_marked marked)
        exact ⟨iff_of_true right ⟨id, fun starts => starts.elim⟩, fun _ => marked⟩
      · have other : ∀ generation, happening ≠ .reconnectWaitTick generation :=
          fun generation same => ticks ⟨generation, same⟩
        exact ⟨⟨orderly_of_right marked other,
            fun orderly => (right_happens marked other orderly).1⟩,
          fun orderly => (right_happens marked other orderly).2⟩

/-- Each wait has one tick in every run in which no host refuses a resume and no generation comes
round to a timer that is still armed, and in no other. -/
theorem one_tick_iff (env : GuestEnv) (rows : ConnectionHistory) (stored : List (String × String))
    (ops : List Op) :
    (∀ e ∈ history (World.step env) (.start rows stored) ops, TicksRight e) ↔
      ∀ e ∈ history (World.step env) (.start rows stored) ops, Orderly e.pre e.op := by
  have same : ∀ (world : World) op, Marked world.guest.tokens world.timers →
      (TicksRight (Event.of (World.step env) world op) ↔ Orderly world op) :=
    fun world op marked => (right_iff op marked).1
  have keep : ∀ (world : World) op, Marked world.guest.tokens world.timers →
      TicksRight (Event.of (World.step env) world op) →
        Marked (world.step env op).2.guest.tokens (world.step env op).2.timers :=
    fun world op marked right => (right_iff op marked).2 ((right_iff op marked).1.mp right)
  have start : Marked (World.start rows stored).guest.tokens (World.start rows stored).timers :=
    { keyed := fun _ _ held => by cases held
      counted := fun _ _ held => by cases held
      distinct := fun _ _ _ _ held => by cases held }
  exact history_iff same keep start

/-- The link to a host breaks; three seconds later the session is asked for again, and the host
refuses it. -/
def sampleRefused : List Op :=
  [.happens (.dial "invite of b"),
    .happens (.dialed sampleHostB 1 "invite of b"
      (.ok ⟨sampleHostB, 23, List.Vector.replicate 16 1⟩)),
    .happens (.inbound sampleHostB 1 (.consentGrant .viewOnly) []),
    .happens (.closed sampleHostB 1 .lost),
    .happens (.elapse 3),
    .fires ⟨1, 3⟩,
    .happens (.dialed sampleHostB 2 "invite of b" (.error .reconnectRejected))]

/-- The wait has two ticks from then on: the one of its resume, and one a second away. -/
theorem refused_wait_has_two_ticks :
    ¬ ∀ (env : GuestEnv) (rows : ConnectionHistory) (stored : List (String × String))
      (ops : List Op), ∀ e ∈ history (World.step env) (.start rows stored) ops, TicksRight e := by
  intro all
  have waits : ∃ e ∈ history (World.step sampleEnv) (.start [] []) sampleRefused,
      (e.post.guest.reconnectWaits.lookup sampleHostB).map (·.generation) = some 1 ∧
        e.post.timers = [⟨1, 6⟩, ⟨1, 4⟩] := by decide +kernel
  obtain ⟨e, member, held, timers⟩ := waits
  obtain ⟨wait, found, isToken⟩ := Option.map_eq_some_iff.mp held
  have one := (all sampleEnv [] [] sampleRefused e member).onePerWait.counted sampleHostB wait found
  rw [isToken] at one
  unfold World.armed at one
  rw [timers] at one
  exact absurd one (by decide)

end WaitTicks

end Lumepeer.Runtime
