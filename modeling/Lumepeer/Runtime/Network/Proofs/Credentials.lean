import Mathlib.Data.Set.Function
import Lumepeer.Core.Unattended.Proofs.Crates
import Lumepeer.Runtime.Network.Credentials

/-!
# Whose password goes where

A password waits in two slots that name no host, `pending_remember` and
`queued_proof`. As long as each of them is emptied by the host that its password was
typed for, every message that is made from a password and every entry of the
keystore is for that host.
-/

namespace Lumepeer.Runtime
open Lumepeer.Lib Lumepeer.Core

/-- What was typed for a host is for that host. -/
def Password.IsFor (password : Password) (host : NodeId) : Prop :=
  ∀ shown ∈ password.shown, shown = host

/-- A message is made from a password of the host that it goes to, and the keystore takes a password
under the tag of its host. -/
def Deed.IsOwn (env : GuestEnv) : Deed → Prop
  | .auth host password _ => password.IsFor host
  | .proof host password => password.IsFor host
  | .saved tag password => ∀ shown ∈ password.shown, tag = env.hostTag shown

/-- What goes out in clear goes to a host with a row in the history. -/
def Deed.IsKnown (env : GuestEnv) (rows : ConnectionHistory) : Deed → Prop
  | .auth host _ _ => (rows.codeOf (env.hostTag host)).isSome
  | .proof _ _ | .saved _ _ => True

namespace Guest
variable {env : GuestEnv} {hosts : Set NodeId}

/-- Nothing that a step does with a password crosses hosts. -/
def Uncrossed (env : GuestEnv) (e : Lib.Event Guest Happening Reply) : Prop :=
  ∀ deed ∈ e.out.deeds, deed.IsOwn env ∧ deed.IsKnown env e.pre.connectionHistory

/-- A message that a host sends on the connection that this node has dialed. -/
def Hears (guest : Guest) (peer : NodeId) (id : UInt64) : Prop :=
  ∃ handle ∈ guest.connections.lookup peer, handle.id = id ∧ handle.origin = .dialed

/-- The connection that a grant comes on. -/
def Happening.grantOn : Happening → Option (NodeId × UInt64)
  | .inbound peer id (.consentGrant _) _ => some (peer, id)
  | _ => none

/-- The connection that a challenge for a proof comes on. -/
def Happening.challengeOn : Happening → Option (NodeId × UInt64)
  | .inbound peer id (.unattendedProofChallenge _ _ _) _ => some (peer, id)
  | _ => none

/-- A slot is emptied by the host that its password was typed for: `pending_remember` by a grant, and
`queued_proof` by a challenge that finds the form waiting for credentials. -/
def InPlace (guest : Guest) (happening : Happening) : Prop :=
  (∀ connection ∈ happening.grantOn, guest.Hears connection.1 connection.2 →
    ∀ password ∈ guest.pendingRemember, password.IsFor connection.1) ∧
  ∀ connection ∈ happening.challengeOn, guest.Hears connection.1 connection.2 →
    guest.connectPeer = some connection.1 → guest.connectPhase = .awaitingCredentials →
      ∀ queued ∈ guest.queuedProof, queued.1.IsFor connection.1

instance (password : Password) (host : NodeId) : Decidable (password.IsFor host) :=
  inferInstanceAs (Decidable (∀ shown ∈ password.shown, shown = host))

instance (guest : Guest) (peer : NodeId) (id : UInt64) : Decidable (guest.Hears peer id) :=
  inferInstanceAs (Decidable (∃ handle ∈ guest.connections.lookup peer, _))

instance (guest : Guest) (happening : Happening) : Decidable (guest.InPlace happening) :=
  inferInstanceAs (Decidable (_ ∧ _))

/-! ## Where passwords are kept -/

/-- Everything that holds a password. -/
structure Slots where
  stored : HashMap String Password
  pending : Option Password
  queued : Option (Password × Option String × Bool)

def slots (guest : Guest) : Slots where
  stored := guest.rememberedPasswords
  pending := guest.pendingRemember
  queued := guest.queuedProof

/-- Every password was typed for one of the hosts, and a stored one is under the tag of its host. -/
structure Slots.Placed (env : GuestEnv) (hosts : Set NodeId) (slots : Slots) : Prop where
  stored : ∀ tag password, slots.stored.lookup tag = some password →
    ∀ shown, password.shown = some shown → shown ∈ hosts ∧ tag = env.hostTag shown
  pending : ∀ password, slots.pending = some password →
    ∀ shown, password.shown = some shown → shown ∈ hosts
  queued : ∀ password code remember, slots.queued = some (password, code, remember) →
    ∀ shown, password.shown = some shown → shown ∈ hosts

theorem Slots.Placed.clearPending {slots : Slots} (placed : slots.Placed env hosts) :
    { slots with pending := none }.Placed env hosts :=
  { placed with pending := by simp }

theorem Slots.Placed.clearQueued {slots : Slots} (placed : slots.Placed env hosts) :
    { slots with queued := none }.Placed env hosts :=
  { placed with queued := by simp }

/-! ## What leaves the passwords alone -/

@[simp] theorem slots_stopConnectRetry (guest : Guest) : guest.stopConnectRetry.slots = guest.slots := by
  unfold stopConnectRetry
  split <;> rfl

@[simp] theorem slots_settleConnect (guest : Guest) (peer : NodeId) (outcome : ConnectPhase) :
    (guest.settleConnect peer outcome).slots = guest.slots := by
  have kept := slots_stopConnectRetry guest
  unfold settleConnect
  split_ifs
  · rfl
  · rfl
  · exact kept
  · exact kept

@[simp] theorem slots_retryConnectSoon (guest : Guest) (peer : NodeId) :
    (guest.retryConnectSoon peer).2.slots = guest.slots := by
  unfold retryConnectSoon
  split <;> rfl

@[simp] theorem slots_showWaitInForm (guest : Guest) (peer : NodeId) (phase : ConnectPhase) :
    (guest.showWaitInForm peer phase).2.slots = guest.slots := by
  unfold showWaitInForm
  split <;> rfl

theorem slots_of_showWaitInForm {guest next : Guest} {peer : NodeId} {phase : ConnectPhase}
    {shown : Bool} (equation : guest.showWaitInForm peer phase = (shown, next)) :
    next.slots = guest.slots := by
  rw [← slots_showWaitInForm guest peer phase, equation]

@[simp] theorem slots_stopReconnectWait (guest : Guest) (peer : NodeId) :
    (guest.stopReconnectWait peer).slots = guest.slots := rfl

@[simp] theorem slots_recordVisit (guest : Guest) (peer : NodeId) :
    (guest.recordVisit env peer).slots = guest.slots := by
  unfold recordVisit
  split <;> rfl

@[simp] theorem slots_endView (guest : Guest) (peer : NodeId) (parks : Bool) :
    (guest.endView env peer parks).slots = guest.slots := by
  unfold endView
  split
  · have kept := @slots_recordVisit env
      { guest with views := Function.update guest.views peer false } peer
    dsimp only
    split <;> exact kept
  · rfl

@[simp] theorem slots_startView (guest : Guest) (peer : NodeId) (role : Role) :
    (guest.startView env peer role).slots = guest.slots := by
  unfold startView
  split_ifs <;> first | exact slots_endView _ _ _ | rfl

@[simp] theorem slots_startReconnectWait (guest : Guest) (peer : NodeId) (resume : Option SessionId)
    (sessionOver : Bool) :
    (guest.startReconnectWait env peer resume sessionOver).slots = guest.slots := by
  unfold startReconnectWait
  dsimp only
  split
  · next equation =>
      have kept := slots_of_showWaitInForm equation
      exact kept
  · next equation =>
      have kept := slots_of_showWaitInForm equation
      exact kept

@[simp] theorem slots_onResumeRefused (guest : Guest) (peer : NodeId) :
    (guest.onResumeRefused peer).slots = guest.slots := by
  unfold onResumeRefused
  split
  · rfl
  · dsimp only
    split
    · split
      · next equation =>
          have kept := slots_of_showWaitInForm equation
          exact kept
      · next equation =>
          have kept := slots_of_showWaitInForm equation
          exact kept
    · split <;> rfl

@[simp] theorem slots_onDialFailed (guest : Guest) (peer : NodeId) (error : DialError)
    (resuming : Bool) : (guest.onDialFailed peer error resuming).slots = guest.slots := by
  unfold onDialFailed
  generalize ended : (if error.isVerdict && (guest.reconnectWaits.lookup peer).isSome then
    guest.stopReconnectWait peer else guest) = left
  have kept : left.slots = guest.slots := by
    rw [← ended]
    split <;> rfl
  rw [← kept]
  dsimp only
  split
  · exact slots_showWaitInForm _ _ _
  · generalize retried : (if error.isVerdict then (false, left) else left.retryConnectSoon peer) = answer
    have same : answer.2.slots = left.slots := by
      rw [← retried]
      split
      · rfl
      · exact slots_retryConnectSoon _ _
    obtain ⟨again, next⟩ := answer
    cases again with
    | true => exact same
    | false => exact (slots_stopConnectRetry next).trans same

@[simp] theorem slots_onConnected (guest : Guest) (peer : NodeId) (code : String)
    (result : Except DialError Control) (forWait : Bool) :
    (guest.onConnected peer code result forWait).slots = guest.slots := by
  unfold onConnected
  cases result with
  | error error =>
      cases error
      case reconnectRejected =>
        dsimp only
        split
        · exact slots_onResumeRefused _ _
        · exact slots_onDialFailed _ _ _ _
      all_goals exact slots_onDialFailed _ _ _ _
  | ok control =>
      by_cases other : control.peer ≠ peer
      · simp only [other, if_true, ne_eq, not_false_eq_true, slots_onDialFailed]
        rfl
      · generalize (guest.reconnectWaits.lookup peer).any (·.resume.isSome) = resuming
        dsimp only
        rw [if_neg other]
        cases resuming <;> split <;> rfl

@[simp] theorem slots_onDialed (guest : Guest) (peer : NodeId) (seq : UInt64) (code : String)
    (result : Except DialError Control) :
    (guest.onDialed peer seq code result).slots = guest.slots := by
  unfold onDialed
  split
  · rfl
  · dsimp only
    split
    · rfl
    · exact slots_onConnected _ _ _ _ _

/-- A dial forgets the password that waits to be remembered, if the form is about it. -/
theorem slots_spawnDialAs (guest : Guest) (raw : String) (resume : Option SessionId) :
    (guest.spawnDialAs env raw resume).2.slots = guest.slots ∨
      (guest.spawnDialAs env raw resume).2.slots = { guest.slots with pending := none } := by
  unfold spawnDialAs
  split
  · exact .inl rfl
  · next host isHost =>
      by_cases connected : (guest.connections.lookup host).isSome
      · rw [if_pos connected]
        exact .inl rfl
      · rw [if_neg connected]
        cases guest.reconnectWaits.lookup host with
        | none =>
            dsimp only
            split
            · exact .inl rfl
            · exact .inr rfl
        | some wait =>
            simp only [Option.isSome_some, if_true]
            split
            · exact .inl rfl
            · generalize shown : showWaitInForm _ host _ = answer
              obtain ⟨onForm, next⟩ := answer
              have kept := slots_of_showWaitInForm shown
              cases onForm with
              | false => exact .inl kept
              | true =>
                  have emptied := congrArg (fun slots : Slots => { slots with pending := none }) kept
                  exact .inr emptied

theorem Slots.Placed.spawnDialAs {guest : Guest} (placed : guest.slots.Placed env hosts)
    (raw : String) (resume : Option SessionId) :
    (guest.spawnDialAs env raw resume).2.slots.Placed env hosts := by
  rcases slots_spawnDialAs guest raw resume with kept | emptied
  · rw [kept]
    exact placed
  · rw [emptied]
    exact placed.clearPending

@[simp] theorem slots_callOffWaits (guest : Guest) : guest.callOffWaits.slots = guest.slots := by
  unfold callOffWaits
  split <;> rfl

@[simp] theorem slots_settleClosed (guest : Guest) (peer : NodeId) (wasWatching closedByPeer : Bool) :
    (guest.settleClosed peer wasWatching closedByPeer).slots = guest.slots := by
  have kept := slots_retryConnectSoon guest peer
  unfold settleClosed
  split
  · split
    · next again =>
        rw [again] at kept
        exact kept
    · next again =>
        rw [again] at kept
        rw [slots_settleConnect]
        exact kept
  · exact slots_settleConnect _ _ _

section
variable {guest : Guest} (placed : guest.slots.Placed env hosts)
include placed

theorem placed_onConnectRetryTick (generation : UInt64) :
    (guest.onConnectRetryTick env generation).slots.Placed env hosts := by
  unfold onConnectRetryTick
  split
  · exact placed
  · next retry isRetry =>
      split
      · exact placed
      · split
        · rw [slots_stopConnectRetry]
          exact placed
        · split
          · rw [slots_stopConnectRetry]
            exact placed
          · have idle : { guest with connectPhase := .idle }.slots.Placed env hosts := placed
            have dialed := idle.spawnDialAs retry.code none
            split
            · next equation =>
                rw [equation] at dialed
                exact dialed
            · next next equation =>
                rw [equation] at dialed
                have kept := slots_retryConnectSoon next retry.peer
                split
                · next again =>
                    rw [again] at kept
                    rw [kept]
                    exact dialed
                · next again =>
                    rw [again] at kept
                    rw [slots_settleConnect, kept]
                    exact dialed

theorem placed_resumeTick (wait : ReconnectWait) :
    (guest.resumeTick env wait).2.slots.Placed env hosts := by
  unfold resumeTick
  dsimp only
  split
  · split <;> exact placed
  · split
    · exact placed
    · split
      · split <;> exact placed
      · exact placed.spawnDialAs _ _

theorem placed_waitTick (wait : ReconnectWait) :
    (guest.waitTick env wait).slots.Placed env hosts := by
  unfold waitTick
  dsimp only
  split
  · exact placed
  · split
    · exact placed
    · split
      · split <;> exact placed
      · split
        · exact placed
        · split
          · split <;> exact placed
          · exact placed.spawnDialAs _ _

theorem placed_onReconnectWaitTick (generation : UInt64) :
    (guest.onReconnectWaitTick env generation).slots.Placed env hosts := by
  unfold onReconnectWaitTick
  split
  · exact placed
  · next wait _ =>
      have ticked := placed_resumeTick placed wait
      split
      · split
        · next equation =>
            rw [equation] at ticked
            exact ticked
        · next equation =>
            rw [equation] at ticked
            exact placed_waitTick ticked wait
      · exact placed_waitTick placed wait

theorem placed_forgetCredentialExchange (peer : NodeId) :
    (guest.forgetCredentialExchange peer).slots.Placed env hosts := by
  unfold forgetCredentialExchange
  dsimp only
  split_ifs
  · exact placed.clearQueued
  · exact placed
  · exact placed.clearQueued
  · exact placed

theorem placed_forgetPassword (tag : String) : (guest.forgetPassword tag).slots.Placed env hosts := by
  refine { placed with stored := ?_ }
  intro tag' password found
  apply placed.stored tag' password
  unfold forgetPassword slots at found
  dsimp only at found
  split at found
  · rw [HashMap.lookup_erase_eq] at found
    split at found
    · cases found
    · exact found
  · exact found

theorem placed_onConnectCancel : guest.onConnectCancel.slots.Placed env hosts := by
  have kept : guest.callOffWaits.stopConnectRetry.slots = guest.slots := by
    rw [slots_stopConnectRetry, slots_callOffWaits]
  rw [← kept] at placed
  unfold onConnectCancel
  dsimp only
  split
  · exact placed
  · exact placed.clearPending

theorem placed_onConsentRevoke (peer : NodeId) :
    (onConsentRevoke env guest peer).slots.Placed env hosts := by
  unfold onConsentRevoke
  generalize waited : (if !guest.views peer && (guest.reconnectWaits.lookup peer).isSome then
    guest.stopReconnectWait peer else guest) = left
  have same : left.slots = guest.slots := by
    rw [← waited]
    split <;> rfl
  have kept : ((left.settleConnect peer .denied).endView env peer false).slots.Placed env hosts := by
    rw [slots_endView, slots_settleConnect, same]
    exact placed
  dsimp only
  split <;> exact kept

theorem placed_dropRefused (peer : NodeId) : (dropRefused env guest peer).slots.Placed env hosts := by
  have emptied : { guest with pendingRemember := none }.slots.Placed env hosts := placed.clearPending
  unfold dropRefused
  dsimp only
  split
  · exact placed_forgetPassword emptied _
  · exact emptied

theorem placed_onUnattendedReject (peer : NodeId) (reason : UnattendedRejection) :
    (onUnattendedReject env guest peer reason).slots.Placed env hosts := by
  have dropped := placed_dropRefused placed peer
  unfold onUnattendedReject
  split
  · exact placed
  · dsimp only
    split <;> exact dropped

theorem placed_leaveView (peer : NodeId) : (leaveView env guest peer).2.slots.Placed env hosts := by
  unfold leaveView
  split
  · have kept : (guest.sayGoodbye peer).slots = guest.slots := by
      unfold sayGoodbye
      split
      · split <;> rfl
      · rfl
    have left : (((guest.sayGoodbye peer).stopReconnectWait peer).settleConnect peer .idle).slots.Placed
        env hosts := by
      rw [slots_settleConnect, slots_stopReconnectWait, kept]
      exact placed
    exact left
  · split
    · have left : ((guest.settleConnect peer .idle).endView env peer false).slots.Placed env hosts := by
        rw [slots_endView, slots_settleConnect]
        exact placed
      exact left
    · exact placed

theorem placed_waitAfterClose (peer : NodeId) (resume : Option SessionId)
    (wasWatching sessionOver hostRestarting resumingOverThis resumeRefused : Bool) :
    (waitAfterClose env guest peer resume wasWatching sessionOver hostRestarting resumingOverThis
      resumeRefused).slots.Placed env hosts := by
  unfold waitAfterClose
  dsimp only
  split_ifs <;> simpa using placed

theorem placed_onClosed (peer : NodeId) (id : UInt64) (ending : Ending) :
    (onClosed env guest peer id ending).slots.Placed env hosts := by
  unfold onClosed
  dsimp only
  split
  · exact placed
  · have erased : { guest with connections := guest.connections.erase peer }.slots.Placed env hosts :=
      placed
    have forgot := placed_forgetCredentialExchange erased peer
    apply placed_waitAfterClose
    rw [slots_settleClosed]
    exact forgot

end

/-! ## A password is submitted -/

/-- Passwords are used as they should be, with these rows in the history, and kept where they
should. -/
structure Submits (env : GuestEnv) (hosts : Set NodeId) (rows : ConnectionHistory)
    (deeds : List Deed) (next : Guest) : Prop where
  own : ∀ deed ∈ deeds, deed.IsOwn env ∧ deed.IsKnown env rows
  placed : next.slots.Placed env hosts

theorem Submits.nothing {rows : ConnectionHistory} {next : Guest}
    (placed : next.slots.Placed env hosts) : Submits env hosts rows [] next where
  own := by simp
  placed := placed

theorem Slots.Placed.remembers {guest : Guest} (placed : guest.slots.Placed env hosts)
    {password : Password} (among : ∀ shown, password.shown = some shown → shown ∈ hosts)
    (remember : Bool) :
    { guest.slots with pending := if remember then some password else none }.Placed env hosts := by
  refine { placed with pending := ?_ }
  intro other kept
  cases remember with
  | false => simp at kept
  | true =>
      obtain rfl : password = other := by simpa using kept
      exact among

theorem submits_answerChallenge {guest : Guest} (placed : guest.slots.Placed env hosts)
    {peer : NodeId} {password : Password} (isFor : password.IsFor peer) (among : peer ∈ hosts)
    (kdf : ProofKdf) (hostMessage : List UInt8) (code : Option String) (remember : Bool)
    (draw : List UInt8) :
    Submits env hosts guest.connectionHistory
      (answerChallenge env guest peer kdf hostMessage password code remember draw).1.deeds
      (answerChallenge env guest peer kdf hostMessage password code remember draw).2 := by
  unfold answerChallenge
  split
  · exact .nothing placed
  · split
    · refine ⟨?_, placed⟩
      simp [Deed.IsOwn, Deed.IsKnown, isFor]
    · refine ⟨?_, placed.remembers (fun shown isShown => isFor shown isShown ▸ among) remember⟩
      simp [Deed.IsOwn, Deed.IsKnown, isFor]

theorem submits_sendPassword {guest : Guest} (placed : guest.slots.Placed env hosts)
    {peer : NodeId} {password : Password} (isFor : password.IsFor peer) (among : peer ∈ hosts)
    (code : Option String) (remember : Bool) :
    Submits env hosts guest.connectionHistory
      (sendPassword env guest peer password code remember).1.deeds
      (sendPassword env guest peer password code remember).2 := by
  unfold sendPassword
  split
  · exact .nothing placed.clearPending
  · next known =>
      refine ⟨?_, placed.remembers (fun shown isShown => isFor shown isShown ▸ among) remember⟩
      intro deed done
      have listed : (guest.connectionHistory.codeOf (env.hostTag peer)).isSome := by
        simpa [Option.isSome_iff_ne_none] using known
      dsimp only at done
      split at done
      · obtain rfl : deed = .auth peer password code := by simpa using done
        exact ⟨isFor, listed⟩
      · simp at done

/-- A password that is submitted while the form is about its host stays with this host. -/
theorem submits_onUnattendedSubmit {guest : Guest} (placed : guest.slots.Placed env hosts)
    {password : Password} (isFor : ∀ peer, guest.connectPeer = some peer → password.IsFor peer)
    (among : ∀ peer, guest.connectPeer = some peer → peer ∈ hosts) (code : Option String)
    (remember : Bool) (draw : List UInt8) :
    Submits env hosts guest.connectionHistory
      (onUnattendedSubmit env guest password code remember draw).1.deeds
      (onUnattendedSubmit env guest password code remember draw).2 := by
  unfold onUnattendedSubmit
  split
  · exact .nothing placed
  · split
    · exact .nothing placed
    · next peer shows =>
        have mine := isFor peer shows
        have member := among peer shows
        have taken : { guest with
          connectFailure := none, connectRetrySecs := none, proofChallenge := none }.slots.Placed
            env hosts := placed
        dsimp only
        split
        · next kdf hostMessage _ =>
            exact submits_answerChallenge taken mine member kdf hostMessage code remember draw
        · split
          · refine .nothing { placed with queued := ?_ }
            intro other _ _ kept shown isShown
            obtain ⟨rfl, -⟩ : password = other ∧ _ := by simpa [slots] using kept
            exact mine shown isShown ▸ member
          · exact submits_sendPassword taken mine member code remember

/-- A challenge is answered by itself with the password that is stored for its host. -/
theorem submits_onCredentialChallenge {guest : Guest} (placed : guest.slots.Placed env hosts)
    (apart : Set.InjOn env.hostTag hosts) {peer : NodeId} (shows : guest.connectPeer = some peer)
    (among : peer ∈ hosts) (codeRequired : Bool) (draw : List UInt8) :
    Submits env hosts guest.connectionHistory
      (onCredentialChallenge env guest peer codeRequired draw).1
      (onCredentialChallenge env guest peer codeRequired draw).2 := by
  unfold onCredentialChallenge
  dsimp only
  split
  · split
    · next password loaded =>
        have found : guest.slots.stored.lookup (env.hostTag peer) = some password := by
          unfold loadPassword at loaded
          dsimp only at loaded
          split at loaded
          · exact loaded
          · cases loaded
        have isFor : password.IsFor peer := by
          intro shown isShown
          obtain ⟨member, sameTag⟩ := placed.stored _ _ found shown isShown
          exact (apart among member sameTag).symm
        apply @submits_onUnattendedSubmit env hosts { guest with
          connectPhase := .awaitingCredentials, connectCodeRequired := codeRequired
          connectFailure := none, connectRetrySecs := none, connectCredentialsAuto := true }
        · exact placed
        · intro other isOther
          obtain rfl : peer = other := Option.some.inj (shows.symm.trans isOther)
          exact isFor
        · intro other isOther
          obtain rfl : peer = other := Option.some.inj (shows.symm.trans isOther)
          exact among
    · exact .nothing placed
  · exact .nothing placed

/-! ## Messages -/

theorem submits_rememberPending {guest : Guest} (placed : guest.slots.Placed env hosts)
    {peer : NodeId} (rows : ConnectionHistory)
    (inPlace : ∀ password ∈ guest.pendingRemember, password.IsFor peer) :
    Submits env hosts rows (rememberPending env guest peer).1 (rememberPending env guest peer).2 := by
  unfold rememberPending rememberPassword
  split
  · next password pending =>
      have isFor := inPlace password pending
      have member := placed.pending password pending
      split
      · refine ⟨?_, { placed.clearPending with stored := ?_ }⟩
        · intro deed done
          obtain rfl : deed = .saved (env.hostTag peer) password := by simpa using done
          exact ⟨fun shown isShown => by rw [isFor shown isShown], trivial⟩
        · intro tag other found shown isShown
          rw [slots, HashMap.lookup_insert_eq] at found
          split at found
          · next same =>
              obtain rfl := Option.some.inj found
              exact ⟨member shown isShown, by rw [same, isFor shown isShown]⟩
          · exact placed.stored tag other found shown isShown
      · exact .nothing placed.clearPending
  · exact .nothing placed

theorem submits_onConsentGrant {guest : Guest} (placed : guest.slots.Placed env hosts) {peer : NodeId}
    (inPlace : ∀ password ∈ guest.pendingRemember, password.IsFor peer)
    (role : Role) :
    Submits env hosts guest.connectionHistory (onConsentGrant env guest peer role).1
      (onConsentGrant env guest peer role).2 := by
  have kept : (((guest.finishReconnectWait peer).settleConnect peer .connected).recordVisit env
      peer).slots = guest.slots := by
    rw [slots_recordVisit, slots_settleConnect]
    rfl
  rw [← kept] at placed
  have samePending := congrArg Slots.pending kept
  have remembers := submits_rememberPending placed guest.connectionHistory (fun password pending =>
    inPlace password (samePending.symm.trans pending))
  unfold onConsentGrant
  refine ⟨remembers.own, ?_⟩
  dsimp only
  rw [slots_startView]
  exact remembers.placed

theorem submits_onUnattendedChallenge {guest : Guest} (placed : guest.slots.Placed env hosts)
    (apart : Set.InjOn env.hostTag hosts) (among : ∀ peer, guest.connectPeer = some peer → peer ∈ hosts)
    (peer : NodeId) (codeRequired : Bool) (draw : List UInt8) :
    Submits env hosts guest.connectionHistory
      (onUnattendedChallenge env guest peer codeRequired draw).1
      (onUnattendedChallenge env guest peer codeRequired draw).2 := by
  unfold onUnattendedChallenge
  split
  · exact .nothing placed
  · next shows =>
      have shows := not_not.mp shows
      exact @submits_onCredentialChallenge env hosts { guest with
        proofChallenge := none, proofHost := none, queuedProof := none } placed.clearQueued apart peer
        shows (among peer shows) codeRequired draw

theorem submits_onUnattendedProofChallenge {guest : Guest} (placed : guest.slots.Placed env hosts)
    (apart : Set.InjOn env.hostTag hosts) (among : ∀ peer, guest.connectPeer = some peer → peer ∈ hosts)
    {peer : NodeId}
    (inPlace : guest.connectPeer = some peer → guest.connectPhase = .awaitingCredentials →
      ∀ queued ∈ guest.queuedProof, queued.1.IsFor peer)
    (codeRequired : Bool) (kdf : ProofKdf) (hostMessage draw : List UInt8) :
    Submits env hosts guest.connectionHistory
      (onUnattendedProofChallenge env guest peer codeRequired kdf hostMessage draw).1
      (onUnattendedProofChallenge env guest peer codeRequired kdf hostMessage draw).2 := by
  unfold onUnattendedProofChallenge
  split
  · exact .nothing placed
  · next shows =>
      have shows := not_not.mp shows
      dsimp only
      split
      · next awaits =>
          split
          · next password code remember queued =>
              apply @submits_onUnattendedSubmit env hosts { guest with
                proofChallenge := some (peer, kdf, hostMessage), proofHost := some peer
                connectCodeRequired := codeRequired, queuedProof := none }
              · exact placed.clearQueued
              · intro other isOther
                obtain rfl : peer = other := Option.some.inj (shows.symm.trans isOther)
                exact inPlace shows awaits _ queued
              · exact among
          · exact .nothing placed
      · exact @submits_onCredentialChallenge env hosts { guest with
          proofChallenge := some (peer, kdf, hostMessage), proofHost := some peer } placed apart peer
          shows (among peer shows) codeRequired draw

/-- A message of a host is only acted on if this node has dialed it. -/
theorem hears_of_inbound {guest : Guest} {peer : NodeId} {id : UInt64} {handle : ConnectionHandle}
    {kind : MessageKind} (found : (guest.connections.lookup peer).filter (·.id = id) = some handle)
    (fromHost : kind.direction = some .hostToGuest)
    (allowed : ¬ kind.direction.any (· ≠ handle.origin.inbound)) : guest.Hears peer id := by
  obtain ⟨isHandle, sameId⟩ := Option.filter_eq_some_iff.mp found
  refine ⟨handle, isHandle, by simpa using sameId, ?_⟩
  cases origin : handle.origin with
  | dialed => rfl
  | accepted => simp [fromHost, origin, Origin.inbound] at allowed

theorem submits_onInbound {guest : Guest} (placed : guest.slots.Placed env hosts)
    (apart : Set.InjOn env.hostTag hosts) (among : ∀ peer, guest.connectPeer = some peer → peer ∈ hosts)
    {peer : NodeId} {id : UInt64} {kind : MessageKind} {draw : List UInt8}
    (inPlace : guest.InPlace (.inbound peer id kind draw)) :
    Submits env hosts guest.connectionHistory (onInbound env guest peer id kind draw).1
      (onInbound env guest peer id kind draw).2 := by
  unfold onInbound
  split
  · exact .nothing placed
  · next handle found =>
      have heard : { guest with
        connections := guest.connections.insert peer
          { handle with lastHeard := guest.now } }.slots.Placed env hosts := placed
      dsimp only
      split
      · exact .nothing placed
      · next allowed =>
          split
          · exact submits_onConsentGrant heard
              (inPlace.1 _ rfl (hears_of_inbound found rfl allowed)) _
          · exact .nothing (placed_onConsentRevoke heard peer)
          · exact submits_onUnattendedChallenge heard apart among _ _ _
          · exact submits_onUnattendedProofChallenge heard apart among
              (inPlace.2 _ rfl (hears_of_inbound found rfl allowed)) _ _ _ _
          · exact .nothing (placed_onUnattendedReject heard peer _)
          · exact .nothing placed

/-! ## Runs -/

/-- Every step keeps passwords where they belong and uses them for their hosts. -/
theorem submits_step {guest : Guest} (placed : guest.slots.Placed env hosts)
    (apart : Set.InjOn env.hostTag hosts) (among : ∀ peer, guest.connectPeer = some peer → peer ∈ hosts)
    {happening : Happening} (inPlace : guest.InPlace happening) :
    Submits env hosts guest.connectionHistory (step env guest happening).1.deeds
      (step env guest happening).2 := by
  cases happening with
  | dial raw =>
      have deedless : (dialReply (guest.spawnDialAs env raw none).1).deeds = [] := by
        unfold dialReply
        split <;> rfl
      exact deedless ▸ .nothing (placed.spawnDialAs raw none)
  | historyConnect label =>
      unfold step
      dsimp only
      split
      · next code _ =>
          have deedless : (dialReply (guest.spawnDialAs env code none).1).deeds = [] := by
            unfold dialReply
            split <;> rfl
          rw [deedless]
          exact .nothing (placed.spawnDialAs code none)
      · exact .nothing placed
  | submit password code remember draw =>
      refine submits_onUnattendedSubmit placed ?_ among code remember draw
      intro peer shows shown isShown
      exact Option.some.inj (isShown.symm.trans shows)
  | cancel => exact .nothing (placed_onConnectCancel placed)
  | leaveView peer => exact .nothing (placed_leaveView placed peer)
  | historyRemove label => exact .nothing (placed_forgetPassword placed label)
  | historyForgetPassword label => exact .nothing (placed_forgetPassword placed label)
  | historySetTrusted label trusted => exact .nothing placed
  | dialed peer seq code result =>
      refine .nothing ?_
      unfold step
      dsimp only
      rw [slots_onDialed]
      exact placed
  | inbound peer id kind draw => exact submits_onInbound placed apart among inPlace
  | closed peer id ending => exact .nothing (placed_onClosed placed peer id ending)
  | connectRetryTick generation => exact .nothing (placed_onConnectRetryTick placed generation)
  | reconnectWaitTick generation => exact .nothing (placed_onReconnectWaitTick placed generation)
  | accepted control => exact .nothing placed
  | keystore answers => exact .nothing placed
  | elapse secs => exact .nothing placed

/-- What the keystore has when the actor starts was typed for nobody. -/
theorem unshown_of_stored (stored : List (String × String)) (passwords : HashMap String Password)
    (unshown : ∀ tag password, passwords.lookup tag = some password → password.shown = none) :
    ∀ tag password, (stored.foldl (fun passwords (tag, text) =>
      passwords.insert tag { text, shown := none }) passwords).lookup tag = some password →
        password.shown = none := by
  induction stored generalizing passwords with
  | nil => exact unshown
  | cons entry stored ih =>
      apply ih
      intro tag password found
      rw [HashMap.lookup_insert_eq] at found
      split at found
      · obtain rfl := Option.some.inj found
        rfl
      · exact unshown tag password found

theorem placed_new (rows : ConnectionHistory) (stored : List (String × String)) :
    (new rows stored).slots.Placed env hosts where
  stored := by
    intro tag password found shown isShown
    have unshown := unshown_of_stored stored ∅ (by simp) tag password found
    rw [unshown] at isShown
    cases isShown
  pending := by simp [new, slots]
  queued := by simp [new, slots]

/-- The hosts that the form is about in a run. -/
def shownIn (env : GuestEnv) (guest : Guest) (happenings : List Happening) : Set NodeId :=
  { peer | ∃ e ∈ history (step env) guest happenings, e.pre.connectPeer = some peer }

/-- If a slot is emptied only by the host that its password was typed for, and no two hosts that the
form is about share a tag, then no password crosses hosts, and none goes out in clear to a host that
has no row. -/
theorem passwords_stay_with_their_hosts (env : GuestEnv) (rows : ConnectionHistory)
    (stored : List (String × String)) (happenings : List Happening)
    (apart : Set.InjOn env.hostTag (shownIn env (new rows stored) happenings))
    (inPlace : ∀ e ∈ history (step env) (new rows stored) happenings, e.pre.InPlace e.op) :
    ∀ e ∈ history (step env) (new rows stored) happenings, Uncrossed env e := by
  intro e member
  let hosts := shownIn env (new rows stored) happenings
  have among : ∀ e ∈ history (step env) (new rows stored) happenings,
      ∀ peer, e.pre.connectPeer = some peer → peer ∈ hosts :=
    fun e member peer shows => ⟨e, member, shows⟩
  have keep : ∀ (guest : Guest) happening, guest.slots.Placed env hosts →
      (guest.InPlace happening ∧ ∀ peer, guest.connectPeer = some peer → peer ∈ hosts) →
        (step env guest happening).2.slots.Placed env hosts :=
    fun guest happening placed allowed => (submits_step placed apart allowed.2 allowed.1).placed
  have placed := (history_induction keep (placed_new rows stored)
    (fun e member => ⟨inPlace e member, among e member⟩) e member).1
  have submits := submits_step placed apart (among e member) (inPlace e member)
  rw [eq_of_mem_history member]
  exact submits.own

/-! ## Two hosts -/

/-- The host `a` of the samples. -/
def sampleHostA : NodeId :=
  ⟨⟨[215, 90, 152, 1, 130, 177, 10, 183, 213, 75, 254, 211, 201, 100, 7, 58, 14, 225, 114, 243, 218,
    166, 35, 37, 175, 2, 26, 104, 247, 7, 81, 26], rfl⟩⟩

/-- The host `b` of the samples. -/
def sampleHostB : NodeId :=
  ⟨⟨[61, 64, 23, 195, 232, 67, 137, 90, 146, 183, 10, 167, 77, 27, 126, 188, 156, 152, 44, 207, 46,
    196, 150, 140, 192, 205, 85, 241, 42, 244, 102, 12], rfl⟩⟩

/-- The tags of the two hosts, and an invite code for each. -/
def sampleEnv : GuestEnv where
  crates := sampleCrates
  hostTag peer :=
    if peer = sampleHostA then "4398aa910c94f55d"
    else if peer = sampleHostB then "ddb6de88401b76a8"
    else ""
  issuer code :=
    if code = "invite of a" then .ok sampleHostA
    else if code = "invite of b" then .ok sampleHostB
    else .error .malformedTicket
  nodeId := ⟨List.Vector.replicate 32 0⟩

/-- A session with `b`, and then a password with "remember" for `a`, which has asked for a proof. -/
def sampleSubmitted : List Happening :=
  [.dial "invite of b",
    .dialed sampleHostB 1 "invite of b" (.ok ⟨sampleHostB, 23, List.Vector.replicate 16 1⟩),
    .inbound sampleHostB 1 (.consentGrant .viewOnly) [],
    .dial "invite of a",
    .dialed sampleHostA 2 "invite of a" (.ok ⟨sampleHostA, 23, List.Vector.replicate 16 2⟩),
    .inbound sampleHostA 2 (.unattendedProofChallenge false
      ⟨sampleSalt.toList, 19456, 2, 1, 32⟩ sampleKey) [],
    .submit "correct horse" none true []]

/-- `a` grants. -/
theorem password_saved_for_its_host :
    let events := history (step sampleEnv) (new [] [])
      (sampleSubmitted ++ [.inbound sampleHostA 2 (.consentGrant .fullControl) []])
    events ≠ [] ∧ ∀ e ∈ events, Uncrossed sampleEnv e := by
  refine ⟨List.cons_ne_nil _ _, ?_⟩
  apply passwords_stay_with_their_hosts
  · have shown : ∀ e ∈ history (step sampleEnv) (new [] [])
        (sampleSubmitted ++ [.inbound sampleHostA 2 (.consentGrant .fullControl) []]),
        ∀ peer ∈ e.pre.connectPeer, peer = sampleHostA ∨ peer = sampleHostB := by decide +kernel
    rintro first ⟨e, member, shows⟩ second ⟨e', member', shows'⟩ same
    rcases shown e member first shows with rfl | rfl
    · rcases shown e' member' second shows' with rfl | rfl
      · rfl
      · exact absurd same (by decide +kernel)
    · rcases shown e' member' second shows' with rfl | rfl
      · exact absurd same (by decide +kernel)
      · rfl
  · decide +kernel

/-- `b` changes the role of its session: the password of `a` is saved as that of `b`. -/
theorem password_saved_for_another_host :
    ¬ ∀ (env : GuestEnv) (rows : ConnectionHistory) (stored : List (String × String))
      (happenings : List Happening),
      ∀ e ∈ history (step env) (new rows stored) happenings, Uncrossed env e := by
  intro all
  let last : Happening := .inbound sampleHostB 1 (.consentGrant .fullControl) []
  have uncrossed := all sampleEnv [] [] (sampleSubmitted ++ [last])
    (Event.of (step sampleEnv) (exec (step sampleEnv) (new [] []) sampleSubmitted) last)
    (by simp [history_append])
  have saved : Deed.saved "ddb6de88401b76a8" ⟨"correct horse", some sampleHostA⟩ ∈
      (step sampleEnv (exec (step sampleEnv) (new [] []) sampleSubmitted) last).1.deeds := by
    decide +kernel
  have tagged := (uncrossed _ saved).1 sampleHostA rfl
  exact absurd tagged (by decide +kernel)

end Guest

end Lumepeer.Runtime
