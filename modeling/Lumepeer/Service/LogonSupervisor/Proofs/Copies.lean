import Lumepeer.Service.LogonEnroll.Proofs.Format
import Lumepeer.Service.LogonSupervisor

/-!
# Whose copy the sign-in screen is hosted with

The secrets file is replaced before the owner file and goes before it, so a request that
is cut off leaves either no owner or the copy of the owner there is.
-/

namespace Lumepeer.Service.LogonSupervisor
open Lumepeer.Lib Lumepeer.Service.LogonEnroll
open Lumepeer.Core (isWhitespace)

/-! ## The line of the owner -/

section line
variable {text : List Char}

theorem not_isWhitespace_of_isDigit {c : Char} (digit : c.isDigit = true) :
    isWhitespace c = false := by
  simp only [Char.isDigit, ge_iff_le, Bool.and_eq_true, decide_eq_true_eq,
    UInt32.le_iff_toNat_le] at digit
  obtain ⟨least, most⟩ := digit
  have isNat : c.toNat = c.val.toNat := rfl
  have fortyEight : '0'.val.toNat = 48 := rfl
  have fiftySeven : '9'.val.toNat = 57 := rfl
  unfold isWhitespace
  simp only [Bool.or_eq_false_iff, Bool.and_eq_false_iff, decide_eq_false_iff_not]
  omega

theorem dropWhile_digits (digits : ∀ c ∈ text, c.isDigit = true) :
    text.dropWhile isWhitespace = text := by
  cases text with
  | nil => rfl
  | cons c text =>
      have first := not_isWhitespace_of_isDigit (digits c (by simp))
      rw [List.dropWhile_cons_of_neg (by simp [first])]

theorem trim_line (nonempty : text ≠ []) (digits : ∀ c ∈ text, c.isDigit = true) :
    trim (text ++ ['\n']) = text := by
  obtain ⟨c, rest, rfl⟩ := List.exists_cons_of_ne_nil nonempty
  have first := not_isWhitespace_of_isDigit (digits c (by simp))
  unfold trim
  rw [List.cons_append, List.dropWhile_cons_of_neg (by simp [first]), ← List.cons_append,
    List.reverse_append, List.reverse_singleton, List.singleton_append,
    List.dropWhile_cons_of_pos (by decide), dropWhile_digits, List.reverse_reverse]
  intro c member
  exact digits c (List.mem_reverse.mp member)

theorem unsigned_digits (digits : ∀ c ∈ text, c.isDigit = true) : unsigned text = text := by
  unfold unsigned
  split
  · exact absurd (digits '+' (by simp)) (by decide)
  · rfl

theorem parseU32_toDigits (uid : UInt32) : parseU32 (Nat.toDigits 10 uid.toNat) = some uid := by
  have digits : ∀ c ∈ Nat.toDigits 10 uid.toNat, c.isDigit = true := fun c member =>
    Nat.isDigit_of_mem_toDigits (by decide) (by decide) member
  have small : uid.toNat < 4294967296 := uid.toNat_lt
  unfold parseU32
  simp only [unsigned_digits digits, Nat.ofDigitChars_ten_toDigits]
  rw [if_neg, UInt32.ofNat_toNat]
  simpa [Nat.toDigits_ne_nil, small] using digits

/-- The owner that is read is the one that was written. -/
theorem readOwner_of_line {state : State} {uid : UInt32}
    (written : state (.file .owner) = some (ownerLine uid)) : readOwner state = some uid := by
  unfold readOwner
  rw [written, Option.bind_some, ownerLine, fromUtf8_asBytes, Option.bind_some,
    String.toList_ofList, trim_line Nat.toDigits_ne_nil, parseU32_toDigits]
  intro c member
  exact Nat.isDigit_of_mem_toDigits (by decide) (by decide) member

end line

/-! ## What becomes of a file -/

/-- How operations end of which each needs the one before, by whether each fails: `none` if they
are cut off. -/
def ending : Nat → List Bool → Option Bool
  | 0, _ => some true
  | _ + 1, [] => none
  | count + 1, fails :: rest => if fails then some false else ending count rest

/-- How `write_private` ends. A temporary file that lies there and is not removed is in the way of
the next one. -/
def copyEnding (stale : Bool) : List Fault → Option Bool
  | removal :: creation :: rest =>
      ending 4 ((stale && removal.fails || creation.fails) :: rest.map (·.fails))
  | _ => none

section files
variable {state : State} {faults : List Fault} {fault : Fault} {file : StateFile}

theorem run_attempt_cons (op : FileOp) (rest : Calls FileOp Done Bool) :
    (attempt op rest).run perform (fault :: faults) state =
      if (perform op fault state).1 = .ok then
        rest.run perform faults (perform op fault state).2
      else (some (false, faults), (perform op fault state).2) := by
  unfold attempt
  rw [Calls.run_call_cons]
  split <;> simp

/-- Two states that differ in the temporary file only. -/
def SameBut (file : StateFile) (state state' : State) : Prop :=
  ∀ path, path ≠ .temporary file → state' path = state path

theorem SameBut.refl (file : StateFile) (state : State) : SameBut file state state :=
  fun _ _ => rfl

theorem SameBut.update {state' : State} (same : SameBut file state state')
    (bytes : Option (List UInt8)) :
    SameBut file state (Function.update state' (.temporary file) bytes) := by
  intro path isOther
  rw [Function.update_of_ne isOther]
  exact same path isOther

/-- What operations on a temporary file come to that end in a certain way: the file is replaced, or
nothing but the temporary file is touched. -/
structure Replaces (state : State) (file : StateFile) (bytes : List UInt8) (faults : List Fault)
    (used : Nat) (ends : Option Bool) (ran : Option (Bool × List Fault) × State) : Prop where
  returns : ran.1.map (·.1) = ends
  whole : ends = some true → ran.1 = some (true, faults.drop used) ∧
    SameBut file (Function.update state (.file file) (some bytes)) ran.2
  broken : ends ≠ some true → SameBut file state ran.2

section replaces
variable {state' : State} {bytes : List UInt8} {used count : Nat} {op : FileOp}
  {rest : Calls FileOp Done Bool}

theorem Replaces.cut (same : SameBut file state state') :
    Replaces state file bytes faults used none (none, state') where
  returns := rfl
  whole := nofun
  broken := fun _ => same

/-- One more operation has gone before. -/
theorem Replaces.after {ends : Option Bool} {ran : Option (Bool × List Fault) × State}
    (replaces : Replaces state file bytes faults used ends ran) (fault : Fault) :
    Replaces state file bytes (fault :: faults) (used + 1) ends ran where
  returns := replaces.returns
  whole := replaces.whole
  broken := replaces.broken

theorem Replaces.attempt_cons {fails : Bool} {flags : List Bool}
    (answers : (perform op fault state').1 = .ok ↔ fails = false)
    (same : SameBut file state (perform op fault state').2)
    (next : fails = false → Replaces state file bytes faults used (ending count flags)
      (rest.run perform faults (perform op fault state').2)) :
    Replaces state file bytes (fault :: faults) (used + 1) (ending (count + 1) (fails :: flags))
      ((attempt op rest).run perform (fault :: faults) state') := by
  rw [run_attempt_cons, ending]
  cases isFailure : fails with
  | false =>
      rw [if_pos (answers.mpr isFailure), if_neg Bool.false_ne_true]
      exact (next isFailure).after fault
  | true =>
      have notOk : ¬ (perform op fault state').1 = .ok := by simp [answers, isFailure]
      rw [if_neg notOk, if_pos rfl]
      exact { returns := rfl, whole := nofun, broken := fun _ => same }

theorem Replaces.attempt (start : SameBut file state state')
    (answers : ∀ fault, (perform op fault state').1 = .ok ↔ fault.fails = false)
    (same : ∀ fault, SameBut file state (perform op fault state').2)
    (next : ∀ fault faults, fault.fails = false →
      Replaces state file bytes faults used (ending count (faults.map (·.fails)))
        (rest.run perform faults (perform op fault state').2)) :
    Replaces state file bytes faults (used + 1) (ending (count + 1) (faults.map (·.fails)))
      ((attempt op rest).run perform faults state') := by
  cases faults with
  | nil => exact .cut start
  | cons fault faults => exact .attempt_cons (answers fault) (same fault) (next fault faults)

end replaces

/-- The rename puts the temporary file in the place of the file. -/
theorem replaces_rename {state' : State} {bytes : List UInt8} (start : SameBut file state state')
    (filled : state' (.temporary file) = some bytes) :
    Replaces state file bytes faults 1 (ending 1 (faults.map (·.fails)))
      ((attempt (.rename (.temporary file) (.file file)) (.done true)).run perform faults
        state') := by
  cases faults with
  | nil => exact .cut start
  | cons fault faults =>
      rw [run_attempt_cons]
      cases isFailure : fault.fails with
      | true =>
          simp only [perform, isFailure, List.map_cons, ending, if_true]
          exact { returns := rfl, whole := nofun, broken := fun _ => start }
      | false =>
          simp only [perform, isFailure, filled, List.map_cons, ending, if_true, Bool.false_eq_true,
            if_false, Calls.run_done]
          refine
            { returns := rfl
              whole := fun _ => ⟨rfl, ?_⟩
              broken := fun isBroken => absurd rfl isBroken }
          intro path isOther
          dsimp only
          rw [Function.update_of_ne isOther]
          by_cases same : path = .file file
          · rw [same, Function.update_self, Function.update_self]
          · rw [Function.update_of_ne same, Function.update_of_ne same, start path isOther]

/-- Filling a temporary file that is there and putting it in the place of the file. -/
theorem replaces_fill {state' : State} (start : SameBut file state state') (bytes : List UInt8) :
    Replaces state file bytes faults 3 (ending 3 (faults.map (·.fails)))
      ((attempt (.writeAll (.temporary file) bytes) <|
        attempt (.syncAll (.temporary file)) <|
        attempt (.rename (.temporary file) (.file file)) (.done true)).run perform faults
          state') := by
  refine .attempt start (fun fault => ?_) (fun fault => ?_) fun fault faults writes => ?_
  · cases isFailure : fault.fails <;> simp [perform, isFailure]
  · cases isFailure : fault.fails <;> simp only [perform, isFailure] <;> exact start.update _
  · have filled : (perform (.writeAll (.temporary file) bytes) fault state').2 =
        Function.update state' (.temporary file) (some bytes) := by simp [perform, writes]
    rw [filled]
    refine .attempt (start.update _) (fun fault => ?_) (fun fault => start.update _)
      fun fault faults _ => ?_
    · cases isFailure : fault.fails <;> simp [perform, isFailure]
    · exact replaces_rename (start.update _) (by simp [perform])

/-- `write_private` replaces the file or leaves everything but the temporary file alone. -/
theorem replaces_writePrivate (file : StateFile) (bytes : List UInt8) (faults : List Fault)
    (state : State) :
    Replaces state file bytes faults 5 (copyEnding (state (.temporary file)).isSome faults)
      ((writePrivate file bytes).run perform faults state) := by
  unfold writePrivate
  match faults with
  | [] => exact .cut (.refl file state)
  | removal :: faults =>
      rw [Calls.run_call_cons]
      have same : SameBut file state (perform (.removeFile (.temporary file)) removal state).2 := by
        simp only [perform]
        split
        · exact .refl file state
        · split
          · exact (SameBut.refl file state).update none
          · exact .refl file state
      have stale : ((perform (.removeFile (.temporary file)) removal state).2
          (.temporary file)).isSome = ((state (.temporary file)).isSome && removal.fails) := by
        simp only [perform]
        cases removal.fails <;> cases found : (state (.temporary file)).isSome <;> simp [found]
      generalize (perform (.removeFile (.temporary file)) removal state).2 = state' at same stale
      match faults with
      | [] => exact .cut same
      | creation :: faults =>
          refine (Replaces.attempt_cons ?_ ?_ fun _ => ?_).after removal
          · simp only [perform, stale]
            cases creation.fails <;>
              cases (state (.temporary file)).isSome && removal.fails <;> simp
          · simp only [perform]
            split
            · exact same
            · exact same.update (some [])
          · refine replaces_fill ?_ bytes
            simp only [perform]
            split
            · exact same
            · exact same.update (some [])

end files

/-! ## What becomes of a request -/

/-- There is a temporary file that was left. -/
def stale (state : State) (file : StateFile) : Bool := (state (.temporary file)).isSome

/-- The two files are as they were. -/
def Kept (state state' : State) : Prop := ∀ file, state' (.file file) = state (.file file)

/-- The account may withdraw what the owner enrolled. -/
def MayWithdraw (state : State) (uid : UInt32) : Prop :=
  ∃ owner, readOwner state = some owner ∧ (owner = uid ∨ uid = 0)

/-- The request is cut in two: the secrets file is another one or is gone, and then an operation on
the owner file fails. -/
def Torn (state : State) (uid : UInt32) (faults : List Fault) : LogonEnroll.Request → Prop
  | .enroll entries =>
      readOwner state = some uid ∧ uid ≠ 0 ∧ state (.file .secrets) ≠ encodeEntries entries ∧
        copyEnding (stale state .secrets) faults = some true ∧
        copyEnding (stale state .owner) (faults.drop 5) = some false
  | .withdraw =>
      MayWithdraw state uid ∧ (state (.file .secrets)).isSome = true ∧
        (faults.map (·.fails)).take 2 = [false, true]
  | .status => False

/-- What a request does to the two files, and what it is answered unless it is cut off. -/
inductive Handled (state : State) (uid : UInt32) (faults : List Fault) :
    LogonEnroll.Request → Option (LogonEnroll.Reply × Bool) → State → Prop where
  | kept {request answer state'} (same : Kept state state')
      (unchanged : ∀ reply, answer ≠ some (reply, true)) (whole : ¬ Torn state uid faults request) :
      Handled state uid faults request answer state'
  | enrolled {entries encoded answer state'} (isRoot : uid ≠ 0)
      (mayEnroll : ∀ owner, readOwner state = some owner → owner = uid)
      (isEncoded : encodeEntries entries = some encoded)
      (first : copyEnding (stale state .secrets) faults = some true)
      (secrets : state' (.file .secrets) = some encoded)
      (owner : state' (.file .owner) =
        if copyEnding (stale state .owner) (faults.drop 5) = some true then some (ownerLine uid)
        else state (.file .owner))
      (isAnswer : answer = (copyEnding (stale state .owner) (faults.drop 5)).map fun written =>
        if written then (.yours, true) else (.failed, false)) :
      Handled state uid faults (.enroll entries) answer state'
  | withdrawn {ends answer state'} (mayWithdraw : MayWithdraw state uid)
      (second : ending 1 ((faults.map (·.fails)).drop 1) = ends)
      (first : (faults.map (·.fails)).head? = some false)
      (secrets : state' (.file .secrets) = none)
      (owner : state' (.file .owner) =
        if ends = some true then none else state (.file .owner))
      (isAnswer : answer = ends.map fun removed =>
        if removed then (.yours, true) else (.failed, false)) :
      Handled state uid faults .withdraw answer state'

section handled
variable {state : State} {uid : UInt32} {faults : List Fault} {entries : List Entry}
  {encoded : List UInt8}

theorem SameBut.kept {file : StateFile} {state' : State} (same : SameBut file state state') :
    Kept state state' :=
  fun other => same (.file other) (by simp)

theorem SameBut.stale {file other : StateFile} {state' : State} (same : SameBut file state state')
    (isOther : other ≠ file) : stale state' other = stale state other := by
  unfold LogonSupervisor.stale
  rw [same (.temporary other) (by simpa using isOther)]

/-- `write_copy` that does not replace the secrets file. -/
theorem writeCopy_of_broken (uid : UInt32) (isEncoded : encodeEntries entries = some encoded)
    (broken : copyEnding (stale state .secrets) faults ≠ some true) :
    let ran := (writeCopy uid entries).run perform faults state
    ran.1.map (·.1) = copyEnding (stale state .secrets) faults ∧ Kept state ran.2 := by
  have replaces := replaces_writePrivate .secrets encoded faults state
  have same := (replaces.broken broken).kept
  have returns : _ = copyEnding (stale state .secrets) faults := replaces.returns
  unfold writeCopy
  rw [isEncoded]
  dsimp only
  rw [Calls.run_andThen]
  generalize (writePrivate .secrets encoded).run perform faults state = ran at same returns
  rw [← returns] at broken ⊢
  match ran with
  | (none, state') => exact ⟨rfl, same⟩
  | (some (true, _), state') => exact absurd rfl broken
  | (some (false, _), state') => exact ⟨by simp, by simpa using same⟩

/-- ... and that replaces it. -/
theorem writeCopy_of_whole (uid : UInt32) (isEncoded : encodeEntries entries = some encoded)
    (whole : copyEnding (stale state .secrets) faults = some true) :
    let ran := (writeCopy uid entries).run perform faults state
    let ends := copyEnding (stale state .owner) (faults.drop 5)
    ran.1.map (·.1) = ends ∧ ran.2 (.file .secrets) = some encoded ∧
      ran.2 (.file .owner) =
        if ends = some true then some (ownerLine uid) else state (.file .owner) := by
  obtain ⟨isWhole, same⟩ := (replaces_writePrivate .secrets encoded faults state).whole whole
  unfold writeCopy
  rw [isEncoded]
  dsimp only
  rw [Calls.run_andThen]
  generalize (writePrivate .secrets encoded).run perform faults state = ran at isWhole same
  obtain ⟨out, state'⟩ := ran
  dsimp only at isWhole same
  subst isWhole
  dsimp only
  rw [if_pos rfl]
  have isStale : stale state' .owner = stale state .owner := by
    rw [same.stale (by decide)]
    rfl
  have replaces := replaces_writePrivate .owner (ownerLine uid) (faults.drop 5) state'
  have secrets : state' (.file .secrets) = some encoded := by
    rw [same.kept, Function.update_self]
  have owner : state' (.file .owner) = state (.file .owner) := by
    rw [same.kept, Function.update_of_ne (by simp)]
  rw [← isStale]
  refine ⟨replaces.returns, ?_⟩
  by_cases second : copyEnding (stale state' .owner) (faults.drop 5) = some true
  · have after := (replaces.whole second).2.kept
    rw [if_pos second, after, after, Function.update_self, Function.update_of_ne (by simp)]
    exact ⟨secrets, rfl⟩
  · have after := (replaces.broken second).kept
    rw [if_neg second, after, after]
    exact ⟨secrets, owner⟩

/-- Whatever happens to its operations, an enrolment that may be made is one of these. -/
theorem handled_enroll (isEncoded : encodeEntries entries = some encoded) (isRoot : uid ≠ 0)
    (mayEnroll : ∀ owner, readOwner state = some owner → owner = uid) :
    let ran := ((writeCopy uid entries).andThen fun written =>
      .done (if written then (LogonEnroll.Reply.yours, true) else (.failed, false))).run perform
        faults state
    Handled state uid faults (.enroll entries) (ran.1.map (·.1)) ran.2 := by
  dsimp only
  rw [Calls.run_andThen]
  by_cases first : copyEnding (stale state .secrets) faults = some true
  · obtain ⟨returns, secrets, owner⟩ := writeCopy_of_whole uid isEncoded first
    generalize (writeCopy uid entries).run perform faults state = ran at returns secrets owner
    match ran with
    | (none, state') =>
        exact .enrolled isRoot mayEnroll isEncoded first secrets owner (by simp [← returns])
    | (some (written, rest), state') =>
        exact .enrolled isRoot mayEnroll isEncoded first (by simpa using secrets)
          (by simpa using owner) (by simp [← returns])
  · obtain ⟨returns, same⟩ := writeCopy_of_broken uid isEncoded first
    generalize (writeCopy uid entries).run perform faults state = ran at returns same
    have whole : ¬ Torn state uid faults (.enroll entries) := fun torn => first torn.2.2.2.1
    match ran with
    | (none, state') => exact .kept same (by simp) whole
    | (some (true, rest), state') => exact absurd returns.symm first
    | (some (false, rest), state') => exact .kept (by simpa using same) (by simp) whole

/-- `remove_if_present`: after it there is no such file, unless it failed. -/
theorem run_removeIfPresent (file : StateFile) (fault : Fault) (faults : List Fault)
    (state : State) :
    (removeIfPresent file).run perform (fault :: faults) state =
      (some (!fault.fails, faults),
        if fault.fails then state else Function.update state (.file file) none) := by
  unfold removeIfPresent
  rw [Calls.run_call_cons, Calls.run_done]
  cases isFailure : fault.fails with
  | true => simp [perform, isFailure]
  | false =>
      cases found : state (.file file) with
      | some bytes => simp [perform, isFailure, found]
      | none =>
          have absent : Function.update state (.file file) none = state := by
            rw [← found, Function.update_eq_self]
          simp [perform, isFailure, found, absent]

/-- ... and so is a withdrawal. -/
theorem handled_withdraw (mayWithdraw : MayWithdraw state uid) :
    let ran := ((removeIfPresent .secrets).andThen fun removed =>
      if removed then
        (removeIfPresent .owner).andThen fun removed =>
          .done (if removed then (LogonEnroll.Reply.yours, true) else (.failed, false))
      else .done (.failed, false)).run perform faults state
    Handled state uid faults .withdraw (ran.1.map (·.1)) ran.2 := by
  dsimp only
  rw [Calls.run_andThen]
  match faults with
  | [] => exact .kept (fun file => rfl) (by simp [removeIfPresent]) (by simp [Torn])
  | first :: faults =>
      rw [run_removeIfPresent]
      cases isFailure : first.fails with
      | true => exact .kept (fun file => by simp) (by simp) (by simp [Torn, isFailure])
      | false =>
          dsimp only
          rw [Bool.not_false, if_pos rfl, Calls.run_andThen, if_neg Bool.false_ne_true]
          match faults with
          | [] =>
              exact .withdrawn mayWithdraw rfl (by simp [isFailure])
                (by simp [removeIfPresent]) (by simp [removeIfPresent, ending])
                (by simp [removeIfPresent, ending])
          | second :: faults =>
              rw [run_removeIfPresent]
              cases isFailure' : second.fails with
              | true =>
                  exact .withdrawn mayWithdraw rfl (by simp [isFailure]) (by simp)
                    (by simp [ending, isFailure']) (by simp [ending, isFailure'])
              | false =>
                  exact .withdrawn mayWithdraw rfl (by simp [isFailure]) (by simp)
                    (by simp [ending, isFailure']) (by simp [ending, isFailure'])

/-- What `handle` does to the files and answers, wherever it is cut off. -/
theorem handled_handle (request : LogonEnroll.Request) (uid : UInt32) (state : State)
    (faults : List Fault)
    (encodes : ∀ entries, request = .enroll entries →
      ∃ encoded, encodeEntries entries = some encoded) :
    let ran := (handle request uid state).run perform faults state
    Handled state uid faults request (ran.1.map (·.1)) ran.2 := by
  unfold handle
  dsimp only
  match request with
  | .status =>
      refine .kept (fun file => by simp) (fun reply => ?_) id
      cases readOwner state with
      | none => simp
      | some owner =>
          dsimp only
          split
          · simp
          · split <;> simp
  | .enroll entries =>
      dsimp only
      split
      next isOther =>
        refine .kept (fun file => by simp) (by simp) fun torn => ?_
        rw [torn.1] at isOther
        simp at isOther
      next mayEnroll =>
        split
        next isRoot =>
          exact .kept (fun file => by simp) (by simp) fun torn => torn.2.1 isRoot
        next isRoot =>
          obtain ⟨encoded, isEncoded⟩ := encodes entries rfl
          refine handled_enroll isEncoded isRoot fun owner isOwner => ?_
          rw [isOwner] at mayEnroll
          simpa using mayEnroll
  | .withdraw =>
      dsimp only
      split
      next isNone =>
        refine .kept (fun file => by simp) (by simp) fun torn => ?_
        obtain ⟨owner, isOwner, -⟩ := torn.1
        rw [isNone] at isOwner
        cases isOwner
      next owner isOwner =>
        split
        next isOther =>
          simp only [Bool.and_eq_true, decide_eq_true_eq] at isOther
          refine .kept (fun file => by simp) (by simp) fun torn => ?_
          obtain ⟨owner', isOwner', may⟩ := torn.1
          rw [isOwner] at isOwner'
          cases isOwner'
          exact may.elim isOther.1 isOther.2
        next isOwn =>
          refine handled_withdraw ⟨owner, isOwner, ?_⟩
          simpa [or_iff_not_imp_left] using isOwn

end handled

/-! ## What the logon host would be started with -/

section started
variable {state state' : State} {uid : UInt32} {faults : List Fault}
  {request : LogonEnroll.Request} {answer : Option (LogonEnroll.Reply × Bool)}

theorem readOwner_of_same (same : state' (.file .owner) = state (.file .owner)) :
    readOwner state' = readOwner state := by
  unfold readOwner
  rw [same]

theorem startedWith_of_kept (same : Kept state state') :
    startedWith state' = startedWith state := by
  unfold startedWith
  rw [readOwner_of_same (same .owner), same .secrets]

theorem startedWith_of_secrets {secrets : List UInt8}
    (found : state (.file .secrets) = some secrets) :
    startedWith state = (readOwner state).map fun owner => (owner, secrets) := by
  unfold startedWith
  rw [found]
  cases readOwner state <;> rfl

theorem startedWith_of_no_secrets (absent : state (.file .secrets) = none) :
    startedWith state = none := by
  unfold startedWith
  rw [absent]
  cases readOwner state <;> rfl

theorem startedWith_of_no_owner (absent : readOwner state = none) : startedWith state = none := by
  unfold startedWith
  rw [absent]

/-- Once the secrets file is another one and the owner file is not, the logon host would be started
with something else if there was an owner and the copy is a new one. -/
theorem startedWith_eq_iff_of_replaced {encoded : List UInt8}
    (secrets : state' (.file .secrets) = some encoded)
    (owner : state' (.file .owner) = state (.file .owner)) :
    startedWith state' = startedWith state ↔
      ∀ owner, readOwner state = some owner → state (.file .secrets) = some encoded := by
  rw [startedWith_of_secrets secrets, readOwner_of_same owner]
  cases isOwner : readOwner state with
  | none => simp [startedWith_of_no_owner isOwner]
  | some owner =>
      cases found : state (.file .secrets) with
      | none => simp [startedWith_of_no_secrets found]
      | some bytes => simp [startedWith_of_secrets found, isOwner, eq_comm]

/-- An answer that nothing changed is right exactly when the request is not torn. -/
theorem Handled.startedWith_iff (handled : Handled state uid faults request answer state') :
    (∀ reply, answer = some (reply, false) → startedWith state' = startedWith state) ↔
      ¬ Torn state uid faults request := by
  cases handled with
  | kept same unchanged whole => exact iff_of_true (fun _ _ => startedWith_of_kept same) whole
  | @enrolled entries encoded _ _ isRoot mayEnroll isEncoded first secrets owner isAnswer =>
      unfold Torn
      cases second : copyEnding (stale state .owner) (faults.drop 5) with
      | none => simp [isAnswer, second]
      | some written =>
          cases written with
          | true => simp [isAnswer, second]
          | false =>
              rw [second, if_neg (by simp)] at owner
              have changed := startedWith_eq_iff_of_replaced secrets owner
              simp only [isAnswer, second, Option.map_some, Bool.false_eq_true, if_false,
                Option.some.injEq, Prod.mk.injEq, and_true, forall_eq', isEncoded, first, isRoot,
                ne_eq, not_false_eq_true, true_and, changed]
              constructor
              · rintro same ⟨isOwner, differs⟩
                exact differs (same uid isOwner)
              · intro notBoth owner isOwner
                by_contra differs
                rw [mayEnroll owner isOwner] at isOwner
                exact notBoth ⟨isOwner, differs⟩
  | @withdrawn ends _ _ mayWithdraw second first secrets owner isAnswer =>
      obtain ⟨owner, isOwner, -⟩ := id mayWithdraw
      have changed : startedWith state' = startedWith state ↔
          (state (.file .secrets)).isSome = false := by
        rw [startedWith_of_no_secrets secrets]
        cases found : state (.file .secrets) with
        | none => simp [startedWith_of_no_secrets found]
        | some bytes => simp [startedWith_of_secrets found, isOwner]
      unfold Torn
      obtain ⟨head, tail, isFaults⟩ : ∃ head tail, faults.map (·.fails) = head :: tail := by
        cases isFaults : faults.map (·.fails) with
        | nil => simp [isFaults] at first
        | cons head tail => exact ⟨head, tail, rfl⟩
      rw [isFaults] at first second ⊢
      cases first
      match tail, second with
      | [], second => simp [isAnswer, ← second, ending]
      | true :: _, second => simp [isAnswer, ← second, ending, changed, mayWithdraw]
      | false :: _, second => simp [isAnswer, ← second, ending]

/-- Nobody but the owner, and root to withdraw, touches the files while there is an owner. -/
theorem Handled.kept_of_stranger (handled : Handled state uid faults request answer state')
    {owner : UInt32} (isOwner : readOwner state = some owner) (isStranger : uid ≠ owner)
    (notRoot : ¬ (uid = 0 ∧ request = .withdraw)) : Kept state state' := by
  cases handled with
  | kept same => exact same
  | enrolled _ mayEnroll => exact absurd (mayEnroll owner isOwner).symm isStranger
  | withdrawn mayWithdraw =>
      obtain ⟨owner', isOwner', may⟩ := mayWithdraw
      rw [isOwner] at isOwner'
      cases isOwner'
      rcases may with rfl | isRoot
      · exact absurd rfl isStranger
      · exact absurd ⟨isRoot, rfl⟩ notRoot

end started

/-! ## Runs -/

/-- The request is torn in this state. -/
def Connection.Torn (connection : Connection) (state : State) : Prop :=
  ∃ uid request, connection.uid = some uid ∧ connection.request = some request ∧
    LogonSupervisor.Torn state uid connection.faults request

/-- The account enrolled this copy, and it can be read. -/
def Connection.Enrolls (connection : Connection) (uid : UInt32) (secrets : List UInt8) : Prop :=
  connection.uid = some uid ∧ ∃ entries, connection.request = some (.enroll entries) ∧
    encodeEntries entries = some secrets ∧ decodeEntries secrets = some entries

/-- Where there is an owner, the copy is one that he enrolled. -/
def OwnersCopy (served : List Connection) (state : State) : Prop :=
  ∀ owner secrets, startedWith state = some (owner, secrets) →
    ∃ connection ∈ served, connection.Enrolls owner secrets

section runs
variable {state : State} {connection : Connection}

/-- What was read as an enrolment is written as it came. -/
theorem encodes_of_request {entries : List Entry}
    (isRequest : connection.request = some (.enroll entries)) :
    ∃ encoded, encodeEntries entries = some encoded ∧ decodeEntries encoded = some entries := by
  obtain ⟨payload, read⟩ := exists_payload_of_enroll isRequest
  exact ⟨payload, encodeEntries_of_decodeEntries read, read⟩

/-- A connection that asks nothing is refused; every other one is handled. -/
theorem serveOne_cases (state : State) (connection : Connection) :
    (serveOne state connection = (some (.refused, false), state) ∧ ¬ connection.Torn state) ∨
      ∃ uid request, connection.uid = some uid ∧ connection.request = some request ∧
        Handled state uid connection.faults request (serveOne state connection).1
          (serveOne state connection).2 := by
  unfold serveOne
  cases isUid : connection.uid with
  | none => exact .inl ⟨rfl, fun ⟨_, _, isUid', _⟩ => by simp [isUid] at isUid'⟩
  | some uid =>
      cases isRequest : connection.request with
      | none => exact .inl ⟨rfl, fun ⟨_, _, _, isRequest', _⟩ => by simp [isRequest] at isRequest'⟩
      | some request =>
          refine .inr ⟨uid, request, rfl, rfl,
            handled_handle request uid state connection.faults ?_⟩
          rintro entries rfl
          obtain ⟨encoded, isEncoded, -⟩ := encodes_of_request isRequest
          exact ⟨encoded, isEncoded⟩

theorem startedWith_eq_some {owner : UInt32} {secrets : List UInt8} :
    startedWith state = some (owner, secrets) ↔
      readOwner state = some owner ∧ state (.file .secrets) = some secrets := by
  unfold startedWith
  cases readOwner state <;> cases state (.file .secrets) <;> simp

theorem OwnersCopy.mono {served : List Connection} (copy : OwnersCopy served state)
    (connection : Connection) : OwnersCopy (served ++ [connection]) state := by
  intro owner secrets started
  obtain ⟨earlier, member, enrolls⟩ := copy owner secrets started
  exact ⟨earlier, by simp [member], enrolls⟩

/-- One request, however far it gets, leaves no owner with another's copy. -/
theorem OwnersCopy.step {served : List Connection} (copy : OwnersCopy served state)
    (connection : Connection) :
    OwnersCopy (served ++ [connection]) (serveOne state connection).2 := by
  rcases serveOne_cases state connection with
    ⟨refused, -⟩ | ⟨uid, request, isUid, isRequest, handled⟩
  · rw [refused]
    exact copy.mono connection
  · generalize (serveOne state connection).1 = answer at handled
    generalize (serveOne state connection).2 = state' at handled
    cases handled with
    | kept same =>
        intro owner secrets started
        rw [startedWith_of_kept same] at started
        exact copy.mono connection owner secrets started
    | @enrolled entries encoded _ _ isRoot mayEnroll isEncoded first secrets isOwner isAnswer =>
        intro owner kept started
        obtain ⟨isRead, isKept⟩ := startedWith_eq_some.mp started
        obtain rfl : encoded = kept := Option.some.inj (secrets.symm.trans isKept)
        have isUid' : owner = uid := by
          split at isOwner
          · rw [readOwner_of_line isOwner] at isRead
            exact (Option.some.inj isRead).symm
          · rw [readOwner_of_same isOwner] at isRead
            exact mayEnroll owner isRead
        obtain ⟨encoded', isEncoded', isDecoded⟩ := encodes_of_request isRequest
        rw [isEncoded] at isEncoded'
        cases isEncoded'
        exact ⟨connection, by simp, by rw [isUid, isUid'], entries, isRequest, isEncoded, isDecoded⟩
    | withdrawn _ _ _ secrets =>
        intro owner kept started
        rw [startedWith_of_no_secrets secrets] at started
        cases started

theorem ownersCopy_run (served : List Connection) :
    OwnersCopy served (exec serveOne (fun _ => none) served) := by
  induction served using List.reverseRecOn with
  | nil =>
      intro owner secrets started
      cases started
  | append_singleton served connection ih =>
      rw [exec_concat]
      exact ih.step connection

end runs

/-- Whatever is asked, by whom, and wherever it is cut off: where the sign-in screen is hosted, it
is with a copy that the owner enrolled and that can be read; a stranger's request touches neither
file while there is an owner; and an answer that nothing changed leaves what the logon host would
be started with exactly when the request is not torn. -/
theorem hosted_with_owners_copy (served : List Connection) :
    let state := exec serveOne (fun _ => none) served
    (enrolled state = true → ∃ owner secrets, readOwner state = some owner ∧
      state (.file .secrets) = some secrets ∧
      ∃ connection ∈ served, connection.Enrolls owner secrets) ∧
    (∀ e ∈ history serveOne (fun _ => none) served, ∀ owner, readOwner e.pre = some owner →
      e.op.uid ≠ some owner → ¬ (e.op.uid = some 0 ∧ e.op.request = some .withdraw) →
      Kept e.pre e.post) ∧
    ∀ e ∈ history serveOne (fun _ => none) served,
      (∀ reply, e.out = some (reply, false) → startedWith e.post = startedWith e.pre) ↔
        ¬ e.op.Torn e.pre := by
  refine ⟨fun isEnrolled => ?_, fun e member owner isOwner isStranger notRoot => ?_,
    fun e member => ?_⟩
  · obtain ⟨isOwner, isCopy⟩ := Bool.and_eq_true_iff.mp isEnrolled
    obtain ⟨owner, isOwner⟩ := Option.isSome_iff_exists.mp isOwner
    obtain ⟨secrets, isSecrets⟩ := Option.isSome_iff_exists.mp isCopy
    exact ⟨owner, secrets, isOwner, isSecrets,
      ownersCopy_run served owner secrets (startedWith_eq_some.mpr ⟨isOwner, isSecrets⟩)⟩
  · rw [eq_of_mem_history member]
    rcases serveOne_cases e.pre e.op with ⟨refused, -⟩ | ⟨uid, request, isUid, isRequest, handled⟩
    · rw [Event.of_post, Event.of_pre, refused]
      exact fun file => rfl
    · have notOwner : uid ≠ owner := fun isOwn => isStranger (isUid.trans (by rw [isOwn]))
      refine handled.kept_of_stranger isOwner notOwner ?_
      rintro ⟨rfl, rfl⟩
      exact notRoot ⟨isUid, isRequest⟩
  · rw [eq_of_mem_history member]
    rcases serveOne_cases e.pre e.op with
      ⟨refused, whole⟩ | ⟨uid, request, isUid, isRequest, handled⟩
    · rw [Event.of_post, Event.of_pre, Event.of_out, Event.of_op, refused]
      exact iff_of_true (fun _ _ => rfl) whole
    · refine handled.startedWith_iff.trans (not_congr ⟨fun torn => ?_, ?_⟩)
      · exact ⟨uid, request, isUid, isRequest, torn⟩
      · rintro ⟨uid', request', isUid', isRequest', torn⟩
        rw [Event.of_op, isUid] at isUid'
        rw [Event.of_op, isRequest] at isRequest'
        cases isUid'
        cases isRequest'
        exact torn

/-- An account enrolls an entry, `lumepeer.a`, with the value `k`. -/
def enrolment : Connection where
  uid := some 1000
  stream := [0x4C, 0x50, 0x4C, 0x48, 1, 1, 0, 0, 0, 15, 1, 10] ++ asBytes "lumepeer.a" ++ [0, 1, 107]
  faults := List.replicate 10 {}

/-- Another account asks to enroll the same. -/
def strangersEnrolment : Connection := { enrolment with uid := some 1001 }

/-- The screen is hosted with what the account enrolled, and the other account touches neither
file. -/
theorem hosted_after_enrolment :
    (∃ owner secrets,
      readOwner (exec serveOne (fun _ => none) [enrolment, strangersEnrolment]) = some owner ∧
      exec serveOne (fun _ => none) [enrolment, strangersEnrolment] (.file .secrets) = some secrets ∧
      ∃ connection ∈ [enrolment, strangersEnrolment], connection.Enrolls owner secrets) ∧
    Kept (exec serveOne (fun _ => none) [enrolment])
      (exec serveOne (fun _ => none) [enrolment, strangersEnrolment]) :=
  have hosted := hosted_with_owners_copy [enrolment, strangersEnrolment]
  ⟨hosted.1 (by decide),
    hosted.2.1 (Event.of serveOne (exec serveOne (fun _ => none) [enrolment]) strangersEnrolment)
      (by simp) 1000 (by decide) (by decide) (by decide)⟩

/-- It enrolls the entry with no value, and the new owner file cannot be made. -/
def tornEnrolment : Connection where
  uid := some 1000
  stream := [0x4C, 0x50, 0x4C, 0x48, 1, 1, 0, 0, 0, 14, 1, 10] ++ asBytes "lumepeer.a" ++ [0, 0]
  faults := List.replicate 6 {} ++ [{ fails := true }]

/-- The answer is that nothing changed, and the logon host would be started with the new entry. -/
theorem torn_enrolment_counts :
    ¬ ∀ (served : List Connection), ∀ e ∈ history serveOne (fun _ => none) served, ∀ reply,
      e.out = some (reply, false) → startedWith e.post = startedWith e.pre := by
  intro always
  have same := always [enrolment, tornEnrolment]
    (Event.of serveOne (exec serveOne (fun _ => none) [enrolment]) tornEnrolment) (by simp) .failed
    (by decide)
  exact absurd same (by decide)

end Lumepeer.Service.LogonSupervisor
