import Lumepeer.Lib.Ledger
import Lumepeer.Runtime.Network.Proofs.Offers

/-!
# One answer for each offer

An answer names no offer, and the sender takes it for the oldest one of its kind.
So every offer has to be answered once and in turn. A step keeps that when it is a
`Move` of the ledger of each kind, and every orderly step is one.
-/

namespace Lumepeer.Runtime.FileOffers
open Lumepeer.Lib Lumepeer.Core

/-- A refusal on the wire. -/
def declines (kind : MessageKind) : Prop :=
  kind = .fileAccept false ∨ kind = .dirAccept false ∨ kind = .clipboardFileAccept false

/-- The offers of a kind that come in with a step. -/
def arrivals (kind : AnswerKind) (node : FileOffers) : Op → List Nat
  | .fileOffer .. => if kind = .file then [node.arrived] else []
  | .filePutOffer .. => if kind = .file then [node.arrived] else []
  | .dirOffer .. => if kind = .dir then [node.arrived] else []
  | .clipboardFileOffer files =>
      if kind = .clipboard then List.range' node.arrived files.length else []
  | _ => []

/-- The offers that the answers of a kind are for; `none` is an answer to nothing. -/
def answers (kind : AnswerKind) (out : Out) : List (Option Nat) :=
  (out.sent.filter fun sent => answerKind sent.kind = some kind).map fun sent => sent.about.head?

/-- The undecided offers that are given up with the session or the grant. -/
def abandoned (kind : AnswerKind) (node : FileOffers) : Op → List Nat
  | .abandon => undecided kind node
  | _ => []

/-- In a run with these events, every offer of the kind was answered once, in the order in which
the offers came in, or is undecided, or was given up. -/
def AnsweredOnce (kind : AnswerKind) (events : List (Event FileOffers Op Out)) (last : FileOffers) :
    Prop :=
  Ledger (events.flatMap fun e => arrivals kind e.pre e.op)
    (events.flatMap fun e => answers kind e.out) (undecided kind last)
    (events.flatMap fun e => abandoned kind e.pre e.op) last.arrived

/-- A call of `on_file_accept` that fails leaves every offer as it was, or has refused one. -/
def FailsClean (e : Event FileOffers Op Out) : Prop :=
  ∀ accept directory disk error, e.op = .fileAccept accept directory disk →
    e.out.result = .error error →
    (∀ kind, undecided kind e.post = undecided kind e.pre ∧ answers kind e.out = []) ∨
      ∃ sent, e.out.sent = [sent] ∧ declines sent.kind

/-- The handler answers nothing, and new offers wait behind the others of their kind. -/
structure Queues (asked : AnswerKind) (count : Nat) (node : FileOffers) (result : Out × FileOffers) :
    Prop where
  silent : result.1.sent = []
  waiting : ∀ kind, undecided kind result.2 =
    undecided kind node ++ if kind = asked then List.range' node.arrived count else []
  arrived : result.2.arrived = node.arrived + count

section
variable {node taken : FileOffers} {kind asked : AnswerKind} {number : Nat}
  {result : Out × FileOffers}

theorem AnswersOne.answers_eq (one : AnswersOne asked number node result) :
    answers kind result.1 = if kind = asked then [some number] else [] := by
  obtain ⟨yes, isSent, -⟩ := one.sent
  by_cases same : kind = asked
  · simp [answers, isSent, same]
  · simp [answers, isSent, same, Ne.symm same]

theorem AnswersNone.answers_eq (none : AnswersNone node result) : answers kind result.1 = [] := by
  unfold answers
  rw [List.filter_eq_nil_iff.mpr, List.map_nil]
  intro sent member
  simp [none.sent sent member]

/-! ## Handlers as moves of the ledger -/

/-- Nothing waits, and the new offer is answered on arrival. -/
theorem AnswersOne.move_atOnce
    (one : AnswersOne asked node.arrived { node with arrived := node.arrived + 1 } result)
    (nothing : undecided asked node = []) :
    Move node.arrived (undecided kind node) (undecided kind result.2)
      (if kind = asked then [node.arrived] else []) (answers kind result.1) [] := by
  have same : undecided kind result.2 = undecided kind node := undecided_congr one.files one.dir
  rw [one.answers_eq, same]
  by_cases isAsked : kind = asked
  · subst isAsked
    rw [if_pos rfl, if_pos rfl, nothing]
    exact .atOnce rfl (Nat.le_refl _)
  · rw [if_neg isAsked, if_neg isAsked]
    exact .quiet

/-- The oldest offer of its kind is answered. -/
theorem AnswersOne.move_decided {next : Nat} (one : AnswersOne asked number taken result)
    (oldest : undecided kind node =
      if kind = asked then number :: undecided kind taken else undecided kind taken) :
    Move next (undecided kind node) (undecided kind result.2) [] (answers kind result.1) [] := by
  have same : undecided kind result.2 = undecided kind taken := undecided_congr one.files one.dir
  rw [one.answers_eq, same, oldest]
  by_cases isAsked : kind = asked
  · rw [if_pos isAsked, if_pos isAsked]
    exact .decided rfl
  · rw [if_neg isAsked, if_neg isAsked]
    exact .quiet

theorem AnswersNone.move_quiet {next : Nat} (none : AnswersNone node result) :
    Move next (undecided kind node) (undecided kind result.2) [] (answers kind result.1) [] := by
  rw [none.answers_eq, undecided_congr none.files none.dir]
  exact .quiet

theorem Queues.move {count : Nat} (queues : Queues asked count node result) :
    Move node.arrived (undecided kind node) (undecided kind result.2)
      (if kind = asked then List.range' node.arrived count else []) (answers kind result.1) [] := by
  have nothing : answers kind result.1 = [] := by simp [answers, queues.silent]
  rw [nothing, queues.waiting]
  by_cases isAsked : kind = asked
  · rw [if_pos isAsked]
    refine .queued List.pairwise_lt_range' ?_
    intro n member
    exact (List.mem_range'_1.mp member).1
  · rw [if_neg isAsked, List.append_nil]
    exact .quiet

end

/-! ## Steps -/

section
variable {node : FileOffers} {kind : AnswerKind}

/-- One step of the ledger. -/
structure Turn (kind : AnswerKind) (node : FileOffers) (op : Op) : Prop where
  move : Move node.arrived (undecided kind node) (undecided kind (node.step op).2)
    (arrivals kind node op) (answers kind (node.step op).1) (abandoned kind node op)
  below : ∀ n ∈ arrivals kind node op, n < (node.step op).2.arrived
  grows : node.arrived ≤ (node.step op).2.arrived

theorem AnswersNone.turn {op : Op} (none : AnswersNone node (node.step op))
    (noOffer : arrivals kind node op = []) (notOver : abandoned kind node op = []) :
    Turn kind node op where
  move := by
    rw [noOffer, notOver]
    exact none.move_quiet
  below := by simp [noOffer]
  grows := Nat.le_of_eq none.arrived.symm

theorem AnswersOne.turn {op : Op} {asked : AnswerKind}
    (one : AnswersOne asked node.arrived { node with arrived := node.arrived + 1 } (node.step op))
    (nothing : undecided asked node = [])
    (isOffer : arrivals kind node op = if kind = asked then [node.arrived] else [])
    (notOver : abandoned kind node op = []) : Turn kind node op where
  move := by
    rw [isOffer, notOver]
    exact one.move_atOnce nothing
  below n member := by
    rw [isOffer] at member
    rw [one.arrived]
    split at member
    · rw [List.mem_singleton.mp member]
      exact Nat.lt_succ_self _
    · cases member
  grows := by
    rw [one.arrived]
    exact Nat.le_succ _

theorem Queues.turn {op : Op} {asked : AnswerKind} {count : Nat}
    (queues : Queues asked count node (node.step op))
    (isOffer : arrivals kind node op = if kind = asked then List.range' node.arrived count else [])
    (notOver : abandoned kind node op = []) : Turn kind node op where
  move := by
    rw [isOffer, notOver]
    exact queues.move
  below n member := by
    rw [isOffer] at member
    rw [queues.arrived]
    split at member
    · exact (List.mem_range'_1.mp member).2
    · cases member
  grows := by
    rw [queues.arrived]
    exact Nat.le_add_right _ _

theorem turn_fileOffer {name : String} {size : UInt64} {hash : Hash} {disk : Disk}
    (orderly : Orderly node (.fileOffer name size hash disk)) :
    Turn kind node (.fileOffer name size hash disk) := by
  by_cases waits : node.offerWaits name size = true
  · have isNext := @onFileOfferInbound_waits node disk name size hash waits
    have queues : Queues .file 1 node (node.step (.fileOffer name size hash disk)) := by
      simp only [step, isNext]
      refine { silent := rfl, waiting := ?_, arrived := rfl }
      intro kind
      exact undecided_append
        [{ number := node.arrived, offer := .direct { name, size, hash } }] rfl rfl
        (by simp [IncomingOffer.answerKind])
    exact queues.turn rfl rfl
  · have nothing : undecided .file node = [] := orderly.resolve_left waits
    have answered : node.offerWaits name size = false := by simpa using waits
    obtain ⟨fetches, decides⟩ := @decides_onFileOfferInbound node disk name size hash answered
    have one := decides.answersOne
    exact AnswersOne.turn
      { sent := one.sent, files := one.files, dir := one.dir, arrived := one.arrived } nothing rfl rfl

theorem turn_dirOffer {name : String} {dir : Option String} {entries : List ManifestEntry}
    {disk : Disk} (orderly : Orderly node (.dirOffer name dir entries disk)) :
    Turn kind node (.dirOffer name dir entries disk) := by
  have nothing : node.dirOfferIn = none := by simpa [Orderly, undecided] using orderly
  rcases @onDirOfferInbound_cases node disk name dir entries nothing with one | ⟨offer, isNext⟩
  · exact AnswersOne.turn one orderly rfl rfl
  · have queues : Queues .dir 1 node (node.step (.dirOffer name dir entries disk)) := by
      simp only [step, isNext]
      refine { silent := rfl, waiting := ?_, arrived := rfl }
      intro kind
      cases kind <;> simp [undecided, nothing]
    exact queues.turn rfl rfl

theorem turn_clipboardFileOffer {files : List ClipboardFileEntry}
    (orderly : Orderly node (.clipboardFileOffer files)) :
    Turn kind node (.clipboardFileOffer files) := by
  simp only [Orderly] at orderly
  cases granted : node.mayTransferFiles with
  | true =>
      rw [if_pos granted] at orderly
      have isQueue :=
        @queueClipboardEntries_eq files node.arrived node.fileOffersIn orderly.1 orderly.2
      let new := numbered node.arrived (files.map IncomingOffer.clipboard)
      have numbers : new.map Numbered.number = List.range' node.arrived files.length := by
        rw [map_number_numbered, List.length_map]
      have queues : Queues .clipboard files.length node (node.step (.clipboardFileOffer files)) := by
        simp only [step, onClipboardFileOfferInbound, granted, Bool.not_true, Bool.false_eq_true,
          if_false, isQueue]
        refine { silent := rfl, waiting := ?_, arrived := rfl }
        intro kind
        rw [← numbers]
        exact undecided_append new rfl rfl (answerKind_of_mem_numbered node.arrived files)
      exact queues.turn rfl rfl
  | false =>
      rw [if_neg (by simp [granted])] at orderly
      have one : AnswersOne .clipboard node.arrived { node with arrived := node.arrived + 1 }
          (node.step (.clipboardFileOffer files)) := by
        simp only [step, onClipboardFileOfferInbound, granted, Bool.not_false, if_true, orderly.1]
        exact answersOne_no
      exact AnswersOne.turn one orderly.2 (by simp [arrivals, orderly.1]) rfl

/-- The answer of a user is to the oldest offer of its kind. -/
theorem onFileAccept_oldest {accept : Bool} {directory : Option Path} {disk : Disk}
    (there : accept → node.directoryThere directory disk) :
    node.onFileAccept accept directory disk = ({ result := .error .unknownPeer }, node) ∨
      ∃ asked number taken,
        AnswersOne asked number taken (node.onFileAccept accept directory disk) ∧
        taken.arrived = node.arrived ∧
        ∀ kind, undecided kind node =
          if kind = asked then number :: undecided kind taken else undecided kind taken := by
  rcases onFileAccept_cases there with
    ⟨-, -, isNext⟩ | ⟨offer, isDir, one⟩ | ⟨first, rest, isDir, isFiles, decides⟩
  · exact .inl isNext
  · refine .inr ⟨_, _, _, one, rfl, ?_⟩
    intro kind
    cases kind <;> simp [undecided, isDir]
  · refine .inr ⟨_, _, _, decides.answersOne, rfl, ?_⟩
    intro kind
    exact undecided_cons isFiles isDir

theorem turn_fileAccept {accept : Bool} {directory : Option Path} {disk : Disk}
    (orderly : Orderly node (.fileAccept accept directory disk)) :
    Turn kind node (.fileAccept accept directory disk) := by
  rcases @onFileAccept_oldest node accept directory disk orderly with
    isNext | ⟨asked, number, taken, one, arrived, oldest⟩
  · have isStep : node.step (.fileAccept accept directory disk) = _ := isNext
    have none : AnswersNone node (node.step (.fileAccept accept directory disk)) := by
      rw [isStep]
      exact { sent := by simp, files := rfl, dir := rfl, arrived := rfl }
    exact none.turn rfl rfl
  · exact
      { move := one.move_decided (oldest kind), below := by simp [arrivals]
        grows := Nat.le_of_eq (arrived.symm.trans one.arrived.symm) }

theorem turn_abandon : Turn kind node .abandon where
  move := by
    have nothing : undecided kind (node.step .abandon).2 = [] := by
      cases kind <;> simp [undecided, step, abandonFileTransfers]
    rw [nothing]
    exact .dropped
  below := by simp [arrivals]
  grows := Nat.le_refl _

/-- Every orderly step keeps each of the three ledgers. -/
theorem turn_of_orderly {op : Op} (orderly : Orderly node op) : Turn kind node op := by
  cases op with
  | fileOffer => exact turn_fileOffer orderly
  | filePutOffer => exact AnswersOne.turn decides_onFilePutOffer.answersOne orderly rfl rfl
  | dirOffer => exact turn_dirOffer orderly
  | clipboardFileOffer => exact turn_clipboardFileOffer orderly
  | fileAccept => exact turn_fileAccept orderly
  | fileTransferStart => exact (answersNone_onFileTransferStart _ _ _ _).turn rfl rfl
  | fetch => exact AnswersNone.turn (answersNone_of_sender rfl) rfl rfl
  | fileFetchRefused => exact AnswersNone.turn (answersNone_of_sender rfl) rfl rfl
  | fetchPrepared => exact AnswersNone.turn (answersNone_of_sender rfl) rfl rfl
  | putPrepared => exact AnswersNone.turn (answersNone_of_sender rfl) rfl rfl
  | clipboardFilesRead => exact AnswersNone.turn (answersNone_of_sender rfl) rfl rfl
  | fileAcceptInbound => exact AnswersNone.turn (answersNone_of_sender rfl) rfl rfl
  | clipboardFileAcceptInbound => exact AnswersNone.turn (answersNone_of_sender rfl) rfl rfl
  | clipboardPrepared => exact AnswersNone.turn (answersNone_of_sender rfl) rfl rfl
  | grants => exact AnswersNone.turn (answersNone_silent rfl rfl rfl) rfl rfl
  | abandon => exact turn_abandon

theorem failsClean_of_orderly {op : Op} (orderly : Orderly node op) :
    FailsClean (Event.of step node op) := by
  intro accept directory disk error isOp failed
  obtain rfl : op = _ := isOp
  rcases @onFileAccept_oldest node accept directory disk orderly with
    isNext | ⟨asked, number, taken, one, -, -⟩
  · left
    have isStep : node.step (.fileAccept accept directory disk) = _ := isNext
    intro kind
    rw [Event.of_post, Event.of_pre, Event.of_out, isStep]
    exact ⟨rfl, rfl⟩
  · right
    obtain ⟨yes, isSent, refused⟩ := one.sent
    refine ⟨_, isSent, ?_⟩
    rw [refused error failed]
    cases asked <;> simp [declines, answerMessage]

end

/-! ## Runs -/

/-- In a run that is orderly, every offer is answered once and in turn, and a call that fails
leaves the offer or has refused it. -/
theorem offers_answered_once_while_orderly (start : FileOffers) (ops : List Op)
    (idle : ∀ kind, undecided kind start = [])
    (orderly : ∀ e ∈ history step start ops, Orderly e.pre e.op) :
    (∀ kind, AnsweredOnce kind (history step start ops) (exec step start ops)) ∧
      ∀ e ∈ history step start ops, FailsClean e := by
  constructor
  · intro kind
    induction ops using List.reverseRecOn with
    | nil =>
        unfold AnsweredOnce
        rw [exec_nil, idle kind]
        exact Ledger.nil
    | append_singleton ops op ih =>
        rw [history_concat] at orderly
        have before := ih fun e member => orderly e (by simp [member])
        have now : Orderly (exec step start ops) op := orderly (Event.of step _ op) (by simp)
        have turn : Turn kind (exec step start ops) op := turn_of_orderly now
        unfold AnsweredOnce at before ⊢
        rw [history_concat, exec_concat]
        simp only [List.flatMap_append, List.flatMap_singleton, Event.of_pre, Event.of_op,
          Event.of_out]
        exact before.move turn.move turn.below turn.grows
  · intro e member
    have clean := failsClean_of_orderly (orderly e member)
    rwa [← eq_of_mem_history member] at clean

/-- A put is taken on arrival, and an offer and a list of copied files wait and are answered: one
is refused, one is accepted, and one fails for want of room. -/
theorem three_offers_answered_once :
    let hash : Hash := ⟨List.replicate 32 0, rfl⟩
    let full : Disk := { clipboardRoom := false }
    let ops : List Op :=
      [.filePutOffer "/srv" "a" 1 hash {}, .fileOffer "b" 2 hash {},
        .clipboardFileOffer [{ name := "c", size := 3 }], .fileAccept true (some "/home") {},
        .fileAccept true none full]
    AnsweredOnce .clipboard (history step {} ops) (exec step {} ops) ∧
      ((exec step {} ops).fileAccepted.map Numbered.number) = [0, 1] :=
  ⟨(offers_answered_once_while_orderly {} _ (fun kind => by cases kind <;> rfl) (by decide)).1
    .clipboard, by decide⟩

/-- A file offer that is accepted without a directory: the call fails with the offer gone, and
nothing was sent. -/
theorem offer_lost_without_a_directory :
    let hash : Hash := ⟨List.replicate 32 0, rfl⟩
    let ops : List Op := [.fileOffer "a" 1 hash {}, .fileAccept true none {}]
    ¬ (AnsweredOnce .file (history step {} ops) (exec step {} ops) ∧
      ∀ e ∈ history step {} ops, FailsClean e) := by
  rintro hash ops ⟨-, clean⟩
  let waiting : FileOffers := (step {} (.fileOffer "a" 1 hash {})).2
  have failed := clean (Event.of step waiting (.fileAccept true none {})) (by simp [ops, waiting])
    true none {} .malformed rfl (by decide)
  rcases failed with untouched | ⟨sent, isSent, -⟩
  · have same : undecided .file (step waiting (.fileAccept true none {})).2 =
        undecided .file waiting := (untouched .file).1
    revert same
    decide
  · have nothing : (step waiting (.fileAccept true none {})).1.sent = [] := by decide
    rw [Event.of_out, nothing] at isSent
    cases isSent

end Lumepeer.Runtime.FileOffers
