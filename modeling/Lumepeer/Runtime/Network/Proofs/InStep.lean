import Lumepeer.Runtime.Network.Proofs.Offers

/-!
# The queues of a direction

For a direction of two actors, `InStep` says that the queues at both ends and the
messages between them go in step, so that what is taken for the oldest offer is
the one that was meant. `Described` follows what the offers say of their files
along the same way. Both are kept by each of the effects that a step can have.
-/

namespace Lumepeer.Runtime.FileOffers
open Lumepeer.Lib Lumepeer.Core

/-- The kind of answer that an offer of files asks for. -/
def offerKind : MessageKind → Option AnswerKind
  | .fileOffer .. => some .file
  | .filePutOffer .. => some .file
  | .clipboardFileOffer _ => some .clipboard
  | _ => none

def isOffer (kind : MessageKind) : Bool :=
  (offerKind kind).isSome

def isStart : MessageKind → Bool
  | .fileTransferStart .. => true
  | _ => false

def saysYes : MessageKind → Bool
  | .fileAccept yes => yes
  | .clipboardFileAccept yes => yes
  | _ => false

def saysNo : MessageKind → Bool
  | .fileAccept yes => !yes
  | .clipboardFileAccept yes => !yes
  | _ => false

/-- The offers that the messages of a sort are about. -/
def aboutOf (sort : MessageKind → Bool) (messages : List Sent) : List Nat :=
  (messages.filter fun message => sort message.kind).flatMap Sent.about

/-- The offers of a kind that wait for their answers. -/
def offersOut (kind : AnswerKind) (node : FileOffers) : List Nat :=
  match kind with
  | .file => node.fileOffersOut.map Numbered.number
  | .dir => []
  | .clipboard => node.clipboardOffersOut.map Numbered.number

/-- The queues of both ends and the messages between them, in one direction. -/
structure InStep (lane : Lane FileOffers Sent) : Prop where
  granted : lane.sender.mayTransferFiles = true ∧ lane.receiver.mayTransferFiles = true
  noDir : lane.receiver.dirOfferIn = none
  /-- Every answer on its way is to one offer. -/
  single : ∀ message ∈ lane.up, (answerKind message.kind).isSome → ∃ n, message.about = [n]
  singleStart : ∀ message ∈ lane.down, isStart message.kind → ∃ n, message.about = [n]
  /-- The offers on their way are the next ones to come in. -/
  coming : ∃ count, aboutOf isOffer lane.down = List.range' lane.receiver.arrived count ∧
    lane.receiver.arrived + count = lane.sender.made
  /-- The offers without an answer are answered on the way, undecided or on their way. -/
  out : ∀ kind, kind ≠ .dir → offersOut kind lane.sender =
    aboutOf (answerKind · = some kind) lane.up ++
      (undecided kind lane.receiver ++ aboutOf (offerKind · = some kind) lane.down)
  /-- The accepted offers without a start are started on the way, are being hashed, or their
  sender does not know it yet. -/
  accepted : lane.receiver.fileAccepted.map Numbered.number =
    aboutOf isStart lane.down ++
      (lane.sender.preparing.map Numbered.number ++ aboutOf saysYes lane.up)
  /-- What was accepted is started in the same order. -/
  started : aboutOf saysYes lane.replied =
    aboutOf isStart lane.sent ++
      (lane.sender.preparing.map Numbered.number ++ aboutOf saysYes lane.up)
  /-- No offer is answered twice. -/
  distinct : (aboutOf saysYes lane.replied ++ (aboutOf saysNo lane.replied ++
    lane.receiver.fileOffersIn.map Numbered.number)).Nodup
  below : ∀ n ∈ aboutOf saysYes lane.replied ++ (aboutOf saysNo lane.replied ++
    lane.receiver.fileOffersIn.map Numbered.number), n < lane.receiver.arrived

/-! ## Messages -/

section
variable {sort : MessageKind → Bool} {message : Sent} {messages first second : List Sent}

@[simp] theorem aboutOf_nil : aboutOf sort [] = [] := rfl

@[simp] theorem aboutOf_append :
    aboutOf sort (first ++ second) = aboutOf sort first ++ aboutOf sort second := by
  simp [aboutOf]

theorem aboutOf_cons :
    aboutOf sort (message :: messages) =
      (if sort message.kind then message.about else []) ++ aboutOf sort messages := by
  unfold aboutOf
  cases isSort : sort message.kind <;> simp [isSort]

theorem aboutOf_singleton :
    aboutOf sort [message] = if sort message.kind then message.about else [] := by
  rw [aboutOf_cons, aboutOf_nil, List.append_nil]

theorem aboutOf_eq_nil (none : ∀ message ∈ messages, sort message.kind = false) :
    aboutOf sort messages = [] := by
  unfold aboutOf
  rw [List.filter_eq_nil_iff.mpr, List.flatMap_nil]
  intro message member
  simp [none message member]

theorem saysYes_of_not_answer {kind : MessageKind} (notAnswer : answerKind kind = none) :
    saysYes kind = false ∧ saysNo kind = false := by
  cases kind <;> simp_all [answerKind, saysYes, saysNo]

theorem isOffer_of_not_offer {kind : MessageKind} (notOffer : offerKind kind = none) :
    isOffer kind = false := by
  simp [isOffer, notOffer]

end

/-! ## Steps that are not about the offers of a direction -/

/-- The step does nothing as a sender of offers. -/
structure SenderQuiet (node : FileOffers) (result : List Sent × FileOffers) : Prop where
  granted : result.2.mayTransferFiles = node.mayTransferFiles
  fileOut : result.2.fileOffersOut = node.fileOffersOut
  clipboardOut : result.2.clipboardOffersOut = node.clipboardOffersOut
  preparing : result.2.preparing = node.preparing
  made : result.2.made = node.made
  sent : ∀ message ∈ result.1, offerKind message.kind = none ∧ isStart message.kind = false

/-- The step does nothing as a receiver of offers. -/
structure ReceiverQuiet (node : FileOffers) (result : List Sent × FileOffers) : Prop where
  granted : result.2.mayTransferFiles = node.mayTransferFiles
  dir : result.2.dirOfferIn = node.dirOfferIn
  files : result.2.fileOffersIn = node.fileOffersIn
  accepted : result.2.fileAccepted = node.fileAccepted
  arrived : result.2.arrived = node.arrived
  sent : ∀ message ∈ result.1, answerKind message.kind = none

section
variable {lane : Lane FileOffers Sent} {message : Sent} {rest : List Sent}
  {result : List Sent × FileOffers}

theorem SenderQuiet.out {node : FileOffers} (quiet : SenderQuiet node result) (kind : AnswerKind) :
    offersOut kind result.2 = offersOut kind node := by
  cases kind <;> simp [offersOut, quiet.fileOut, quiet.clipboardOut]

theorem InStep.sendsQuiet (inStep : InStep lane) (quiet : SenderQuiet lane.sender result) :
    InStep (lane.sends result) := by
  have noOffers : aboutOf isOffer result.1 = [] :=
    aboutOf_eq_nil fun message member => isOffer_of_not_offer (quiet.sent message member).1
  have noStarts : aboutOf isStart result.1 = [] :=
    aboutOf_eq_nil fun message member => (quiet.sent message member).2
  have noKind (kind : AnswerKind) : aboutOf (offerKind · = some kind) result.1 = [] :=
    aboutOf_eq_nil fun message member => by simp [(quiet.sent message member).1]
  refine
    { granted := ⟨quiet.granted.trans inStep.granted.1, inStep.granted.2⟩
      noDir := inStep.noDir
      single := inStep.single
      singleStart := ?_
      coming := by simpa [Lane.sends, noOffers, quiet.made] using inStep.coming
      out := by simpa [Lane.sends, noKind, quiet.out] using inStep.out
      accepted := by simpa [Lane.sends, noStarts, quiet.preparing] using inStep.accepted
      started := by simpa [Lane.sends, noStarts, quiet.preparing] using inStep.started
      distinct := inStep.distinct
      below := inStep.below }
  intro message member starts
  rcases List.mem_append.mp member with old | new
  · exact inStep.singleStart message old starts
  · simp [(quiet.sent message new).2] at starts

theorem InStep.repliesQuiet (inStep : InStep lane) (quiet : ReceiverQuiet lane.receiver result) :
    InStep (lane.replies result) := by
  have noYes : aboutOf saysYes result.1 = [] :=
    aboutOf_eq_nil fun message member => (saysYes_of_not_answer (quiet.sent message member)).1
  have noNo : aboutOf saysNo result.1 = [] :=
    aboutOf_eq_nil fun message member => (saysYes_of_not_answer (quiet.sent message member)).2
  have noKind (kind : AnswerKind) : aboutOf (answerKind · = some kind) result.1 = [] :=
    aboutOf_eq_nil fun message member => by simp [quiet.sent message member]
  have undecided_eq (kind : AnswerKind) : undecided kind result.2 = undecided kind lane.receiver :=
    undecided_congr quiet.files quiet.dir
  refine
    { granted := ⟨inStep.granted.1, quiet.granted.trans inStep.granted.2⟩
      noDir := quiet.dir.trans inStep.noDir
      single := ?_
      singleStart := inStep.singleStart
      coming := by simpa [Lane.replies, quiet.arrived] using inStep.coming
      out := by simpa [Lane.replies, noKind, undecided_eq] using inStep.out
      accepted := by simpa [Lane.replies, noYes, quiet.accepted] using inStep.accepted
      started := by simpa [Lane.replies, noYes] using inStep.started
      distinct := by simpa [Lane.replies, noYes, noNo, quiet.files] using inStep.distinct
      below := by simpa [Lane.replies, noYes, noNo, quiet.files, quiet.arrived] using inStep.below }
  intro message member isAnswer
  rcases List.mem_append.mp member with old | new
  · exact inStep.single message old isAnswer
  · simp [quiet.sent message new] at isAnswer

theorem InStep.popUp (inStep : InStep lane) (isUp : lane.up = message :: rest)
    (notFile : ∀ kind, answerKind message.kind = some kind → kind = .dir) :
    InStep { lane with up := rest } := by
  have notYes : saysYes message.kind = false := by
    cases isKind : message.kind <;> simp_all [answerKind, saysYes]
  refine
    { granted := inStep.granted
      noDir := inStep.noDir
      single := fun message member => inStep.single message (by simp [isUp, member])
      singleStart := inStep.singleStart
      coming := inStep.coming
      out := ?_
      accepted := by simpa [isUp, aboutOf_cons, notYes] using inStep.accepted
      started := by simpa [isUp, aboutOf_cons, notYes] using inStep.started
      distinct := inStep.distinct
      below := inStep.below }
  intro kind notDir
  have old := inStep.out kind notDir
  rw [isUp, aboutOf_cons, if_neg] at old
  · exact old
  · simp only [decide_eq_true_eq]
    exact fun isKind => notDir (notFile kind isKind)

theorem InStep.popDown (inStep : InStep lane) (isDown : lane.down = message :: rest)
    (notOffer : offerKind message.kind = none) (notStart : isStart message.kind = false) :
    InStep { lane with down := rest } := by
  have notAny := isOffer_of_not_offer notOffer
  exact
    { granted := inStep.granted
      noDir := inStep.noDir
      single := inStep.single
      singleStart := fun message member => inStep.singleStart message (by simp [isDown, member])
      coming := by simpa [isDown, aboutOf_cons, notAny] using inStep.coming
      out := by simpa [isDown, aboutOf_cons, notOffer] using inStep.out
      accepted := by simpa [isDown, aboutOf_cons, notStart] using inStep.accepted
      started := inStep.started
      distinct := inStep.distinct
      below := inStep.below }

/-! ## Steps of the sender -/

theorem isStart_of_offer {kind : MessageKind} {asked : AnswerKind}
    (offers : offerKind kind = some asked) : isStart kind = false := by
  cases kind <;> simp_all [offerKind, isStart]

/-- New offers are made, with the next numbers. -/
theorem InStep.offers {asked : AnswerKind} {count : Nat} (inStep : InStep lane)
    (isSent : result.1 = [message]) (isKind : offerKind message.kind = some asked)
    (about : message.about = List.range' lane.sender.made count)
    (granted : result.2.mayTransferFiles = lane.sender.mayTransferFiles)
    (out : ∀ kind, offersOut kind result.2 = offersOut kind lane.sender ++
      if kind = asked then List.range' lane.sender.made count else [])
    (preparing : result.2.preparing = lane.sender.preparing)
    (made : result.2.made = lane.sender.made + count) : InStep (lane.sends result) := by
  have notStart := isStart_of_offer isKind
  have isAny : isOffer message.kind = true := by simp [isOffer, isKind]
  obtain ⟨before, isBefore, total⟩ := inStep.coming
  refine
    { granted := ⟨granted.trans inStep.granted.1, inStep.granted.2⟩
      noDir := inStep.noDir
      single := inStep.single
      singleStart := ?_
      coming := ⟨before + count, ?_, ?_⟩
      out := ?_
      accepted := by
        simpa [Lane.sends, isSent, aboutOf_singleton, notStart, preparing] using inStep.accepted
      started := by
        simpa [Lane.sends, isSent, aboutOf_singleton, notStart, preparing] using inStep.started
      distinct := inStep.distinct
      below := inStep.below }
  · intro other member starts
    simp only [Lane.sends, isSent, List.mem_append, List.mem_singleton] at member
    rcases member with old | rfl
    · exact inStep.singleStart other old starts
    · simp [notStart] at starts
  · have isDown : (lane.sends result).down = lane.down ++ [message] := by rw [Lane.sends, isSent]
    rw [isDown, aboutOf_append, aboutOf_singleton, if_pos isAny, isBefore, about, ← total]
    exact List.range'_append_1
  · have isMade : (lane.sends result).sender.made = lane.sender.made + count := made
    rw [isMade, ← total]
    exact (Nat.add_assoc _ _ _).symm
  · intro kind notDir
    have old := inStep.out kind notDir
    by_cases same : kind = asked
    · subst same
      simp [Lane.sends, isSent, aboutOf_singleton, isKind, out, about, old]
    · simp [Lane.sends, isSent, aboutOf_singleton, isKind, out, same, Ne.symm same, old]

/-- An answer is taken for the oldest offer of its kind, and what is accepted is started or
hashed. -/
theorem InStep.answered {asked : AnswerKind} (inStep : InStep lane) (notDir : asked ≠ .dir)
    (isUp : lane.up = message :: rest) (isKind : answerKind message.kind = some asked)
    (granted : result.2.mayTransferFiles = lane.sender.mayTransferFiles)
    (out : ∀ kind, offersOut kind result.2 =
      if kind = asked then (offersOut kind lane.sender).tail else offersOut kind lane.sender)
    (made : result.2.made = lane.sender.made)
    (sent : ∀ message ∈ result.1, offerKind message.kind = none ∧
      (isStart message.kind → ∃ n, message.about = [n]))
    (next : aboutOf isStart result.1 ++ result.2.preparing.map Numbered.number =
      lane.sender.preparing.map Numbered.number ++
        if saysYes message.kind then message.about else []) :
    InStep ({ lane with up := rest }.sends result) := by
  obtain ⟨n, about⟩ := inStep.single message (by simp [isUp]) (by simp [isKind])
  have noOffers : aboutOf isOffer result.1 = [] :=
    aboutOf_eq_nil fun message member => isOffer_of_not_offer (sent message member).1
  have noKind (kind : AnswerKind) : aboutOf (offerKind · = some kind) result.1 = [] :=
    aboutOf_eq_nil fun message member => by simp [(sent message member).1]
  refine
    { granted := ⟨granted.trans inStep.granted.1, inStep.granted.2⟩
      noDir := inStep.noDir
      single := fun message member => inStep.single message (isUp ▸ List.mem_cons_of_mem _ member)
      singleStart := ?_
      coming := by simpa [Lane.sends, noOffers, made] using inStep.coming
      out := ?_
      accepted := ?_
      started := ?_
      distinct := inStep.distinct
      below := inStep.below }
  · intro other member starts
    rcases List.mem_append.mp member with old | new
    · exact inStep.singleStart other old starts
    · exact (sent other new).2 starts
  · intro kind kindNotDir
    have old := inStep.out kind kindNotDir
    by_cases same : kind = asked
    · subst same
      rw [isUp, aboutOf_cons, if_pos (by simp [isKind]), about] at old
      simp [Lane.sends, noKind, out, old]
    · rw [isUp, aboutOf_cons, if_neg (by simp [isKind, Ne.symm same])] at old
      simpa [Lane.sends, noKind, out, same] using old
  · have old := inStep.accepted
    rw [isUp, aboutOf_cons, ← List.append_assoc (lane.sender.preparing.map _), ← next] at old
    simpa [Lane.sends] using old
  · have old := inStep.started
    rw [isUp, aboutOf_cons, ← List.append_assoc (lane.sender.preparing.map _), ← next] at old
    simpa [Lane.sends] using old

/-- The oldest file that is being hashed is started. -/
theorem InStep.hashed (inStep : InStep lane)
    (granted : result.2.mayTransferFiles = lane.sender.mayTransferFiles)
    (out : ∀ kind, offersOut kind result.2 = offersOut kind lane.sender)
    (made : result.2.made = lane.sender.made)
    (sent : ∀ message ∈ result.1, offerKind message.kind = none ∧
      (isStart message.kind → ∃ n, message.about = [n]))
    (next : aboutOf isStart result.1 ++ result.2.preparing.map Numbered.number =
      lane.sender.preparing.map Numbered.number) :
    InStep (lane.sends result) := by
  have noOffers : aboutOf isOffer result.1 = [] :=
    aboutOf_eq_nil fun message member => isOffer_of_not_offer (sent message member).1
  have noKind (kind : AnswerKind) : aboutOf (offerKind · = some kind) result.1 = [] :=
    aboutOf_eq_nil fun message member => by simp [(sent message member).1]
  refine
    { granted := ⟨granted.trans inStep.granted.1, inStep.granted.2⟩
      noDir := inStep.noDir
      single := inStep.single
      singleStart := ?_
      coming := by simpa [Lane.sends, noOffers, made] using inStep.coming
      out := by simpa [Lane.sends, noKind, out] using inStep.out
      accepted := ?_
      started := ?_
      distinct := inStep.distinct
      below := inStep.below }
  · intro other member starts
    rcases List.mem_append.mp member with old | new
    · exact inStep.singleStart other old starts
    · exact (sent other new).2 starts
  · have old := inStep.accepted
    rw [← next] at old
    simpa [Lane.sends] using old
  · have old := inStep.started
    rw [← next] at old
    simpa [Lane.sends] using old

/-! ## Steps of the receiver -/

/-- The next offers to come in bear the next numbers. -/
theorem InStep.arriving (inStep : InStep lane) (isDown : lane.down = message :: rest)
    (offers : isOffer message.kind = true) :
    message.about = List.range' lane.receiver.arrived message.about.length ∧
      ∃ count, aboutOf isOffer rest =
          List.range' (lane.receiver.arrived + message.about.length) count ∧
        lane.receiver.arrived + message.about.length + count = lane.sender.made := by
  obtain ⟨total, isRange, isTotal⟩ := inStep.coming
  rw [isDown, aboutOf_cons, if_pos offers] at isRange
  obtain ⟨size, small, isAbout, isRest⟩ := List.range'_eq_append_iff.mp isRange.symm
  have isSize : message.about.length = size := by rw [isAbout, List.length_range']
  rw [isSize]
  refine ⟨isAbout, total - size, by simpa using isRest, ?_⟩
  omega

/-- The offers of a message wait behind the others. -/
theorem InStep.queues {asked : AnswerKind} {new : List (Numbered IncomingOffer)}
    {next : FileOffers} (inStep : InStep lane) (isDown : lane.down = message :: rest)
    (isKind : offerKind message.kind = some asked)
    (isNew : new.map Numbered.number = message.about)
    (isAsked : ∀ waiting ∈ new, waiting.offer.answerKind = asked)
    (granted : next.mayTransferFiles = lane.receiver.mayTransferFiles)
    (dir : next.dirOfferIn = lane.receiver.dirOfferIn)
    (files : next.fileOffersIn = lane.receiver.fileOffersIn ++ new)
    (accepted : next.fileAccepted = lane.receiver.fileAccepted)
    (arrived : next.arrived = lane.receiver.arrived + message.about.length) :
    InStep { lane with receiver := next, down := rest } := by
  have notStart := isStart_of_offer isKind
  have isAny : isOffer message.kind = true := by simp [isOffer, isKind]
  obtain ⟨isAbout, count, isRest, total⟩ := inStep.arriving isDown isAny
  refine
    { granted := ⟨inStep.granted.1, granted.trans inStep.granted.2⟩
      noDir := dir.trans inStep.noDir
      single := inStep.single
      singleStart := fun other member =>
        inStep.singleStart other (isDown ▸ List.mem_cons_of_mem _ member)
      coming := ⟨count, by rw [arrived]; exact isRest, by rw [arrived]; exact total⟩
      out := ?_
      accepted := by
        simpa [isDown, aboutOf_cons, notStart, accepted] using inStep.accepted
      started := inStep.started
      distinct := ?_
      below := ?_ }
  · intro kind notDir
    have old := inStep.out kind notDir
    have waiting := @undecided_append lane.receiver kind next asked new files dir isAsked
    rw [isNew] at waiting
    rw [isDown, aboutOf_cons] at old
    dsimp only
    rw [old, waiting]
    by_cases same : kind = asked
    · simp [isKind, same]
    · simp [isKind, same, Ne.symm same]
  · dsimp only
    rw [files, List.map_append, isNew, ← List.append_assoc, ← List.append_assoc, List.nodup_append]
    refine ⟨by simpa using inStep.distinct, isAbout ▸ List.nodup_range', ?_⟩
    intro n old m isNew same
    have low := inStep.below n (by simpa using old)
    rw [isAbout] at isNew
    have high := (List.mem_range'_1.mp isNew).1
    omega
  · intro n member
    dsimp only at member
    rw [files, List.map_append, isNew, ← List.append_assoc, ← List.append_assoc,
      List.mem_append] at member
    rw [arrived]
    rcases member with old | isNew
    · have low := inStep.below n (by simpa using old)
      omega
    · rw [isAbout] at isNew
      exact (List.mem_range'_1.mp isNew).2

theorem says_answerMessage {asked : AnswerKind} (notDir : asked ≠ .dir) (yes : Bool) :
    saysYes (answerMessage asked yes) = yes ∧ saysNo (answerMessage asked yes) = !yes := by
  cases asked <;> simp_all [saysYes, saysNo, answerMessage]

/-- An answered offer goes from those that wait to those that were answered. -/
theorem perm_answered {yes no waiting left : List Nat} {number : Nat} (accepted : Bool)
    (moved : waiting.Perm (number :: left)) :
    ((yes ++ if accepted then [number] else []) ++
      ((no ++ if accepted then [] else [number]) ++ left)).Perm (yes ++ (no ++ waiting)) := by
  have aside : (yes ++ (no ++ waiting)).Perm (yes ++ (no ++ number :: left)) :=
    .append_left _ (.append_left _ moved)
  refine .trans ?_ aside.symm
  cases accepted with
  | true =>
      simp only [if_true, List.append_nil, List.append_assoc, List.singleton_append]
      exact .append_left _ List.perm_middle.symm
  | false => simp

/-- The oldest offer of its kind is answered, and what is accepted is kept. -/
theorem InStep.decides {asked : AnswerKind} {number : Nat} {base : FileOffers}
    {taken : Option AcceptedOffer} {outcome : Except ActorError Unit} (inStep : InStep lane)
    (notDir : asked ≠ .dir)
    (oldest : ∀ kind, undecided kind lane.receiver =
      if kind = asked then number :: undecided kind base else undecided kind base)
    (files : (lane.receiver.fileOffersIn.map Numbered.number).Perm
      (number :: base.fileOffersIn.map Numbered.number))
    (granted : base.mayTransferFiles = lane.receiver.mayTransferFiles)
    (dir : base.dirOfferIn = lane.receiver.dirOfferIn)
    (accepted : base.fileAccepted = lane.receiver.fileAccepted)
    (arrived : base.arrived = lane.receiver.arrived) :
    InStep (lane.replies ((base.deciding asked number taken outcome).1.sent,
      (base.deciding asked number taken outcome).2)) := by
  obtain ⟨isYes, isNo⟩ := says_answerMessage notDir taken.isSome
  have answer_yes : aboutOf saysYes (base.deciding asked number taken outcome).1.sent =
      if taken.isSome then [number] else [] := by
    rw [deciding, aboutOf_singleton, isYes]
  have answer_no : aboutOf saysNo (base.deciding asked number taken outcome).1.sent =
      if taken.isSome then [] else [number] := by
    rw [deciding, aboutOf_singleton, isNo]
    cases taken <;> rfl
  have settled := @perm_answered (aboutOf saysYes lane.replied) (aboutOf saysNo lane.replied) _ _ _
    taken.isSome files
  refine
    { granted := ⟨inStep.granted.1, granted.trans inStep.granted.2⟩
      noDir := dir.trans inStep.noDir
      single := ?_
      singleStart := inStep.singleStart
      coming := by simpa [Lane.replies, deciding, arrived] using inStep.coming
      out := ?_
      accepted := ?_
      started := ?_
      distinct := ?_
      below := ?_ }
  · intro other member isAnswer
    simp only [Lane.replies, deciding, List.mem_append, List.mem_singleton] at member
    rcases member with old | rfl
    · exact inStep.single other old isAnswer
    · exact ⟨number, rfl⟩
  · intro kind kindNotDir
    have old := inStep.out kind kindNotDir
    have same : undecided kind (base.deciding asked number taken outcome).2 = undecided kind base :=
      undecided_congr rfl rfl
    rw [oldest kind] at old
    simp only [Lane.replies, same]
    by_cases isAsked : kind = asked
    · simpa [deciding, aboutOf_singleton, isAsked] using old
    · simpa [deciding, aboutOf_singleton, isAsked, Ne.symm isAsked] using old
  · have old := inStep.accepted
    simp only [Lane.replies, aboutOf_append, answer_yes]
    cases taken <;> simp [deciding, accepted, old]
  · have old := inStep.started
    simp only [Lane.replies, aboutOf_append, answer_yes]
    cases taken <;> simp [old]
  · simp only [Lane.replies, aboutOf_append, answer_yes, answer_no]
    exact settled.nodup_iff.mpr inStep.distinct
  · intro n member
    simp only [Lane.replies, aboutOf_append, answer_yes, answer_no] at member
    have low := inStep.below n (settled.mem_iff.mp member)
    exact arrived.symm ▸ low

/-- The start on its way is for the accepted offer that is first in its queue. -/
theorem InStep.first_accepted (inStep : InStep lane) (isDown : lane.down = message :: rest)
    (starts : isStart message.kind = true) :
    ∃ first others, lane.receiver.fileAccepted = first :: others ∧ message.about = [first.number] ∧
      others.map Numbered.number = aboutOf isStart rest ++
        (lane.sender.preparing.map Numbered.number ++ aboutOf saysYes lane.up) := by
  obtain ⟨n, about⟩ := inStep.singleStart message (by simp [isDown]) starts
  have old := inStep.accepted
  rw [isDown, aboutOf_cons, if_pos starts, about, List.append_assoc, List.singleton_append] at old
  obtain ⟨first, others, isAccepted, rfl, isRest⟩ := List.map_eq_cons_iff.mp old
  exact ⟨first, others, isAccepted, about, isRest⟩

theorem offerKind_of_start {kind : MessageKind} (starts : isStart kind = true) :
    offerKind kind = none := by
  cases kind <;> simp_all [offerKind, isStart]

/-- A start is taken for the accepted offer that is first in its queue. -/
theorem InStep.starts (inStep : InStep lane) (isDown : lane.down = message :: rest)
    (isStarting : isStart message.kind = true)
    (granted : result.2.mayTransferFiles = lane.receiver.mayTransferFiles)
    (dir : result.2.dirOfferIn = lane.receiver.dirOfferIn)
    (files : result.2.fileOffersIn = lane.receiver.fileOffersIn)
    (accepted : result.2.fileAccepted = lane.receiver.fileAccepted.tail)
    (arrived : result.2.arrived = lane.receiver.arrived)
    (sent : ∀ message ∈ result.1, answerKind message.kind = none) :
    InStep ({ lane with down := rest }.replies result) := by
  obtain ⟨first, others, isAccepted, about, isOthers⟩ := inStep.first_accepted isDown isStarting
  have notOffer := offerKind_of_start isStarting
  have notAny := isOffer_of_not_offer notOffer
  -- The accepted offer is taken away first, and then the rest of the step is quiet.
  have popped : InStep { lane with
      receiver := { lane.receiver with fileAccepted := others }, down := rest } :=
    { granted := inStep.granted
      noDir := inStep.noDir
      single := inStep.single
      singleStart := fun other member =>
        inStep.singleStart other (isDown ▸ List.mem_cons_of_mem _ member)
      coming := by simpa [isDown, aboutOf_cons, notAny] using inStep.coming
      out := by
        intro kind notDir
        have old := inStep.out kind notDir
        rw [isDown, aboutOf_cons, if_neg (by simp [notOffer])] at old
        exact old
      accepted := isOthers
      started := inStep.started
      distinct := inStep.distinct
      below := inStep.below }
  exact popped.repliesQuiet
    { granted, dir, files, arrived, sent, accepted := by rw [accepted, isAccepted]; rfl }

end

/-! ## What the offers say -/

/-- A message says of its offers what the catalog does. -/
def Describes (catalog : List Content) (message : Sent) : Prop :=
  match message.kind with
  | .fileOffer name size hash =>
      ∃ n, message.about = [n] ∧ catalog[n]? = some { name, size, hash := some hash }
  | .filePutOffer _ name size hash =>
      ∃ n, message.about = [n] ∧ catalog[n]? = some { name, size, hash := some hash }
  | .clipboardFileOffer files =>
      ∃ n, message.about = List.range' n files.length ∧
        ∀ (k : Nat) entry, files[k]? = some entry → catalog[n + k]? = some (entryContent entry)
  | .fileTransferStart _ name size hash =>
      ∃ n content, message.about = [n] ∧ catalog[n]? = some content ∧ content.name = name ∧
        content.size = size ∧ ∀ expected ∈ content.hash, expected = hash
  | _ => True

/-- The offers of a direction are what their sender made them, everywhere on their way. -/
structure Described (catalog : List Content) (lane : Lane FileOffers Sent) : Prop where
  made : catalog.length = lane.sender.made
  fileOut : ∀ waiting ∈ lane.sender.fileOffersOut,
    catalog[waiting.number]? = some waiting.offer.content
  clipboardOut : ∀ waiting ∈ lane.sender.clipboardOffersOut ++ lane.sender.preparing,
    catalog[waiting.number]? = some (entryContent waiting.offer.entry)
  coming : ∀ message ∈ lane.down, Describes catalog message
  waiting : ∀ waiting ∈ lane.receiver.fileOffersIn,
    catalog[waiting.number]? = some waiting.offer.content
  accepted : ∀ accepted ∈ lane.receiver.fileAccepted,
    catalog[accepted.number]? = some accepted.offer.content

section
variable {lane : Lane FileOffers Sent} {message : Sent} {rest : List Sent}
  {result : List Sent × FileOffers} {catalog new : List Content}

theorem getElem?_append_some {n : Nat} {content : Content} (found : catalog[n]? = some content) :
    (catalog ++ new)[n]? = some content := by
  rw [List.getElem?_append_left (List.getElem?_eq_some_iff.mp found).1]
  exact found

theorem describes_quiet (notOffer : offerKind message.kind = none)
    (notStart : isStart message.kind = false) : Describes catalog message := by
  unfold Describes
  split <;> simp_all [offerKind, isStart]

theorem Describes.grow (describes : Describes catalog message) :
    Describes (catalog ++ new) message := by
  unfold Describes at describes ⊢
  split
  · rename_i isKind
    rw [isKind] at describes
    obtain ⟨n, about, found⟩ := describes
    exact ⟨n, about, getElem?_append_some found⟩
  · rename_i isKind
    rw [isKind] at describes
    obtain ⟨n, about, found⟩ := describes
    exact ⟨n, about, getElem?_append_some found⟩
  · rename_i isKind
    rw [isKind] at describes
    obtain ⟨n, about, found⟩ := describes
    exact ⟨n, about, fun k entry isEntry => getElem?_append_some (found k entry isEntry)⟩
  · rename_i isKind
    rw [isKind] at describes
    obtain ⟨n, content, about, found, fits⟩ := describes
    exact ⟨n, content, about, getElem?_append_some found, fits⟩
  · trivial

/-- More is offered. -/
theorem Described.grow (described : Described catalog lane) :
    Described (catalog ++ new)
      { lane with sender := { lane.sender with made := lane.sender.made + new.length } } where
  made := by simp [described.made]
  fileOut waiting member := getElem?_append_some (described.fileOut waiting member)
  clipboardOut waiting member := getElem?_append_some (described.clipboardOut waiting member)
  coming message member := (described.coming message member).grow
  waiting waiting member := getElem?_append_some (described.waiting waiting member)
  accepted accepted member := getElem?_append_some (described.accepted accepted member)

/-- The sender offers nothing new. -/
theorem Described.sends {up : List Sent} (described : Described catalog lane)
    (fileOut : ∀ waiting ∈ result.2.fileOffersOut, waiting ∈ lane.sender.fileOffersOut)
    (clipboardOut : ∀ waiting ∈ result.2.clipboardOffersOut ++ result.2.preparing,
      waiting ∈ lane.sender.clipboardOffersOut ++ lane.sender.preparing)
    (made : result.2.made = lane.sender.made)
    (sent : ∀ message ∈ result.1, Describes catalog message) :
    Described catalog ({ lane with up }.sends result) := by
  refine
    { made := described.made.trans made.symm
      fileOut := fun waiting member => described.fileOut waiting (fileOut waiting member)
      clipboardOut := fun waiting member =>
        described.clipboardOut waiting (clipboardOut waiting member)
      coming := ?_
      waiting := described.waiting
      accepted := described.accepted }
  intro message member
  rcases List.mem_append.mp member with old | isNew
  · exact described.coming message old
  · exact sent message isNew

theorem Described.sendsQuiet (described : Described catalog lane)
    (quiet : SenderQuiet lane.sender result) : Described catalog (lane.sends result) := by
  refine described.sends (by simp [quiet.fileOut]) (by simp [quiet.clipboardOut, quiet.preparing])
    quiet.made ?_
  intro message isNew
  exact describes_quiet (quiet.sent message isNew).1 (quiet.sent message isNew).2

theorem Described.repliesQuiet (described : Described catalog lane)
    (quiet : ReceiverQuiet lane.receiver result) : Described catalog (lane.replies result) where
  made := described.made
  fileOut := described.fileOut
  clipboardOut := described.clipboardOut
  coming := described.coming
  waiting := by simpa [Lane.replies, quiet.files] using described.waiting
  accepted := by simpa [Lane.replies, quiet.accepted] using described.accepted

theorem Described.popUp (described : Described catalog lane) :
    Described catalog { lane with up := rest } :=
  { described with }

theorem Described.popDown (described : Described catalog lane)
    (isDown : lane.down = message :: rest) : Described catalog { lane with down := rest } :=
  { described with
    coming := fun other member => described.coming other (isDown ▸ List.mem_cons_of_mem _ member) }

end

end Lumepeer.Runtime.FileOffers
