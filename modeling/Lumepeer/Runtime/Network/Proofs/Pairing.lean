import Lumepeer.Runtime.Network.Proofs.InStep

/-!
# An answer and the offer it is for

Neither an answer nor a start of a transfer names its offer: each is taken for the
oldest one that waits for it. Every handler of the two actors has one of the
effects that keep a direction in step, as long as offers are answered in the order
in which they came and accepted files are hashed in the order of their answers.
-/

namespace Lumepeer.Runtime.FileOffers
open Lumepeer.Lib Lumepeer.Core

/-! ## Handlers -/

section
variable {node : FileOffers} {disk : Disk}

theorem senderQuiet_deciding {base : FileOffers} {asked : AnswerKind} {number : Nat}
    {taken : Option AcceptedOffer} {outcome : Except ActorError Unit}
    (granted : base.mayTransferFiles = node.mayTransferFiles)
    (fileOut : base.fileOffersOut = node.fileOffersOut)
    (clipboardOut : base.clipboardOffersOut = node.clipboardOffersOut)
    (preparing : base.preparing = node.preparing) (made : base.made = node.made) :
    SenderQuiet node ((base.deciding asked number taken outcome).1.sent,
      (base.deciding asked number taken outcome).2) where
  granted := granted
  fileOut := fileOut
  clipboardOut := clipboardOut
  preparing := preparing
  made := made
  sent := by
    intro message member
    obtain rfl := List.mem_singleton.mp member
    cases asked <;> exact ⟨rfl, rfl⟩

theorem senderQuiet_fileOffer {name : String} {size : UInt64} {hash : Hash} :
    SenderQuiet node (node.sending (.fileOffer name size hash disk)) := by
  by_cases waits : node.offerWaits name size = true
  · rw [sending, step, onFileOfferInbound_waits waits]
    exact
      { granted := rfl, fileOut := rfl, clipboardOut := rfl, preparing := rfl, made := rfl
        sent := by simp }
  · obtain ⟨fetches, taken, outcome, isResult, -, -⟩ :=
      @decides_onFileOfferInbound node disk name size hash (by simpa using waits)
    rw [sending, step, isResult]
    exact senderQuiet_deciding rfl rfl rfl rfl rfl

theorem senderQuiet_filePutOffer {dir name : String} {size : UInt64} {hash : Hash} :
    SenderQuiet node (node.sending (.filePutOffer dir name size hash disk)) := by
  obtain ⟨taken, outcome, isResult, -, -⟩ := @decides_onFilePutOffer node disk dir name size hash
  rw [sending, step, isResult]
  exact senderQuiet_deciding rfl rfl rfl rfl rfl

theorem senderQuiet_clipboardFileOffer {files : List ClipboardFileEntry} :
    SenderQuiet node (node.sending (.clipboardFileOffer files)) := by
  rw [sending, step, onClipboardFileOfferInbound]
  dsimp only
  split
  · exact
      { granted := rfl, fileOut := rfl, clipboardOut := rfl, preparing := rfl, made := rfl
        sent := by simp [offerKind, isStart] }
  · exact
      { granted := rfl, fileOut := rfl, clipboardOut := rfl, preparing := rfl, made := rfl
        sent := by simp }

theorem senderQuiet_acceptDirOffer {offer : Numbered IncomingDirOffer} :
    SenderQuiet node ((node.acceptDirOffer offer disk).1.sent, (node.acceptDirOffer offer disk).2) := by
  unfold acceptDirOffer
  split
  · exact
      { granted := rfl, fileOut := rfl, clipboardOut := rfl, preparing := rfl, made := rfl
        sent := by simp [offerKind, isStart] }
  · exact
      { granted := rfl, fileOut := rfl, clipboardOut := rfl, preparing := rfl, made := rfl
        sent := by simp [offerKind, isStart] }
  · exact
      { granted := rfl, fileOut := rfl, clipboardOut := rfl, preparing := rfl, made := rfl
        sent := by simp [offerKind, isStart] }

theorem senderQuiet_answer {accept : Bool} {directory : Option Path}
    (orderly : Orderly node (.fileAccept accept directory disk)) :
    SenderQuiet node (node.sending (.fileAccept accept directory disk)) := by
  rw [sending, step]
  rcases onFileAccept_cases orderly with
    ⟨-, -, isNext⟩ | ⟨offer, isDir, -⟩ | ⟨first, rest, -, -, taken, outcome, isResult, -, -⟩
  · rw [isNext]
    exact
      { granted := rfl, fileOut := rfl, clipboardOut := rfl, preparing := rfl, made := rfl
        sent := by simp }
  · unfold onFileAccept
    rw [isDir]
    dsimp only
    split
    · exact
        { granted := rfl, fileOut := rfl, clipboardOut := rfl, preparing := rfl, made := rfl
          sent := by simp [offerKind, isStart] }
    · split
      · exact
          { granted := rfl, fileOut := rfl, clipboardOut := rfl, preparing := rfl, made := rfl
            sent := by simp }
      · have quiet := @senderQuiet_acceptDirOffer { node with dirOfferIn := none } disk offer
        exact { quiet with }
  · rw [isResult]
    exact senderQuiet_deciding rfl rfl rfl rfl rfl

/-- A start leaves the accepted offers behind the first, and is aborted or not. -/
theorem fileTransferStart_cases (granted : node.mayTransferFiles = true) (transferId : UInt64)
    (name : String) (size : UInt64) (hash : Hash) :
    (node.sending (.fileTransferStart transferId name size hash)).2 =
        { node with fileAccepted := node.fileAccepted.tail } ∧
      ∀ message ∈ (node.sending (.fileTransferStart transferId name size hash)).1,
        message.kind = .fileAbort transferId := by
  rw [sending, step, onFileTransferStart]
  dsimp only
  rw [if_neg (by simp [granted])]
  split
  · rename_i isAccepted
    refine ⟨?_, by simp⟩
    rw [isAccepted, List.tail_nil, ← isAccepted]
  · rename_i accepted rest isAccepted
    split
    · exact ⟨by rw [isAccepted, List.tail_cons], by simp⟩
    · exact ⟨by rw [isAccepted, List.tail_cons], by simp⟩

theorem senderQuiet_fileTransferStart (granted : node.mayTransferFiles = true) {transferId : UInt64}
    {name : String} {size : UInt64} {hash : Hash} :
    SenderQuiet node (node.sending (.fileTransferStart transferId name size hash)) := by
  obtain ⟨isNext, aborts⟩ := fileTransferStart_cases granted transferId name size hash
  refine
    { granted := by rw [isNext], fileOut := by rw [isNext], clipboardOut := by rw [isNext]
      preparing := by rw [isNext], made := by rw [isNext], sent := ?_ }
  intro message member
  rw [aborts message member]
  exact ⟨rfl, rfl⟩

theorem senderQuiet_same {next : FileOffers} (granted : next.mayTransferFiles = node.mayTransferFiles)
    (fileOut : next.fileOffersOut = node.fileOffersOut)
    (clipboardOut : next.clipboardOffersOut = node.clipboardOffersOut)
    (preparing : next.preparing = node.preparing) (made : next.made = node.made) :
    SenderQuiet node ([], next) :=
  { granted, fileOut, clipboardOut, preparing, made, sent := by simp }

/-- A file that was fetched or put is offered. -/
def offering (node : FileOffers) (path : Path) (name : String) (size : UInt64) (hash : Hash) :
    FileOffers :=
  { node with
    fileOffersOut := node.fileOffersOut ++
      [{ number := node.made, offer := { path, name, size, hash } }]
    made := node.made + 1 }

theorem fetchPrepared_cases (path : Path)
    (prepared : Except FileFetchRefusal (String × UInt64 × Hash)) :
    SenderQuiet node (node.sending (.fetchPrepared path prepared)) ∨
      ∃ name size hash, node.sending (.fetchPrepared path prepared) =
        ([{ kind := .fileOffer name size hash, about := [node.made] }],
          node.offering path name size hash) := by
  rw [sending, step]
  unfold onFetchPrepared
  split
  · exact .inl
      { granted := rfl, fileOut := rfl, clipboardOut := rfl, preparing := rfl, made := rfl
        sent := by simp [offerKind, isStart] }
  · split
    · exact .inl
        { granted := rfl, fileOut := rfl, clipboardOut := rfl, preparing := rfl, made := rfl
          sent := by simp [offerKind, isStart] }
    · split
      · exact .inl
          { granted := rfl, fileOut := rfl, clipboardOut := rfl, preparing := rfl, made := rfl
            sent := by simp [offerKind, isStart] }
      · exact .inr ⟨_, _, _, rfl⟩

theorem putPrepared_cases (dir : String) (path : Path)
    (prepared : Option (String × UInt64 × Hash)) :
    SenderQuiet node (node.sending (.putPrepared dir path prepared)) ∨
      ∃ name size hash, node.sending (.putPrepared dir path prepared) =
        ([{ kind := .filePutOffer dir name size hash, about := [node.made] }],
          node.offering path name size hash) := by
  rw [sending, step]
  unfold onPutPrepared
  split
  · exact .inl (senderQuiet_same rfl rfl rfl rfl rfl)
  · split
    · exact .inl (senderQuiet_same rfl rfl rfl rfl rfl)
    · split
      · exact .inl (senderQuiet_same rfl rfl rfl rfl rfl)
      · exact .inr ⟨_, _, _, rfl⟩

theorem clipboardFilesRead_cases (files : List ClipboardOut) :
    SenderQuiet node (node.sending (.clipboardFilesRead files)) ∨
      node.sending (.clipboardFilesRead files) =
        ([{ kind := .clipboardFileOffer (files.map fun file => file.entry)
            about := List.range' node.made files.length }],
          { node with
            clipboardOffersOut := node.clipboardOffersOut ++ numbered node.made files
            made := node.made + files.length }) := by
  rw [sending, step, onClipboardFilesRead]
  split
  · exact .inl (senderQuiet_same rfl rfl rfl rfl rfl)
  · exact .inr rfl

end

/-! ## A direction that is in step -/

/-- The queues go in step, and the offers are what they were made. -/
def Sound (lane : Lane FileOffers Sent) : Prop :=
  InStep lane ∧ ∃ catalog, Described catalog lane

section
variable {lane : Lane FileOffers Sent} {message : Sent} {rest : List Sent}
  {result : List Sent × FileOffers}

theorem Sound.sendsQuiet (sound : Sound lane) (quiet : SenderQuiet lane.sender result) :
    Sound (lane.sends result) := by
  obtain ⟨inStep, catalog, described⟩ := sound
  exact ⟨inStep.sendsQuiet quiet, catalog, described.sendsQuiet quiet⟩

theorem Sound.repliesQuiet (sound : Sound lane) (quiet : ReceiverQuiet lane.receiver result) :
    Sound (lane.replies result) := by
  obtain ⟨inStep, catalog, described⟩ := sound
  exact ⟨inStep.repliesQuiet quiet, catalog, described.repliesQuiet quiet⟩

theorem Sound.popUp (sound : Sound lane) (isUp : lane.up = message :: rest)
    (notFile : ∀ kind, answerKind message.kind = some kind → kind = .dir) :
    Sound { lane with up := rest } := by
  obtain ⟨inStep, catalog, described⟩ := sound
  exact ⟨inStep.popUp isUp notFile, catalog, described.popUp⟩

theorem Sound.popDown (sound : Sound lane) (isDown : lane.down = message :: rest)
    (notOffer : offerKind message.kind = none) (notStart : isStart message.kind = false) :
    Sound { lane with down := rest } := by
  obtain ⟨inStep, catalog, described⟩ := sound
  exact ⟨inStep.popDown isDown notOffer notStart, catalog, described.popDown isDown⟩

/-- A file is offered. -/
theorem Sound.offersFile (sound : Sound lane) {path : Path} {name : String} {size : UInt64}
    {hash : Hash} (isKind : offerKind message.kind = some .file)
    (about : message.about = [lane.sender.made])
    (describes : ∀ catalog : List Content,
      catalog[lane.sender.made]? = some { name, size, hash := some hash } →
        Describes catalog message) :
    Sound (lane.sends ([message], lane.sender.offering path name size hash)) := by
  obtain ⟨inStep, catalog, described⟩ := sound
  let content : Content := { name, size, hash := some hash }
  have isLast : (catalog ++ [content])[lane.sender.made]? = some content := by
    rw [← described.made]
    simp
  have grown := @Described.grow lane catalog [content] described
  constructor
  · have isRange : message.about = List.range' lane.sender.made 1 := about
    refine inStep.offers rfl isKind isRange rfl ?_ rfl rfl
    intro kind
    cases kind <;> simp [offersOut, offering]
  · refine ⟨catalog ++ [content], grown.made, ?_, grown.clipboardOut, ?_, grown.waiting,
      grown.accepted⟩
    · intro waiting member
      rcases List.mem_append.mp member with old | isNew
      · exact grown.fileOut waiting old
      · rw [List.mem_singleton.mp isNew]
        exact isLast
    · intro other member
      rcases List.mem_append.mp member with old | isNew
      · exact grown.coming other old
      · rw [List.mem_singleton.mp isNew]
        exact describes _ isLast

/-- Copied files are offered. -/
theorem Sound.offersFiles (sound : Sound lane) (files : List ClipboardOut) :
    Sound (lane.sends
      ([{ kind := .clipboardFileOffer (files.map fun file => file.entry)
          about := List.range' lane.sender.made files.length }],
        { lane.sender with
          clipboardOffersOut := lane.sender.clipboardOffersOut ++ numbered lane.sender.made files
          made := lane.sender.made + files.length })) := by
  obtain ⟨inStep, catalog, described⟩ := sound
  let contents := files.map fun file => entryContent file.entry
  have isNew (k : Nat) : (catalog ++ contents)[lane.sender.made + k]? = contents[k]? := by
    rw [← described.made, List.getElem?_append_right (Nat.le_add_right _ _), Nat.add_sub_cancel_left]
  have grown := @Described.grow lane catalog contents described
  rw [List.length_map] at grown
  constructor
  · refine inStep.offers rfl rfl rfl rfl ?_ rfl rfl
    intro kind
    cases kind <;> simp [offersOut, map_number_numbered]
  · refine ⟨catalog ++ contents, grown.made, grown.fileOut, ?_, ?_, grown.waiting, grown.accepted⟩
    · intro waiting member
      simp only [Lane.sends, List.mem_append] at member
      rcases member with (old | made) | old
      · exact grown.clipboardOut waiting (List.mem_append_left _ old)
      · obtain ⟨k, isNumber, isFile⟩ := exists_of_mem_numbered made
        rw [isNumber, isNew, List.getElem?_map, isFile]
        rfl
      · exact grown.clipboardOut waiting (List.mem_append_right _ old)
    · intro other member
      rcases List.mem_append.mp member with old | made
      · exact grown.coming other old
      · rw [List.mem_singleton.mp made]
        refine ⟨lane.sender.made, by rw [List.length_map], ?_⟩
        intro k entry isEntry
        rw [isNew, List.getElem?_map]
        rw [List.getElem?_map] at isEntry
        obtain ⟨file, isFile, rfl⟩ := Option.map_eq_some_iff.mp isEntry
        rw [isFile]
        rfl

/-- The answer on its way is to the first offer that waits for one of its kind. -/
theorem InStep.first_out {asked : AnswerKind} (inStep : InStep lane) (notDir : asked ≠ .dir)
    (isUp : lane.up = message :: rest) (isKind : answerKind message.kind = some asked) :
    ∃ n others, message.about = [n] ∧ offersOut asked lane.sender = n :: others := by
  obtain ⟨n, about⟩ := inStep.single message (by simp [isUp]) (by simp [isKind])
  have out := inStep.out asked notDir
  rw [isUp, aboutOf_cons, if_pos (by simp [isKind]), about, List.append_assoc,
    List.singleton_append] at out
  exact ⟨n, _, about, out⟩

/-- The sender takes the answer to a file that was fetched or put. -/
theorem Sound.fileAnswered (sound : Sound lane) {yes : Bool} (isUp : lane.up = message :: rest)
    (isKind : message.kind = .fileAccept yes) (idle : yes → lane.sender.preparing = []) :
    Sound ({ lane with up := rest }.sends (lane.sender.sending (.fileAcceptInbound yes))) := by
  obtain ⟨inStep, catalog, described⟩ := sound
  have isAnswer : answerKind message.kind = some .file := by rw [isKind]; rfl
  have isYes : saysYes message.kind = yes := by rw [isKind]; rfl
  obtain ⟨n, others, about, isOut⟩ := inStep.first_out (by simp) isUp isAnswer
  obtain ⟨first, left, isFiles, rfl, -⟩ := List.map_eq_cons_iff.mp isOut
  have out (kind : AnswerKind) (next : FileOffers) (popped : next.fileOffersOut = left)
      (same : next.clipboardOffersOut = lane.sender.clipboardOffersOut) :
      offersOut kind next =
        if kind = .file then (offersOut kind lane.sender).tail else offersOut kind lane.sender := by
    cases kind <;> simp [offersOut, popped, same, isFiles]
  have stays : ∀ waiting ∈ left, waiting ∈ lane.sender.fileOffersOut := by simp_all
  have granted := inStep.granted.1
  cases yes with
  | false =>
      have isSent : lane.sender.sending (.fileAcceptInbound false) =
          ([], { lane.sender with fileOffersOut := left }) := by
        simp [sending, step, onFileAcceptInbound, isFiles]
      rw [isSent]
      refine ⟨inStep.answered (by simp) isUp isAnswer rfl ?_ rfl (by simp) (by simp [isYes]), catalog, ?_⟩
      · exact fun kind => out kind _ rfl rfl
      · exact described.sends stays (fun _ => id) rfl (by simp)
  | true =>
      have nothing := idle rfl
      let start : Sent :=
        { kind := .fileTransferStart lane.sender.nextTransferId first.offer.name first.offer.size
            first.offer.hash
          about := [first.number] }
      have isSent : lane.sender.sending (.fileAcceptInbound true) = ([start], { lane.sender with
          fileOffersOut := left, nextTransferId := lane.sender.nextTransferId + 1 }) := by
        unfold sending step onFileAcceptInbound
        rw [isFiles]
        dsimp only
        rw [if_neg (by simp), if_neg (by simp [granted])]
        rfl
      rw [isSent]
      refine ⟨inStep.answered (by simp) isUp isAnswer rfl ?_ rfl ?_ ?_, catalog, ?_⟩
      · exact fun kind => out kind _ rfl rfl
      · intro message member
        rw [List.mem_singleton.mp member]
        exact ⟨rfl, fun _ => ⟨first.number, rfl⟩⟩
      · simp [nothing, aboutOf_singleton, start, isStart, isYes, about]
      · refine described.sends stays (fun _ => id) rfl ?_
        intro message member
        rw [List.mem_singleton.mp member]
        refine ⟨first.number, first.offer.content, rfl, ?_, rfl, rfl, ?_⟩
        · exact described.fileOut first (by simp [isFiles])
        · simp [OutgoingOffer.content]

/-- The sender takes the answer to a copied file, and hashes the file if it was accepted. -/
theorem Sound.clipboardAnswered (sound : Sound lane) {yes : Bool} (isUp : lane.up = message :: rest)
    (isKind : message.kind = .clipboardFileAccept yes) :
    Sound ({ lane with up := rest }.sends
      (lane.sender.sending (.clipboardFileAcceptInbound yes))) := by
  obtain ⟨inStep, catalog, described⟩ := sound
  have isAnswer : answerKind message.kind = some .clipboard := by rw [isKind]; rfl
  have isYes : saysYes message.kind = yes := by rw [isKind]; rfl
  obtain ⟨n, others, about, isOut⟩ := inStep.first_out (by simp) isUp isAnswer
  obtain ⟨first, left, isFiles, rfl, -⟩ := List.map_eq_cons_iff.mp isOut
  have granted := inStep.granted.1
  have isSent : lane.sender.sending (.clipboardFileAcceptInbound yes) = ([], { lane.sender with
      clipboardOffersOut := left
      preparing := lane.sender.preparing ++ if yes then [first] else [] }) := by
    unfold sending step onClipboardFileAcceptInbound
    rw [isFiles]
    dsimp only
    cases yes with
    | false => simp
    | true => rw [if_neg (by simp), if_neg (by simp [granted]), if_pos rfl]
  rw [isSent]
  refine ⟨inStep.answered (by simp) isUp isAnswer rfl ?_ rfl (by simp) ?_, catalog, ?_⟩
  · intro kind
    cases kind <;> simp [offersOut, isFiles]
  · cases yes <;> simp [isYes, about]
  · refine described.sends (fun _ => id) ?_ rfl (by simp)
    intro waiting member
    rw [isFiles]
    rcases List.mem_append.mp member with stays | hashing
    · exact List.mem_append_left _ (List.mem_cons_of_mem _ stays)
    · rcases List.mem_append.mp hashing with old | isNew
      · exact List.mem_append_right _ old
      · split at isNew
        · rw [List.mem_singleton.mp isNew]
          exact List.mem_append_left _ List.mem_cons_self
        · cases isNew

/-- The files that are being hashed are different offers. -/
theorem InStep.nodup_preparing (inStep : InStep lane) :
    (lane.sender.preparing.map Numbered.number).Nodup := by
  have yes := (List.nodup_append.mp inStep.distinct).1
  rw [inStep.started] at yes
  exact (List.nodup_append.mp (List.nodup_append.mp yes).2.1).1

/-- A copied file is over with its hash. -/
theorem Sound.hashed (sound : Sound lane) {number : Nat}
    {prepared : Option (String × UInt64 × Hash)}
    (inTurn : ∀ task ∈ lane.sender.preparing, task.number = number →
      lane.sender.preparing.head? = some task ∧
        ∃ hash, prepared = some (task.offer.entry.name, task.offer.entry.size, hash)) :
    Sound (lane.sends (lane.sender.sending (.clipboardPrepared number prepared))) := by
  cases isTask : lane.sender.preparing.find? fun task => task.number = number with
  | none =>
      have isSent : lane.sender.sending (.clipboardPrepared number prepared) = ([], lane.sender) := by
        simp [sending, step, onClipboardPrepared, isTask]
      rw [isSent]
      exact sound.sendsQuiet (senderQuiet_same rfl rfl rfl rfl rfl)
  | some task =>
      obtain ⟨inStep, catalog, described⟩ := sound
      have member := List.mem_of_find?_eq_some isTask
      have isNumber : task.number = number := by simpa using List.find?_some isTask
      obtain ⟨isHead, hash, rfl⟩ := inTurn task member isNumber
      obtain ⟨others, isPreparing⟩ := List.head?_eq_some_iff.mp isHead
      have distinct := inStep.nodup_preparing
      rw [isPreparing, List.map_cons, List.nodup_cons] at distinct
      have left : (lane.sender.preparing.filter fun task => task.number ≠ number) = others := by
        rw [isPreparing, List.filter_cons_of_neg (by simp [isNumber]), List.filter_eq_self]
        intro other isOther
        simp only [decide_eq_true_eq]
        intro same
        exact distinct.1 (List.mem_map.mpr ⟨other, isOther, same.trans isNumber.symm⟩)
      have granted := inStep.granted.1
      let start : Sent :=
        { kind := .fileTransferStart lane.sender.nextTransferId task.offer.entry.name
            task.offer.entry.size hash
          about := [task.number] }
      have isSent : lane.sender.sending (.clipboardPrepared number
            (some (task.offer.entry.name, task.offer.entry.size, hash))) =
          ([start], { lane.sender with
            preparing := others, nextTransferId := lane.sender.nextTransferId + 1 }) := by
        rw [sending, step]
        unfold onClipboardPrepared
        rw [isTask]
        dsimp only
        rw [left, if_neg (by simp [granted])]
        rfl
      rw [isSent]
      refine ⟨inStep.hashed rfl (fun _ => rfl) rfl ?_ ?_, catalog, ?_⟩
      · intro message isNew
        rw [List.mem_singleton.mp isNew]
        exact ⟨rfl, fun _ => ⟨task.number, rfl⟩⟩
      · simp [aboutOf_singleton, start, isStart, isPreparing]
      · have stays : ∀ waiting ∈ others, waiting ∈ lane.sender.preparing := by simp_all
        have kept : ∀ waiting ∈ lane.sender.clipboardOffersOut ++ others,
            waiting ∈ lane.sender.clipboardOffersOut ++ lane.sender.preparing := by
          intro waiting isLeft
          rcases List.mem_append.mp isLeft with old | isOther
          · exact List.mem_append_left _ old
          · exact List.mem_append_right _ (stays waiting isOther)
        refine described.sends (fun _ => id) kept rfl ?_
        intro message isNew
        rw [List.mem_singleton.mp isNew]
        refine ⟨task.number, entryContent task.offer.entry, rfl, ?_, rfl, rfl, ?_⟩
        · exact described.clipboardOut task (List.mem_append_right _ member)
        · simp [entryContent]

/-- The receiver answers an offer that it has. -/
theorem Described.decides {catalog : List Content} {asked : AnswerKind} {number : Nat}
    {base : FileOffers} {taken : Option AcceptedOffer} {outcome : Except ActorError Unit}
    (described : Described catalog lane)
    (files : ∀ waiting ∈ base.fileOffersIn, waiting ∈ lane.receiver.fileOffersIn)
    (accepted : base.fileAccepted = lane.receiver.fileAccepted)
    (isContent : ∀ offer ∈ taken, catalog[number]? = some offer.content) :
    Described catalog (lane.replies ((base.deciding asked number taken outcome).1.sent,
      (base.deciding asked number taken outcome).2)) := by
  refine
    { made := described.made
      fileOut := described.fileOut
      clipboardOut := described.clipboardOut
      coming := described.coming
      waiting := fun waiting member => described.waiting waiting (files waiting member)
      accepted := ?_ }
  intro kept member
  simp only [Lane.replies, deciding, accepted, List.mem_append, List.mem_map, Option.mem_toList] at member
  rcases member with old | ⟨offer, isTaken, rfl⟩
  · exact described.accepted kept old
  · exact isContent offer isTaken

/-- The receiver answers the first offer of its queue. -/
theorem Sound.answers (sound : Sound lane) {accept : Bool} {directory : Option Path} {disk : Disk}
    (orderly : Orderly lane.receiver (.fileAccept accept directory disk)) :
    Sound (lane.replies (lane.receiver.sending (.fileAccept accept directory disk))) := by
  obtain ⟨inStep, catalog, described⟩ := sound
  rw [sending, step]
  rcases onFileAccept_cases orderly with
    ⟨-, -, isNext⟩ | ⟨offer, isDir, -⟩ | ⟨first, others, -, isFiles, taken, outcome, isResult, isContent, -⟩
  · rw [isNext, Lane.replies_nil]
    exact ⟨inStep, catalog, described⟩
  · rw [inStep.noDir] at isDir
    cases isDir
  · rw [isResult]
    constructor
    · refine inStep.decides ?_ ?_ ?_ rfl rfl rfl rfl
      · cases first.offer <;> simp [IncomingOffer.answerKind]
      · exact fun kind => undecided_cons isFiles inStep.noDir
      · rw [isFiles]
        exact .refl _
    · refine ⟨catalog, described.decides ?_ rfl ?_⟩
      · intro waiting member
        rw [isFiles]
        exact List.mem_cons_of_mem _ member
      · intro offer isTaken
        rw [isContent offer isTaken]
        exact described.waiting first (by simp [isFiles])

/-- An offer of one file comes in with the next number. -/
theorem Sound.about_file (sound : Sound lane) {content : Content} {catalog : List Content}
    (isDown : lane.down = message :: rest) (isKind : offerKind message.kind = some .file)
    (found : ∃ n, message.about = [n] ∧ catalog[n]? = some content) :
    message.about = [lane.receiver.arrived] ∧ catalog[lane.receiver.arrived]? = some content := by
  obtain ⟨n, about, isContent⟩ := found
  have isAny : isOffer message.kind = true := by simp [isOffer, isKind]
  have isRange := (sound.1.arriving isDown isAny).1
  rw [about] at isRange
  obtain rfl : n = lane.receiver.arrived := by simpa using isRange
  exact ⟨about, isContent⟩

/-- A file that is offered waits. -/
theorem Sound.queuesFile (sound : Sound lane) {name : String} {size : UInt64} {hash : Hash}
    (isDown : lane.down = message :: rest) (isKind : offerKind message.kind = some .file)
    (describes : ∀ catalog, Describes catalog message →
      ∃ n, message.about = [n] ∧ catalog[n]? = some { name, size, hash := some hash }) :
    Sound { lane with
      down := rest
      receiver := { lane.receiver with
        arrived := lane.receiver.arrived + 1
        fileOffersIn := lane.receiver.fileOffersIn ++
          [{ number := lane.receiver.arrived, offer := .direct { name, size, hash } }] } } := by
  obtain ⟨inStep, catalog, described⟩ := sound
  have found := describes catalog (described.coming message (by simp [isDown]))
  obtain ⟨about, isContent⟩ := Sound.about_file ⟨inStep, catalog, described⟩ isDown isKind found
  constructor
  · exact inStep.queues isDown isKind (by rw [about]; rfl) (by simp [IncomingOffer.answerKind]) rfl rfl
      rfl rfl (by rw [about]; rfl)
  · refine ⟨catalog, { described.popDown isDown with waiting := ?_ }⟩
    intro waiting member
    rcases List.mem_append.mp member with old | isNew
    · exact described.waiting waiting old
    · rw [List.mem_singleton.mp isNew]
      exact isContent

/-- A file that is offered while none is undecided is answered on arrival. -/
theorem Sound.decidesFile (sound : Sound lane) {name : String} {size : UInt64} {hash : Hash}
    {answer : Out × FileOffers} {fetches : List PendingFetch}
    (isDown : lane.down = message :: rest) (isKind : offerKind message.kind = some .file)
    (describes : ∀ catalog, Describes catalog message →
      ∃ n, message.about = [n] ∧ catalog[n]? = some { name, size, hash := some hash })
    (nothing : undecided .file lane.receiver = [])
    (decides : Decides .file lane.receiver.arrived { name, size, hash := some hash }
      { lane.receiver with arrived := lane.receiver.arrived + 1, fetchesOut := fetches } answer) :
    Sound ({ lane with down := rest }.replies (answer.1.sent, answer.2)) := by
  obtain ⟨taken, outcome, rfl, isContent, -⟩ := decides
  -- It is as if the offer had waited, and were then answered.
  let offer : Numbered IncomingOffer :=
    { number := lane.receiver.arrived, offer := .direct { name, size, hash } }
  have queued := @Sound.queuesFile lane message rest sound name size hash isDown isKind describes
  obtain ⟨inStep, catalog, described⟩ := queued
  constructor
  · refine inStep.decides (by simp) ?_ ?_ rfl rfl rfl rfl
    · intro kind
      refine Eq.trans (@undecided_append lane.receiver kind _ .file [offer] rfl rfl ?_) ?_
      · simp [offer, IncomingOffer.answerKind]
      by_cases isFile : kind = .file
      · subst isFile
        rw [if_pos rfl, if_pos rfl, nothing]
        exact congrArg (lane.receiver.arrived :: ·) nothing.symm
      · rw [if_neg isFile, if_neg isFile, List.append_nil]
        rfl
    · exact (List.perm_append_singleton offer lane.receiver.fileOffersIn).map _
  · refine ⟨catalog, described.decides ?_ rfl ?_⟩
    · intro waiting member
      exact List.mem_append_left _ member
    · intro given isTaken
      rw [isContent given isTaken]
      exact described.waiting offer (List.mem_append_right _ List.mem_cons_self)

/-- A list of copied files waits. -/
theorem Sound.queuesFiles (sound : Sound lane) {files : List ClipboardFileEntry}
    (isDown : lane.down = message :: rest) (isKind : message.kind = .clipboardFileOffer files)
    (orderly : Orderly lane.receiver (.clipboardFileOffer files)) :
    Sound ({ lane with down := rest }.replies
      (lane.receiver.sending (.clipboardFileOffer files))) := by
  obtain ⟨inStep, catalog, described⟩ := sound
  have granted := inStep.granted.2
  simp only [Orderly, granted, if_true] at orderly
  have isQueue :=
    @queueClipboardEntries_eq files lane.receiver.arrived lane.receiver.fileOffersIn orderly.1 orderly.2
  let new := numbered lane.receiver.arrived (files.map IncomingOffer.clipboard)
  have isSent : lane.receiver.sending (.clipboardFileOffer files) = ([], { lane.receiver with
      arrived := lane.receiver.arrived + files.length
      fileOffersIn := lane.receiver.fileOffersIn ++ new }) := by
    rw [sending, step, onClipboardFileOfferInbound]
    dsimp only
    rw [if_neg (by simp [granted]), isQueue]
  have told := described.coming message (by simp [isDown])
  rw [Describes, isKind] at told
  obtain ⟨n, about, found⟩ := told
  have isOfKind : offerKind message.kind = some .clipboard := by rw [isKind]; rfl
  have isAny : isOffer message.kind = true := by simp [isOffer, isOfKind]
  have isAbout := (inStep.arriving isDown isAny).1
  have isLength : message.about.length = files.length := by rw [about, List.length_range']
  rw [isLength] at isAbout
  rw [isSent, Lane.replies_nil]
  constructor
  · refine inStep.queues isDown isOfKind ?_ ?_ rfl rfl rfl rfl ?_
    · rw [map_number_numbered, List.length_map, isAbout]
    · exact answerKind_of_mem_numbered _ _
    · rw [isLength]
  · refine ⟨catalog, { described.popDown isDown with waiting := ?_ }⟩
    intro waiting member
    rcases List.mem_append.mp member with old | isNew
    · exact described.waiting waiting old
    · obtain ⟨k, isNumber, isOffer⟩ := exists_of_mem_numbered isNew
      rw [List.getElem?_map] at isOffer
      obtain ⟨entry, isEntry, isWaiting⟩ := Option.map_eq_some_iff.mp isOffer
      have start : n = lane.receiver.arrived := by
        have same := about.symm.trans isAbout
        cases files with
        | nil => simp at isEntry
        | cons first others =>
            rw [List.length_cons, List.range'_succ, List.range'_succ] at same
            exact (List.cons.inj same).1
      rw [isNumber, ← isWaiting, ← start]
      exact found k entry isEntry

/-- A start is for the accepted offer that is first in its queue, and is not aborted. -/
theorem Sound.start_matches (sound : Sound lane) {transferId : UInt64} {name : String} {size : UInt64}
    {hash : Hash} (isDown : lane.down = message :: rest)
    (isKind : message.kind = .fileTransferStart transferId name size hash) :
    ∃ first others, lane.receiver.fileAccepted = first :: others ∧ message.about = [first.number] ∧
      lane.receiver.sending (.fileTransferStart transferId name size hash) =
        ([], { lane.receiver with fileAccepted := others }) := by
  obtain ⟨inStep, catalog, described⟩ := sound
  have isStarting : isStart message.kind = true := by rw [isKind]; rfl
  obtain ⟨first, others, isAccepted, about, -⟩ := inStep.first_accepted isDown isStarting
  refine ⟨first, others, isAccepted, about, ?_⟩
  have told := described.coming message (by simp [isDown])
  rw [Describes, isKind] at told
  obtain ⟨n, content, isAbout, found, isName, isSize, isHash⟩ := told
  obtain rfl : first.number = n := by simpa [about] using isAbout
  have same := described.accepted first (by simp [isAccepted])
  rw [found] at same
  obtain rfl : content = first.offer.content := Option.some.inj same
  have name_eq : first.offer.name = name := isName
  have size_eq : first.offer.size = size := isSize
  have fits : first.offer.hash.any (fun expected => !decide (expected = hash)) = false := by
    rw [Option.any_eq_false]
    intro expected isExpected
    simpa using isHash expected isExpected
  have granted := inStep.granted.2
  rw [sending, step, onFileTransferStart, isAccepted]
  dsimp only
  rw [if_neg (by simp [granted]), if_neg (by simp [name_eq, size_eq, fits])]

theorem Sound.starts (sound : Sound lane) {transferId : UInt64} {name : String} {size : UInt64}
    {hash : Hash} (isDown : lane.down = message :: rest)
    (isKind : message.kind = .fileTransferStart transferId name size hash) :
    Sound ({ lane with down := rest }.replies
      (lane.receiver.sending (.fileTransferStart transferId name size hash))) := by
  obtain ⟨first, others, isAccepted, -, isSent⟩ := sound.start_matches isDown isKind
  obtain ⟨inStep, catalog, described⟩ := sound
  rw [isSent]
  constructor
  · have isStarting : isStart message.kind = true := by rw [isKind]; rfl
    exact inStep.starts isDown isStarting rfl rfl rfl (by rw [isAccepted]; rfl) rfl (by simp)
  · rw [Lane.replies_nil]
    refine ⟨catalog, { described.popDown isDown with accepted := ?_ }⟩
    intro accepted member
    exact described.accepted accepted (by rw [isAccepted]; exact List.mem_cons_of_mem _ member)

theorem kept_of_sender {node : FileOffers} {op : Op} (isSender : op.ofSender = true) :
    (node.step op).2.mayTransferFiles = node.mayTransferFiles ∧
      (node.step op).2.fileAccepted = node.fileAccepted := by
  cases op with
  | fetch => exact ⟨rfl, rfl⟩
  | fileFetchRefused => exact ⟨rfl, rfl⟩
  | fetchPrepared =>
      simp only [step, onFetchPrepared]
      repeat' split
      all_goals exact ⟨rfl, rfl⟩
  | putPrepared =>
      simp only [step, onPutPrepared]
      repeat' split
      all_goals exact ⟨rfl, rfl⟩
  | clipboardFilesRead =>
      simp only [step, onClipboardFilesRead]
      repeat' split
      all_goals exact ⟨rfl, rfl⟩
  | fileAcceptInbound =>
      simp only [step, onFileAcceptInbound]
      repeat' split
      all_goals exact ⟨rfl, rfl⟩
  | clipboardFileAcceptInbound =>
      simp only [step, onClipboardFileAcceptInbound]
      repeat' split
      all_goals exact ⟨rfl, rfl⟩
  | clipboardPrepared =>
      simp only [step, onClipboardPrepared]
      repeat' split
      all_goals exact ⟨rfl, rfl⟩
  | _ => cases isSender

theorem receiverQuiet_of_sender {node : FileOffers} {op : Op} (isSender : op.ofSender = true) :
    ReceiverQuiet node (node.sending op) := by
  have none := @answersNone_of_sender node op isSender
  obtain ⟨granted, accepted⟩ := @kept_of_sender node op isSender
  exact
    { granted, accepted, dir := none.dir, files := none.files, arrived := none.arrived
      sent := none.sent }

end

/-! ## Runs -/

/-- A task that is over was hashing the file that was accepted first, and found it as it was
offered. -/
def HashedInTurn (node : FileOffers) : Action → Prop
  | .clipboardPrepared number prepared =>
      ∀ task ∈ node.preparing, task.number = number →
        node.preparing.head? = some task ∧
          prepared.map (fun file => (file.1, file.2.1)) =
            some (task.offer.entry.name, task.offer.entry.size)
  | _ => True

instance (node : FileOffers) (action : Action) : Decidable (HashedInTurn node action) := by
  cases action <;> unfold HashedInTurn <;> infer_instance

/-- What a user or a task does keeps the order of the answers and of the starts. -/
def ActsInTurn (lane : Lane FileOffers Sent) (action : Action) : Prop :=
  Orderly lane.sender action.op ∧ HashedInTurn lane.sender action

/-- What comes in keeps the order of the answers, and a file that was fetched or put is accepted
while no copied file is being hashed. -/
def ReceivesInTurn (lane : Lane FileOffers Sent) (message : Sent) (disk : Disk) : Prop :=
  (∀ op ∈ receivedOp message.kind disk, Orderly lane.sender op) ∧
    (message.kind = .fileAccept true → lane.sender.preparing = [])

instance (lane : Lane FileOffers Sent) (action : Action) : Decidable (ActsInTurn lane action) := by
  unfold ActsInTurn
  infer_instance

instance (lane : Lane FileOffers Sent) (message : Sent) (disk : Disk) :
    Decidable (ReceivesInTurn lane message disk) := by
  unfold ReceivesInTurn
  infer_instance

section
variable {lane : Lane FileOffers Sent} {message : Sent} {rest : List Sent}

/-- The sender takes a step of its own. -/
theorem sound_sends {action : Action} (sound : Sound lane) (inTurn : ActsInTurn lane action) :
    Sound (lane.sends (lane.sender.sending action.op)) := by
  obtain ⟨orderly, hashed⟩ := inTurn
  cases action with
  | answer => exact sound.sendsQuiet (senderQuiet_answer orderly)
  | fetch => exact sound.sendsQuiet (senderQuiet_same rfl rfl rfl rfl rfl)
  | fetchPrepared path prepared =>
      rcases @fetchPrepared_cases lane.sender path prepared with quiet | ⟨name, size, hash, isSent⟩
      · exact sound.sendsQuiet quiet
      · rw [Action.op, isSent]
        exact sound.offersFile rfl rfl fun _ found => ⟨_, rfl, found⟩
  | putPrepared dir path prepared =>
      rcases @putPrepared_cases lane.sender dir path prepared with quiet | ⟨name, size, hash, isSent⟩
      · exact sound.sendsQuiet quiet
      · rw [Action.op, isSent]
        exact sound.offersFile rfl rfl fun _ found => ⟨_, rfl, found⟩
  | clipboardFilesRead files =>
      rcases @clipboardFilesRead_cases lane.sender files with quiet | isSent
      · exact sound.sendsQuiet quiet
      · rw [Action.op, isSent]
        exact sound.offersFiles files
  | clipboardPrepared number prepared =>
      refine sound.hashed ?_
      intro task member isNumber
      obtain ⟨isHead, found⟩ := hashed task member isNumber
      refine ⟨isHead, ?_⟩
      obtain ⟨⟨name, size, hash⟩, rfl, same⟩ := Option.map_eq_some_iff.mp found
      obtain ⟨rfl, rfl⟩ := Prod.mk.inj same
      exact ⟨hash, rfl⟩

/-- The receiver takes a step of its own. -/
theorem sound_replies {action : Action} (sound : Sound lane)
    (inTurn : ActsInTurn lane.flip action) :
    Sound (lane.replies (lane.receiver.sending action.op)) := by
  cases action with
  | answer => exact sound.answers inTurn.1
  | fetch => exact sound.repliesQuiet (receiverQuiet_of_sender rfl)
  | fetchPrepared => exact sound.repliesQuiet (receiverQuiet_of_sender rfl)
  | putPrepared => exact sound.repliesQuiet (receiverQuiet_of_sender rfl)
  | clipboardFilesRead => exact sound.repliesQuiet (receiverQuiet_of_sender rfl)
  | clipboardPrepared => exact sound.repliesQuiet (receiverQuiet_of_sender rfl)

/-- A message comes in at the sender. -/
theorem sound_sendsOn {disk : Disk} (sound : Sound lane) (isUp : lane.up = message :: rest)
    (inTurn : ReceivesInTurn lane message disk) :
    Sound ({ lane with up := rest }.sends (peer.receive lane.sender message disk)) := by
  have granted := sound.1.granted.1
  have popped {found : MessageKind} (isKind : message.kind = found)
      (notFile : ∀ kind, answerKind found = some kind → kind = .dir) : Sound { lane with up := rest } :=
    sound.popUp isUp (isKind ▸ notFile)
  unfold peer
  dsimp only
  cases isKind : message.kind with
  | fileOffer => exact (popped isKind (by simp [answerKind])).sendsQuiet senderQuiet_fileOffer
  | fileAccept yes =>
      refine sound.fileAnswered isUp isKind ?_
      intro isYes
      exact inTurn.2 (by rw [isKind, isYes])
  | fileTransferStart =>
      exact (popped isKind (by simp [answerKind])).sendsQuiet (senderQuiet_fileTransferStart granted)
  | clipboardFileOffer => exact (popped isKind (by simp [answerKind])).sendsQuiet senderQuiet_clipboardFileOffer
  | clipboardFileAccept => exact sound.clipboardAnswered isUp isKind
  | fileFetchRefused =>
      exact (popped isKind (by simp [answerKind])).sendsQuiet (senderQuiet_same rfl rfl rfl rfl rfl)
  | filePutOffer => exact (popped isKind (by simp [answerKind])).sendsQuiet senderQuiet_filePutOffer
  | dirAccept =>
      exact (popped isKind (by simp [answerKind])).sendsQuiet (senderQuiet_same rfl rfl rfl rfl rfl)
  | _ => exact (popped isKind (by simp [answerKind])).sendsQuiet (senderQuiet_same rfl rfl rfl rfl rfl)

/-- A message comes in at the receiver. -/
theorem sound_repliesOn {disk : Disk} (sound : Sound lane) (isDown : lane.down = message :: rest)
    (inTurn : ReceivesInTurn lane.flip message disk) :
    Sound ({ lane with down := rest }.replies (peer.receive lane.receiver message disk)) := by
  have popped {found : MessageKind} (isKind : message.kind = found) (notOffer : offerKind found = none)
      (notStart : isStart found = false) : Sound { lane with down := rest } :=
    sound.popDown isDown (isKind ▸ notOffer) (isKind ▸ notStart)
  have orderly {op : Op} (isOp : receivedOp message.kind disk = some op) : Orderly lane.receiver op :=
    inTurn.1 op isOp
  unfold peer
  dsimp only
  cases isKind : message.kind with
  | fileOffer name size hash =>
      have describes : ∀ catalog, Describes catalog message →
          ∃ n, message.about = [n] ∧ catalog[n]? = some { name, size, hash := some hash } := by
        intro catalog told
        rwa [Describes, isKind] at told
      have isOffer : offerKind message.kind = some .file := by rw [isKind]; rfl
      by_cases waits : lane.receiver.offerWaits name size = true
      · have isSent := @onFileOfferInbound_waits lane.receiver disk name size hash waits
        simp only [receivedOp, sending, step, isSent, Lane.replies_nil]
        exact sound.queuesFile isDown isOffer describes
      · have inOrder : Orderly lane.receiver (.fileOffer name size hash disk) :=
          orderly (by rw [isKind]; rfl)
        have nothing : undecided .file lane.receiver = [] := inOrder.resolve_left waits
        obtain ⟨fetches, decides⟩ :=
          @decides_onFileOfferInbound lane.receiver disk name size hash (by simpa using waits)
        exact sound.decidesFile isDown isOffer describes nothing decides
  | filePutOffer dir name size hash =>
      have describes : ∀ catalog, Describes catalog message →
          ∃ n, message.about = [n] ∧ catalog[n]? = some { name, size, hash := some hash } := by
        intro catalog told
        rwa [Describes, isKind] at told
      have isOffer : offerKind message.kind = some .file := by rw [isKind]; rfl
      have inOrder : Orderly lane.receiver (.filePutOffer dir name size hash disk) :=
        orderly (by rw [isKind]; rfl)
      have nothing : undecided .file lane.receiver = [] := inOrder
      exact sound.decidesFile isDown isOffer describes nothing decides_onFilePutOffer
  | clipboardFileOffer files =>
      exact sound.queuesFiles isDown isKind (orderly (by rw [isKind]; rfl))
  | fileTransferStart => exact sound.starts isDown isKind
  | fileAccept =>
      exact (popped isKind rfl rfl).repliesQuiet (receiverQuiet_of_sender rfl)
  | clipboardFileAccept =>
      exact (popped isKind rfl rfl).repliesQuiet (receiverQuiet_of_sender rfl)
  | fileFetchRefused =>
      exact (popped isKind rfl rfl).repliesQuiet (receiverQuiet_of_sender rfl)
  | _ =>
      simp only [receivedOp, Lane.replies_nil]
      exact popped isKind rfl rfl

end

/-- Both directions of two actors stay in step. -/
theorem sound_rule : LaneRule peer ActsInTurn ReceivesInTurn Sound where
  sends _ _ sound inTurn := sound_sends sound inTurn
  replies _ _ sound inTurn := sound_replies sound inTurn
  sendsOn _ _ _ _ sound isUp inTurn := sound_sendsOn sound isUp inTurn
  repliesOn _ _ _ _ sound isDown inTurn := sound_repliesOn sound isDown inTurn

/-- A node with the grant for files and without any offer yet. -/
structure Fresh (node : FileOffers) : Prop where
  granted : node.mayTransferFiles = true
  dirOfferIn : node.dirOfferIn = none
  fileOffersIn : node.fileOffersIn = []
  fileOffersOut : node.fileOffersOut = []
  clipboardOffersOut : node.clipboardOffersOut = []
  preparing : node.preparing = []
  fileAccepted : node.fileAccepted = []
  arrived : node.arrived = 0
  made : node.made = 0

/-- What either actor started was accepted by the other, and not declined. -/
def StartsAccepted (world : Duplex FileOffers Sent) : Prop :=
  ∀ who, ∀ n ∈ aboutOf isStart (world.sent who),
    n ∈ aboutOf saysYes (world.sent (!who)) ∧ n ∉ aboutOf saysNo (world.sent (!who))

/-- An answer that comes in is to the offer it is taken for, and a start is for the accepted offer
it is paired with and is not aborted. -/
def PairsOwn (e : Event (Duplex FileOffers Sent) (DuplexOp Action Disk) (List Sent)) : Prop :=
  ∀ who disk message rest, e.op = .deliver who disk → e.pre.inbox who = message :: rest →
    (∀ kind, kind ≠ .dir → answerKind message.kind = some kind →
      ∃ n, (offersOut kind (e.pre.node who)).head? = some n ∧ message.about = [n]) ∧
    (isStart message.kind →
      ∃ offer, (e.pre.node who).fileAccepted.head? = some offer ∧ message.about = [offer.number] ∧
        e.out = [])

theorem Fresh.sound {nodes : Bool → FileOffers} (fresh : ∀ who, Fresh (nodes who)) (who : Bool) :
    Sound ((Duplex.start nodes).lane who) := by
  have sender := fresh who
  have receiver := fresh !who
  constructor
  · exact
      { granted := ⟨sender.granted, receiver.granted⟩
        noDir := receiver.dirOfferIn
        single := by simp [Duplex.start, Duplex.lane]
        singleStart := by simp [Duplex.start, Duplex.lane]
        coming := ⟨0, by simp [Duplex.start, Duplex.lane],
          by simp [Duplex.start, Duplex.lane, sender.made, receiver.arrived]⟩
        out := by
          intro kind notDir
          cases kind <;>
            simp_all [Duplex.start, Duplex.lane, offersOut, undecided, sender.fileOffersOut,
              sender.clipboardOffersOut, receiver.fileOffersIn]
        accepted := by
          simp [Duplex.start, Duplex.lane, receiver.fileAccepted, sender.preparing]
        started := by simp [Duplex.start, Duplex.lane, sender.preparing]
        distinct := by simp [Duplex.start, Duplex.lane, receiver.fileOffersIn]
        below := by simp [Duplex.start, Duplex.lane, receiver.fileOffersIn] }
  · exact ⟨[],
      { made := by simp [Duplex.start, Duplex.lane, sender.made]
        fileOut := by simp [Duplex.start, Duplex.lane, sender.fileOffersOut]
        clipboardOut := by
          simp [Duplex.start, Duplex.lane, sender.clipboardOffersOut, sender.preparing]
        coming := by simp [Duplex.start, Duplex.lane]
        waiting := by simp [Duplex.start, Duplex.lane, receiver.fileOffersIn]
        accepted := by simp [Duplex.start, Duplex.lane, receiver.fileAccepted] }⟩

theorem startsAccepted_of_sound {world : Duplex FileOffers Sent}
    (sound : ∀ who, Sound (world.lane who)) : StartsAccepted world := by
  intro who n started
  have inStep := (sound who).1
  have isAccepted : n ∈ aboutOf saysYes (world.sent (!who)) := by
    have same := inStep.started
    simp only [Duplex.lane] at same
    rw [same]
    exact List.mem_append_left _ started
  refine ⟨isAccepted, ?_⟩
  intro isDeclined
  have distinct := (List.nodup_append.mp inStep.distinct).2.2
  exact distinct n isAccepted n (List.mem_append_left _ isDeclined) rfl

theorem pairsOwn_of_sound {world : Duplex FileOffers Sent} {op : DuplexOp Action Disk}
    (sound : ∀ who, Sound (world.lane who)) : PairsOwn (Event.of (Duplex.step peer) world op) := by
  intro who disk message rest isOp isInbox
  obtain rfl : op = .deliver who disk := isOp
  have isUp : (world.lane who).up = message :: rest := isInbox
  have isDown : (world.lane (!who)).down = message :: rest := by simpa [Duplex.lane] using isInbox
  constructor
  · intro kind notDir isKind
    obtain ⟨n, others, about, isOut⟩ := (sound who).1.first_out notDir isUp isKind
    have isOut' : offersOut kind (world.node who) = n :: others := isOut
    exact ⟨n, by rw [Event.of_pre, isOut', List.head?_cons], about⟩
  · intro starts
    cases isKind : message.kind with
    | fileTransferStart transferId name size hash =>
        obtain ⟨first, others, isAccepted, about, isSent⟩ :=
          (sound (!who)).start_matches isDown isKind
        simp only [Duplex.lane, Bool.not_not] at isAccepted isSent
        refine ⟨first, by rw [Event.of_pre, isAccepted, List.head?_cons], about, ?_⟩
        rw [Event.of_out, Duplex.step]
        have isPre : world.inbox who = message :: rest := isInbox
        rw [isPre]
        simp [peer, isKind, receivedOp, isSent]
    | _ => simp [isKind, isStart] at starts

/-- While the answers and the hashes keep their order, what is started was accepted and not
declined, and every answer and every start is taken for its own offer. -/
theorem offers_paired_while_in_turn (nodes : Bool → FileOffers) (fresh : ∀ who, Fresh (nodes who))
    (ops : List (DuplexOp Action Disk))
    (inTurn : ∀ e ∈ history (Duplex.step peer) (.start nodes) ops,
      e.pre.Meets ActsInTurn ReceivesInTurn e.op) :
    StartsAccepted (exec (Duplex.step peer) (.start nodes) ops) ∧
      ∀ e ∈ history (Duplex.step peer) (.start nodes) ops, PairsOwn e := by
  constructor
  · exact startsAccepted_of_sound (sound_rule.run (Fresh.sound fresh) inTurn)
  · intro e member
    have sound := sound_rule.before (Fresh.sound fresh) inTurn e member
    rw [eq_of_mem_history member]
    exact pairsOwn_of_sound sound

/-- A put and a copied file are offered, accepted and started. -/
theorem put_and_copied_file_paired :
    let hash : Hash := ⟨List.replicate 32 0, rfl⟩
    let ops : List (DuplexOp Action Disk) :=
      [.act true (.putPrepared "/srv" "/home/a" (some ("a", 1, hash))),
        .act true (.clipboardFilesRead [{ path := "/home/c", entry := { name := "c", size := 3 } }]),
        .deliver false {}, .deliver false {}, .act false (.answer true none {}), .deliver true {},
        .deliver true {}, .act true (.clipboardPrepared 1 (some ("c", 3, hash))), .deliver false {},
        .deliver false {}]
    let world := exec (Duplex.step peer) (.start fun _ => {}) ops
    StartsAccepted world ∧ aboutOf isStart (world.sent true) = [0, 1] :=
  ⟨(offers_paired_while_in_turn (fun _ => {})
      (fun _ => { granted := rfl, dirOfferIn := rfl, fileOffersIn := rfl, fileOffersOut := rfl
                  clipboardOffersOut := rfl, preparing := rfl, fileAccepted := rfl, arrived := rfl
                  made := rfl }) _ (by decide)).1, by decide⟩

/-- Two files are fetched, and the second is hashed first. Its offer waits, because another file is
expected; the offer of the first is accepted on arrival, and the answer starts the second. -/
theorem fetched_file_started_in_place_of_another :
    let hash : Hash := ⟨List.replicate 32 0, rfl⟩
    let ops : List (DuplexOp Action Disk) :=
      [.act false (.fetch { name := "a", into := "/home" }),
        .act false (.fetch { name := "b", into := "/home" }),
        .act true (.fetchPrepared "/srv/b" (.ok ("b", 2, hash))),
        .act true (.fetchPrepared "/srv/a" (.ok ("a", 1, hash))),
        .deliver false {}, .deliver false {}, .deliver true {}]
    ¬ (StartsAccepted (exec (Duplex.step peer) (.start fun _ => {}) ops) ∧
      ∀ e ∈ history (Duplex.step peer) (.start fun _ => {}) ops, PairsOwn e) := by
  rintro hash ops ⟨accepted, -⟩
  have started : 0 ∈ aboutOf isStart
      ((exec (Duplex.step peer) (.start fun _ => {}) ops).sent true) := by decide
  have notAccepted : 0 ∉ aboutOf saysYes
      ((exec (Duplex.step peer) (.start fun _ => {}) ops).sent false) := by decide
  exact notAccepted (accepted true 0 started).1

end Lumepeer.Runtime.FileOffers
