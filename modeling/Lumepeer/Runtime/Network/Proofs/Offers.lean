import Lumepeer.Runtime.Network.FileOffers

/-!
# What the handlers do with an offer

The receiver of an offer answers it once (`AnswersOne`), lets it wait (`Queues`) or
is not concerned (`AnswersNone`), as long as no early exit skips an offer or
answers it before an older one (`Orderly`). `Decides` says more of the answer to
one file: what was accepted is kept beside the answer.
-/

namespace Lumepeer.Runtime.FileOffers
open Lumepeer.Lib Lumepeer.Core

/-- The three kinds of answer. -/
inductive AnswerKind where
  | file
  | dir
  | clipboard
  deriving DecidableEq

/-- The kind of answer a message is. -/
def answerKind : MessageKind → Option AnswerKind
  | .fileAccept _ => some .file
  | .dirAccept _ => some .dir
  | .clipboardFileAccept _ => some .clipboard
  | _ => none

/-- The answer of a kind. -/
def answerMessage : AnswerKind → Bool → MessageKind
  | .file => .fileAccept
  | .dir => .dirAccept
  | .clipboard => .clipboardFileAccept

/-- The kind of answer that a waiting offer asks for. -/
def IncomingOffer.answerKind : IncomingOffer → AnswerKind
  | .direct _ => .file
  | .clipboard _ => .clipboard

/-- The undecided offers of a kind, oldest first. -/
def undecided (kind : AnswerKind) (node : FileOffers) : List Nat :=
  match kind with
  | .dir => node.dirOfferIn.toList.map Numbered.number
  | kind => (node.fileOffersIn.filter fun waiting => waiting.offer.answerKind = kind).map
      Numbered.number

/-! ## The condition -/

/-- No exit of `on_file_offer_inbound` answers the offer: it waits for a person. -/
def offerWaits (node : FileOffers) (name : String) (size : UInt64) : Bool :=
  node.mayTransferFiles && (safeFileName name).isSome && size ≤ fileOfferMaxBytes &&
    node.fetchesOut.head?.all (fun fetch => some fetch.name ≠ safeFileName name) &&
    node.fileOffersIn.length < maxPendingFileOffers

/-- A call of `on_file_accept` that says yes has what it needs of the directory: the one that a
person chose, or the one for the peer's clipboard files. -/
def directoryThere (node : FileOffers) (directory : Option Path) (disk : Disk) : Bool :=
  match node.dirOfferIn, node.fileOffersIn with
  | some _, _ => directory.isSome
  | none, [] => true
  | none, { offer := .direct _, .. } :: _ => !node.mayTransferFiles || directory.isSome
  | none, { offer := .clipboard _, .. } :: _ => !node.mayTransferFiles || disk.clipboardDir

/-- No exit of the step skips an offer or answers it before an older one. -/
def Orderly (node : FileOffers) : Op → Prop
  | .fileOffer name size _ _ => node.offerWaits name size ∨ undecided .file node = []
  | .filePutOffer .. => undecided .file node = []
  | .dirOffer .. => undecided .dir node = []
  | .clipboardFileOffer files =>
      if node.mayTransferFiles then
        (∀ entry ∈ files, (safeFileName entry.name).isSome) ∧
          node.fileOffersIn.length + files.length ≤ maxPendingFileOffers
      else files.length = 1 ∧ undecided .clipboard node = []
  | .fileAccept accept directory disk => accept → node.directoryThere directory disk
  | _ => True

instance (node : FileOffers) (op : Op) : Decidable (Orderly node op) := by
  cases op <;> unfold Orderly <;> infer_instance

/-! ## What an offer says -/

/-- What an offer says of its file; a copied file has no hash yet. -/
structure Content where
  name : String
  size : UInt64
  hash : Option Hash

def PendingOffer.content (offer : PendingOffer) : Content :=
  { name := offer.name, size := offer.size, hash := some offer.hash }

def OutgoingOffer.content (offer : OutgoingOffer) : Content :=
  { name := offer.name, size := offer.size, hash := some offer.hash }

def AcceptedOffer.content (offer : AcceptedOffer) : Content :=
  { name := offer.name, size := offer.size, hash := offer.hash }

/-- What a list of copied files says of an entry. -/
def entryContent (entry : ClipboardFileEntry) : Content :=
  { name := entry.name, size := entry.size, hash := none }

def IncomingOffer.content : IncomingOffer → Content
  | .direct offer => offer.content
  | .clipboard entry => entryContent entry

/-- `safe_file_name` changes no name that it lets through. -/
theorem safeFileName_eq {name safeName : String} (isSafe : safeFileName name = some safeName) :
    safeName = name := by
  unfold safeFileName at isSafe
  dsimp only at isSafe
  repeat' split at isSafe
  all_goals simp_all

/-! ## What a handler does to the queues -/

/-- The handler answers one offer, and leaves what waits as it is. If it fails, it has refused. -/
structure AnswersOne (asked : AnswerKind) (number : Nat) (node : FileOffers)
    (result : Out × FileOffers) : Prop where
  sent : ∃ yes, result.1.sent = [{ kind := answerMessage asked yes, about := [number] }] ∧
    ∀ error, result.1.result = .error error → yes = false
  files : result.2.fileOffersIn = node.fileOffersIn
  dir : result.2.dirOfferIn = node.dirOfferIn
  arrived : result.2.arrived = node.arrived

/-- The handler answers nothing, and leaves what waits as it is. -/
structure AnswersNone (node : FileOffers) (result : Out × FileOffers) : Prop where
  sent : ∀ sent ∈ result.1.sent, answerKind sent.kind = none
  files : result.2.fileOffersIn = node.fileOffersIn
  dir : result.2.dirOfferIn = node.dirOfferIn
  arrived : result.2.arrived = node.arrived

/-- The node sends its answer to the offer of one file, and keeps what it has taken. -/
def deciding (node : FileOffers) (asked : AnswerKind) (number : Nat) (taken : Option AcceptedOffer)
    (outcome : Except ActorError Unit) : Out × FileOffers :=
  ({ sent := [{ kind := answerMessage asked taken.isSome, about := [number] }], result := outcome },
    { node with
      fileAccepted := node.fileAccepted ++ taken.toList.map fun offer => { number, offer } })

/-- The handler answers the offer of one file, and takes what was offered or nothing. -/
def Decides (asked : AnswerKind) (number : Nat) (content : Content) (node : FileOffers)
    (result : Out × FileOffers) : Prop :=
  ∃ taken outcome, result = node.deciding asked number taken outcome ∧
    (∀ offer ∈ taken, offer.content = content) ∧ ∀ error, outcome = .error error → taken = none

section
variable {node : FileOffers} {asked : AnswerKind} {number : Nat} {content : Content}
  {result : Out × FileOffers} {outcome : Except ActorError Unit}

@[simp] theorem answerKind_answerMessage {yes : Bool} :
    answerKind (answerMessage asked yes) = some asked := by
  cases asked <;> rfl

theorem decides_no :
    Decides asked number content node
      ({ sent := [{ kind := answerMessage asked false, about := [number] }], result := outcome },
        node) :=
  ⟨none, outcome, by simp [deciding], by simp, by simp⟩

theorem decides_yes (offer : AcceptedOffer) (isContent : offer.content = content) :
    Decides asked number content node
      ({ sent := [{ kind := answerMessage asked true, about := [number] }] },
        { node with fileAccepted := node.fileAccepted ++ [{ number, offer }] }) :=
  ⟨some offer, .ok (), by simp [deciding], by simpa using isContent, by simp⟩

theorem Decides.answersOne (decides : Decides asked number content node result) :
    AnswersOne asked number node result := by
  obtain ⟨taken, outcome, rfl, -, fails⟩ := decides
  refine { sent := ⟨taken.isSome, rfl, ?_⟩, files := rfl, dir := rfl, arrived := rfl }
  intro error failed
  rw [fails error failed]
  rfl

end

/-! ## The handlers of the receiver -/

section
variable {node : FileOffers} {disk : Disk}

theorem decides_onDirectOfferAccept (offer : Numbered PendingOffer) {accept : Bool}
    {directory : Option Path} (there : accept → node.mayTransferFiles → directory.isSome) :
    Decides .file offer.number offer.offer.content node
      (node.onDirectOfferAccept offer accept directory disk) := by
  unfold onDirectOfferAccept
  dsimp only
  split
  · exact decides_no
  · split
    · exact decides_no
    · cases directory with
      | none => simp_all
      | some directory =>
          dsimp only
          split
          · exact decides_no
          · exact decides_no
          · exact decides_yes _ rfl

theorem decides_onClipboardOfferAccept (entry : Numbered ClipboardFileEntry) {accept : Bool}
    (there : accept → node.mayTransferFiles → disk.clipboardDir) :
    Decides .clipboard entry.number (entryContent entry.offer) node
      (node.onClipboardOfferAccept entry accept disk) := by
  unfold onClipboardOfferAccept
  dsimp only
  split
  · exact decides_no
  · split
    · exact decides_no
    · split
      · simp_all
      · split
        · exact decides_no
        · exact decides_yes _ rfl

theorem answersOne_no {asked : AnswerKind} {number : Nat} :
    AnswersOne asked number node
      ({ sent := [{ kind := answerMessage asked false, about := [number] }] }, node) :=
  { sent := ⟨false, rfl, by simp⟩, files := rfl, dir := rfl, arrived := rfl }

theorem answersOne_acceptDirOffer (offer : Numbered IncomingDirOffer) :
    AnswersOne .dir offer.number node (node.acceptDirOffer offer disk) := by
  unfold acceptDirOffer
  split
  · exact answersOne_no
  · exact answersOne_no
  · exact { sent := ⟨true, rfl, by simp⟩, files := rfl, dir := rfl, arrived := rfl }

theorem queueOffer_eq {decline : Out} {number : Nat} {offer : PendingOffer} :
    node.queueOffer decline number offer =
      if node.fileOffersIn.length < maxPendingFileOffers then
        ({}, { node with
          fileOffersIn := node.fileOffersIn ++ [{ number, offer := .direct offer }] })
      else (decline, node) := by
  unfold queueOffer
  by_cases room : node.fileOffersIn.length < maxPendingFileOffers
  · rw [if_pos room, if_neg (Nat.not_le.mpr room)]
  · rw [if_neg room, if_pos (Nat.not_lt.mp room)]

/-- An offer that waits goes to the end of the queue. -/
theorem onFileOfferInbound_waits {name : String} {size : UInt64} {hash : Hash}
    (waits : node.offerWaits name size = true) :
    node.onFileOfferInbound name size hash disk =
      ({}, { node with
        arrived := node.arrived + 1
        fileOffersIn := node.fileOffersIn ++
          [{ number := node.arrived, offer := .direct { name, size, hash } }] }) := by
  simp only [offerWaits, Bool.and_eq_true, decide_eq_true_eq] at waits
  obtain ⟨⟨⟨⟨granted, safe⟩, small⟩, notFetched⟩, room⟩ := waits
  obtain ⟨safeName, isSafe⟩ := Option.isSome_iff_exists.mp safe
  obtain rfl := safeFileName_eq isSafe
  have fits : ¬ size > fileOfferMaxBytes := UInt64.not_lt.mpr small
  unfold onFileOfferInbound
  simp only [granted, isSafe, fits, Bool.not_true, Bool.false_eq_true, if_false, queueOffer_eq, room,
    if_true]
  cases isFetch : node.fetchesOut with
  | nil => rfl
  | cons fetch fetches =>
      have other : fetch.name ≠ safeName := by simpa [isFetch, isSafe] using notFetched
      simp [other]

/-- Any other offer is answered on arrival; what was fetched goes where the user wanted it. -/
theorem decides_onFileOfferInbound {name : String} {size : UInt64} {hash : Hash}
    (answered : node.offerWaits name size = false) :
    ∃ fetches, Decides .file node.arrived { name, size, hash := some hash }
      { node with arrived := node.arrived + 1, fetchesOut := fetches }
      (node.onFileOfferInbound name size hash disk) := by
  unfold onFileOfferInbound
  dsimp only
  split
  · exact ⟨node.fetchesOut, decides_no⟩
  · rename_i granted
    split
    · exact ⟨node.fetchesOut, decides_no⟩
    · rename_i safeName isSafe
      obtain rfl := safeFileName_eq isSafe
      split
      · exact ⟨node.fetchesOut, decides_no⟩
      · rename_i fits
        have full (notFetched : node.fetchesOut.head?.all fun fetch => some fetch.name ≠ some safeName) :
            ¬ node.fileOffersIn.length < maxPendingFileOffers := by
          intro room
          have small : size ≤ fileOfferMaxBytes := UInt64.not_lt.mp fits
          simp_all [offerWaits]
        split
        · rename_i fetch fetches isFetch
          split
          · -- What fails is not returned to the peer.
            let fetched : FileOffers :=
              { node with arrived := node.arrived + 1, fetchesOut := fetches }
            obtain ⟨taken, outcome, isResult, isContent, -⟩ :
                Decides .file node.arrived { name := safeName, size, hash := some hash } fetched
                  (fetched.onDirectOfferAccept
                    { number := node.arrived, offer := { name := safeName, size, hash } } true
                    (some fetch.into) disk) :=
              decides_onDirectOfferAccept _ (by simp)
            refine ⟨fetches, taken, .ok (), ?_, isContent, by simp⟩
            rw [isResult]
            rfl
          · rename_i other
            rw [queueOffer_eq, if_neg (full (by simpa [isFetch] using other))]
            exact ⟨node.fetchesOut, decides_no⟩
        · rename_i isFetch
          rw [queueOffer_eq, if_neg (full (by simp [isFetch]))]
          exact ⟨node.fetchesOut, decides_no⟩

theorem decides_onFilePutOffer {dir name : String} {size : UInt64} {hash : Hash} :
    Decides .file node.arrived { name, size, hash := some hash }
      { node with arrived := node.arrived + 1 } (node.onFilePutOffer dir name size hash disk) := by
  unfold onFilePutOffer
  dsimp only
  split
  · exact decides_no
  · split
    · rename_i isSafe
      obtain rfl := safeFileName_eq isSafe
      split
      · exact decides_no
      · split
        · split
          · exact decides_no
          · exact decides_yes _ rfl
        · exact decides_no
    · exact decides_no

/-- While no directory waits, a new one is answered on arrival or waits. -/
theorem onDirOfferInbound_cases {name : String} {dir : Option String} {entries : List ManifestEntry}
    (nothing : node.dirOfferIn = none) :
    AnswersOne .dir node.arrived { node with arrived := node.arrived + 1 }
        (node.onDirOfferInbound name dir entries disk) ∨
      ∃ offer, node.onDirOfferInbound name dir entries disk =
        ({}, { node with
          arrived := node.arrived + 1
          dirOfferIn := some { number := node.arrived, offer } }) := by
  unfold onDirOfferInbound
  dsimp only
  split
  · exact .inl (answersOne_no)
  · split
    · exact .inl (answersOne_no)
    · rename_i safeName isSafe
      split
      · exact .inl (answersOne_no)
      · split
        · split
          · exact .inl (answersOne_no)
          · split
            · exact .inl (answersOne_no)
            · exact .inl (answersOne_acceptDirOffer { number := node.arrived, offer := _ })
        · split
          · split
            · rename_i fetch fetches isFetch isName
              let fetched : FileOffers :=
                { node with arrived := node.arrived + 1, fetchesOut := fetches }
              have one : AnswersOne .dir node.arrived fetched (fetched.acceptDirOffer _ disk) :=
                answersOne_acceptDirOffer
                  { number := node.arrived, offer := { name := safeName, dir := none, entries } }
              exact .inl { sent := one.sent, files := one.files, dir := one.dir, arrived := one.arrived }
            · exact .inr ⟨_, by simp [queueDirOffer, nothing]; rfl⟩
          · exact .inr ⟨_, by simp [queueDirOffer, nothing]; rfl⟩

/-- The entries of a list of copied files, numbered from `first`. -/
def numbered {α : Type} (first : Nat) (entries : List α) : List (Numbered α) :=
  List.zipWith (fun number offer => { number, offer }) (List.range' first entries.length) entries

/-- With safe names and room for all of them, every entry of a list waits. -/
theorem queueClipboardEntries_eq {files : List ClipboardFileEntry} {number : Nat}
    {queue : List (Numbered IncomingOffer)}
    (safe : ∀ entry ∈ files, (safeFileName entry.name).isSome)
    (room : queue.length + files.length ≤ maxPendingFileOffers) :
    queueClipboardEntries queue number files =
      queue ++ numbered number (files.map IncomingOffer.clipboard) := by
  induction files generalizing queue number with
  | nil => simp [queueClipboardEntries, numbered]
  | cons entry rest ih =>
      obtain ⟨name, isSafe⟩ := Option.isSome_iff_exists.mp (safe entry (by simp))
      have isName : name = entry.name := safeFileName_eq isSafe
      rw [List.length_cons] at room
      have notFull : ¬ queue.length ≥ maxPendingFileOffers := by omega
      have stillRoom (queued : Numbered IncomingOffer) :
          (queue ++ [queued]).length + rest.length ≤ maxPendingFileOffers := by
        rw [List.length_append, List.length_singleton]
        omega
      rw [queueClipboardEntries, if_neg notFull, isSafe]
      dsimp only
      rw [ih (fun entry member => safe entry (by simp [member])) (stillRoom _), List.append_assoc,
        isName]
      simp [numbered, List.range'_succ]

theorem map_number_numbered {α : Type} (first : Nat) (entries : List α) :
    (numbered first entries).map Numbered.number = List.range' first entries.length := by
  induction entries generalizing first with
  | nil => rfl
  | cons entry rest ih => simpa [numbered, List.range'_succ] using ih (first + 1)

theorem exists_of_mem_numbered {α : Type} {first : Nat} {entries : List α} {waiting : Numbered α}
    (member : waiting ∈ numbered first entries) :
    ∃ k, waiting.number = first + k ∧ entries[k]? = some waiting.offer := by
  induction entries generalizing first with
  | nil => simp [numbered] at member
  | cons entry rest ih =>
      simp only [numbered, List.length_cons, List.range'_succ, List.zipWith_cons_cons,
        List.mem_cons] at member
      rcases member with rfl | later
      · exact ⟨0, rfl, rfl⟩
      · obtain ⟨k, isNumber, isEntry⟩ := ih later
        exact ⟨k + 1, by omega, by simpa using isEntry⟩

theorem answerKind_of_mem_numbered (first : Nat) (files : List ClipboardFileEntry) :
    ∀ waiting ∈ numbered first (files.map IncomingOffer.clipboard),
      waiting.offer.answerKind = .clipboard := by
  intro waiting member
  obtain ⟨k, -, isEntry⟩ := exists_of_mem_numbered member
  rw [List.getElem?_map] at isEntry
  obtain ⟨entry, -, isOffer⟩ := Option.map_eq_some_iff.mp isEntry
  rw [← isOffer]
  rfl

end

/-! ## Steps -/

section
variable {node : FileOffers} {kind : AnswerKind}

theorem undecided_congr {next : FileOffers} (files : next.fileOffersIn = node.fileOffersIn)
    (dir : next.dirOfferIn = node.dirOfferIn) : undecided kind next = undecided kind node := by
  cases kind <;> simp [undecided, files, dir]

theorem undecided_append {next : FileOffers} {asked : AnswerKind}
    (new : List (Numbered IncomingOffer)) (files : next.fileOffersIn = node.fileOffersIn ++ new)
    (dir : next.dirOfferIn = node.dirOfferIn)
    (isAsked : ∀ waiting ∈ new, waiting.offer.answerKind = asked) :
    undecided kind next =
      undecided kind node ++ if kind = asked then new.map Numbered.number else [] := by
  have notDir : ∀ offer : IncomingOffer, offer.answerKind ≠ .dir := by
    intro offer
    cases offer <;> simp [IncomingOffer.answerKind]
  have filtered : (new.filter fun waiting => waiting.offer.answerKind = kind) =
      if kind = asked then new else [] := by
    split
    · rename_i same
      rw [List.filter_eq_self]
      intro waiting member
      simp [isAsked waiting member, same]
    · rename_i other
      rw [List.filter_eq_nil_iff]
      intro waiting member
      simp [isAsked waiting member, Ne.symm other]
  cases kind with
  | dir =>
      have nothing : (if AnswerKind.dir = asked then new.map Numbered.number else []) = [] := by
        cases new with
        | nil => simp
        | cons first rest =>
            rw [if_neg]
            intro same
            exact notDir first.offer ((isAsked first (by simp)).trans same.symm)
      rw [nothing, List.append_nil]
      simp only [undecided, dir]
  | file =>
      simp only [undecided, files, List.filter_append, List.map_append, filtered]
      split <;> rfl
  | clipboard =>
      simp only [undecided, files, List.filter_append, List.map_append, filtered]
      split <;> rfl

/-- The first offer of the queue is the oldest one of its kind. -/
theorem undecided_cons {first : Numbered IncomingOffer} {rest : List (Numbered IncomingOffer)}
    (files : node.fileOffersIn = first :: rest) (dir : node.dirOfferIn = none) :
    undecided kind node =
      if kind = first.offer.answerKind then first.number :: undecided kind { node with fileOffersIn := rest }
      else undecided kind { node with fileOffersIn := rest } := by
  obtain ⟨number, offer⟩ := first
  cases kind <;> cases offer <;> simp [undecided, files, dir, IncomingOffer.answerKind]

/-- The answer is to the directory that waits, or else to the first offer of the queue. -/
theorem onFileAccept_cases {accept : Bool} {directory : Option Path} {disk : Disk}
    (there : accept → node.directoryThere directory disk) :
    (node.dirOfferIn = none ∧ node.fileOffersIn = [] ∧
        node.onFileAccept accept directory disk = ({ result := .error .unknownPeer }, node)) ∨
      (∃ offer, node.dirOfferIn = some offer ∧
        AnswersOne .dir offer.number { node with dirOfferIn := none }
          (node.onFileAccept accept directory disk)) ∨
      ∃ first rest, node.dirOfferIn = none ∧ node.fileOffersIn = first :: rest ∧
        Decides first.offer.answerKind first.number first.offer.content
          { node with fileOffersIn := rest } (node.onFileAccept accept directory disk) := by
  unfold onFileAccept
  unfold directoryThere at there
  split
  · rename_i offer isDir
    refine .inr (.inl ⟨offer, isDir, ?_⟩)
    rw [isDir] at there
    dsimp only
    split
    · exact answersOne_no
    · cases directory with
      | none => simp_all
      | some directory => exact answersOne_acceptDirOffer offer
  · rename_i isDir
    split
    · rename_i isFiles
      exact .inl ⟨isDir, isFiles, rfl⟩
    · rename_i number offer rest isFiles
      refine .inr (.inr ⟨{ number, offer }, rest, isDir, isFiles, ?_⟩)
      rw [isDir, isFiles] at there
      cases offer with
      | direct offer =>
          refine decides_onDirectOfferAccept { number, offer } ?_
          simpa [Decidable.imp_iff_not_or] using there
      | clipboard entry =>
          refine decides_onClipboardOfferAccept { number, offer := entry } ?_
          simpa [Decidable.imp_iff_not_or] using there

/-! The steps of a sender, and the starts of transfers, answer nothing. -/

theorem answersNone_silent {next : FileOffers} (files : next.fileOffersIn = node.fileOffersIn)
    (dir : next.dirOfferIn = node.dirOfferIn) (arrived : next.arrived = node.arrived) :
    AnswersNone node ({}, next) :=
  { sent := by simp, files, dir, arrived }

theorem answersNone_onFileTransferStart (transferId : UInt64) (name : String) (size : UInt64)
    (hash : Hash) : AnswersNone node (node.onFileTransferStart transferId name size hash) := by
  unfold onFileTransferStart
  dsimp only
  split
  · exact { sent := by simp [answerKind], files := rfl, dir := rfl, arrived := rfl }
  · split
    · exact { sent := by simp [answerKind], files := rfl, dir := rfl, arrived := rfl }
    · split
      · exact { sent := by simp [answerKind], files := rfl, dir := rfl, arrived := rfl }
      · exact answersNone_silent rfl rfl rfl

theorem answersNone_onFetchPrepared (path : Path)
    (prepared : Except FileFetchRefusal (String × UInt64 × Hash)) :
    AnswersNone node (node.onFetchPrepared path prepared) := by
  unfold onFetchPrepared
  split
  · exact { sent := by simp [answerKind], files := rfl, dir := rfl, arrived := rfl }
  · split
    · exact { sent := by simp [answerKind], files := rfl, dir := rfl, arrived := rfl }
    · split
      · exact { sent := by simp [answerKind], files := rfl, dir := rfl, arrived := rfl }
      · exact { sent := by simp [answerKind], files := rfl, dir := rfl, arrived := rfl }

theorem answersNone_onPutPrepared (dir : String) (path : Path)
    (prepared : Option (String × UInt64 × Hash)) :
    AnswersNone node (node.onPutPrepared dir path prepared) := by
  unfold onPutPrepared
  split
  · exact answersNone_silent rfl rfl rfl
  · split
    · exact answersNone_silent rfl rfl rfl
    · split
      · exact answersNone_silent rfl rfl rfl
      · exact { sent := by simp [answerKind], files := rfl, dir := rfl, arrived := rfl }

theorem answersNone_onClipboardFilesRead (files : List ClipboardOut) :
    AnswersNone node (node.onClipboardFilesRead files) := by
  unfold onClipboardFilesRead
  split
  · exact answersNone_silent rfl rfl rfl
  · exact { sent := by simp [answerKind], files := rfl, dir := rfl, arrived := rfl }

theorem answersNone_onFileAcceptInbound (accepted : Bool) :
    AnswersNone node (node.onFileAcceptInbound accepted) := by
  unfold onFileAcceptInbound
  split
  · exact answersNone_silent rfl rfl rfl
  · split
    · exact answersNone_silent rfl rfl rfl
    · split
      · exact answersNone_silent rfl rfl rfl
      · exact { sent := by simp [announce, answerKind], files := rfl, dir := rfl, arrived := rfl }

theorem answersNone_onClipboardFileAcceptInbound (accepted : Bool) :
    AnswersNone node (node.onClipboardFileAcceptInbound accepted) := by
  unfold onClipboardFileAcceptInbound
  split
  · exact answersNone_silent rfl rfl rfl
  · split
    · exact answersNone_silent rfl rfl rfl
    · split
      · exact answersNone_silent rfl rfl rfl
      · exact answersNone_silent rfl rfl rfl

theorem answersNone_onClipboardPrepared (number : Nat)
    (prepared : Option (String × UInt64 × Hash)) :
    AnswersNone node (node.onClipboardPrepared number prepared) := by
  unfold onClipboardPrepared
  split
  · exact answersNone_silent rfl rfl rfl
  · split
    · exact answersNone_silent rfl rfl rfl
    · dsimp only
      split
      · exact answersNone_silent rfl rfl rfl
      · exact { sent := by simp [announce, answerKind], files := rfl, dir := rfl, arrived := rfl }

/-- The steps of a sender. -/
def Op.ofSender : Op → Bool
  | .fetch _ => true
  | .fileFetchRefused => true
  | .fetchPrepared .. => true
  | .putPrepared .. => true
  | .clipboardFilesRead _ => true
  | .fileAcceptInbound _ => true
  | .clipboardFileAcceptInbound _ => true
  | .clipboardPrepared .. => true
  | _ => false

theorem answersNone_of_sender {op : Op} (isSender : op.ofSender = true) :
    AnswersNone node (node.step op) := by
  cases op with
  | fetch => exact answersNone_silent rfl rfl rfl
  | fileFetchRefused => exact answersNone_silent rfl rfl rfl
  | fetchPrepared => exact answersNone_onFetchPrepared _ _
  | putPrepared => exact answersNone_onPutPrepared _ _ _
  | clipboardFilesRead => exact answersNone_onClipboardFilesRead _
  | fileAcceptInbound => exact answersNone_onFileAcceptInbound _
  | clipboardFileAcceptInbound => exact answersNone_onClipboardFileAcceptInbound _
  | clipboardPrepared => exact answersNone_onClipboardPrepared _ _
  | _ => cases isSender

end

end Lumepeer.Runtime.FileOffers
