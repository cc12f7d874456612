import Lumepeer.Core.Message
import Lumepeer.Core.RemotePath
import Lumepeer.Lib.Duplex

/-!
# File offers and their answers

What one actor of `crates/runtime/src/network.rs` keeps about the files that it
and one peer offer each other: the offers waiting for an answer on either side
and the accepted ones waiting for their start. A clipboard file that was accepted
is hashed by a task of its own, and a task may finish at any time after it was
spawned. What the disk answers is an argument. Every offer bears a number, the
position in which it was made or came in; the source has none and pairs an answer
with the oldest offer, which is what the numbers are here to judge. A message is
sent with the numbers of the offers it is about. `send_to` drops a message when the
connection's queue of 8 is full; here every message is sent.
-/

namespace Lumepeer.Runtime
open Lumepeer.Lib Lumepeer.Core

/-- `ActorError`, as far as an answer to an offer returns it. -/
inductive ActorError where
  | unknownPeer
  | malformed
  | notPermitted
  | noSpace
  | io
  deriving DecidableEq

namespace FileOffers

/-- A path of this machine. -/
abbrev Path := String

/-- `[u8; 32]`, a BLAKE3 hash. -/
abbrev Hash := Bytes 32

/-- `safe_file_name` (`net/src/file_transfer.rs:329-363`). -/
def safeFileName (name : String) : Option String :=
  let chars := name.toList
  if chars.isEmpty || utf8Len chars > fileNameMaxBytes then none
  else if chars.any isControl then none
  else if chars.contains ':' || chars.contains '/' || chars.contains '\\' then none
  else if chars = ['.'] || chars = ['.', '.'] then none
  else if chars.getLast? = some '.' || chars.getLast? = some ' ' then none
  else if RemotePath.windowsDeviceNames.contains (RemotePath.stem chars) then none
  else some name

/-- `PendingOffer` (`network.rs:3738-3743`). -/
structure PendingOffer where
  name : String
  size : UInt64
  hash : Hash
  deriving DecidableEq

/-- `IncomingOffer` (`network.rs:3698-3705`). -/
inductive IncomingOffer where
  | direct (offer : PendingOffer)
  | clipboard (entry : ClipboardFileEntry)
  deriving DecidableEq

/-- `IncomingDirOffer` (`network.rs:3651-3657`). -/
structure IncomingDirOffer where
  name : String
  dir : Option String
  entries : List ManifestEntry
  deriving DecidableEq

/-- `OutgoingOffer` (`network.rs:3620-3625`). -/
structure OutgoingOffer where
  path : Path
  name : String
  size : UInt64
  hash : Hash
  deriving DecidableEq

/-- An entry of `clipboard_offers_out`: the path the source keeps, and what was offered for it. -/
structure ClipboardOut where
  path : Path
  entry : ClipboardFileEntry
  deriving DecidableEq

/-- `AcceptedOffer` (`network.rs:3672-3694`). -/
structure AcceptedOffer where
  name : String
  size : UInt64
  hash : Option Hash
  destination : Path
  fromClipboard : Bool
  deriving DecidableEq

/-- `PendingFetch` (`network.rs:3634-3637`). -/
structure PendingFetch where
  name : String
  into : Path
  deriving DecidableEq

/-- An offer with its number. -/
structure Numbered (α : Type) where
  number : Nat
  offer : α
  deriving DecidableEq

/-- What the disk answers during one step. -/
structure Disk where
  /-- A free name in the chosen directory, `none` without room (`network.rs:14845-14848`). -/
  direct : Except Unit (Option Path) := .ok (some "")
  /-- The same for a put, with `true` for no room and `false` for no directory
  (`network.rs:7735-7743`). -/
  put : Except Unit (Except Bool Path) := .ok (.ok "")
  /-- The directory laid out, with the files to come; `none` without room
  (`network.rs:8040-8065`). -/
  tree : Except Unit (Option (List (Path × String × UInt64))) := .ok (some [])
  /-- There is a data directory, and a directory for the peer can be made in it. -/
  clipboardDir : Bool := true
  clipboardRoom : Bool := true
  clipboardDestination : Path := ""

/-- A message, with the numbers of the offers it is about. -/
structure Sent where
  kind : MessageKind
  about : List Nat := []
  deriving DecidableEq

/-- What a step sends, and what a call of the user returns. -/
structure Out where
  sent : List Sent := []
  result : Except ActorError Unit := .ok ()

end FileOffers

open FileOffers in
/-- The actor's offers with one peer. -/
structure FileOffers where
  mayTransferFiles : Bool := true
  mayFetchOrPut : Bool := true
  fileManageToHost : Bool := true
  speaksClipboardFiles : Bool := true
  offerCeiling : UInt64 := fileOfferMaxBytes
  dirOfferIn : Option (Numbered IncomingDirOffer) := none
  fileOffersIn : List (Numbered IncomingOffer) := []
  fileOffersOut : List (Numbered OutgoingOffer) := []
  clipboardOffersOut : List (Numbered ClipboardOut) := []
  /-- The files that tasks are hashing, in the order in which they were accepted. -/
  preparing : List (Numbered ClipboardOut) := []
  fileAccepted : List (Numbered AcceptedOffer) := []
  fetchesOut : List PendingFetch := []
  nextTransferId : UInt64 := 0
  /-- How many offers came in. -/
  arrived : Nat := 0
  /-- How many offers were made. -/
  made : Nat := 0

namespace FileOffers

/-! ## The receiver of an offer -/

/-- `Actor::on_direct_offer_accept` (`network.rs:14818-14879`). -/
def onDirectOfferAccept (node : FileOffers) (offer : Numbered PendingOffer) (accept : Bool)
    (directory : Option Path) (disk : Disk) : Out × FileOffers :=
  let decline : Sent := { kind := .fileAccept false, about := [offer.number] }
  if !accept then ({ sent := [decline] }, node)
  else if !node.mayTransferFiles then ({ sent := [decline], result := .error .notPermitted }, node)
  else
    match directory with
    | none => ({ result := .error .malformed }, node)
    | some _ =>
        match disk.direct with
        | .error _ => ({ sent := [decline], result := .error .io }, node)
        | .ok none => ({ sent := [decline], result := .error .noSpace }, node)
        | .ok (some destination) =>
            ({ sent := [{ kind := .fileAccept true, about := [offer.number] }] }, { node with
              fileAccepted := node.fileAccepted ++
                [{ number := offer.number
                   offer :=
                    { name := offer.offer.name, size := offer.offer.size
                      hash := some offer.offer.hash, destination, fromClipboard := false } }] })

/-- `Actor::on_clipboard_offer_accept` (`network.rs:14890-14934`). -/
def onClipboardOfferAccept (node : FileOffers) (entry : Numbered ClipboardFileEntry) (accept : Bool)
    (disk : Disk) : Out × FileOffers :=
  let decline : Sent := { kind := .clipboardFileAccept false, about := [entry.number] }
  if !accept then ({ sent := [decline] }, node)
  else if !node.mayTransferFiles then ({ sent := [decline], result := .error .notPermitted }, node)
  else if !disk.clipboardDir then ({ result := .error .io }, node)
  else if !disk.clipboardRoom then ({ sent := [decline], result := .error .noSpace }, node)
  else
    ({ sent := [{ kind := .clipboardFileAccept true, about := [entry.number] }] }, { node with
      fileAccepted := node.fileAccepted ++
        [{ number := entry.number
           offer :=
            { name := entry.offer.name, size := entry.offer.size, hash := none
              destination := disk.clipboardDestination, fromClipboard := true } }] })

/-- `Actor::accept_dir_offer` (`network.rs:8030-8122`). -/
def acceptDirOffer (node : FileOffers) (offer : Numbered IncomingDirOffer) (disk : Disk) :
    Out × FileOffers :=
  match disk.tree with
  | .error _ => ({ sent := [{ kind := .dirAccept false, about := [offer.number] }] }, node)
  | .ok none => ({ sent := [{ kind := .dirAccept false, about := [offer.number] }] }, node)
  | .ok (some files) =>
      ({ sent := [{ kind := .dirAccept true, about := [offer.number] }] }, { node with
        fileAccepted := node.fileAccepted ++ files.map fun (destination, name, size) =>
          { number := offer.number
            offer := { name, size, hash := none, destination, fromClipboard := false } }
        -- One id for the group and one for each file.
        nextTransferId := node.nextTransferId + 1 + UInt64.ofNat files.length })

/-- `Actor::on_file_accept` (`network.rs:14781-14815`). -/
def onFileAccept (node : FileOffers) (accept : Bool) (directory : Option Path) (disk : Disk) :
    Out × FileOffers :=
  match node.dirOfferIn with
  | some offer =>
      let taken := { node with dirOfferIn := none }
      if !accept then ({ sent := [{ kind := .dirAccept false, about := [offer.number] }] }, taken)
      else
        match directory with
        | none => ({ result := .error .malformed }, taken)
        | some _ => taken.acceptDirOffer offer disk
  | none =>
      match node.fileOffersIn with
      | [] => ({ result := .error .unknownPeer }, node)
      | { number, offer } :: rest =>
          let taken := { node with fileOffersIn := rest }
          match offer with
          | .direct offer => taken.onDirectOfferAccept { number, offer } accept directory disk
          | .clipboard offer => taken.onClipboardOfferAccept { number, offer } accept disk

/-- An offer that waits for a person (`network.rs:15559-15568`). -/
def queueOffer (node : FileOffers) (decline : Out) (number : Nat) (offer : PendingOffer) :
    Out × FileOffers :=
  if node.fileOffersIn.length ≥ maxPendingFileOffers then (decline, node)
  else ({}, { node with
    fileOffersIn := node.fileOffersIn ++ [{ number, offer := .direct offer }] })

/-- `Actor::on_file_offer_inbound` (`network.rs:15512-15569`). -/
def onFileOfferInbound (node : FileOffers) (name : String) (size : UInt64) (hash : Hash)
    (disk : Disk) : Out × FileOffers :=
  let number := node.arrived
  let node := { node with arrived := node.arrived + 1 }
  let decline : Out := { sent := [{ kind := .fileAccept false, about := [number] }] }
  if !node.mayTransferFiles then (decline, node)
  else
    match safeFileName name with
    | none => (decline, node)
    | some name =>
        if size > fileOfferMaxBytes then (decline, node)
        else
          match node.fetchesOut with
          | fetch :: fetches =>
              if fetch.name = name then
                -- The request was the decision.
                let (out, node) := { node with fetchesOut := fetches }.onDirectOfferAccept
                  { number, offer := { name, size, hash } } true (some fetch.into) disk
                ({ out with result := .ok () }, node)
              else node.queueOffer decline number { name, size, hash }
          | [] => node.queueOffer decline number { name, size, hash }

/-- `Actor::on_file_put_offer` (`network.rs:7664-7748`). -/
def onFilePutOffer (node : FileOffers) (dir name : String) (size : UInt64) (hash : Hash)
    (disk : Disk) : Out × FileOffers :=
  let number := node.arrived
  let node := { node with arrived := node.arrived + 1 }
  let decline : Out := { sent := [{ kind := .fileAccept false, about := [number] }] }
  if !node.mayFetchOrPut then (decline, node)
  else
    match RemotePath.safeBrowsePath dir.toList, safeFileName name with
    | some _, some name =>
        if size > fileOfferMaxBytes then (decline, node)
        else
          match disk.put with
          | .ok (.ok destination) =>
              if node.fileAccepted.length ≥ maxPendingFileOffers then (decline, node)
              else
                ({ sent := [{ kind := .fileAccept true, about := [number] }] }, { node with
                  fileAccepted := node.fileAccepted ++
                    [{ number
                       offer := { name, size, hash := some hash, destination
                                  fromClipboard := false } }] })
          | _ => (decline, node)
    | _, _ => (decline, node)

/-- One directory waits for a person at a time (`network.rs:8012-8020`). -/
def queueDirOffer (node : FileOffers) (decline : Out) (offer : Numbered IncomingDirOffer) :
    Out × FileOffers :=
  if node.dirOfferIn.isSome then (decline, node) else ({}, { node with dirOfferIn := some offer })

/-- `Actor::on_dir_offer_inbound` (`network.rs:7936-8020`). -/
def onDirOfferInbound (node : FileOffers) (name : String) (dir : Option String)
    (entries : List ManifestEntry) (disk : Disk) : Out × FileOffers :=
  let number := node.arrived
  let node := { node with arrived := node.arrived + 1 }
  let decline : Out := { sent := [{ kind := .dirAccept false, about := [number] }] }
  if !node.mayTransferFiles then (decline, node)
  else
    match safeFileName name with
    | none => (decline, node)
    | some name =>
        if entries.length > maxDirManifestEntries ||
            entries.any (fun entry => (RemotePath.relativeComponents entry.path.toList).isNone) then
          (decline, node)
        else
          let offer : Numbered IncomingDirOffer := { number, offer := { name, dir, entries } }
          match dir with
          | some destination =>
              if !node.mayFetchOrPut then (decline, node)
              else if (RemotePath.safeBrowsePath destination.toList).isNone then (decline, node)
              else node.acceptDirOffer offer disk
          | none =>
              match node.fetchesOut with
              | fetch :: fetches =>
                  if fetch.name = name then
                    { node with fetchesOut := fetches }.acceptDirOffer offer disk
                  else node.queueDirOffer decline offer
              | [] => node.queueDirOffer decline offer

/-- The loop of `on_clipboard_file_offer_inbound` (`network.rs:15756-15773`). -/
def queueClipboardEntries (queue : List (Numbered IncomingOffer)) :
    Nat → List ClipboardFileEntry → List (Numbered IncomingOffer)
  | _, [] => queue
  | number, entry :: rest =>
      if queue.length ≥ maxPendingFileOffers then queue
      else
        match safeFileName entry.name with
        | none => queueClipboardEntries queue (number + 1) rest
        | some name =>
            queueClipboardEntries
              (queue ++ [{ number, offer := .clipboard { name, size := entry.size } }])
              (number + 1) rest

/-- `Actor::on_clipboard_file_offer_inbound` (`network.rs:15747-15778`). -/
def onClipboardFileOfferInbound (node : FileOffers) (files : List ClipboardFileEntry) :
    Out × FileOffers :=
  let first := node.arrived
  let node := { node with arrived := node.arrived + files.length }
  if !node.mayTransferFiles then
    -- One answer, for the first entry if there is one.
    ({ sent := [{ kind := .clipboardFileAccept false, about := (List.range' first files.length).take 1 }] },
      node)
  else ({}, { node with fileOffersIn := queueClipboardEntries node.fileOffersIn first files })

/-- `Actor::on_file_transfer_start` (`network.rs:15633-15740`), as far as it is about offers. -/
def onFileTransferStart (node : FileOffers) (transferId : UInt64) (name : String) (size : UInt64)
    (hash : Hash) : Out × FileOffers :=
  let abort : Out := { sent := [{ kind := .fileAbort transferId }] }
  if !node.mayTransferFiles then (abort, node)
  else
    match node.fileAccepted with
    | [] => (abort, node)
    | accepted :: rest =>
        let popped := { node with fileAccepted := rest }
        if accepted.offer.name ≠ name || accepted.offer.size ≠ size ||
            accepted.offer.hash.any (· ≠ hash) then (abort, popped)
        else ({}, popped)

/-- `Actor::on_file_fetch_refused` (`network.rs:7752-7761`), as far as it is about offers. -/
def onFileFetchRefused (node : FileOffers) : Out × FileOffers :=
  ({}, { node with fetchesOut := node.fetchesOut.tail })

/-! ## The sender of an offer -/

/-- `Actor::on_fetch_prepared` (`network.rs:7609-7651`); the source names why a file could not be
read. -/
def onFetchPrepared (node : FileOffers) (path : Path)
    (prepared : Except FileFetchRefusal (String × UInt64 × Hash)) : Out × FileOffers :=
  if !node.mayFetchOrPut then ({ sent := [{ kind := .fileFetchRefused .notGranted }] }, node)
  else
    match prepared with
    | .error reason => ({ sent := [{ kind := .fileFetchRefused reason }] }, node)
    | .ok (name, size, hash) =>
        if size > node.offerCeiling then
          ({ sent := [{ kind := .fileFetchRefused .unreadable }] }, node)
        else
          ({ sent := [{ kind := .fileOffer name size hash, about := [node.made] }] }, { node with
            fileOffersOut := node.fileOffersOut ++
              [{ number := node.made, offer := { path, name, size, hash } }]
            made := node.made + 1 })

/-- `Actor::on_put_prepared` (`network.rs:7765-7818`). -/
def onPutPrepared (node : FileOffers) (dir : String) (path : Path)
    (prepared : Option (String × UInt64 × Hash)) : Out × FileOffers :=
  if !node.mayTransferFiles || !node.fileManageToHost then ({}, node)
  else
    match prepared with
    | none => ({}, node)
    | some (name, size, hash) =>
        if size > node.offerCeiling then ({}, node)
        else
          ({ sent := [{ kind := .filePutOffer dir name size hash, about := [node.made] }] },
            { node with
              fileOffersOut := node.fileOffersOut ++
                [{ number := node.made, offer := { path, name, size, hash } }]
              made := node.made + 1 })

/-- `Actor::on_clipboard_files_read` (`network.rs:14761-14778`). -/
def onClipboardFilesRead (node : FileOffers) (files : List ClipboardOut) : Out × FileOffers :=
  if !node.mayTransferFiles || !node.speaksClipboardFiles then ({}, node)
  else
    let numbers := List.range' node.made files.length
    ({ sent := [{ kind := .clipboardFileOffer (files.map fun file => file.entry), about := numbers }] },
      { node with
        clipboardOffersOut := node.clipboardOffersOut ++
          List.zipWith (fun number offer => { number, offer }) numbers files
        made := node.made + files.length })

/-- The announcement of a transfer (`network.rs:15592-15602`, `15850-15860`). -/
def announce (node : FileOffers) (number : Nat) (name : String) (size : UInt64) (hash : Hash) :
    Out × FileOffers :=
  ({ sent := [{ kind := .fileTransferStart node.nextTransferId name size hash, about := [number] }] },
    { node with nextTransferId := node.nextTransferId + 1 })

/-- `Actor::on_file_accept_inbound` (`network.rs:15572-15629`), as far as it is about offers. -/
def onFileAcceptInbound (node : FileOffers) (accepted : Bool) : Out × FileOffers :=
  match node.fileOffersOut with
  | [] => ({}, node)
  | { number, offer } :: rest =>
      let popped := { node with fileOffersOut := rest }
      if !accepted then ({}, popped)
      else if !node.mayTransferFiles then ({}, popped)
      else popped.announce number offer.name offer.size offer.hash

/-- `Actor::on_clipboard_file_accept_inbound` (`network.rs:15788-15826`). -/
def onClipboardFileAcceptInbound (node : FileOffers) (accepted : Bool) : Out × FileOffers :=
  match node.clipboardOffersOut with
  | [] => ({}, node)
  | offer :: rest =>
      let popped := { node with clipboardOffersOut := rest }
      if !accepted then ({}, popped)
      else if !node.mayTransferFiles then ({}, popped)
      else ({}, { popped with preparing := node.preparing ++ [offer] })

/-- `Actor::on_clipboard_transfer_ready` (`network.rs:15836-15887`) and `ClipboardPrepareFailed`: the
task for the offer `number` is over, with what it found. -/
def onClipboardPrepared (node : FileOffers) (number : Nat)
    (prepared : Option (String × UInt64 × Hash)) : Out × FileOffers :=
  match node.preparing.find? fun task => task.number = number with
  | none => ({}, node)
  | some task =>
      let settled := { node with preparing := node.preparing.filter fun task => task.number ≠ number }
      match prepared with
      | none => ({}, settled)
      | some (name, size, hash) =>
          if !settled.mayTransferFiles then ({}, settled) else settled.announce task.number name size hash

/-- `Actor::abandon_file_transfers` (`network.rs:15930-15977`), as far as it is about offers. -/
def abandonFileTransfers (node : FileOffers) : FileOffers :=
  { node with
    fileOffersIn := []
    fileOffersOut := []
    fileAccepted := []
    clipboardOffersOut := []
    dirOfferIn := none }

/-! ## Runs -/

/-- What happens to the offers with one peer. -/
inductive Op where
  | fileOffer (name : String) (size : UInt64) (hash : Hash) (disk : Disk)
  | filePutOffer (dir name : String) (size : UInt64) (hash : Hash) (disk : Disk)
  | dirOffer (name : String) (dir : Option String) (entries : List ManifestEntry) (disk : Disk)
  | clipboardFileOffer (files : List ClipboardFileEntry)
  /-- The user's answer. -/
  | fileAccept (accept : Bool) (directory : Option Path) (disk : Disk)
  | fileTransferStart (transferId : UInt64) (name : String) (size : UInt64) (hash : Hash)
  /-- The user asks the peer for a file. -/
  | fetch (fetch : PendingFetch)
  | fileFetchRefused
  | fetchPrepared (path : Path) (prepared : Except FileFetchRefusal (String × UInt64 × Hash))
  | putPrepared (dir : String) (path : Path) (prepared : Option (String × UInt64 × Hash))
  | clipboardFilesRead (files : List ClipboardOut)
  | fileAcceptInbound (accepted : Bool)
  | clipboardFileAcceptInbound (accepted : Bool)
  | clipboardPrepared (number : Nat) (prepared : Option (String × UInt64 × Hash))
  /-- The session or its grants change. -/
  | grants (mayTransferFiles mayFetchOrPut : Bool)
  /-- The session or the grant for files ends. -/
  | abandon

/-- One step. -/
def step (node : FileOffers) : Op → Out × FileOffers
  | .fileOffer name size hash disk => node.onFileOfferInbound name size hash disk
  | .filePutOffer dir name size hash disk => node.onFilePutOffer dir name size hash disk
  | .dirOffer name dir entries disk => node.onDirOfferInbound name dir entries disk
  | .clipboardFileOffer files => node.onClipboardFileOfferInbound files
  | .fileAccept accept directory disk => node.onFileAccept accept directory disk
  | .fileTransferStart transferId name size hash =>
      node.onFileTransferStart transferId name size hash
  | .fetch fetch => ({}, { node with fetchesOut := node.fetchesOut ++ [fetch] })
  | .fileFetchRefused => node.onFileFetchRefused
  | .fetchPrepared path prepared => node.onFetchPrepared path prepared
  | .putPrepared dir path prepared => node.onPutPrepared dir path prepared
  | .clipboardFilesRead files => node.onClipboardFilesRead files
  | .fileAcceptInbound accepted => node.onFileAcceptInbound accepted
  | .clipboardFileAcceptInbound accepted => node.onClipboardFileAcceptInbound accepted
  | .clipboardPrepared number prepared => node.onClipboardPrepared number prepared
  | .grants mayTransferFiles mayFetchOrPut => ({}, { node with mayTransferFiles, mayFetchOrPut })
  | .abandon => ({}, node.abandonFileTransfers)

/-! ## Two actors -/

/-- What a user or a task does at one of two actors. Directories are left out. -/
inductive Action where
  | answer (accept : Bool) (directory : Option Path) (disk : Disk)
  | fetch (fetch : PendingFetch)
  | fetchPrepared (path : Path) (prepared : Except FileFetchRefusal (String × UInt64 × Hash))
  | putPrepared (dir : String) (path : Path) (prepared : Option (String × UInt64 × Hash))
  | clipboardFilesRead (files : List ClipboardOut)
  | clipboardPrepared (number : Nat) (prepared : Option (String × UInt64 × Hash))

/-- The step of an action. -/
def Action.op : Action → Op
  | .answer accept directory disk => .fileAccept accept directory disk
  | .fetch wanted => .fetch wanted
  | .fetchPrepared path prepared => .fetchPrepared path prepared
  | .putPrepared dir path prepared => .putPrepared dir path prepared
  | .clipboardFilesRead files => .clipboardFilesRead files
  | .clipboardPrepared number prepared => .clipboardPrepared number prepared

/-- The step of a message (`network.rs:12072-12208`). -/
def receivedOp (kind : MessageKind) (disk : Disk) : Option Op :=
  match kind with
  | .fileOffer name size hash => some (.fileOffer name size hash disk)
  | .fileAccept accepted => some (.fileAcceptInbound accepted)
  | .fileTransferStart transferId name size hash =>
      some (.fileTransferStart transferId name size hash)
  | .clipboardFileOffer files => some (.clipboardFileOffer files)
  | .clipboardFileAccept accepted => some (.clipboardFileAcceptInbound accepted)
  | .fileFetchRefused _ => some .fileFetchRefused
  | .filePutOffer dir name size hash => some (.filePutOffer dir name size hash disk)
  | _ => none

/-- What a step sends, and the next state. -/
def sending (node : FileOffers) (op : Op) : List Sent × FileOffers :=
  ((node.step op).1.sent, (node.step op).2)

/-- Either of two actors. -/
def peer : Party FileOffers Sent Action Disk where
  act node action := node.sending action.op
  receive node message disk :=
    match receivedOp message.kind disk with
    | some op => node.sending op
    | none => ([], node)

end FileOffers

end Lumepeer.Runtime
