import Lumepeer.Runtime.Network.FileOffers
import Mathlib.Data.List.DropRight

/-!
# Files that a guest asks for

The downloads that a guest asks its host for, over the two actors of
`crates/runtime/src/network.rs`: the requests on their way, the files that the
host hashes and the directories that it walks, each in a task of its own, and the
answers on their way back. The guest keeps one queue of what it has asked for and
holds every answer against the front of it. Requests and answers bear the number
of the request, which the source has not. What a disk says is an argument. No
message is dropped, as `send_to` would where the connection's queue of 8 is full.
-/

namespace Lumepeer.Runtime
open Lumepeer.Lib Lumepeer.Core
open FileOffers (Path Hash safeFileName)

namespace Fetches

/-- What follows the last separator. -/
def afterLast (separator : Char → Bool) (path : List Char) : List Char :=
  path.rtakeWhile fun c => !separator c

/-- The name that a guest expects back (`network.rs:13848-13853`). -/
def expectedName (path : String) : Option String :=
  let name := afterLast RemotePath.isSeparator path.toList
  if RemotePath.isSafeComponent name then some (String.ofList name) else none

/-- The name that a host offers, on its own platform (`network.rs:7408-7411`, `18103-18107`). -/
def offeredName (dialect : Dialect) (path : String) : Option String :=
  safeFileName (String.ofList (afterLast dialect.isSep (path.toList.rdropWhile dialect.isSep)))

/-- `PendingFetch` (`network.rs:3634-3637`). -/
structure Fetch where
  number : Nat
  name : String
  into : Path
  deriving DecidableEq

/-- A request on its way, and a task that answers one. -/
structure Ask where
  number : Nat
  path : String
  deriving DecidableEq

/-- An answer on its way. -/
structure Answer where
  number : Nat
  kind : MessageKind
  deriving DecidableEq

/-- An offer that a guest took for a download without asking. -/
structure Taken where
  /-- The request that the offer answers. -/
  number : Nat
  /-- The download that it was taken for. -/
  fetch : Fetch
  deriving DecidableEq

/-- What a host lets the guest do, and what it knows of it. -/
structure Permits where
  speaksFileManage : Bool := true
  mayFetchOrPut : Bool := true
  mayTransferFiles : Bool := true
  mayOfferDirectory : Bool := true
  offerCeiling : UInt64 := fileOfferMaxBytes
  deriving DecidableEq

end Fetches

open Fetches in
/-- The two actors and what is between them. -/
structure Fetches where
  fileManageToHost : Bool := true
  mayTransferFiles : Bool := true
  fetchesOut : List Fetch := []
  taken : List Taken := []
  /-- The offers that wait for a person, with the requests that they answer. -/
  fileOffersIn : List Nat := []
  dirOfferIn : Option Nat := none
  permits : Permits := {}
  fileOffersOut : Nat := 0
  fetchPreparing : Nat := 0
  requests : List Ask := []
  preparing : List Ask := []
  walking : List Ask := []
  answers : List Answer := []
  /-- How many requests were made. -/
  asked : Nat := 0
  /-- The requests that were answered. -/
  answered : List Nat := []

namespace Fetches

/-! ## The host -/

/-- Every answer is sent under the number of its request. -/
def reply (state : Fetches) (number : Nat) (kind : MessageKind) : Fetches :=
  { state with
    answers := state.answers ++ [{ number, kind }]
    answered := state.answered ++ [number] }

/-- `Actor::refuse_fetch` (`network.rs:7477-7479`). -/
def refuseFetch (state : Fetches) (number : Nat) (reason : FileFetchRefusal) : Fetches :=
  state.reply number (.fileFetchRefused reason)

/-- What a host makes of a request. -/
inductive Verdict where
  | silent
  | refuse (reason : FileFetchRefusal)
  | walk
  | prepare
  deriving DecidableEq

/-- `Actor::on_file_fetch_request` (`network.rs:7359-7452`) up to what it does; `disk` says whether
the path is a link and whether it is a directory. -/
def verdict (state : Fetches) (dialect : Dialect) (path : String)
    (disk : Except Unit (Bool × Bool)) : Verdict :=
  if !state.permits.speaksFileManage then .silent
  else if !state.permits.mayFetchOrPut then .refuse .notGranted
  else if (RemotePath.safeBrowsePath path.toList).isNone then .refuse .badPath
  else
    match disk with
    | .error _ => .refuse .unreadable
    | .ok (isLink, isDir) =>
        if isLink then .refuse .unreadable
        else if isDir then
          if !state.permits.mayOfferDirectory then .refuse .unreadable
          else if (offeredName dialect path).isNone then .refuse .badPath
          else .walk
        else if state.fileOffersOut + state.fetchPreparing ≥ maxPendingFileOffers then
          .refuse .tooMany
        else .prepare

/-- `Actor::on_file_fetch_request` (`network.rs:7359-7452`). -/
def onFileFetchRequest (state : Fetches) (dialect : Dialect) (ask : Ask)
    (disk : Except Unit (Bool × Bool)) : Fetches :=
  match state.verdict dialect ask.path disk with
  | .silent => state
  | .refuse reason => state.refuseFetch ask.number reason
  | .walk => { state with walking := state.walking ++ [ask] }
  | .prepare =>
      { state with
        fetchPreparing := state.fetchPreparing + 1
        preparing := state.preparing ++ [ask] }

/-- `prepare_offer` (`network.rs:18079-18110`), for a file of this size and this hash. -/
def prepareOffer (dialect : Dialect) (path : String) (file : Option (UInt64 × Hash)) :
    Option (String × UInt64 × Hash) := do
  let (size, hash) ← file
  guard (size ≤ fileOfferMaxBytes)
  let name ← offeredName dialect path
  return (name, size, hash)

/-- `Actor::on_fetch_prepared` (`network.rs:7609-7651`). -/
def onFetchPrepared (state : Fetches) (number : Nat) (prepared : Option (String × UInt64 × Hash)) :
    Fetches :=
  let state := { state with fetchPreparing := state.fetchPreparing - 1 }
  if !state.permits.mayFetchOrPut then state.refuseFetch number .notGranted
  else
    match prepared with
    | none => state.refuseFetch number .unreadable
    | some (name, size, hash) =>
        if size > state.permits.offerCeiling then state.refuseFetch number .unreadable
        else
          { state with fileOffersOut := state.fileOffersOut + 1 }.reply number
            (.fileOffer name size hash)

/-- `walk_directory` (`network.rs:18375-18451`) on what lies in the directory. -/
def walkDirectory (found : List ManifestEntry) : Option (List ManifestEntry) :=
  let entries := found.filter fun entry => (RemotePath.relativeComponents entry.path.toList).isSome
  if entries.length > maxDirManifestEntries then none else some entries

/-- `Actor::on_dir_walked` (`network.rs:7865-7924`) for a directory that was asked for. -/
def onDirWalked (state : Fetches) (number : Nat) (name : String)
    (walked : Option (List ManifestEntry)) : Fetches :=
  if !state.permits.mayTransferFiles || !state.permits.mayOfferDirectory then state
  else
    match walked with
    | none => state
    | some entries =>
        if entries.any fun entry => entry.size > state.permits.offerCeiling then state
        else state.reply number (.dirOffer name none entries)

/-! ## The guest -/

/-- `Actor::on_remote_download` (`network.rs:13825-13874`); `isDir` says whether there is a
directory for it. -/
def onRemoteDownload (state : Fetches) (path : String) (into : Path) (isDir : Bool) : Fetches :=
  if !state.fileManageToHost then state
  else if (RemotePath.safeBrowsePath path.toList).isNone then state
  else
    match expectedName path with
    | none => state
    | some name =>
        if !isDir then state
        else if state.fetchesOut.length ≥ maxPendingFileOffers then state
        else
          { state with
            fetchesOut := state.fetchesOut ++ [{ number := state.asked, name, into }]
            requests := state.requests ++ [{ number := state.asked, path }]
            asked := state.asked + 1 }

/-- Takes an offer for the front of the queue, if it has this name (`network.rs:15536-15558`,
`7991-8006`). -/
def takeFetched (state : Fetches) (number : Nat) (name : String) : Option Fetches :=
  match state.fetchesOut with
  | [] => none
  | fetch :: fetches =>
      if fetch.name = name then
        some { state with fetchesOut := fetches, taken := state.taken ++ [{ number, fetch }] }
      else none

/-- `Actor::on_file_offer_inbound` (`network.rs:15512-15569`). -/
def onFileOfferInbound (state : Fetches) (number : Nat) (name : String) (size : UInt64) : Fetches :=
  if !state.mayTransferFiles then state
  else
    match safeFileName name with
    | none => state
    | some name =>
        if size > fileOfferMaxBytes then state
        else
          match state.takeFetched number name with
          | some taken => taken
          | none =>
              if state.fileOffersIn.length ≥ maxPendingFileOffers then state
              else { state with fileOffersIn := state.fileOffersIn ++ [number] }

/-- `Actor::on_dir_offer_inbound` (`network.rs:7936-8020`), for an offer without a directory of this
node's. -/
def onDirOfferInbound (state : Fetches) (number : Nat) (name : String)
    (entries : List ManifestEntry) : Fetches :=
  if !state.mayTransferFiles then state
  else
    match safeFileName name with
    | none => state
    | some name =>
        if entries.length > maxDirManifestEntries || entries.any fun entry =>
            (RemotePath.relativeComponents entry.path.toList).isNone then state
        else
          match state.takeFetched number name with
          | some taken => taken
          | none =>
              if state.dirOfferIn.isSome then state else { state with dirOfferIn := some number }

/-- `Actor::on_file_fetch_refused` (`network.rs:7752-7761`). -/
def onFileFetchRefused (state : Fetches) : Fetches :=
  { state with fetchesOut := state.fetchesOut.tail }

/-- An answer comes in. -/
def onAnswer (state : Fetches) (answer : Answer) : Fetches :=
  match answer.kind with
  | .fileOffer name size _ => state.onFileOfferInbound answer.number name size
  | .dirOffer name none entries => state.onDirOfferInbound answer.number name entries
  | .fileFetchRefused _ => state.onFileFetchRefused
  | _ => state

/-! ## Steps -/

/-- What happens. -/
inductive Happening where
  | remoteDownload (path : String) (into : Path) (isDir : Bool)
  /-- The next request gets to the host. -/
  | request (disk : Except Unit (Bool × Bool))
  /-- A file is hashed, or cannot be read. -/
  | prepared (position : Nat) (file : Option (UInt64 × Hash))
  /-- A directory is walked, or cannot be read. -/
  | walked (position : Nat) (found : Option (List ManifestEntry))
  /-- The next answer gets to the guest. -/
  | answer
  | permits (permits : Permits)
  | guestGrants (fileManageToHost mayTransferFiles : Bool)
  /-- The host's user makes an offer, of which only the count is followed. -/
  | ownOffer
  /-- An offer of the host's is answered. -/
  | offerAnswered
  /-- The guest's user answers an offer, or a directory. -/
  | decided (directory : Bool)

/-- One step of one of them. -/
def step (dialect : Dialect) (state : Fetches) : Happening → Unit × Fetches
  | .remoteDownload path into isDir => ((), state.onRemoteDownload path into isDir)
  | .request disk =>
      match state.requests with
      | [] => ((), state)
      | ask :: requests => ((), { state with requests }.onFileFetchRequest dialect ask disk)
  | .prepared position file =>
      match state.preparing[position]? with
      | none => ((), state)
      | some ask =>
          ((), { state with preparing := state.preparing.eraseIdx position }.onFetchPrepared
            ask.number (prepareOffer dialect ask.path file))
  | .walked position found =>
      match state.walking[position]? with
      | none => ((), state)
      | some ask =>
          let name := (offeredName dialect ask.path).getD ""
          ((), { state with walking := state.walking.eraseIdx position }.onDirWalked ask.number name
            (found.bind walkDirectory))
  | .answer =>
      match state.answers with
      | [] => ((), state)
      | answer :: answers => ((), { state with answers }.onAnswer answer)
  | .permits permits => ((), { state with permits })
  | .guestGrants fileManageToHost mayTransferFiles =>
      ((), { state with fileManageToHost, mayTransferFiles })
  | .ownOffer => ((), { state with fileOffersOut := state.fileOffersOut + 1 })
  | .offerAnswered => ((), { state with fileOffersOut := state.fileOffersOut - 1 })
  | .decided directory =>
      if directory then ((), { state with dirOfferIn := none })
      else ((), { state with fileOffersIn := state.fileOffersIn.tail })

end Fetches

end Lumepeer.Runtime
