import Lumepeer.Core.Message
import Lumepeer.Core.RemotePath
import Lumepeer.Lib.Run

/-!
# Directory listings

A guest's file manager asks the watched host what is in a directory, and the
view keeps the last answer: `on_request_dir_list`, the arms of `on_inbound` for
the two messages, and `on_dir_list_request` of `crates/runtime/src/network.rs`.
The two channels keep their order; a message for which the queue to the other
side has no room is lost. What the host reads of its sessions and of its disk
while it answers is an argument, and its audit record is left out.
-/

namespace Lumepeer.Runtime.DirList
open Lumepeer.Lib Lumepeer.Core

/-- `DirListing` (`network.rs:1286-1296`). -/
structure DirListing where
  path : String
  entries : List DirEntry
  truncated : Bool
  refused : Option DirListRefusal
  deriving DecidableEq

/-- What `ViewState` keeps of listings (`network.rs:4788-4807`). -/
structure View where
  dirListAsked : Option String
  dirListing : Option DirListing
  listingsAnswered : UInt32
  deriving DecidableEq

/-- `MessageKind::DirListResponse`, which names no path. -/
structure DirListResponse where
  entries : List DirEntry
  truncated : Bool
  refused : Option DirListRefusal
  deriving DecidableEq

/-- The errors of `ActorError` that a request may end in. -/
inductive ActorError where
  | unsupported
  | malformed
  | unknownPeer
  deriving DecidableEq, Repr

/-- A new view (`network.rs:10646-10652`). -/
def View.new : View := { dirListAsked := none, dirListing := none, listingsAnswered := 0 }

/-- `Actor::on_request_dir_list` (`network.rs:13774-13798`), of a label that is known: the path that
is sent, and the view. -/
def onRequestDirList (fileBrowseToHost : Bool) (view : Option View) (path : String) :
    Except ActorError (String × View) :=
  if !fileBrowseToHost then .error .unsupported
  else if (RemotePath.safeBrowsePath path.toList).isNone then .error .malformed
  else
    match view with
    | none => .error .unknownPeer
    | some view => .ok (path, { view with dirListAsked := some path })

/-- `on_inbound` of a `DirListResponse` (`network.rs:12172-12186`). -/
def onDirListResponse (view : View) (response : DirListResponse) : View :=
  { view with
    dirListing := some
      { path := view.dirListAsked.getD "", entries := response.entries
        truncated := response.truncated, refused := response.refused }
    listingsAnswered := view.listingsAnswered + 1 }

/-- How the host's disk answers for a path (`network.rs:7295-7318`). -/
inductive Disk where
  | symlink
  | unreadable
  | listed (entries : List DirEntry) (truncated : Bool)
  deriving DecidableEq

/-- `Actor::refuse_dir_list` (`network.rs:7333-7342`). -/
def refuseDirList (refused : DirListRefusal) : DirListResponse :=
  { entries := [], truncated := false, refused := some refused }

/-- `Actor::on_dir_list_request` (`network.rs:7259-7329`): the answer, if there is one. -/
def onDirListRequest (speaksFileBrowse granted : Bool) (path : String) (disk : Disk) :
    Option DirListResponse :=
  if !speaksFileBrowse then none
  else if !granted then some (refuseDirList .notGranted)
  else if (RemotePath.safeBrowsePath path.toList).isNone then some (refuseDirList .badPath)
  else
    match disk with
    | .symlink | .unreadable => some (refuseDirList .unreadable)
    | .listed entries truncated => some { entries, truncated, refused := none }

/-- A guest with a view, its host, and what is on its way between them. An answer stands under the
path of the request it was given for; that path is not sent and the guest never reads it. -/
structure World where
  view : Option View
  toHost : List String
  toGuest : List (String × DirListResponse)
  deriving DecidableEq

/-- A step of one of the two. -/
inductive Op where
  | ask (fileBrowseToHost : Bool) (path : String) (room : Bool)
  | serve (speaksFileBrowse granted : Bool) (disk : Disk) (room : Bool)
  | receive
  deriving DecidableEq

/-- What a step comes to. -/
inductive Deed where
  | asked
  | failed (error : ActorError)
  | answered (path : String) (response : DirListResponse)
  | received
  | idle
  deriving DecidableEq

namespace World

/-- A view that has asked for nothing. -/
def start : World := { view := some .new, toHost := [], toGuest := [] }

/-- One step. -/
def step (world : World) : Op → Deed × World
  | .ask fileBrowseToHost path room =>
      match onRequestDirList fileBrowseToHost world.view path with
      | .error error => (.failed error, world)
      | .ok (path, view) =>
          (.asked, { world with
            view := some view
            toHost := if room then world.toHost ++ [path] else world.toHost })
  | .serve speaksFileBrowse granted disk room =>
      match world.toHost with
      | [] => (.idle, world)
      | path :: rest =>
          match onDirListRequest speaksFileBrowse granted path disk with
          | none => (.idle, { world with toHost := rest })
          | some response =>
              (.answered path response, { world with
                toHost := rest
                toGuest := if room then world.toGuest ++ [(path, response)] else world.toGuest })
  | .receive =>
      match world.toGuest with
      | [] => (.idle, world)
      | (_, response) :: rest =>
          (.received, { world with
            view := world.view.map fun view => onDirListResponse view response
            toGuest := rest })

end World

end Lumepeer.Runtime.DirList
