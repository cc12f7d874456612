import Lumepeer.Lib.Utf8
import Lumepeer.Net.Keystore
import Lumepeer.Runtime.HistoryFile

/-!
# The guest stores handed over

`guest_stores` of `apps/desktop/src-tauri/src/placement.rs`, both ends of it,
with the channel of `host_panel.rs` between them. The session host reads the
remembered hosts and passwords out of the admin tree, the client keeps them in
the profile and confirms, and the session host then deletes its copy.

`step` is one step of either end: what a keystore, a write or a removal answers,
and whether the channel holds, are part of its input. A client start is `begin`
and the steps after it; another `begin` is the next start, wherever the last one
was stopped.
-/

namespace Lumepeer.Desktop
open Lumepeer.Lib Lumepeer.Net Lumepeer.Runtime.HistoryFile

/-- `entry_name` (`remembered_password.rs:22-24`). -/
def entryName (hostTag : String) : String := "lumepeer.guest.password." ++ hostTag

namespace GuestStores

/-- `RememberedPassword` (`placement.rs:436-441`). -/
structure RememberedPassword where
  host : String
  password : String
  deriving DecidableEq, Repr

/-- `GuestStores` (`placement.rs:414-419`), what goes over the channel as JSON. -/
structure Stores where
  hosts : List HistoryEntry := []
  passwords : List RememberedPassword := []
  deriving DecidableEq, Repr

/-- `InAdminTree` (`placement.rs:453-456`). -/
structure InAdminTree where
  history : ListPlace
  passwords : Keystore
  deriving DecidableEq

/-- The requests of the hand-over among `Request`. -/
inductive Ask where
  | guestStores
  | guestStoresTaken
  deriving DecidableEq, Repr

/-- The replies to them among `Reply`. -/
inductive Answer where
  | guestStores (stores : Stores)
  | done
  | refused
  deriving DecidableEq, Repr

/-! ## The session host -/

/-- `RememberedPasswordStore::load` (`remembered_password.rs:51-58`); `none` is an error. -/
def loadPassword (store : Keystore) (hostTag : String) (fails : Bool) : Option (Option String) :=
  match store.loadSecret (entryName hostTag) fails with
  | none => none
  | some none => some none
  | some (some bytes) =>
      match fromUtf8 bytes with
      | none => none
      | some password => some (some password)

/-- The loop of `collect`; the head of `faults` says whether the next keystore call fails. -/
def collectPasswords (store : Keystore) :
    List HistoryEntry → List Bool → Option (List RememberedPassword)
  | [], _ => some []
  | entry :: entries, faults =>
      match loadPassword store entry.peerLabel (faults.headD false) with
      | none => none
      | some none => collectPasswords store entries faults.tail
      | some (some password) =>
          (collectPasswords store entries faults.tail).map
            ({ host := entry.peerLabel, password } :: ·)

/-- `InAdminTree::collect` (`placement.rs:473-495`). -/
def InAdminTree.collect (tree : InAdminTree) (faults : List Bool) : Option Stores :=
  let entries := openEntries tree.history
  (collectPasswords tree.passwords entries faults).map fun passwords =>
    { hosts := entries, passwords }

/-- The loop of `remove`: whether every password went. -/
def forgetAll (store : Keystore) : List HistoryEntry → List Bool → Bool × Keystore
  | [], _ => (true, store)
  | entry :: entries, faults =>
      match store.deleteSecret (entryName entry.peerLabel) (faults.headD false) with
      | (false, store) => (false, store)
      | (true, store) => forgetAll store entries faults.tail

/-- `InAdminTree::remove` (`placement.rs:502-521`). -/
def InAdminTree.remove (tree : InAdminTree) (faults : List Bool) (unlinkFails : Bool) :
    Bool × InAdminTree :=
  match forgetAll tree.passwords (openEntries tree.history) faults with
  | (false, passwords) => (false, { tree with passwords })
  | (true, passwords) =>
      match tree.history with
      | .nowhere => (true, { tree with passwords })
      | .path none => (true, { tree with passwords })
      | .path (some _) =>
          if unlinkFails then (false, { tree with passwords })
          else (true, { history := .path none, passwords })

/-- `Served::guest_stores` (`host_panel.rs:446-454`). -/
def guestStores (guest : Option InAdminTree) (faults : List Bool) : Answer :=
  let collected :=
    match guest with
    | none => some ⟨[], []⟩
    | some tree => tree.collect faults
  match collected with
  | none => .refused
  | some stores => .guestStores stores

/-- `Served::guest_stores_taken` (`host_panel.rs:457-472`). -/
def guestStoresTaken (guest : Option InAdminTree) (faults : List Bool) (unlinkFails : Bool) :
    Answer × Option InAdminTree :=
  match guest with
  | none => (.done, none)
  | some tree =>
      match tree.remove faults unlinkFails with
      | (true, tree) => (.done, some tree)
      | (false, tree) => (.refused, some tree)

/-- A connection: what is under way on it in each direction, and whether it was handed the stores
(`serve_one`). -/
structure Connection where
  requests : List Ask := []
  replies : List Answer := []
  handed : Bool := false
  deriving DecidableEq, Repr

/-! ## The client -/

/-- The profile stores of `Placement` that `take` writes. -/
structure Profile where
  history : ListPlace
  remembered : Keystore
  deriving DecidableEq

/-- Where a running `take` stands. `conn` is the held connection, `again` says that `ask` is at its
second try. -/
inductive Client where
  | idle
  | asking (conn : Nat) (again : Bool)
  | keeping (conn : Nat) (hosts : List HistoryEntry) (rest : List RememberedPassword)
      (moved : List String)
  | confirming (conn : Nat) (again : Bool) (moved : List String)
  deriving DecidableEq, Repr

/-- Both ends and the channel. `guest` is `None` until the session host has its stores. -/
structure State where
  guest : Option InAdminTree
  profile : Profile
  connections : HashMap Nat Connection := ∅
  nextConn : Nat := 0
  client : Client := .idle
  deriving DecidableEq

/-- One step of either end. -/
inductive Op where
  /-- `settle` calls `take`; `connects` says whether a session host is there. -/
  | start (connects : Bool)
  /-- The held connection drops under `ask`. -/
  | drop (reconnects : Bool)
  /-- The session host takes the next request of a connection; `sent` says whether its reply goes
  out. -/
  | serve (conn : Nat) (faults : List Bool) (unlinkFails sent : Bool)
  /-- The client reads the reply it waits for. -/
  | receive
  /-- The client keeps the next password. -/
  | keep (loadFails : Bool) (outcome : StoreOutcome)
  /-- The client takes the rows into its list, and confirms. -/
  | adopt (outcome : WriteOutcome)
  deriving DecidableEq, Repr

namespace State

/-- The client writes a request on a new connection. -/
def connect (s : State) (request : Ask) : State :=
  { s with
    connections := s.connections.insert s.nextConn { requests := [request] }
    nextConn := s.nextConn + 1 }

/-- The client writes a request on the connection it holds; on a dead one it is lost. -/
def send (s : State) (conn : Nat) (request : Ask) : State :=
  { s with
    connections := HashMap.modify conn
      (fun held => { held with requests := held.requests ++ [request] }) s.connections }

/-- `take` returns: the hosts whose password is now kept here. -/
def finish (s : State) (moved : List String) : Option (List String) × State :=
  (some moved, { s with client := .idle })

/-- `ask` finds its connection gone: once more on a fresh one, then no answer
(`host_panel.rs:131-151`). -/
def onDrop (s : State) (reconnects : Bool) : Option (List String) × State :=
  match s.client with
  | .asking _ false =>
      if reconnects then
        (none, { s.connect .guestStores with client := .asking s.nextConn true })
      else s.finish []
  | .confirming _ false moved =>
      if reconnects then
        (none, { s.connect .guestStoresTaken with client := .confirming s.nextConn true moved })
      else s.finish []
  | .asking _ true | .confirming _ true _ => s.finish []
  | .idle | .keeping .. => (none, s)

/-- `serve_one` takes one request and sends its reply (`host_panel.rs:512-526`). -/
def onServe (s : State) (conn : Nat) (faults : List Bool) (unlinkFails sent : Bool) : State :=
  match s.connections.lookup conn with
  | none => s
  | some held =>
      match held.requests with
      | [] => s
      | .guestStores :: requests =>
          let reply := guestStores s.guest faults
          let handed := held.handed || reply matches .guestStores _
          let served := { requests, replies := held.replies ++ [reply], handed }
          { s with
            connections :=
              if sent then s.connections.insert conn served else s.connections.erase conn }
      | .guestStoresTaken :: requests =>
          -- A connection that was not handed the stores is answered by `answer`.
          let (reply, guest) :=
            if held.handed then guestStoresTaken s.guest faults unlinkFails
            else (.refused, s.guest)
          let served := { held with requests, replies := held.replies ++ [reply] }
          { s with
            guest
            connections :=
              if sent then s.connections.insert conn served else s.connections.erase conn }

/-- What `take` makes of the answer to `GuestStores` (`placement.rs:562-587`). -/
def onStores (s : State) (conn : Nat) : Answer → Option (List String) × State
  | .guestStores stores =>
      if stores.hosts.isEmpty && stores.passwords.isEmpty then s.finish []
      else (none, { s with client := .keeping conn stores.hosts stores.passwords [] })
  | .done | .refused => s.finish []

/-- What `take` makes of the answer to `GuestStoresTaken` (`placement.rs:617-631`). -/
def onTaken (s : State) (moved : List String) : Answer → Option (List String) × State
  | .done => s.finish moved
  | .guestStores _ | .refused => s.finish []

/-- The next reply on the connection the client waits at. -/
def takeReply (s : State) (conn : Nat) : Option (Answer × State) :=
  match s.connections.lookup conn with
  | none => none
  | some held =>
      match held.replies with
      | [] => none
      | reply :: replies =>
          some (reply, { s with connections := s.connections.insert conn { held with replies } })

/-- The client reads the reply it waits for. -/
def onReceive (s : State) : Option (List String) × State :=
  match s.client with
  | .asking conn _ =>
      match s.takeReply conn with
      | none => (none, s)
      | some (reply, s) => s.onStores conn reply
  | .confirming conn _ moved =>
      match s.takeReply conn with
      | none => (none, s)
      | some (reply, s) => s.onTaken moved reply
  | .idle | .keeping .. => (none, s)

/-- One turn of `take`'s loop over the passwords (`placement.rs:589-608`). -/
def onKeep (s : State) (loadFails : Bool) (outcome : StoreOutcome) :
    Option (List String) × State :=
  match s.client with
  | .keeping conn hosts ({ host, password } :: rest) moved =>
      let entry := entryName host
      let (kept, remembered) :=
        -- One remembered here already is the one typed here last: kept.
        match s.profile.remembered.loadSecret entry loadFails with
        | some (some _) => (true, s.profile.remembered)
        | some none => s.profile.remembered.storeSecret entry (asBytes password) outcome
        | none => (false, s.profile.remembered)
      let s := { s with profile := { s.profile with remembered } }
      if kept then (none, { s with client := .keeping conn hosts rest (moved ++ [host]) })
      else s.finish []
  | _ => (none, s)

/-- `take` after the loop: the rows, then the confirmation (`placement.rs:610-616`). -/
def onAdopt (s : State) (outcome : WriteOutcome) : Option (List String) × State :=
  match s.client with
  | .keeping conn hosts [] moved =>
      let (adopted, history) := Runtime.HistoryFile.adopt s.profile.history hosts outcome
      let s := { s with profile := { s.profile with history } }
      if adopted then
        (none, { s.send conn .guestStoresTaken with client := .confirming conn false moved })
      else s.finish []
  | _ => (none, s)

/-- A client start puts its first request. -/
def onStart (s : State) (connects : Bool) : Option (List String) × State :=
  if connects then (none, { s.connect .guestStores with client := .asking s.nextConn false })
  else s.finish []

/-- One step of either end. -/
def step (s : State) : Op → Option (List String) × State
  | .start connects => s.onStart connects
  | .drop reconnects => s.onDrop reconnects
  | .serve conn faults unlinkFails sent => (none, s.onServe conn faults unlinkFails sent)
  | .receive => s.onReceive
  | .keep loadFails outcome => s.onKeep loadFails outcome
  | .adopt outcome => s.onAdopt outcome

end State

end GuestStores

end Lumepeer.Desktop
