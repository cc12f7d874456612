import Lumepeer.Lib.HashMap
import Lumepeer.Net.Ticket
import Lumepeer.Service.HostChannelProtocol

/-!
# Requests through the host panel

Both ends of a request in `apps/desktop/src-tauri/src/host_panel.rs`: `HostPanel::ask`, which asks
once more on a fresh connection, and `serve_one`, which carries requests out. Whether a connection
is had, when it drops, when the session host restarts and what else happens to it are part of the
input. The session host carries a request out in one step, before it closes its end of the pipe or
never: it is the closing that the client notices.
-/

namespace Lumepeer.Desktop
open Lumepeer.Lib Lumepeer.Core Lumepeer.Net Lumepeer.Service

/-- `PanelError` (`host_panel.rs:83-88`). -/
inductive PanelError where
  | unreachable
  | refused
  deriving DecidableEq, Repr

/-- `InviteDto` (`network.rs:965-970`). -/
structure InviteDto where
  code : String
  expiresAt : UInt64
  deriving DecidableEq, Repr

namespace HostPanel

/-! ## The session host -/

/-- What the session host does with a request. A `δ` is what it needs from elsewhere for that, a
`σ` everything it holds. -/
structure Host (δ σ : Type) where
  /-- `Served::answer`. -/
  answer : Request → δ → σ → Reply × σ
  /-- `Served::guest_stores`. -/
  guestStores : δ → σ → Reply
  /-- `Served::guest_stores_taken`. -/
  guestStoresTaken : δ → σ → Reply × σ

/-- `Served` (`host_panel.rs:366-389`): its two counters, and what is behind the rest of it. -/
structure Served (σ : Type) where
  connected : Nat := 0
  wanting : Nat := 0
  state : σ

/-- A connection, as `serve_one` keeps it (`host_panel.rs:507-513`). -/
structure Connection where
  wants : Bool := true
  handed : Bool := false
  deriving DecidableEq, Repr

/-- A request that was carried out. -/
structure Carried (σ : Type) where
  before : σ
  request : Request
  reply : Reply
  after : σ

variable {δ σ : Type}

/-- `serve_one` until its loop (`host_panel.rs:508-513`). -/
def Served.attach (served : Served σ) : Served σ :=
  { served with connected := served.connected + 1, wanting := served.wanting + 1 }

/-- `serve_one` after its loop (`host_panel.rs:532-535`). -/
def Served.detach (served : Served σ) (conn : Connection) : Served σ :=
  { served with
    connected := served.connected - 1
    wanting := if conn.wants then served.wanting - 1 else served.wanting }

/-- The first lines of a turn of `serve_one` (`host_panel.rs:515-518`). -/
def noteHostingOff (served : Served σ) (conn : Connection) (request : Request) :
    Served σ × Connection :=
  if request = .hostingOff ∧ conn.wants then
    ({ served with wanting := served.wanting - 1 }, { conn with wants := false })
  else (served, conn)

/-- The reply of a turn of `serve_one` (`host_panel.rs:519-527`). -/
def replyTo (host : Host δ σ) (draw : δ) (served : Served σ) (conn : Connection) :
    Request → Reply × Served σ × Connection
  | .guestStores =>
      let reply := host.guestStores draw served.state
      (reply, served, { conn with handed := conn.handed || reply matches .guestStores _ })
  | .guestStoresTaken =>
      let (reply, state) :=
        if conn.handed then host.guestStoresTaken draw served.state
        else host.answer .guestStoresTaken draw served.state
      (reply, { served with state }, conn)
  | request =>
      let (reply, state) := host.answer request draw served.state
      (reply, { served with state }, conn)

/-- A turn of `serve_one` that has its request (`host_panel.rs:515-527`). -/
def serveRequest (host : Host δ σ) (draw : δ) (served : Served σ) (conn : Connection)
    (request : Request) : Reply × Served σ × Connection :=
  let (served, conn) := noteHostingOff served conn request
  replyTo host draw served conn request

/-! ## The channel -/

/-- What `recv` makes of a request that is written to the pipe (`host_channel.rs:262-264`,
`host_channel.rs:308-310`); `none` ends the connection. -/
def received (request : Request) : Option Request :=
  match writeRequest ([] : List UInt8) request with
  | (true, bytes) => (readRequest bytes).1
  | (false, _) => none

/-- What the client reads of a reply that is sent (`host_channel.rs:268-270`,
`host_channel.rs:311`). -/
def delivered (reply : Reply) : Option Reply :=
  match writeReply ([] : List UInt8) reply with
  | (true, bytes) => (readReply bytes).1
  | (false, _) => none

/-- The link that a panel holds, and the connection at its other end, if that is still there. -/
structure Link where
  host : Option Connection
  deriving DecidableEq, Repr

/-- `HostPanel` (`host_panel.rs:93-99`), and the session host that it asks. `answered` counts
milliseconds. -/
structure State (σ : Type) where
  link : Option Link := none
  answered : Nat := 0
  served : Served σ

/-- What else happens. -/
inductive Happening (σ : Type) where
  /-- The session host ends the held connection. -/
  | drops
  /-- The session host restarts: the new process holds `state`. -/
  | restarts (state : σ)
  /-- Guests and other clients move it. -/
  | moves (served : Served σ)

/-- The held connection ends. -/
def State.drop (s : State σ) : State σ :=
  match s.link with
  | some ⟨some conn⟩ => { s with link := some ⟨none⟩, served := s.served.detach conn }
  | _ => s

/-- Something happens. -/
def State.happen (s : State σ) : Happening σ → State σ
  | .drops => s.drop
  | .restarts state => { s with link := s.link.map fun _ => ⟨none⟩, served := { state } }
  | .moves served => { s with served }

/-- What one try of `ask` meets. -/
structure Attempt (δ σ : Type) where
  /-- A connection is had, where one is needed. -/
  connects : Bool
  /-- What happens before the request arrives. -/
  before : List (Happening σ)
  /-- What carrying it out needs from elsewhere. -/
  draw : δ
  /-- What happens before the reply arrives. -/
  after : List (Happening σ)
  /-- The clock when it does. -/
  clock : Nat

/-! ## The client -/

/-- `connect`, where no link is held (`host_panel.rs:134-137`). -/
def State.connect (s : State σ) (connects : Bool) : Option (State σ) :=
  match s.link with
  | some _ => some s
  | none =>
      if connects then some { s with link := some ⟨some {}⟩, served := s.served.attach } else none

/-- `PanelLink::ask` on the held link (`host_channel.rs:307-312`) and `serve_one` at its other
end. -/
def askOn (host : Host δ σ) (s : State σ) (request : Request) (attempt : Attempt δ σ) :
    Option Reply × State σ × List (Carried σ) :=
  let s := attempt.before.foldl State.happen s
  match s.link with
  | some ⟨some conn⟩ =>
      match received request with
      | none => (none, s.drop, [])
      | some request =>
          let (reply, served, conn) := serveRequest host attempt.draw s.served conn request
          let carried := [⟨s.served.state, request, reply, served.state⟩]
          let s := { s with link := some ⟨some conn⟩, served }
          match delivered reply with
          | none => (none, s.drop, carried)
          | some reply =>
              let s := attempt.after.foldl State.happen s
              match s.link with
              | some ⟨some _⟩ => (some reply, s, carried)
              | _ => (none, s, carried)
  | _ => (none, s, [])

/-- The loop of `ask`, one try after another. -/
def askFrom (host : Host δ σ) (request : Request) :
    List (Attempt δ σ) → State σ → Option Reply × State σ × List (Carried σ)
  | [], s => (none, s, [])
  | attempt :: attempts, s =>
      match s.connect attempt.connects with
      | none => (none, s, [])
      | some s =>
          match askOn host s request attempt with
          | (some reply, s, carried) => (some reply, { s with answered := attempt.clock }, carried)
          | (none, s, carried) =>
              let (reply, s, more) := askFrom host request attempts { s with link := none }
              (reply, s, carried ++ more)

/-- `HostPanel::ask` (`host_panel.rs:129-152`). -/
def ask (host : Host δ σ) (s : State σ) (request : Request) (first second : Attempt δ σ) :
    Option Reply × State σ × List (Carried σ) :=
  askFrom host request [first, second] s

/-- What `HostPanel::act` makes of the reply (`host_panel.rs:289-295`). -/
def acted : Option Reply → Except PanelError Unit
  | some .done => .ok ()
  | some _ => .error .refused
  | none => .error .unreachable

/-- What `HostPanel::invite` makes of the reply (`host_panel.rs:264-272`); `fromSlice` is
`serde_json::from_slice`. -/
def invited (fromSlice : List UInt8 → Option (Option InviteDto)) :
    Option Reply → Except PanelError InviteDto
  | some (.invite json) =>
      match fromSlice json with
      | some (some invite) => .ok invite
      | _ => .error .refused
  | some _ => .error .refused
  | none => .error .unreachable

/-- A call of the panel. -/
inductive Call where
  | request (request : Request)
  | act (request : Request)
  | invite (renew : Bool)
  deriving DecidableEq, Repr

/-- What a call asks. -/
def Call.asks : Call → Request
  | .request asked | .act asked => asked
  | .invite renew => .invite renew

/-- What a call returns. -/
inductive Answer where
  | replied (reply : Option Reply)
  | acted (outcome : Except PanelError Unit)
  | invited (outcome : Except PanelError InviteDto)

def Call.answer (fromSlice : List UInt8 → Option (Option InviteDto)) (reply : Option Reply) :
    Call → Answer
  | .request _ => .replied reply
  | .act _ => .acted (HostPanel.acted reply)
  | .invite _ => .invited (HostPanel.invited fromSlice reply)

/-- A call with what its tries meet, or something that happens between two calls: the panel's lock
lets one call in at a time. -/
inductive Op (δ σ : Type) where
  | call (call : Call) (first second : Attempt δ σ)
  | happens (what : Happening σ)

/-- What a call returns, and what it made the session host carry out. -/
structure Out (σ : Type) where
  answer : Option Answer := none
  carried : List (Carried σ) := []

def step (host : Host δ σ) (fromSlice : List UInt8 → Option (Option InviteDto)) (s : State σ) :
    Op δ σ → Out σ × State σ
  | .call call first second =>
      let (reply, s, carried) := ask host s call.asks first second
      ({ answer := some (call.answer fromSlice reply), carried }, s)
  | .happens what => ({}, s.happen what)

end HostPanel

/-!
## Chat lines and codes

What `answer` does with `SendChat` and with `Invite`, down to the actor; the other requests are
left to a parameter.
-/

/-- `MAX_TRANSCRIPT_ENTRIES` (`chat.rs:59`). -/
def maxTranscriptEntries : Nat := 200

/-- `ChatEntry` (`chat.rs:33-42`). -/
structure ChatEntry where
  outgoing : Bool
  text : String
  atUnix : UInt64
  deriving DecidableEq, Repr

namespace SessionHost

/-- The crates that an invite is made with, and the key of this host. -/
structure Crates where
  iroh : Iroh
  ed : Dalek
  identity : ed.SigningKey
  /-- `serde_json::to_vec`. -/
  toVec : InviteDto → Option (List UInt8)

/-- What a command reads from elsewhere. -/
structure Draw (crates : Crates) where
  now : UInt64
  /-- `self.endpoint.addr()`; `none` while it has no address. -/
  addr : Option crates.iroh.EndpointAddr
  inviteId : Bytes inviteIdBytes
  /-- The address and the fingerprint of the endpoint that was bound for the invite. -/
  bound : Option (SocketAddr × Bytes 32)

/-- What `answer` and the actor behind it keep for these two requests. -/
structure Actor where
  /-- The endpoint is open. -/
  opened : Bool := true
  hosting : Bool := true
  labels : HashMap String NodeId := ∅
  connections : List NodeId := []
  transcripts : HashMap NodeId (List ChatEntry) := ∅
  /-- The chat lines that were sent to a guest. -/
  sent : List (NodeId × String) := []
  /-- The obfuscated transport is on, and an endpoint is being bound for an invite. -/
  obfuscated : Bool := false
  binding : Bool := false
  tickets : TicketRegistry := .new
  liveInvite : Option InviteDto := none
  /-- How often every code was retired. -/
  retirements : Nat := 0

namespace Actor

/-- `ChatLog::record` of an outgoing line (`chat.rs:76-103`); `none` where the text is refused. -/
def record (actor : Actor) (peer : NodeId) (text : String) (atUnix : UInt64) : Option Actor :=
  if (asBytes text).isEmpty || (asBytes text).length > chatMaxBytes then none
  else
    let transcript := (actor.transcripts.lookup peer).getD []
    let kept := if transcript.length ≥ maxTranscriptEntries then transcript.tail else transcript
    some { actor with
           transcripts :=
             actor.transcripts.insert peer (kept ++ [{ outgoing := true, text, atUnix }]) }

/-- `on_chat_send` (`network.rs:14498-14518`). -/
def onChatSend (actor : Actor) (label text : String) (now : UInt64) : Bool × Actor :=
  match actor.labels.lookup label with
  | none => (false, actor)
  | some peer =>
      if peer ∉ actor.connections then (false, actor)
      else
        match actor.record peer text now with
        | none => (false, actor)
        | some actor => (true, { actor with sent := actor.sent ++ [(peer, text)] })

variable {crates : Crates}

/-- The invite that is handed back as it is (`network.rs:14137-14145`). -/
def stillLive (actor : Actor) (role : Role) (renew : Bool) (now : UInt64) : Option InviteDto :=
  if renew then none
  else
    match actor.liveInvite with
    | none => none
    | some live =>
        match InviteTicket.fromCode live.code with
        | .error _ => none
        | .ok ticket =>
            if ticket.allowedRequest = role ∧ ticket.isExpiredAt now = false then some live
            else none

/-- `finish_invite` (`network.rs:14247-14290`). -/
def finishInvite (actor : Actor) (role : Role) (draw : Draw crates)
    (addr : crates.iroh.EndpointAddr) : Option InviteDto × Actor :=
  let advertised := if actor.obfuscated then draw.bound else none
  let issued := InviteTicket.issueWithId crates.iroh crates.ed crates.identity addr role draw.now
    draw.inviteId (advertised.map Prod.fst) (advertised.map Prod.snd)
  match issued with
  | .error _ => (none, actor)
  | .ok ticket =>
      match ticket.toCode with
      | .error _ => (none, actor)
      | .ok code =>
          let invite := { code, expiresAt := ticket.expiresAt : InviteDto }
          (some invite,
            { actor with
              tickets := actor.tickets.retireAll.register ticket
              liveInvite := some invite
              retirements := actor.retirements + 1 })

/-- `on_invite_create` (`network.rs:14115-14228`) with the binding of an endpoint, if there is one,
behind it. -/
def onInviteCreate (actor : Actor) (role : Role) (renew : Bool) (draw : Draw crates) :
    Option InviteDto × Actor :=
  if !actor.hosting then (none, actor)
  else
    match actor.stillLive role renew draw.now with
    | some live => (some live, actor)
    | none =>
        if actor.binding then (none, actor)
        else
          match draw.addr with
          | none => (none, actor)
          | some addr => actor.finishInvite role draw addr

/-- `invite_reply` (`host_panel.rs:794-804`). -/
def inviteReply (actor : Actor) (renew : Bool) (draw : Draw crates) : Reply × Actor :=
  match actor.onInviteCreate .viewOnly renew draw with
  | (none, actor) => (.refused, actor)
  | (some invite, actor) =>
      match crates.toVec invite with
      | none => (.refused, actor)
      | some json => (.invite json, actor)

end Actor

/-- `Served::answer` (`host_panel.rs:542-650`); `others` answers the other requests. -/
def answer {crates : Crates} (others : Request → Draw crates → Actor → Reply × Actor)
    (request : Request) (draw : Draw crates) (actor : Actor) : Reply × Actor :=
  match request with
  | .sendChat peer text =>
      if !actor.opened then (.refused, actor)
      else
        let (sent, actor) := actor.onChatSend peer text draw.now
        (if sent then .done else .refused, actor)
  | .invite renew =>
      if !actor.opened then (.refused, actor) else actor.inviteReply renew draw
  | request => others request draw actor

/-- The session host. -/
def host {crates : Crates} (others : Request → Draw crates → Actor → Reply × Actor)
    (guestStores : Draw crates → Actor → Reply)
    (guestStoresTaken : Draw crates → Actor → Reply × Actor) :
    HostPanel.Host (Draw crates) Actor :=
  { answer := answer others, guestStores, guestStoresTaken }

end SessionHost

end Lumepeer.Desktop
