import Lumepeer.Core.Message
import Lumepeer.Core.Session

/-!
# The host's side of tunnels

The handlers of `crates/runtime/src/network.rs` for connections that a guest asks
the host to open, with the sockets that their tasks hold. A socket is known by
its number and keeps the address it was opened for; the actor sees neither, only
the stream id under which a connect completes. `tunnel_awaiting_channel` is the
part of the sockets that wait for `rd/tunnel/1`. A socket that carries data stays
until the tasks that pump it are through with it, whatever the actor has forgotten
about it. The streams that this node's own listener opens as a guest are left out;
they are listed in `tunnel_streams` too.
-/

namespace Lumepeer.Runtime
open Lumepeer.Lib Lumepeer.Core

/-- `StreamId` (`net/src/tunnel.rs:45`). -/
abbrev StreamId := UInt32

/-- What a socket to a target is doing. -/
inductive SocketPhase where
  | connecting
  | awaiting
  | carrying
  deriving DecidableEq

/-- An outgoing TCP connection of the host. -/
structure Socket where
  number : Nat
  peer : NodeId
  streamId : StreamId
  target : TunnelTarget
  phase : SocketPhase
  deriving DecidableEq

/-- The part of the actor that tunnels are about. -/
structure TunnelHost where
  sessions : SessionManager
  connections : NodeId → Bool
  views : NodeId → Bool
  speaksTunnel : NodeId → Bool
  /-- The peers of `tunnels`. -/
  tunnels : NodeId → Bool
  tunnelStreams : HashMap (NodeId × StreamId) TunnelTarget
  sockets : List Socket
  /-- The number of the next socket. -/
  nextSocket : Nat

/-- What a step sends on control connections, and the socket whose stream a completed connect
starts. -/
structure TunnelOut where
  sent : List (NodeId × MessageKind) := []
  started : Option Socket := none

namespace TunnelHost

/-- The actor when it starts. -/
def new (plan : Plan) : TunnelHost :=
  { sessions := .withPlan plan
    connections := fun _ => false
    views := fun _ => false
    speaksTunnel := fun _ => false
    tunnels := fun _ => false
    tunnelStreams := ∅
    sockets := []
    nextSocket := 0 }

/-- `Actor::may_tunnel` (`network.rs:8373-8385`). -/
def mayTunnel (host : TunnelHost) (peer : NodeId) : Bool :=
  if host.views peer then true
  else host.sessions.state peer = .active && (host.sessions.grants peer).any fun grants => grants.tunnel

/-- The entries that count against the bound (`network.rs:8566-8570`). -/
def openStreams (host : TunnelHost) (peer : NodeId) : Nat :=
  host.tunnelStreams.countWhere fun key _ => key.1 = peer

/-- `Actor::refuse_tunnel` (`network.rs:8785-8793`). -/
def refuseTunnel (peer : NodeId) (streamId : StreamId) (reason : TunnelRefusal) : TunnelOut :=
  { sent := [(peer, .tunnelOpenResponse streamId (some reason))] }

/-- `Actor::on_tunnel_open_request` (`network.rs:8548-8594`). -/
def onTunnelOpenRequest (host : TunnelHost) (peer : NodeId) (name : List Char) (port : UInt16)
    (streamId : StreamId) : TunnelOut × TunnelHost :=
  if !host.speaksTunnel peer then ({}, host)
  else
    match TunnelTarget.named name port with
    | none => (refuseTunnel peer streamId .badTarget, host)
    | some target =>
        if !host.sessions.tunnelAllows peer name port then
          (refuseTunnel peer streamId .notGranted, host)
        else if host.openStreams peer ≥ maxTunnelStreamsPerSession then
          (refuseTunnel peer streamId .tooMany, host)
        else
          ({}, { host with
            tunnelStreams := host.tunnelStreams.insert (peer, streamId) target
            sockets := host.sockets ++
              [{ number := host.nextSocket, peer, streamId, target, phase := .connecting }]
            nextSocket := host.nextSocket + 1 })

/-- `tunnel_awaiting_channel.remove` and `.retain`: drops the waiting sockets of these streams. -/
def dropAwaiting (sockets : List Socket) (which : NodeId → StreamId → Bool) : List Socket :=
  sockets.filter fun socket => !(socket.phase = .awaiting && which socket.peer socket.streamId)

/-- `Actor::start_tunnel_stream` (`network.rs:8665-8737`). -/
def startTunnelStream (host : TunnelHost) (socket : Socket) : TunnelHost :=
  if host.tunnels socket.peer then
    { host with sockets := host.sockets ++ [{ socket with phase := .carrying }] }
  else
    { host with
      sockets := dropAwaiting host.sockets
        (fun peer streamId => peer = socket.peer && streamId = socket.streamId) ++
        [{ socket with phase := .awaiting }] }

/-- `Actor::on_tunnel_target_connected` (`network.rs:8597-8637`). The socket is the one whose
connect completes; the task that opened it is over. -/
def onTunnelTargetConnected (host : TunnelHost) (socket : Socket) (connected : Bool) :
    TunnelOut × TunnelHost :=
  let key := (socket.peer, socket.streamId)
  let forgotten := { host with tunnelStreams := host.tunnelStreams.erase key }
  if !connected then (refuseTunnel socket.peer socket.streamId .unreachable, forgotten)
  else if !host.mayTunnel socket.peer ||
      (host.tunnelStreams.lookup key).all (fun target =>
        !host.sessions.tunnelAllows socket.peer target.host target.port) then
    (refuseTunnel socket.peer socket.streamId .notGranted, forgotten)
  else
    ({ sent := [(socket.peer, .tunnelOpenResponse socket.streamId none)], started := some socket },
      host.startTunnelStream socket)

/-- A task reports its connect. -/
def targetConnected (host : TunnelHost) (number : Nat) (connected : Bool) : TunnelOut × TunnelHost :=
  match host.sockets.find? fun socket => socket.number = number && socket.phase = .connecting with
  | none => ({}, host)
  | some socket =>
      onTunnelTargetConnected
        { host with sockets := host.sockets.filter fun other => other.number ≠ number } socket connected

/-- `Actor::end_tunnel_stream` (`network.rs:8797-8810`). -/
def endTunnelStream (host : TunnelHost) (peer : NodeId) (streamId : StreamId) (announce : Bool) :
    TunnelOut × TunnelHost :=
  match host.tunnelStreams.lookup (peer, streamId) with
  | none => ({}, host)
  | some _ =>
      ({ sent := if announce then [(peer, .tunnelClose streamId)] else [] }, { host with
        tunnelStreams := host.tunnelStreams.erase (peer, streamId)
        sockets := dropAwaiting host.sockets fun p id => p = peer && id = streamId })

/-- The streams of a peer's entries that satisfy `p`. -/
def streamsWhere (host : TunnelHost) (peer : NodeId) (p : TunnelTarget → Bool) : List StreamId :=
  (host.tunnelStreams.entries.filter fun entry => entry.1.1 = peer && p entry.2).map
    fun entry => entry.1.2

/-- Ends streams one after the other. -/
def endTunnelStreams (host : TunnelHost) (peer : NodeId) : List StreamId → TunnelOut × TunnelHost
  | [] => ({}, host)
  | streamId :: rest =>
      let (first, next) := host.endTunnelStream peer streamId true
      let (later, last) := next.endTunnelStreams peer rest
      ({ sent := first.sent ++ later.sent }, last)

/-- `Actor::close_tunnel` (`network.rs:8819-8854`). -/
def closeTunnel (host : TunnelHost) (peer : NodeId) : TunnelOut × TunnelHost :=
  ({ sent := (host.streamsWhere peer fun _ => true).map fun streamId =>
      (peer, .tunnelClose streamId) }, { host with
    tunnels := fun p => p ≠ peer && host.tunnels p
    tunnelStreams := host.tunnelStreams.retain fun key _ => key.1 ≠ peer
    sockets := dropAwaiting host.sockets fun p _ => p = peer })

/-- `Actor::on_tunnel_set_target` (`network.rs:8749-8782`). -/
def onTunnelSetTarget (host : TunnelHost) (peer : NodeId) (name : List Char) (port : UInt16)
    (allowed : Bool) : TunnelOut × TunnelHost :=
  match TunnelTarget.named name port with
  | none => ({}, host)
  | some target =>
      if allowed then
        ({}, { host with sessions := (host.sessions.allowTunnelTarget peer target).2 })
      else
        let denied := { host with sessions := host.sessions.denyTunnelTarget peer target }
        denied.endTunnelStreams peer (host.streamsWhere peer fun listed => listed = target)

/-- `Actor::on_set_grant` (`network.rs:16205-16328`), as far as it is about tunnels. -/
def onSetGrant (host : TunnelHost) (peer : NodeId) (grant : IndependentGrant) (allowed : Bool) :
    TunnelOut × TunnelHost :=
  match host.sessions.setGrant peer grant allowed with
  | (.error _, sessions) => ({}, { host with sessions })
  | (.ok _, sessions) =>
      let switched := { host with sessions }
      if !allowed && grant = .tunnel then switched.closeTunnel peer else ({}, switched)

/-- `Actor::on_tunnel_connected` (`network.rs:8325-8366`). -/
def onTunnelConnected (host : TunnelHost) (peer : NodeId) : TunnelOut × TunnelHost :=
  if !host.connections peer || !host.mayTunnel peer then ({}, host)
  else
    ({}, { host with
      tunnels := fun p => p = peer || host.tunnels p
      sockets := host.sockets.map fun socket =>
        if socket.phase = .awaiting && socket.peer = peer then { socket with phase := .carrying }
        else socket })

/-- What happens to the actor or to its sockets. -/
inductive Op where
  /-- A handshake is over: the peer is connected and says whether it speaks tunnels. -/
  | adopted (peer : NodeId) (speaks : Bool)
  /-- The peer's control connection is closed. -/
  | closed (peer : NodeId)
  /-- This node becomes a guest of the peer, or stops being one. -/
  | viewing (peer : NodeId) (on : Bool)
  /-- Any other work on the sessions: a grant, a revoke, a drop, a resume. -/
  | session (op : SessionOp)
  | setGrant (peer : NodeId) (grant : IndependentGrant) (allowed : Bool)
  | setTarget (peer : NodeId) (name : List Char) (port : UInt16) (allowed : Bool)
  | openRequest (peer : NodeId) (name : List Char) (port : UInt16) (streamId : StreamId)
  | tunnelClose (peer : NodeId) (streamId : StreamId)
  | streamEnded (peer : NodeId) (streamId : StreamId)
  | closeTunnel (peer : NodeId)
  | tunnelConnected (peer : NodeId)
  | targetConnected (number : Nat) (connected : Bool)
  /-- The tasks that pump a socket are over. -/
  | socketGone (number : Nat)

/-- One step. -/
def step (host : TunnelHost) : Op → TunnelOut × TunnelHost
  | .adopted peer speaks =>
      ({}, { host with
        connections := fun p => p = peer || host.connections p
        speaksTunnel := fun p => if p = peer then speaks else host.speaksTunnel p })
  | .closed peer =>
      { host with
        connections := fun p => p ≠ peer && host.connections p
        speaksTunnel := fun p => p ≠ peer && host.speaksTunnel p }.closeTunnel peer
  | .viewing peer on => ({}, { host with views := fun p => if p = peer then on else host.views p })
  | .session op => ({}, { host with sessions := (host.sessions.step op).2 })
  | .setGrant peer grant allowed => host.onSetGrant peer grant allowed
  | .setTarget peer name port allowed => host.onTunnelSetTarget peer name port allowed
  | .openRequest peer name port streamId => host.onTunnelOpenRequest peer name port streamId
  | .tunnelClose peer streamId => host.endTunnelStream peer streamId false
  | .streamEnded peer streamId => host.endTunnelStream peer streamId true
  | .closeTunnel peer => host.closeTunnel peer
  | .tunnelConnected peer => host.onTunnelConnected peer
  | .targetConnected number connected => host.targetConnected number connected
  | .socketGone number =>
      ({}, { host with
        sockets := host.sockets.filter fun socket =>
          !(socket.number = number && socket.phase = .carrying) })

end TunnelHost

end Lumepeer.Runtime
