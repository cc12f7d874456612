import Lumepeer.Runtime.Network.Tunnel

/-!
# Sockets of a tunnel

A completed connect names a stream id, and the address it is checked against is
the one that `tunnel_streams` lists under that id. The two are the same as long as
no id is asked for again for another address while a connect under it is in
flight. Every step but an open request only takes sockets and entries away
(`Shrinks`), so that the whole law is about the moment of a request.
-/

namespace Lumepeer.Runtime.TunnelHost
open Lumepeer.Lib Lumepeer.Core

/-- The stream that a socket serves. -/
def key (socket : Socket) : NodeId × StreamId :=
  (socket.peer, socket.streamId)

/-- The outgoing sockets of a peer's session, connecting or carrying data. -/
def socketsOf (host : TunnelHost) (peer : NodeId) : List Socket :=
  host.sockets.filter fun socket => socket.peer = peer

/-- A stream is started only for a socket whose own address the session may reach. -/
def StartsAllowed (e : Event TunnelHost Op TunnelOut) : Prop :=
  ∀ socket, e.out.started = some socket →
    e.pre.sessions.tunnelAllows socket.peer socket.target.host socket.target.port = true

/-- No session has more sockets than it may have streams. -/
def Bounded (host : TunnelHost) : Prop :=
  ∀ peer, (host.socketsOf peer).length ≤ maxTunnelStreamsPerSession

/-- The request passes every check of `on_tunnel_open_request`. -/
def admits (host : TunnelHost) (peer : NodeId) (name : List Char) (port : UInt16) : Bool :=
  host.speaksTunnel peer && (TunnelTarget.named name port).isSome &&
    host.sessions.tunnelAllows peer name port && host.openStreams peer < maxTunnelStreamsPerSession

/-- A request that is admitted names no id under which a connect to another address is in flight, and
`tunnel_streams` lists as many streams of the session as there are sockets. -/
def Listed (host : TunnelHost) : Op → Prop
  | .openRequest peer name port streamId =>
      host.admits peer name port = true →
        (∀ socket ∈ host.socketsOf peer, socket.phase = .connecting → socket.streamId = streamId →
          TunnelTarget.named name port = some socket.target) ∧
          (host.socketsOf peer).length ≤ host.openStreams peer
  | _ => True

instance (host : TunnelHost) (op : Op) : Decidable (Listed host op) := by
  cases op <;> unfold Listed <;> infer_instance

/-- Streams and sockets belong together. -/
structure Sound (host : TunnelHost) : Prop where
  own : ∀ socket ∈ host.sockets, socket.phase = .connecting →
    ∀ target, host.tunnelStreams.lookup (key socket) = some target → target = socket.target
  bounded : Bounded host

/-- The step takes sockets and entries away, or moves sockets on from connecting. -/
structure Shrinks (host next : TunnelHost) : Prop where
  keys : (next.sockets.map key).Subperm (host.sockets.map key)
  connecting : ∀ socket ∈ next.sockets, socket.phase = .connecting → socket ∈ host.sockets
  listed : ∀ key target, next.tunnelStreams.lookup key = some target →
    host.tunnelStreams.lookup key = some target

/-! ## Steps that shrink -/

section
variable {host next : TunnelHost}

theorem length_socketsOf (peer : NodeId) :
    (host.socketsOf peer).length = (host.sockets.map key).countP fun key => key.1 = peer := by
  rw [List.countP_map, List.countP_eq_length_filter]
  rfl

theorem Sound.shrink (sound : Sound host) (shrinks : Shrinks host next) : Sound next where
  own _ member connecting target found :=
    sound.own _ (shrinks.connecting _ member connecting) connecting target
      (shrinks.listed _ _ found)
  bounded peer := by
    rw [length_socketsOf]
    exact (shrinks.keys.countP_le _).trans (length_socketsOf peer ▸ sound.bounded peer)

theorem Shrinks.refl : Shrinks host host :=
  { keys := List.Subperm.refl _, connecting := fun _ member _ => member, listed := fun _ _ => id }

theorem Shrinks.trans {last : TunnelHost} (first : Shrinks host next) (second : Shrinks next last) :
    Shrinks host last where
  keys := second.keys.trans first.keys
  connecting _ member connecting :=
    first.connecting _ (second.connecting _ member connecting) connecting
  listed key target found := first.listed key target (second.listed key target found)

/-- Some of the sockets are left, and some of the entries. -/
theorem shrinks_of_sublist (sockets : next.sockets.Sublist host.sockets)
    (listed : ∀ key target, next.tunnelStreams.lookup key = some target →
      host.tunnelStreams.lookup key = some target) : Shrinks host next where
  keys := (sockets.map key).subperm
  connecting _ member _ := sockets.subset member
  listed := listed

theorem lookup_of_erase {streams : HashMap (NodeId × StreamId) TunnelTarget}
    {erased found : NodeId × StreamId} {target : TunnelTarget}
    (left : (streams.erase erased).lookup found = some target) : streams.lookup found = some target := by
  rw [HashMap.lookup_erase_eq] at left
  split at left
  · cases left
  · exact left

theorem shrinks_endTunnelStream (peer : NodeId) (streamId : StreamId) (announce : Bool) :
    Shrinks host (host.endTunnelStream peer streamId announce).2 := by
  unfold endTunnelStream
  split
  · exact .refl
  · exact shrinks_of_sublist List.filter_sublist fun _ _ => lookup_of_erase

theorem shrinks_endTunnelStreams (peer : NodeId) (streams : List StreamId) :
    Shrinks host (host.endTunnelStreams peer streams).2 := by
  induction streams generalizing host with
  | nil => exact .refl
  | cons streamId rest ih => exact (shrinks_endTunnelStream peer streamId true).trans ih

theorem shrinks_closeTunnel (peer : NodeId) : Shrinks host (host.closeTunnel peer).2 := by
  apply shrinks_of_sublist List.filter_sublist
  intro key target found
  simp only [closeTunnel, HashMap.lookup_retain] at found
  exact (Option.filter_eq_some_iff.mp found).1

/-- What the sessions say, and who is connected, is not about sockets. -/
theorem shrinks_of_eq (sockets : next.sockets = host.sockets)
    (streams : next.tunnelStreams = host.tunnelStreams) : Shrinks host next :=
  shrinks_of_sublist (by rw [sockets]) (by simp [streams])

theorem shrinks_onSetGrant (peer : NodeId) (grant : IndependentGrant) (allowed : Bool) :
    Shrinks host (host.onSetGrant peer grant allowed).2 := by
  unfold onSetGrant
  split
  · exact shrinks_of_eq rfl rfl
  · dsimp only
    split
    · refine .trans ?_ (shrinks_closeTunnel peer)
      exact shrinks_of_eq rfl rfl
    · exact shrinks_of_eq rfl rfl

theorem shrinks_onTunnelSetTarget (peer : NodeId) (name : List Char) (port : UInt16)
    (allowed : Bool) : Shrinks host (host.onTunnelSetTarget peer name port allowed).2 := by
  unfold onTunnelSetTarget
  split
  · exact .refl
  · split
    · exact shrinks_of_eq rfl rfl
    · refine .trans ?_ (shrinks_endTunnelStreams peer _)
      exact shrinks_of_eq rfl rfl

theorem shrinks_onTunnelConnected (peer : NodeId) : Shrinks host (host.onTunnelConnected peer).2 := by
  unfold onTunnelConnected
  split
  · exact .refl
  · refine { keys := ?_, connecting := ?_, listed := fun _ _ => id }
    · have same : (host.sockets.map fun socket =>
          if socket.phase = .awaiting && socket.peer = peer then { socket with phase := .carrying }
          else socket).map key = host.sockets.map key := by
        rw [List.map_map]
        apply List.map_congr_left
        intro socket _
        simp only [Function.comp]
        split <;> rfl
      rw [same]
    · intro socket member connecting
      obtain ⟨before, isBefore, rfl⟩ := List.mem_map.mp member
      split at connecting
      · cases connecting
      · rename_i other
        rwa [if_neg other]

/-- One socket moves on from connecting, beside some that are left. -/
theorem shrinks_moved {socket : Socket} {rest : List Socket} {phase : SocketPhase}
    (left : rest.Sublist host.sockets) (member : socket ∈ host.sockets) (out : socket ∉ rest)
    (moved : phase ≠ .connecting) :
    Shrinks host { host with sockets := rest ++ [{ socket with phase }] } where
  keys := by
    have whole : (socket :: rest).Subperm host.sockets :=
      List.cons_subperm_of_not_mem_of_mem out member left.subperm
    have perm : ((rest ++ [{ socket with phase }]).map key).Perm ((socket :: rest).map key) := by
      rw [List.map_append]
      exact List.perm_append_comm
    obtain ⟨moving, isWhole, sublist⟩ := whole
    exact perm.subperm.trans ⟨moving.map key, isWhole.map key, sublist.map key⟩
  connecting other isOther connecting := by
    rcases List.mem_append.mp isOther with old | isMoved
    · exact left.subset old
    · rw [List.mem_singleton] at isMoved
      subst isMoved
      exact absurd connecting moved
  listed _ _ := id

theorem shrinks_startTunnelStream {socket : Socket} {rest : List Socket}
    (left : rest.Sublist host.sockets) (member : socket ∈ host.sockets) (out : socket ∉ rest) :
    Shrinks host ({ host with sockets := rest }.startTunnelStream socket) := by
  unfold startTunnelStream
  split
  · exact shrinks_moved left member out (by simp)
  · refine shrinks_moved (List.filter_sublist.trans left) member ?_ (by simp)
    exact fun still => out (List.mem_of_mem_filter still)

/-! ## Completed connects -/

theorem started_endTunnelStream (peer : NodeId) (streamId : StreamId) (announce : Bool) :
    (host.endTunnelStream peer streamId announce).1.started = none := by
  unfold endTunnelStream
  split <;> rfl

theorem started_onTunnelSetTarget (peer : NodeId) (name : List Char) (port : UInt16)
    (allowed : Bool) : (host.onTunnelSetTarget peer name port allowed).1.started = none := by
  unfold onTunnelSetTarget
  split
  · rfl
  · split
    · rfl
    · generalize host.streamsWhere peer _ = streams
      cases streams <;> rfl

theorem started_onSetGrant (peer : NodeId) (grant : IndependentGrant) (allowed : Bool) :
    (host.onSetGrant peer grant allowed).1.started = none := by
  unfold onSetGrant
  split
  · rfl
  · dsimp only
    split <;> rfl

theorem started_onTunnelConnected (peer : NodeId) :
    (host.onTunnelConnected peer).1.started = none := by
  unfold onTunnelConnected
  split <;> rfl

/-- A completed connect starts the stream of a socket that is listed with an allowed address. -/
theorem started_listed {host : TunnelHost} {socket started : Socket} {connected : Bool}
    (isStarted : (host.onTunnelTargetConnected socket connected).1.started = some started) :
    started = socket ∧ ∃ target, host.tunnelStreams.lookup (key socket) = some target ∧
      host.sessions.tunnelAllows socket.peer target.host target.port = true := by
  unfold onTunnelTargetConnected at isStarted
  dsimp only at isStarted
  split at isStarted
  · cases isStarted
  · split at isStarted
    · cases isStarted
    · rename_i passed
      cases isStarted
      refine ⟨rfl, ?_⟩
      simp only [Bool.or_eq_true, not_or, Bool.not_eq_true'] at passed
      cases found : host.tunnelStreams.lookup (key socket) with
      | none =>
          unfold key at found
          simp [found] at passed
      | some target =>
          unfold key at found
          exact ⟨target, rfl, by simpa [found] using passed.2⟩

theorem shrinks_targetConnected (number : Nat) (connected : Bool) :
    Shrinks host (host.targetConnected number connected).2 := by
  unfold targetConnected
  split
  · exact .refl
  · rename_i socket found
    have member := List.mem_of_find?_eq_some found
    have isNumber := List.find?_some found
    simp only [Bool.and_eq_true, decide_eq_true_eq] at isNumber
    have left : (host.sockets.filter fun other => other.number ≠ number).Sublist host.sockets :=
      List.filter_sublist
    unfold onTunnelTargetConnected
    dsimp only
    split
    · exact shrinks_of_sublist left fun _ _ => lookup_of_erase
    · split
      · exact shrinks_of_sublist left fun _ _ => lookup_of_erase
      · apply shrinks_startTunnelStream left member
        simp [isNumber.1]

theorem startsAllowed_targetConnected (sound : Sound host) (number : Nat) (connected : Bool) :
    StartsAllowed (Event.of step host (.targetConnected number connected)) := by
  intro started isStarted
  simp only [Event.of_out, step, targetConnected] at isStarted
  split at isStarted
  · cases isStarted
  · rename_i socket found
    have member := List.mem_of_find?_eq_some found
    have isConnecting := List.find?_some found
    simp only [Bool.and_eq_true, decide_eq_true_eq] at isConnecting
    obtain ⟨rfl, target, isListed, allowed⟩ := started_listed isStarted
    rw [sound.own started member isConnecting.2 target isListed] at allowed
    exact allowed

/-! ## Requests -/

theorem admits_iff {peer : NodeId} {name : List Char} {port : UInt16} :
    host.admits peer name port = true ↔ host.speaksTunnel peer = true ∧
      (∃ target, TunnelTarget.named name port = some target) ∧
      host.sessions.tunnelAllows peer name port = true ∧
      host.openStreams peer < maxTunnelStreamsPerSession := by
  simp only [admits, Bool.and_eq_true, decide_eq_true_eq, Option.isSome_iff_exists, and_assoc]

theorem onTunnelOpenRequest_eq (peer : NodeId) (name : List Char) (port : UInt16)
    (streamId : StreamId) :
    (host.onTunnelOpenRequest peer name port streamId).1.started = none ∧
    (host.admits peer name port = false ∧ (host.onTunnelOpenRequest peer name port streamId).2 = host ∨
      host.admits peer name port = true ∧ ∃ target, TunnelTarget.named name port = some target ∧
        (host.onTunnelOpenRequest peer name port streamId).2 =
          { host with
            tunnelStreams := host.tunnelStreams.insert (peer, streamId) target
            sockets := host.sockets ++
              [{ number := host.nextSocket, peer, streamId, target, phase := .connecting }]
            nextSocket := host.nextSocket + 1 }) := by
  unfold onTunnelOpenRequest admits
  cases host.speaksTunnel peer <;> cases TunnelTarget.named name port <;>
    cases host.sessions.tunnelAllows peer name port <;> simp [refuseTunnel]
  rename_i target
  by_cases room : host.openStreams peer < maxTunnelStreamsPerSession
  · simp [room, Nat.not_le.mpr room]
  · simp [room, Nat.not_lt.mp room]

theorem sound_openRequest (sound : Sound host) {peer : NodeId} {name : List Char} {port : UInt16}
    {streamId : StreamId} (listed : Listed host (.openRequest peer name port streamId)) :
    Sound (host.onTunnelOpenRequest peer name port streamId).2 := by
  obtain ⟨-, ⟨-, same⟩ | ⟨admitted, target, isTarget, isNext⟩⟩ :=
    @onTunnelOpenRequest_eq host peer name port streamId
  · rwa [same]
  · rw [isNext]
    obtain ⟨clear, counted⟩ := listed admitted
    have room := (admits_iff.mp admitted).2.2.2
    refine { own := ?_, bounded := ?_ }
    · intro socket member connecting found isFound
      rw [HashMap.lookup_insert_eq] at isFound
      rcases List.mem_append.mp member with old | isNew
      · split at isFound
        · rename_i sameKey
          obtain ⟨isPeer, isId⟩ := Prod.mk.inj sameKey
          have inSession : socket ∈ host.socketsOf peer :=
            List.mem_filter.mpr ⟨old, decide_eq_true isPeer⟩
          have named := clear socket inSession connecting isId
          exact (Option.some.inj isFound).symm.trans (Option.some.inj (isTarget.symm.trans named))
        · exact sound.own socket old connecting found isFound
      · rw [List.mem_singleton] at isNew
        subst isNew
        change (if (peer, streamId) = (peer, streamId) then some target else _) = _ at isFound
        rw [if_pos rfl] at isFound
        exact (Option.some.inj isFound).symm
    · intro other
      simp only [socketsOf, List.filter_append, List.length_append, List.filter_cons, List.filter_nil]
      split
      · rename_i isPeer
        rw [decide_eq_true_eq] at isPeer
        subst isPeer
        simp only [socketsOf] at counted
        simp only [List.length_singleton]
        omega
      · simp only [List.length_nil, Nat.add_zero]
        exact sound.bounded other

/-! ## Whole runs -/

/-- Every step keeps streams and sockets together where requests meet their condition. -/
theorem sound_step {op : Op} (sound : Sound host) (listed : Listed host op) :
    Sound (step host op).2 := by
  cases op with
  | adopted peer speaks => exact sound.shrink (shrinks_of_eq rfl rfl)
  | closed peer =>
      apply sound.shrink
      refine .trans ?_ (shrinks_closeTunnel peer)
      exact shrinks_of_eq rfl rfl
  | viewing peer on => exact sound.shrink (shrinks_of_eq rfl rfl)
  | session op => exact sound.shrink (shrinks_of_eq rfl rfl)
  | setGrant peer grant allowed => exact sound.shrink (shrinks_onSetGrant peer grant allowed)
  | setTarget peer name port allowed =>
      exact sound.shrink (shrinks_onTunnelSetTarget peer name port allowed)
  | openRequest peer name port streamId => exact sound_openRequest sound listed
  | tunnelClose peer streamId => exact sound.shrink (shrinks_endTunnelStream peer streamId false)
  | streamEnded peer streamId => exact sound.shrink (shrinks_endTunnelStream peer streamId true)
  | closeTunnel peer => exact sound.shrink (shrinks_closeTunnel peer)
  | tunnelConnected peer => exact sound.shrink (shrinks_onTunnelConnected peer)
  | targetConnected number connected =>
      exact sound.shrink (shrinks_targetConnected number connected)
  | socketGone number =>
      exact sound.shrink (shrinks_of_sublist List.filter_sublist fun _ _ => id)

/-- Only a completed connect starts a stream. -/
theorem startsAllowed_step (sound : Sound host) (op : Op) :
    StartsAllowed (Event.of step host op) := by
  have none : ∀ out : TunnelOut × TunnelHost, out.1.started = none →
      ∀ socket, out.1.started = some socket → False := by
    intro out nothing socket started
    rw [nothing] at started
    cases started
  intro socket started
  cases op with
  | targetConnected number connected =>
      exact startsAllowed_targetConnected sound number connected socket started
  | openRequest peer name port streamId =>
      exact (none _ (onTunnelOpenRequest_eq peer name port streamId).1 socket started).elim
  | setGrant peer grant allowed =>
      exact (none _ (started_onSetGrant peer grant allowed) socket started).elim
  | setTarget peer name port allowed =>
      exact (none _ (started_onTunnelSetTarget peer name port allowed) socket started).elim
  | tunnelClose peer streamId =>
      exact (none _ (started_endTunnelStream peer streamId false) socket started).elim
  | streamEnded peer streamId =>
      exact (none _ (started_endTunnelStream peer streamId true) socket started).elim
  | tunnelConnected peer =>
      exact (none _ (started_onTunnelConnected peer) socket started).elim
  | _ => cases started

end

/-- In every run of the host in which every request that is admitted names an id under which no connect
to another address is in flight, while its session has no more sockets than listed streams: a stream
is started only for a socket to an address that is allowed at that moment, and no session ever has
more sockets than `MAX_TUNNEL_STREAMS_PER_SESSION`. -/
theorem tunnel_sockets_allowed_while_listed (plan : Plan) (ops : List Op)
    (listed : ∀ e ∈ history step (new plan) ops, Listed e.pre e.op) :
    ∀ e ∈ history step (new plan) ops, StartsAllowed e ∧ Bounded e.post := by
  have start : Sound (new plan) :=
    { own := fun _ member => absurd member (by simp [new])
      bounded := fun _ => Nat.zero_le _ }
  intro e member
  have sound := history_induction (fun _ _ => sound_step) start listed e member
  refine ⟨?_, sound.2.bounded⟩
  rw [eq_of_mem_history member]
  exact startsAllowed_step sound.1 e.op

def sampleGuest : NodeId := ⟨List.Vector.replicate 32 7⟩

/-- A guest with a tunnel to two ports of the host. -/
def sampleGranted : List Op :=
  [.adopted sampleGuest true,
    .session (.grantAs sampleGuest .fullControl .screen (List.Vector.replicate 16 1)),
    .setGrant sampleGuest .tunnel true,
    .setTarget sampleGuest "localhost".toList 80 true,
    .setTarget sampleGuest "localhost".toList 81 true]

/-- Two requests with an id each, the first address taken back meanwhile. -/
theorem tunnel_sockets_allowed_with_two_ids :
    let events := history step (new .free) (sampleGranted ++
      [.openRequest sampleGuest "localhost".toList 80 7,
        .openRequest sampleGuest "localhost".toList 81 8,
        .setTarget sampleGuest "localhost".toList 80 false, .targetConnected 0 true])
    events ≠ [] ∧ ∀ e ∈ events, StartsAllowed e ∧ Bounded e.post := by
  refine ⟨List.cons_ne_nil _ _, ?_⟩
  apply tunnel_sockets_allowed_while_listed
  decide +kernel

/-- One id for both requests: the first socket is started for an address that is no longer allowed. -/
theorem tunnel_id_reused_in_flight :
    ¬∀ (plan : Plan) (ops : List Op), ∀ e ∈ history step (new plan) ops,
      StartsAllowed e ∧ Bounded e.post := by
  intro all
  let ops : List Op := sampleGranted ++
    [.openRequest sampleGuest "localhost".toList 80 7,
      .openRequest sampleGuest "localhost".toList 81 7,
      .setTarget sampleGuest "localhost".toList 80 false]
  have allowed := (all .free (ops ++ [.targetConnected 0 true])
    (Event.of step (exec step (new .free) ops) (.targetConnected 0 true))
    (by simp [history_append])).1
    { number := 0, peer := sampleGuest, streamId := 7
      target := { host := "localhost".toList, port := 80 }, phase := .connecting } (by rfl)
  exact absurd allowed (by decide +kernel)

end Lumepeer.Runtime.TunnelHost
