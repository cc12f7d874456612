import Lumepeer.Desktop.HostPanel
import Lumepeer.Lib.Run
import Lumepeer.Service.HostChannelProtocol.Proofs.RoundTrip

/-!
# How often a request is carried out

One try of `ask` makes the session host carry the request out once where the request arrives, and
not at all elsewhere. A call makes it do so twice just where the reply to the first try is lost and
the request of the second one arrives.
-/

namespace Lumepeer.Desktop
open Lumepeer.Lib Lumepeer.Core Lumepeer.Net Lumepeer.Service

namespace HostPanel
variable {δ σ : Type}

/-! ## The channel -/

theorem received_of_written {request : Request} {bytes : List UInt8}
    (written : writeRequest ([] : List UInt8) request = (true, bytes)) :
    received request = (readRequest bytes).1 := by
  unfold received
  rw [written]

theorem delivered_of_written {reply : Reply} {bytes : List UInt8}
    (written : writeReply ([] : List UInt8) reply = (true, bytes)) :
    delivered reply = (readReply bytes).1 := by
  unfold delivered
  rw [written]

/-- The session host reads the requests whose fields are in their grammar. -/
theorem received_eq (request : Request) :
    received request = if request.InGrammar then some request else none := by
  by_cases sent : request.Sendable
  · rw [received_of_written (writeRequest_of_sendable sent), List.nil_append]
    by_cases good : request.InGrammar
    · rw [if_pos good, readRequest_reads.read_frame good]
    · have refused := readRequest_reads.read_append_of_not_valid sent good []
      rw [List.append_nil] at refused
      rw [if_neg good, refused]
  · have bad : ¬ request.InGrammar := fun good => sent (sendable_of_inGrammar good)
    unfold received
    rw [writeRequest_of_not_sendable sent, if_neg bad]

/-- The client reads the replies that are not too long. -/
theorem delivered_eq (reply : Reply) :
    delivered reply = if reply.Fits then some reply else none := by
  by_cases fits : reply.Fits
  · rw [delivered_of_written (writeReply_of_fits fits), List.nil_append, if_pos fits,
      readReply_reads.read_frame fits]
  · unfold delivered
    rw [writeReply_of_not_fits fits, if_neg fits]

/-- The connection at the other end of the held link. -/
def State.conn (s : State σ) : Option Connection := s.link.bind Link.host

/-- The held connection outlasts it. -/
def Happening.spares : Happening σ → Bool
  | .drops | .restarts _ => false
  | .moves _ => true

/-- The held connection outlasts all that happens. -/
abbrev Undisturbed (happenings : List (Happening σ)) : Prop :=
  happenings.all Happening.spares = true

theorem State.conn_drop (s : State σ) : s.drop.conn = none := by
  obtain ⟨link, answered, served⟩ := s
  rcases link with - | ⟨- | conn⟩
  · rfl
  · rfl
  · rfl

theorem State.conn_happen (s : State σ) (what : Happening σ) :
    (s.happen what).conn = if what.spares then s.conn else none := by
  cases what with
  | drops => exact s.conn_drop
  | restarts state =>
      obtain ⟨link, answered, served⟩ := s
      cases link with
      | none => rfl
      | some link => rfl
  | moves served => rfl

theorem State.conn_foldl (s : State σ) (happenings : List (Happening σ)) :
    (happenings.foldl State.happen s).conn = if Undisturbed happenings then s.conn else none := by
  induction happenings generalizing s with
  | nil => rfl
  | cons what happenings ih =>
      rw [List.foldl_cons, ih, s.conn_happen]
      cases spared : what.spares with
      | false => simp [spared]
      | true => simp [spared]

/-! ## One try -/

/-- A request arrives: there is a connection, or one is had, it outlasts what happens before, and
the session host can read the request. -/
def Arrives (link : Option Link) (request : Request) (attempt : Attempt δ σ) : Prop :=
  (match link with
    | none => attempt.connects = true
    | some link => link.host.isSome = true) ∧
  Undisturbed attempt.before ∧ request.InGrammar

/-- The state in which the request of a try arrives. -/
def State.arrived (s : State σ) (attempt : Attempt δ σ) : State σ :=
  attempt.before.foldl State.happen ((s.connect attempt.connects).getD s)

/-- What the session host replies to a request that arrives, with what it holds then. -/
def served (host : Host δ σ) (s : State σ) (request : Request) (attempt : Attempt δ σ) :
    Reply × Served σ × Connection :=
  serveRequest host attempt.draw (s.arrived attempt).served ((s.arrived attempt).conn.getD {})
    request

/-- The reply to a request that arrives reaches the client: the connection outlasts what happens
before, and the reply is not too long. -/
def Answered (host : Host δ σ) (s : State σ) (request : Request) (attempt : Attempt δ σ) : Prop :=
  Undisturbed attempt.after ∧ (served host s request attempt).1.Fits

variable {host : Host δ σ} {s : State σ} {request : Request} {attempt : Attempt δ σ}

theorem State.arrived_of_link {link : Link} (held : s.link = some link) :
    s.arrived attempt = attempt.before.foldl State.happen s := by
  unfold State.arrived State.connect
  rw [held]
  rfl

/-- There is a connection when a request arrives. -/
theorem exists_conn_of_arrives {link : Link} (held : s.link = some link)
    (arrives : Arrives s.link request attempt) : ∃ conn, (s.arrived attempt).conn = some conn := by
  rw [held] at arrives
  obtain ⟨conn, isConn⟩ := Option.isSome_iff_exists.mp arrives.1
  refine ⟨conn, ?_⟩
  rw [s.arrived_of_link held, s.conn_foldl, if_pos arrives.2.1, State.conn, held]
  exact isConn

theorem State.link_of_conn {conn : Connection} (isConn : s.conn = some conn) :
    s.link = some ⟨some conn⟩ := by
  obtain ⟨⟨host⟩, isLink, isHost⟩ := Option.bind_eq_some_iff.mp isConn
  cases isHost
  exact isLink

/-- A request that does not arrive is not carried out, and is not answered. -/
theorem askOn_of_not_arrives {link : Link} (held : s.link = some link)
    (lost : ¬ Arrives s.link request attempt) :
    (askOn host s request attempt).1 = none ∧ (askOn host s request attempt).2.2 = [] := by
  unfold askOn
  rw [← s.arrived_of_link held]
  dsimp only
  split
  next conn isLink =>
    have isConn : (s.arrived attempt).conn = some conn := by
      rw [State.conn, isLink]
      rfl
    have bad : ¬ request.InGrammar := by
      intro good
      apply lost
      rw [s.arrived_of_link held, s.conn_foldl] at isConn
      split at isConn
      next undisturbed =>
        rw [State.conn, held] at isConn
        rw [held]
        exact ⟨Option.isSome_iff_exists.mpr ⟨conn, isConn⟩, undisturbed, good⟩
      · cases isConn
    rw [received_eq, if_neg bad]
    exact ⟨rfl, rfl⟩
  · exact ⟨rfl, rfl⟩

/-- A request that arrives is carried out once, and its reply may reach the client. -/
theorem askOn_of_arrives {link : Link} (held : s.link = some link)
    (arrives : Arrives s.link request attempt) :
    (askOn host s request attempt).2.2 =
        [⟨(s.arrived attempt).served.state, request, (served host s request attempt).1,
          (served host s request attempt).2.1.state⟩] ∧
      ((askOn host s request attempt).1.isSome = true ↔ Answered host s request attempt) := by
  obtain ⟨conn, isConn⟩ := exists_conn_of_arrives held arrives
  have isLink := State.link_of_conn isConn
  unfold askOn Answered served
  rw [← s.arrived_of_link held, isConn]
  generalize s.arrived attempt = arrived at isLink ⊢
  obtain ⟨_, answered, hosted⟩ := arrived
  cases isLink
  dsimp only
  rw [received_eq, if_pos arrives.2.2]
  dsimp only [Option.getD_some]
  generalize serveRequest host attempt.draw hosted conn request = turn
  obtain ⟨reply, hosted', conn'⟩ := turn
  dsimp only
  rw [delivered_eq]
  by_cases fits : reply.Fits
  · rw [if_pos fits]
    dsimp only
    have outlasts := State.conn_foldl
      { link := some ⟨some conn'⟩, answered, served := hosted' : State σ } attempt.after
    generalize attempt.after.foldl State.happen _ = last at outlasts ⊢
    by_cases undisturbed : Undisturbed attempt.after
    · rw [if_pos undisturbed] at outlasts
      have isLast := State.link_of_conn outlasts
      obtain ⟨_, _, _⟩ := last
      cases isLast
      exact ⟨rfl, fun _ => ⟨undisturbed, fits⟩, fun _ => rfl⟩
    · rw [if_neg undisturbed] at outlasts
      split
      next isLast =>
        rw [State.conn, isLast] at outlasts
        cases outlasts
      · exact ⟨rfl, nofun, fun both => absurd both.1 undisturbed⟩
  · rw [if_neg fits]
    exact ⟨rfl, nofun, fun both => absurd both.2 fits⟩

/-! ## A call -/

/-- The request of a call is carried out, its reply is lost, and the request arrives again. -/
def Resent (host : Host δ σ) (s : State σ) (request : Request) (first second : Attempt δ σ) :
    Prop :=
  Arrives s.link request first ∧ ¬ Answered host s request first ∧ Arrives none request second

/-- What is carried out is a turn of `serve_one` with the request. -/
def IsTurn (host : Host δ σ) (request : Request) (carried : Carried σ) : Prop :=
  ∃ (draw : δ) (hosted : Served σ) (conn : Connection),
    carried.before = hosted.state ∧ carried.request = request ∧
      carried.after = (serveRequest host draw hosted conn request).2.1.state

/-- A connection that is had is fresh. -/
theorem connect_eq_some {next : State σ} (connects : s.connect attempt.connects = some next) :
    (∃ link, next.link = some link) ∧ next.arrived attempt = s.arrived attempt ∧
      (Arrives next.link request attempt ↔ Arrives s.link request attempt) := by
  unfold State.connect at connects
  split at connects
  next link held =>
    cases connects
    exact ⟨⟨link, held⟩, rfl, Iff.rfl⟩
  next free =>
    split at connects
    next isHad =>
      cases connects
      refine ⟨⟨_, rfl⟩, ?_, ?_⟩
      · unfold State.arrived State.connect
        rw [free, isHad]
        rfl
      · rw [free]
        exact ⟨fun arrives => ⟨isHad, arrives.2⟩, fun arrives => ⟨rfl, arrives.2⟩⟩
    · cases connects

theorem not_arrives_of_connect (refused : s.connect attempt.connects = none) :
    ¬ Arrives s.link request attempt := by
  unfold State.connect at refused
  split at refused
  · cases refused
  next free =>
    rw [free]
    rintro ⟨connects, -⟩
    rw [connects] at refused
    cases refused

/-- Where the request of a try does not arrive, the tries after it carry it out, if there are any:
they start without a link. -/
theorem askFrom_of_not_arrives (lost : ¬ Arrives s.link request attempt)
    (attempts : List (Attempt δ σ)) :
    (askFrom host request (attempt :: attempts) s).2.2 = [] ∨
      ∃ next : State σ, next.link = none ∧
        (askFrom host request (attempt :: attempts) s).2.2 =
          (askFrom host request attempts next).2.2 := by
  rw [askFrom]
  cases connected : s.connect attempt.connects with
  | none => exact Or.inl rfl
  | some had =>
      obtain ⟨⟨link, held⟩, -, same⟩ := @connect_eq_some _ _ s request attempt _ connected
      obtain ⟨noReply, nothing⟩ := @askOn_of_not_arrives _ _ host _ _ _ _ held (mt same.mp lost)
      dsimp only
      generalize askOn host had request attempt = tried at noReply nothing
      obtain ⟨reply, next, carried⟩ := tried
      cases noReply
      cases nothing
      exact Or.inr ⟨{ next with link := none }, rfl, rfl⟩

/-- Where the request of a try arrives it is carried out, and the tries after it carry it out again
where the reply does not arrive. -/
theorem askFrom_of_arrives (arrives : Arrives s.link request attempt)
    (attempts : List (Attempt δ σ)) :
    ∃ carried, IsTurn host request carried ∧
      (Answered host s request attempt →
        (askFrom host request (attempt :: attempts) s).2.2 = [carried]) ∧
      (¬ Answered host s request attempt →
        ∃ next : State σ, next.link = none ∧
          (askFrom host request (attempt :: attempts) s).2.2 =
            carried :: (askFrom host request attempts next).2.2) := by
  rw [askFrom]
  cases connected : s.connect attempt.connects with
  | none => exact absurd arrives (not_arrives_of_connect connected)
  | some had =>
      obtain ⟨⟨link, held⟩, isArrived, same⟩ := @connect_eq_some _ _ s request attempt _ connected
      obtain ⟨once, isReply⟩ := @askOn_of_arrives _ _ host _ _ _ _ held (same.mpr arrives)
      have sameAnswer : Answered host had request attempt ↔ Answered host s request attempt := by
        unfold Answered served
        rw [isArrived]
      rw [sameAnswer] at isReply
      have isTurn : IsTurn host request
          ⟨(had.arrived attempt).served.state, request, (served host had request attempt).1,
            (served host had request attempt).2.1.state⟩ := ⟨_, _, _, rfl, rfl, rfl⟩
      refine ⟨_, isTurn, ?_⟩
      dsimp only
      generalize askOn host had request attempt = tried at once isReply
      obtain ⟨reply, next, carried⟩ := tried
      cases once
      cases reply with
      | none =>
          have lost : ¬ Answered host s request attempt := fun answered =>
            absurd (isReply.mpr answered) Bool.false_ne_true
          exact ⟨fun answered => absurd answered lost, fun _ => ⟨_, rfl, rfl⟩⟩
      | some reply => exact ⟨fun _ => rfl, fun lost => absurd (isReply.mp rfl) lost⟩

/-- A single try carries the request out where it arrives. -/
theorem askFrom_single (attempt : Attempt δ σ) :
    (Arrives s.link request attempt →
      ∃ carried, IsTurn host request carried ∧
        (askFrom host request [attempt] s).2.2 = [carried]) ∧
    (¬ Arrives s.link request attempt → (askFrom host request [attempt] s).2.2 = []) := by
  constructor
  · intro arrives
    obtain ⟨carried, isTurn, answered, lost⟩ := @askFrom_of_arrives _ _ host _ _ _ arrives []
    refine ⟨carried, isTurn, ?_⟩
    by_cases isAnswered : Answered host s request attempt
    · exact answered isAnswered
    · obtain ⟨next, -, same⟩ := lost isAnswered
      exact same
  · intro lost
    rcases @askFrom_of_not_arrives _ _ host _ _ _ lost [] with nothing | ⟨next, -, same⟩
    · exact nothing
    · exact same

/-- Whatever a call makes the session host carry out is its request. -/
theorem isTurn_of_mem_askFrom {attempts : List (Attempt δ σ)} {carried : Carried σ}
    (member : carried ∈ (askFrom host request attempts s).2.2) : IsTurn host request carried := by
  induction attempts generalizing s with
  | nil => cases member
  | cons attempt attempts ih =>
      by_cases arrives : Arrives s.link request attempt
      · obtain ⟨turn, isTurn, answered, lost⟩ :=
          @askFrom_of_arrives _ _ host _ _ _ arrives attempts
        by_cases isAnswered : Answered host s request attempt
        · rw [answered isAnswered, List.mem_singleton] at member
          rw [member]
          exact isTurn
        · obtain ⟨next, -, same⟩ := lost isAnswered
          rw [same] at member
          rcases List.mem_cons.mp member with rfl | later
          · exact isTurn
          · exact ih later
      · rcases @askFrom_of_not_arrives _ _ host _ _ _ arrives attempts with
          nothing | ⟨next, -, same⟩
        · rw [nothing] at member
          cases member
        · rw [same] at member
          exact ih member

/-- A call carries its request out at most once, unless it sends it again after it was carried
out. -/
theorem length_carried_ask (host : Host δ σ) (s : State σ) (request : Request)
    (first second : Attempt δ σ) :
    (ask host s request first second).2.2.length ≤ 1 ↔ ¬ Resent host s request first second := by
  have fresh (next : State σ) := @askFrom_single _ _ host next request second
  unfold ask
  by_cases arrives : Arrives s.link request first
  · obtain ⟨carried, -, answered, lost⟩ :=
      @askFrom_of_arrives _ _ host _ _ _ arrives [second]
    by_cases isAnswered : Answered host s request first
    · rw [answered isAnswered]
      exact ⟨fun _ resent => resent.2.1 isAnswered, fun _ => Nat.le_refl _⟩
    · obtain ⟨next, free, same⟩ := lost isAnswered
      have again := fresh next
      rw [free] at again
      rw [same]
      by_cases arrivesAgain : Arrives none request second
      · obtain ⟨more, -, once⟩ := again.1 arrivesAgain
        rw [once]
        exact ⟨fun few => absurd few (by simp),
          fun once => absurd ⟨arrives, isAnswered, arrivesAgain⟩ once⟩
      · rw [again.2 arrivesAgain]
        exact ⟨fun _ resent => arrivesAgain resent.2.2, fun _ => Nat.le_refl _⟩
  · refine ⟨fun _ resent => arrives resent.1, fun _ => ?_⟩
    rcases @askFrom_of_not_arrives _ _ host _ _ _ arrives [second] with nothing | ⟨next, free, same⟩
    · rw [nothing]
      exact Nat.zero_le _
    · have again := fresh next
      rw [same]
      by_cases arrivesAgain : Arrives next.link request second
      · obtain ⟨more, -, once⟩ := again.1 arrivesAgain
        rw [once]
        exact Nat.le_refl _
      · rw [again.2 arrivesAgain]
        exact Nat.zero_le _

/-- A call of a run that sends its request again after it was carried out. -/
def Op.Resends (host : Host δ σ) (s : State σ) : Op δ σ → Prop
  | .call made first second => Resent host s made.asks first second
  | .happens _ => False

/-- A step carries a request out twice just where it sends it again after it was carried out. -/
theorem length_carried_step (host : Host δ σ)
    (fromSlice : List UInt8 → Option (Option InviteDto)) (s : State σ) (op : Op δ σ) :
    (step host fromSlice s op).1.carried.length ≤ 1 ↔ ¬ op.Resends host s := by
  cases op with
  | call call first second => exact length_carried_ask host s call.asks first second
  | happens what => exact ⟨fun _ => id, fun _ => Nat.zero_le _⟩

end HostPanel

/-! ## Chat lines and codes -/

namespace SessionHost
open HostPanel
variable {crates : SessionHost.Crates} {others : Request → Draw crates → Actor → Reply × Actor}
  {guestStores : Draw crates → Actor → Reply}
  {guestStoresTaken : Draw crates → Actor → Reply × Actor}

namespace Actor

theorem sent_record {actor next : Actor} {peer : NodeId} {text : String} {atUnix : UInt64}
    (recorded : actor.record peer text atUnix = some next) : next.sent = actor.sent := by
  unfold record at recorded
  split at recorded
  · cases recorded
  · cases recorded
    rfl

/-- One request puts at most one line in front of the guest. -/
theorem length_sent_onChatSend (actor : Actor) (label text : String) (now : UInt64) :
    (actor.onChatSend label text now).2.sent.length ≤ actor.sent.length + 1 := by
  unfold onChatSend
  split
  · exact Nat.le_succ _
  · split
    · exact Nat.le_succ _
    · split
      · exact Nat.le_succ _
      next next recorded =>
        dsimp only
        rw [List.length_append, sent_record recorded]
        exact Nat.le_refl _

/-- One request retires the codes at most once. -/
theorem retirements_onInviteCreate (actor : Actor) (role : Role) (renew : Bool)
    (draw : Draw crates) :
    (actor.onInviteCreate role renew draw).2.retirements ≤ actor.retirements + 1 := by
  unfold onInviteCreate
  split
  · exact Nat.le_succ _
  · split
    · exact Nat.le_succ _
    · split
      · exact Nat.le_succ _
      · split
        · exact Nat.le_succ _
        · unfold finishInvite
          dsimp only
          split
          · exact Nat.le_succ _
          · split
            · exact Nat.le_succ _
            · exact Nat.le_refl _

theorem retirements_inviteReply (actor : Actor) (renew : Bool) (draw : Draw crates) :
    (actor.inviteReply renew draw).2.retirements ≤ actor.retirements + 1 := by
  have few := actor.retirements_onInviteCreate .viewOnly renew draw
  unfold inviteReply
  generalize actor.onInviteCreate .viewOnly renew draw = created at few ⊢
  obtain ⟨invite, next⟩ := created
  cases invite with
  | none => exact few
  | some invite =>
      dsimp only
      cases crates.toVec invite with
      | none => exact few
      | some json => exact few

end Actor

theorem state_noteHostingOff {σ : Type} (served : Served σ) (conn : Connection)
    (request : Request) : (noteHostingOff served conn request).1.state = served.state := by
  unfold noteHostingOff
  split
  · rfl
  · rfl

theorem state_of_sendChat {draw : Draw crates} {served : Served Actor} {conn : Connection}
    {peer text : String} :
    (serveRequest (host others guestStores guestStoresTaken) draw served conn
        (.sendChat peer text)).2.1.state =
      (answer others (.sendChat peer text) draw served.state).2 := by
  have same := state_noteHostingOff served conn (.sendChat peer text)
  unfold serveRequest
  generalize noteHostingOff served conn (.sendChat peer text) = noted at same ⊢
  rw [← same]
  rfl

theorem state_of_invite {draw : Draw crates} {served : Served Actor} {conn : Connection}
    {renew : Bool} :
    (serveRequest (host others guestStores guestStoresTaken) draw served conn
        (.invite renew)).2.1.state = (answer others (.invite renew) draw served.state).2 := by
  have same := state_noteHostingOff served conn (.invite renew)
  unfold serveRequest
  generalize noteHostingOff served conn (.invite renew) = noted at same ⊢
  rw [← same]
  rfl

/-- How many chat lines a call put in front of a guest. -/
def lines (carried : List (Carried Actor)) : Nat :=
  (carried.map fun turn => turn.after.sent.length - turn.before.sent.length).sum

/-- How often a call retired the codes. -/
def retirements (carried : List (Carried Actor)) : Nat :=
  (carried.map fun turn => turn.after.retirements - turn.before.retirements).sum

theorem sum_le_of_le_one {α : Type} {xs : List α} {f : α → Nat} (few : xs.length ≤ 1)
    (each : ∀ x ∈ xs, f x ≤ 1) : (xs.map f).sum ≤ 1 := by
  match xs with
  | [] => exact Nat.zero_le _
  | [x] =>
      have one := each x List.mem_cons_self
      rw [List.map_singleton, List.sum_singleton]
      exact one
  | _ :: _ :: _ => simp at few

theorem lines_of_sendChat {carried : List (Carried Actor)} {peer text : String}
    (few : carried.length ≤ 1)
    (turns : ∀ turn ∈ carried,
      IsTurn (host others guestStores guestStoresTaken) (.sendChat peer text) turn) :
    lines carried ≤ 1 := by
  apply sum_le_of_le_one few
  intro turn member
  obtain ⟨draw, served, conn, isBefore, -, isAfter⟩ := turns turn member
  rw [isAfter, isBefore, state_of_sendChat]
  unfold answer
  dsimp only
  split
  · exact (Nat.sub_self _).le.trans (Nat.zero_le _)
  · have more := served.state.length_sent_onChatSend peer text draw.now
    dsimp only
    omega

theorem retirements_of_invite {carried : List (Carried Actor)} {renew : Bool}
    (few : carried.length ≤ 1)
    (turns : ∀ turn ∈ carried,
      IsTurn (host others guestStores guestStoresTaken) (.invite renew) turn) :
    retirements carried ≤ 1 := by
  apply sum_le_of_le_one few
  intro turn member
  obtain ⟨draw, served, conn, isBefore, -, isAfter⟩ := turns turn member
  rw [isAfter, isBefore, state_of_invite]
  unfold answer
  dsimp only
  split
  · exact (Nat.sub_self _).le.trans (Nat.zero_le _)
  · have more := served.state.retirements_inviteReply renew draw
    omega

end SessionHost

open HostPanel SessionHost in
/-- In every run of calls against a session host that may restart, drop the connection and change
at any moment, each call makes it carry the request out at most once just where no call sends its
request again after it was carried out: the first request arrived, its reply did not, and a second
connection was had on which the request arrived as well. Where a call does not, a chat line it
sends stands in front of the guest at most once, and the codes are retired at most once. -/
theorem carried_once_iff (fromSlice : List UInt8 → Option (Option InviteDto)) :
    (∀ (δ σ : Type) (host : Host δ σ) (start : HostPanel.State σ) (ops : List (Op δ σ)),
      (∀ e ∈ history (step host fromSlice) start ops, e.out.carried.length ≤ 1) ↔
        ∀ e ∈ history (step host fromSlice) start ops, ¬ e.op.Resends host e.pre) ∧
    ∀ (crates : SessionHost.Crates) (others : Request → Draw crates → Actor → Reply × Actor)
      (guestStores : Draw crates → Actor → Reply)
      (guestStoresTaken : Draw crates → Actor → Reply × Actor) (start : HostPanel.State Actor)
      (ops : List (Op (Draw crates) Actor)),
      ∀ e ∈ history (step (SessionHost.host others guestStores guestStoresTaken) fromSlice) start
        ops, ¬ e.op.Resends (SessionHost.host others guestStores guestStoresTaken) e.pre →
        ∀ call first second, e.op = .call call first second →
          (∀ peer text, call.asks = .sendChat peer text → lines e.out.carried ≤ 1) ∧
          ∀ renew, call.asks = .invite renew → retirements e.out.carried ≤ 1 := by
  constructor
  · intro δ σ host start ops
    apply forall₂_congr
    intro e member
    rw [eq_of_mem_history member]
    exact length_carried_step host fromSlice e.pre e.op
  · intro crates others guestStores guestStoresTaken start ops e member once call first second
      isCall
    have few := (length_carried_step _ fromSlice e.pre e.op).mpr once
    rw [eq_of_mem_history member]
    rw [isCall] at few ⊢
    have turns : ∀ turn ∈ (step (SessionHost.host others guestStores guestStoresTaken) fromSlice
        e.pre (.call call first second)).1.carried, IsTurn _ call.asks turn :=
      fun turn isOne => isTurn_of_mem_askFrom
        (show turn ∈ (askFrom _ call.asks [first, second] e.pre).2.2 from isOne)
    constructor
    · intro peer text asks
      rw [asks] at turns
      exact lines_of_sendChat few turns
    · intro renew asks
      rw [asks] at turns
      exact retirements_of_invite few turns

namespace SessionHost
open HostPanel

/-- Crates in which every invite can be made. -/
def sampleCrates : SessionHost.Crates where
  iroh :=
    { EndpointAddr := Unit
      toAllocvec := fun _ => some ⟨[0], by decide⟩
      fromBytes := fun _ => none
      id := fun _ => ⟨List.Vector.replicate 32 0⟩ }
  ed :=
    { SigningKey := Unit
      VerifyingKey := Unit
      verifyingKey := id
      sign := fun _ _ => List.Vector.replicate 64 0
      verifyStrict := fun _ _ _ => false
      fromBytes := fun _ => none
      verify := fun _ _ _ => false }
  identity := ()
  toVec _ := some []

/-- A session host with a guest. -/
def sampleActor : Actor where
  labels := (∅ : HashMap String NodeId).insert "guest" ⟨List.Vector.replicate 32 1⟩
  connections := [⟨List.Vector.replicate 32 1⟩]

def sampleHost : Host (Draw sampleCrates) Actor :=
  host (fun _ _ actor => (.refused, actor)) (fun _ _ => .refused) fun _ actor => (.refused, actor)

/-- A try that meets `after` before its reply. -/
def sampleAttempt (inviteId : UInt8) (after : List (Happening Actor)) :
    Attempt (Draw sampleCrates) Actor where
  connects := true
  before := []
  draw :=
    { now := 0
      addr := some ()
      inviteId := List.Vector.replicate 16 inviteId
      bound := none }
  after
  clock := 0

/-- What a first call makes the sample host carry out, when its connection drops after the request
was carried out and before the reply arrives. -/
def sampleCarried (call : Call) : List (Carried Actor) :=
  (step sampleHost (fun _ => none) { served := { state := sampleActor } }
    (.call call (sampleAttempt 1 [.drops]) (sampleAttempt 2 []))).1.carried

/-- The guest sees the line twice, and the code that the click made first is retired by it. -/
theorem lost_reply_repeats_the_request :
    lines (sampleCarried (.act (.sendChat "guest" "hi"))) = 2 ∧
      retirements (sampleCarried (.invite true)) = 2 ∧
      (sampleCarried (.invite true)).map (fun turn =>
        (turn.after.tickets.state (List.Vector.replicate 16 1),
          turn.after.tickets.state (List.Vector.replicate 16 2))) =
        [(some .live, none), (some .retired, some .live)] := by
  decide +kernel

end SessionHost

end Lumepeer.Desktop
