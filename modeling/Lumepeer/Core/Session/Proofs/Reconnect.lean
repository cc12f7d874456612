import Lumepeer.Core.Session.Proofs.Step

/-!
# The reconnect window over timed runs

A parked session is the session that left `Active`, less the tunnel targets
denied since, under the stamp of the last `on_disconnect`. That stamp is the
instant of leaving `Active` exactly while no `on_disconnect` finds the session
already parked and carries another instant, and the reconnect window is the
promised one in just those runs.
-/

namespace Lumepeer.Core.SessionManager
open Lumepeer.Lib

/-- The clock readings of an operation, in the order it takes them. -/
def readings : SessionOp → List Instant
  | .requestConsentFor _ _ _ checkedAt requestedAt => [checkedAt, requestedAt]
  | .onReconnect _ now => [now]
  | .onDisconnect _ now => [now]
  | _ => []

/-- The clock of the run never goes back. -/
def Timed (ops : List SessionOp) : Prop := (ops.flatMap readings).Pairwise (· ≤ ·)

instance (ops : List SessionOp) : Decidable (Timed ops) :=
  inferInstanceAs (Decidable (List.Pairwise _ _))

/-- `RECONNECT_WINDOW_SECS` as a duration. -/
def reconnectWindow : Duration := Duration.fromSecs reconnectWindowSecs

/-- The tunnel targets an operation withdraws from `p`. -/
def deniedBy (p : NodeId) : SessionOp → List TunnelTarget
  | .denyTunnelTarget peer target => if peer = p then [target] else []
  | _ => []

/-- The tunnel targets withdrawn from `p` by a stretch of a run. -/
def deniedIn (p : NodeId) (stretch : List SessionEvent) : List TunnelTarget :=
  stretch.flatMap fun e => deniedBy p e.op

/-- The session without the tunnel targets in `denied`. -/
def withoutTargets (session : ActiveSession) (denied : List TunnelTarget) : ActiveSession :=
  { session with allowedTargets := session.allowedTargets.filter fun target => target ∉ denied }

/-- An `on_disconnect` of `p` at `leftAt` that finds its session `active`. -/
structure LeavesActive (p : NodeId) (leftAt : Instant) (session : ActiveSession)
    (e : SessionEvent) : Prop where
  op : e.op = .onDisconnect p leftAt
  held : e.pre.sessions.lookup p = some session
  active : session.state = .active

/-- The event finds the session of `p` parked. -/
def FindsParked (p : NodeId) (e : SessionEvent) : Prop :=
  ∃ session, e.pre.sessions.lookup p = some session ∧ session.state = .reconnecting

/-- An `on_disconnect` of `p` that finds its session parked carries the instant the session
was parked at. -/
def KeepsStamp (p : NodeId) (e : SessionEvent) : Prop :=
  ∀ now session, e.op = .onDisconnect p now → e.pre.sessions.lookup p = some session →
    session.state = .reconnecting → session.disconnectedAt = some now

/-- What the window promises of one `on_reconnect` of `p` at `now`, after the events `before`. -/
structure ReconnectsRightly (p : NodeId) (before : List SessionEvent) (e : SessionEvent)
    (now : Instant) : Prop where
  resumed : ∀ sessionId, e.out = .reconnect (.resume sessionId) →
    ∃ earlier left during leftAt session, before = earlier ++ left :: during ∧
      LeavesActive p leftAt session left ∧ (∀ m ∈ during, FindsParked p m) ∧
      leftAt ≤ now ∧ now ≤ leftAt + reconnectWindow ∧ sessionId = session.sessionId ∧
      e.post.sessions.lookup p = some (withoutTargets session (deniedIn p during))
  rejected : ∀ reason, e.out = .reconnect (.reject reason) → e.post.sessions.lookup p = none

/-- The reconnect window of `p` over a run: every `on_reconnect` resumes only the session that
left `active` at most the window ago, as it was then, and a repeated `on_disconnect` makes no
instant resume that did not resume before. -/
structure WindowHolds (p : NodeId) (run : List SessionEvent) : Prop where
  reconnects : ∀ before e after now, run = before ++ e :: after → e.op = .onReconnect p now →
    ReconnectsRightly p before e now
  repeated : ∀ e ∈ run, ∀ again, e.op = .onDisconnect p again → FindsParked p e →
    ∀ now sessionId, (e.post.onReconnect p now).1 = .resume sessionId →
      (e.pre.onReconnect p now).1 = .resume sessionId

/-- The session of `p` is parked: where it left `active`, what happened since, and its stamp. -/
def ParkedSince (p : NodeId) (past : List SessionEvent) (session : ActiveSession) : Prop :=
  ∃ earlier left during leftAt stamp before, past = earlier ++ left :: during ∧
    LeavesActive p leftAt before left ∧ before.disconnectedAt = none ∧
    (∀ m ∈ during, FindsParked p m) ∧
    session = { withoutTargets before (deniedIn p during) with
      state := .reconnecting, disconnectedAt := some stamp } ∧
    stamp ∈ (past.map Event.op).flatMap readings ∧
    ((∀ m ∈ past, KeepsStamp p m) → stamp = leftAt)

/-- The session is in use and carries no stamp. -/
def InUse (session : ActiveSession) : Prop :=
  session.state = .active ∧ session.disconnectedAt = none

theorem inUse_grantedSession (manager : SessionManager) (p : NodeId) (role : Role)
    (kind : SessionKind) (freshId : SessionId) :
    InUse (manager.grantedSession p role kind freshId) := ⟨rfl, rfl⟩

@[simp] theorem withoutTargets_nil (session : ActiveSession) : withoutTargets session [] = session := by
  simp [withoutTargets]

theorem withoutTargets_append (session : ActiveSession) (first second : List TunnelTarget) :
    withoutTargets session (first ++ second) =
      withoutTargets (withoutTargets session first) second := by
  simp only [withoutTargets, List.filter_filter, ActiveSession.mk.injEq, true_and]
  apply List.filter_congr
  intro target _
  by_cases inFirst : target ∈ first <;> by_cases inSecond : target ∈ second <;>
    simp [inFirst, inSecond]

/-- A session that appears is granted. -/
theorem nextSession_of_absent {manager : SessionManager} {p : NodeId} {op : SessionOp}
    {next : ActiveSession} (absent : manager.sessions.lookup p = none)
    (after : manager.nextSession p op = some next) : InUse next := by
  cases op with
  | grantAs peer role kind freshId =>
      simp only [nextSession, absent] at after
      split at after
      · cases after
        exact inUse_grantedSession ..
      · cases after
  | revoke peer =>
      simp only [nextSession, absent] at after
      split at after <;> cases after
  | _ => simp [nextSession, absent] at after

/-- A session in use stays in use or is parked by an `on_disconnect`. -/
theorem nextSession_of_inUse {manager : SessionManager} {p : NodeId} {op : SessionOp}
    {session next : ActiveSession} (held : manager.sessions.lookup p = some session)
    (inUse : InUse session) (after : manager.nextSession p op = some next) :
    InUse next ∨ ∃ now, op = .onDisconnect p now ∧
      next = { session with state := .reconnecting, disconnectedAt := some now } := by
  obtain ⟨active, unstamped⟩ := inUse
  cases op with
  | grantAs peer role kind freshId =>
      simp only [nextSession, held] at after
      split at after
      · cases after
        exact .inl (inUse_grantedSession ..)
      · cases after
        exact .inl ⟨active, unstamped⟩
  | revoke peer =>
      simp only [nextSession, held] at after
      split at after
      · cases after
      · cases after
        exact .inl ⟨active, unstamped⟩
  | setGrant peer which allowed =>
      simp only [nextSession, held, Option.map_some, Option.some.injEq] at after
      subst after
      split <;> exact .inl ⟨active, unstamped⟩
  | onReconnect peer now =>
      simp only [nextSession, held, Option.bind_some, withinWindow_of_unstamped unstamped] at after
      split at after
      · cases after
      · cases after
        exact .inl ⟨active, unstamped⟩
  | onDisconnect peer now =>
      simp only [nextSession, held, Option.map_some, Option.some.injEq] at after
      subst after
      by_cases same : p = peer
      · subst same
        exact .inr ⟨now, rfl, if_pos rfl⟩
      · rw [if_neg same]
        exact .inl ⟨active, unstamped⟩
  | allowTunnelTarget peer target =>
      simp only [nextSession, held, Option.map_some, Option.some.injEq] at after
      subst after
      split <;> exact .inl ⟨active, unstamped⟩
  | denyTunnelTarget peer target =>
      simp only [nextSession, held, Option.map_some, Option.some.injEq] at after
      subst after
      split <;> exact .inl ⟨active, unstamped⟩
  | endAll => cases after
  | _ =>
      simp only [nextSession, held, Option.some.injEq] at after
      subst after
      exact .inl ⟨active, unstamped⟩

/-- A parked session comes back into use, is stamped anew by an `on_disconnect`, or stays as
it is apart from a denied target. -/
theorem nextSession_of_parked {manager : SessionManager} {p : NodeId} {op : SessionOp}
    {session next : ActiveSession} (held : manager.sessions.lookup p = some session)
    (parked : session.state = .reconnecting) (after : manager.nextSession p op = some next) :
    InUse next ∨
    (∃ now, op = .onDisconnect p now ∧ next = { session with disconnectedAt := some now }) ∨
    (∀ now, op ≠ .onDisconnect p now) ∧ next = withoutTargets session (deniedBy p op) := by
  cases op with
  | grantAs peer role kind freshId =>
      simp only [nextSession, held] at after
      split at after
      · cases after
        exact .inl (inUse_grantedSession ..)
      · cases after
        exact .inr (.inr ⟨by simp, by simp [deniedBy]⟩)
  | revoke peer =>
      simp only [nextSession, held] at after
      split at after
      · cases after
      · cases after
        exact .inr (.inr ⟨by simp, by simp [deniedBy]⟩)
  | setGrant peer which allowed =>
      simp only [nextSession, held, parked, Option.map_some, Option.some.injEq] at after
      exact .inr (.inr ⟨by simp, by simp [deniedBy, ← after]⟩)
  | onReconnect peer now =>
      simp only [nextSession, held, Option.bind_some] at after
      split at after
      · split at after
        · cases after
          exact .inl ⟨rfl, rfl⟩
        · cases after
      · cases after
        exact .inr (.inr ⟨by simp, by simp [deniedBy]⟩)
  | onDisconnect peer now =>
      simp only [nextSession, held, Option.map_some, Option.some.injEq] at after
      subst after
      by_cases same : p = peer
      · subst same
        rw [if_pos rfl, ← parked]
        exact .inr (.inl ⟨now, rfl, rfl⟩)
      · rw [if_neg same]
        exact .inr (.inr ⟨by simp [Ne.symm same], by simp [deniedBy]⟩)
  | allowTunnelTarget peer target =>
      simp only [nextSession, held, parked, Option.map_some, Option.some.injEq] at after
      exact .inr (.inr ⟨by simp, by simp [deniedBy, ← after]⟩)
  | denyTunnelTarget peer target =>
      simp only [nextSession, held, Option.map_some, Option.some.injEq] at after
      subst after
      refine .inr (.inr ⟨by simp, ?_⟩)
      by_cases same : p = peer
      · subst same
        simp [deniedBy, withoutTargets]
      · rw [if_neg same]
        simp [deniedBy, Ne.symm same]
  | endAll => cases after
  | _ =>
      simp only [nextSession, held, Option.some.injEq] at after
      exact .inr (.inr ⟨by simp, by simp [deniedBy, ← after]⟩)

theorem deniedIn_concat (p : NodeId) (during : List SessionEvent) (e : SessionEvent) :
    deniedIn p (during ++ [e]) = deniedIn p during ++ deniedBy p e.op := by
  simp [deniedIn]

/-- One more event on a parked session that leaves it parked. -/
theorem ParkedSince.concat {p : NodeId} {past : List SessionEvent} {session next : ActiveSession}
    {e : SessionEvent} (since : ParkedSince p past session)
    (held : e.pre.sessions.lookup p = some session)
    (kept : (∃ now, e.op = .onDisconnect p now ∧
        next = { session with disconnectedAt := some now }) ∨
      (∀ now, e.op ≠ .onDisconnect p now) ∧ next = withoutTargets session (deniedBy p e.op)) :
    ParkedSince p (past ++ [e]) next := by
  obtain ⟨earlier, left, during, leftAt, stamp, before, split, leaves, unstamped, stays, rfl, read,
    first⟩ := since
  have parked (m) (member : m ∈ during ++ [e]) : FindsParked p m := by
    rcases List.mem_append.mp member with old | new
    · exact stays m old
    · rw [List.mem_singleton.mp new]
      exact ⟨_, held, rfl⟩
  have grown : past ++ [e] = earlier ++ left :: (during ++ [e]) := by
    rw [split, List.append_assoc, List.cons_append]
  rcases kept with ⟨now, isOp, rfl⟩ | ⟨other, rfl⟩
  · refine ⟨earlier, left, during ++ [e], leftAt, now, before, grown, leaves, unstamped, parked, ?_,
      ?_, ?_⟩
    · simp [deniedIn_concat, isOp, deniedBy]
    · simp [isOp, readings]
    · intro keeps
      have same : some stamp = some now := keeps e (by simp) now _ isOp held rfl
      rw [← Option.some.inj same]
      exact first fun m member => keeps m (List.mem_append_left _ member)
  · refine ⟨earlier, left, during ++ [e], leftAt, stamp, before, grown, leaves, unstamped, parked,
      ?_, ?_, ?_⟩
    · rw [deniedIn_concat, withoutTargets_append]
      rfl
    · rw [List.map_append, List.flatMap_append]
      exact List.mem_append_left _ read
    · intro keeps
      exact first fun m member => keeps m (List.mem_append_left _ member)

/-- After any run the session of a peer is in use or parked with its past. -/
theorem inUse_or_parkedSince (plan : Plan) (ops : List SessionOp) (p : NodeId)
    {session : ActiveSession} (held : (run plan ops).sessions.lookup p = some session) :
    InUse session ∨ ParkedSince p (events plan ops) session := by
  induction ops using List.reverseRecOn generalizing session with
  | nil => cases held
  | append_singleton ops op ih =>
      rw [run, exec_concat, lookup_step] at held
      rw [events, history_concat]
      cases found : (run plan ops).sessions.lookup p with
      | none => exact .inl (nextSession_of_absent found held)
      | some previous =>
          rcases ih found with inUse | since
          · rcases nextSession_of_inUse found inUse held with still | ⟨now, rfl, rfl⟩
            · exact .inl still
            · refine .inr ⟨events plan ops, _, [], now, now, previous, rfl, ⟨rfl, found, inUse.1⟩,
                inUse.2, by simp, by simp [deniedIn], ?_, fun _ => rfl⟩
              simp [readings]
          · have parked : previous.state = .reconnecting := by
              obtain ⟨_, _, _, _, _, _, _, _, _, _, rfl, _⟩ := since
              rfl
            rcases nextSession_of_parked found parked held with inUse | kept
            · exact .inl inUse
            · exact .inr (since.concat found kept)

/-- In a timed run the readings of an operation are no earlier than those before it. -/
theorem Timed.le {before after : List SessionOp} {op : SessionOp} {earlier now : Instant}
    (timed : Timed (before ++ op :: after)) (old : earlier ∈ before.flatMap readings)
    (new : now ∈ readings op) : earlier ≤ now := by
  unfold Timed at timed
  rw [List.flatMap_append, List.flatMap_cons] at timed
  exact (List.pairwise_append.mp timed).2.2 earlier old now (List.mem_append_left _ new)

theorem onReconnect_eq_resume_iff (manager : SessionManager) (p : NodeId) (now : Instant)
    (sessionId : SessionId) :
    (manager.onReconnect p now).1 = .resume sessionId ↔
      ∃ session, manager.sessions.lookup p = some session ∧ withinWindow session now = true ∧
        sessionId = session.sessionId := by
  unfold onReconnect
  cases manager.sessions.lookup p with
  | none => simp
  | some session =>
      cases inside : withinWindow session now with
      | false => simp [inside]
      | true => simp [inside, @eq_comm _ sessionId]

/-- A rejecting `on_reconnect` leaves the peer without a session. -/
theorem lookup_of_reject {manager : SessionManager} {p : NodeId} {now : Instant}
    {reason : RejectReason} (rejects : (manager.onReconnect p now).1 = .reject reason) :
    (manager.onReconnect p now).2.sessions.lookup p = none := by
  rw [lookup_onReconnect]
  simp only [nextSession, onReconnect] at rejects ⊢
  cases found : manager.sessions.lookup p with
  | none => rfl
  | some session =>
      cases inside : withinWindow session now <;> simp_all

theorem withinWindow_iff {session : ActiveSession} {stamp : Instant}
    (stamped : session.disconnectedAt = some stamp) (now : Instant) :
    withinWindow session now = true ↔ now ≤ stamp + reconnectWindow := by
  simp only [withinWindow, stamped, Option.any_some, decide_eq_true_eq, reconnectWindow]
  exact Nat.sub_le_iff_le_add'

/-- A parked session of a reachable state carries a stamp, read earlier in the run. -/
theorem stamp_of_parked {plan : Plan} {ops : List SessionOp} {p : NodeId} {session : ActiveSession}
    (held : (run plan ops).sessions.lookup p = some session)
    (parked : session.state = .reconnecting) :
    ∃ stamp, session.disconnectedAt = some stamp ∧ stamp ∈ ops.flatMap readings := by
  rcases inUse_or_parkedSince plan ops p held with inUse | since
  · simp [inUse.1] at parked
  · obtain ⟨_, _, _, _, stamp, _, _, _, _, _, rfl, read, _⟩ := since
    rw [events, map_op_history] at read
    exact ⟨stamp, rfl, read⟩

/-- An `on_reconnect` after a run whose disconnects keep their stamp resumes rightly. -/
theorem reconnectsRightly_of_keepsStamp {plan : Plan} {ops later : List SessionOp} {p : NodeId}
    {now : Instant} (timed : Timed (ops ++ .onReconnect p now :: later))
    (keeps : ∀ e ∈ events plan ops, KeepsStamp p e) :
    ReconnectsRightly p (events plan ops) (Event.of step (run plan ops) (.onReconnect p now)) now := by
  refine ⟨?_, ?_⟩
  · intro sessionId out
    obtain ⟨session, held, inside, isId⟩ :=
      ((run plan ops).onReconnect_eq_resume_iff p now sessionId).mp (SessionOutcome.reconnect.inj out)
    have after : ((run plan ops).step (.onReconnect p now)).2.sessions.lookup p =
        some { session with state := .active, disconnectedAt := none } := by
      rw [lookup_step]
      simp [nextSession, held, inside]
    rcases inUse_or_parkedSince plan ops p held with inUse | since
    · simp [withinWindow_of_unstamped inUse.2] at inside
    · obtain ⟨earlier, left, during, leftAt, stamp, before, split, leaves, unstamped, stays, rfl,
        read, first⟩ := since
      obtain rfl : stamp = leftAt := first keeps
      rw [events, map_op_history] at read
      refine ⟨earlier, left, during, stamp, before, split, leaves, stays,
        timed.le read (by simp [readings]), (withinWindow_iff rfl now).mp inside, isId, ?_⟩
      rw [Event.of_post, after, ← leaves.active, ← unstamped]
      rfl
  · intro reason out
    exact lookup_of_reject (SessionOutcome.reconnect.inj out)

/-- A repeated `on_disconnect` lengthens no window exactly when it keeps the stamp. -/
theorem keepsStamp_of_repeated {plan : Plan} {ops later : List SessionOp} {p : NodeId}
    {again : Instant} (timed : Timed (ops ++ .onDisconnect p again :: later))
    {session : ActiveSession} (held : (run plan ops).sessions.lookup p = some session)
    (parked : session.state = .reconnecting)
    (short : ∀ now sessionId,
      (((run plan ops).step (.onDisconnect p again)).2.onReconnect p now).1 = .resume sessionId →
        ((run plan ops).onReconnect p now).1 = .resume sessionId) :
    session.disconnectedAt = some again := by
  obtain ⟨stamp, stamped, read⟩ := stamp_of_parked held parked
  have later : stamp ≤ again := timed.le read (by simp [readings])
  -- At the end of the window of the new stamp the old one must still resume.
  have resumes := short (again + reconnectWindow) session.sessionId (by
    rw [onReconnect_eq_resume_iff]
    refine ⟨{ session with state := .reconnecting, disconnectedAt := some again }, ?_, ?_, rfl⟩
    · rw [lookup_step]
      simp [nextSession, held]
    · rw [withinWindow_iff rfl])
  obtain ⟨same, isHeld, inside, -⟩ :=
    ((run plan ops).onReconnect_eq_resume_iff p _ session.sessionId).mp resumes
  rw [held] at isHeld
  obtain rfl := Option.some.inj isHeld
  rw [withinWindow_iff stamped] at inside
  have earlier : again ≤ stamp := Nat.add_le_add_iff_right.mp inside
  rw [stamped, Nat.le_antisymm later earlier]

/-- In a timed run the reconnect window of `p` holds exactly when every `on_disconnect` of `p`
that finds the session parked carries the instant it was parked at. -/
theorem windowHolds_iff_keepsStamp (plan : Plan) (ops : List SessionOp) (p : NodeId)
    (timed : Timed ops) :
    WindowHolds p (events plan ops) ↔ ∀ e ∈ events plan ops, KeepsStamp p e := by
  constructor
  · intro holds e member again session isOp held parked
    obtain ⟨before, after, rfl, isEvent⟩ := exists_prefix_of_mem_history member
    rw [isOp] at isEvent timed
    have short := holds.repeated e member again isOp ⟨session, held, parked⟩
    rw [isEvent] at held short
    exact keepsStamp_of_repeated timed held parked short
  · intro keeps
    refine ⟨?_, ?_⟩
    · intro before e after now split isOp
      obtain ⟨first, second, rfl, rfl, isEvent⟩ := history_split split
      rw [isOp] at isEvent timed
      rw [isEvent]
      apply reconnectsRightly_of_keepsStamp timed
      intro m member
      exact keeps m (by rw [split]; exact List.mem_append_left _ member)
    · rintro e member again isOp ⟨session, held, parked⟩ now sessionId resumes
      have stamped := keeps e member again session isOp held parked
      have isEvent := eq_of_mem_history member
      rw [isOp] at isEvent
      have same : e.post.sessions.lookup p = e.pre.sessions.lookup p := by
        rw [isEvent, Event.of_post, Event.of_pre, lookup_step, nextSession, held]
        simp [← parked, ← stamped]
      rw [onReconnect_eq_resume_iff] at resumes ⊢
      rw [← same]
      exact resumes

/-- A peer is granted, parked at 0 s and back at 100 s: the disconnect finds no parked session,
so the window holds. -/
theorem windowHolds_of_one_disconnect :
    let p : NodeId := ⟨List.Vector.replicate 32 0⟩
    let ops : List SessionOp := [.grantAs p .viewOnly .screen (List.Vector.replicate 16 0),
      .onDisconnect p 0, .onReconnect p (Duration.fromSecs 100)]
    Timed ops ∧ (∀ e ∈ events .free ops, KeepsStamp p e) ∧ WindowHolds p (events .free ops) := by
  intro p ops
  have timed : Timed ops := by decide
  have keeps : ∀ e ∈ events .free ops, KeepsStamp p e := by
    intro e member now session isOp held parked
    simp only [ops, events, history_cons, history_nil, List.mem_cons, List.not_mem_nil,
      or_false] at member
    rcases member with rfl | rfl | rfl
    · cases isOp
    · have states := congrArg (Option.map ActiveSession.state) held
      rw [Option.map_some, parked] at states
      exact absurd states (by decide)
    · cases isOp
  exact ⟨timed, keeps, (windowHolds_iff_keepsStamp .free ops p timed).mpr keeps⟩

/-- A peer is parked at 0 s and again at 200 s: it is resumed at 400 s, though it left `active`
more than the window before. -/
theorem resume_after_second_disconnect :
    ¬ ∀ (plan : Plan) (ops : List SessionOp) (p : NodeId), Timed ops →
      WindowHolds p (events plan ops) := by
  intro claimed
  let p : NodeId := ⟨List.Vector.replicate 32 0⟩
  let parking : List SessionOp := [.grantAs p .viewOnly .screen (List.Vector.replicate 16 0),
    .onDisconnect p 0, .onDisconnect p (Duration.fromSecs 200)]
  let returns : SessionOp := .onReconnect p (Duration.fromSecs 400)
  have holds := claimed .free (parking ++ [returns]) p (by decide)
  obtain ⟨earlier, left, during, leftAt, session, split, leaves, -, -, within, -⟩ :=
    (holds.reconnects (events .free parking) (Event.of step (run .free parking) returns) []
      (Duration.fromSecs 400) (history_concat ..) rfl).resumed _ rfl
  have member : left ∈ events .free parking := by
    rw [split]
    simp
  simp only [parking, events, history_cons, history_nil, List.mem_cons, List.not_mem_nil,
    or_false] at member
  rcases member with rfl | rfl | rfl
  · cases leaves.op
  · cases leaves.op
    exact absurd within (by decide)
  · have states := congrArg (Option.map ActiveSession.state) leaves.held
    rw [Option.map_some, leaves.active] at states
    exact absurd states (by decide)

end Lumepeer.Core.SessionManager
