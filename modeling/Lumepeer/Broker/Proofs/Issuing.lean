import Lumepeer.Broker.Proofs.Licences
import Lumepeer.Broker.Proofs.Statements

/-!
# Requests for a token that fail

A request for a token takes seats away one statement at a time and only then records
its device and its token, in a transaction of its own. The token of a key never
changes once it is there. What a request that fails has changed is the seats that it
took, so it leaves everything as it was exactly when it took none.
-/

namespace Lumepeer.Broker
open Lumepeer.Lib Lumepeer.Core

/-! ## Statements by their requests -/

/-- The place of a request among those that arrived, and what it asks. -/
structure Ticket where
  number : Nat
  request : Request
  deriving DecidableEq

/-- The broker, with the tickets of the requests that it handles. -/
structure Ticketed where
  service : Service := {}
  tickets : List Ticket := []
  arrived : Nat := 0

/-- The request whose statement was run or failed, and its answer if that was the last. -/
structure Outcome where
  ticket : Option Ticket
  answer : Option Answer
  deriving DecidableEq

/-- One statement. -/
def Ticketed.step (app : AppState) (ticketed : Ticketed) (happening : Service.Happening) :
    Outcome × Ticketed :=
  let (answer, service) := ticketed.service.step app happening
  match happening with
  | .arrive request _ =>
      (⟨none, answer⟩,
        { service
          tickets := ticketed.tickets ++ [⟨ticketed.arrived, request⟩]
          arrived := ticketed.arrived + 1 })
  | .run position | .fail position =>
      (⟨ticketed.tickets[position]?, answer⟩,
        { ticketed with
          service
          tickets :=
            if answer.isSome then ticketed.tickets.eraseIdx position else ticketed.tickets })

/-- An event of such a run. -/
abbrev TicketedEvent := Event Ticketed Service.Happening Outcome

/-- A token for the request. -/
def Answer.Grants (answer : Answer) : Prop := answer.status = .ok ∨ answer.status = .created

instance (answer : Answer) : Decidable answer.Grants := inferInstanceAs (Decidable (_ ∨ _))

/-- The event answers the request for a token that has the ticket. -/
def AnswersIssue (number : Nat) (request : IssueRequest) (answer : Answer) (e : TicketedEvent) :
    Prop :=
  e.out = ⟨some ⟨number, .issue request⟩, some answer⟩

/-- The rows of the devices and of the tokens are what they were. -/
def KeepsRows (e : TicketedEvent) : Prop :=
  (∀ id, e.post.service.db.devices.lookup id = e.pre.service.db.devices.lookup id) ∧
    ∀ key, e.post.service.db.issuedTokens.lookup key = e.pre.service.db.issuedTokens.lookup key

/-- The event takes the seat of a device away. -/
def TakesSeat (e : TicketedEvent) : Prop :=
  ∃ (position : Nat) (request : IssueRequest) (now : UInt64) (license : LicenseView)
    (deviceId : String) (displacing : List String) (row : DeviceRow), e.op = .run position ∧
      e.pre.service.tasks[position]? =
        some (.seating request now license (deviceId :: displacing)) ∧
      e.pre.service.db.devices.lookup deviceId = some row ∧ row.displacedAt = none

/-- The request for a token that a task is about. -/
def Task.issue? : Task → Option IssueRequest
  | .begins (.issue request) _ => some request
  | .noToken request _ => some request
  | .licensed request _ _ => some request
  | .seating request _ _ _ => some request
  | _ => none

/-- The request that a ticket is for, if it asks for a token. -/
def Ticket.issue? (ticket : Ticket) : Option IssueRequest :=
  match ticket.request with
  | .issue request => some request
  | _ => none

/-- The tickets are those of the tasks, each has its number, and the numbers are given in order. -/
structure Ticketed.Filed (ticketed : Ticketed) : Prop where
  issues : ticketed.tickets.map Ticket.issue? = ticketed.service.tasks.map Task.issue?
  numbered : (ticketed.tickets.map Ticket.number).Nodup
  given : ∀ ticket ∈ ticketed.tickets, ticket.number < ticketed.arrived

namespace Ticketed
variable {app : AppState} {ticketed : Ticketed} {happening : Service.Happening}

/-- The tickets change nothing. -/
theorem service_step : (ticketed.step app happening).2.service =
    (ticketed.service.step app happening).2 := by
  unfold step
  cases happening <;> rfl

/-- What a statement leaves of a task is about the same request. -/
theorem issue?_of_step {db : Db} {task next : Task} (isNext : (task.step app db).1 = .inr next) :
    next.issue? = task.issue? := by
  cases task with
  | begins request now =>
      cases request with
      | issue request =>
          simp only [Task.step] at isNext
          split at isNext <;> cases isNext
          rfl
      | heartbeat request =>
          simp only [Task.step] at isNext
          split at isNext <;> cases isNext
          rfl
      | revoke deviceId =>
          simp only [Task.step] at isNext
          split at isNext <;> cases isNext
          rfl
      | refresh deviceId =>
          simp only [Task.step] at isNext
          split at isNext <;> cases isNext
          rfl
      | payment request => cases isNext
  | noToken request now =>
      simp only [Task.step] at isNext
      split at isNext <;> cases isNext
      rfl
  | licensed request now license =>
      cases isNext
      rfl
  | seating request now license displacing =>
      cases displacing <;> cases isNext
      rfl
  | beating request now device =>
      cases isNext
      rfl
  | beaten | revoking | refreshing => cases isNext

/-- A request is answered. -/
theorem Filed.erase (filed : ticketed.Filed) (position : Nat) {service : Service}
    (erased : service.tasks = ticketed.service.tasks.eraseIdx position) :
    Filed { ticketed with service, tickets := ticketed.tickets.eraseIdx position } where
  issues := by
    simp only [erased, ← List.eraseIdx_map, filed.issues]
  numbered := by
    simp only [← List.eraseIdx_map]
    exact filed.numbered.eraseIdx position
  given ticket member := filed.given ticket (List.mem_of_mem_eraseIdx member)

/-- A task has a ticket, and a ticket a task. -/
theorem Filed.issue?_eq (filed : ticketed.Filed) (position : Nat) :
    (ticketed.tickets[position]?).map Ticket.issue? =
      (ticketed.service.tasks[position]?).map Task.issue? := by
  rw [← List.getElem?_map, filed.issues, List.getElem?_map]

/-- A statement is run, or fails. -/
theorem step_at {position : Nat} (isAt : happening = .run position ∨ happening = .fail position) :
    ticketed.step app happening =
      (⟨ticketed.tickets[position]?, (ticketed.service.step app happening).1⟩,
        { ticketed with
          service := (ticketed.service.step app happening).2
          tickets :=
            if (ticketed.service.step app happening).1.isSome then
              ticketed.tickets.eraseIdx position
            else ticketed.tickets }) := by
  rcases isAt with rfl | rfl <;> rfl

theorem Filed.step_at {position : Nat} (filed : ticketed.Filed)
    (isAt : happening = .run position ∨ happening = .fail position) :
    (ticketed.step app happening).2.Filed := by
  rw [Ticketed.step_at isAt]
  rcases @Service.step_at app ticketed.service happening position isAt with
    ⟨⟨answer, isAnswer⟩, erased⟩ | ⟨noAnswer, same | ⟨task, next, isTask, isNext, set⟩⟩
  · simp only [isAnswer, Option.isSome_some, if_true]
    exact filed.erase position erased
  · simp only [noAnswer, Option.isSome_none, Bool.false_eq_true, if_false]
    refine ⟨?_, filed.numbered, filed.given⟩
    simp only [same, filed.issues]
  · simp only [noAnswer, Option.isSome_none, Bool.false_eq_true, if_false]
    refine ⟨?_, filed.numbered, filed.given⟩
    obtain ⟨inside, isThere⟩ := List.getElem?_eq_some_iff.mp isTask
    simp only [set, filed.issues, List.map_set, issue?_of_step isNext, ← isThere]
    rw [← List.map_set, List.set_getElem_self]

theorem Filed.step (filed : ticketed.Filed) (happening : Service.Happening) :
    (ticketed.step app happening).2.Filed := by
  cases happening with
  | arrive request now =>
      refine ⟨?_, ?_, ?_⟩
      · simp only [Ticketed.step, Service.step, List.map_append, List.map_cons, List.map_nil,
          filed.issues]
        cases request <;> rfl
      · simp only [Ticketed.step, List.map_append, List.map_cons, List.map_nil]
        refine filed.numbered.append (List.nodup_singleton _) ?_
        simp only [List.disjoint_singleton, List.mem_map, not_exists, not_and]
        intro ticket member
        exact (filed.given ticket member).ne
      · intro ticket member
        rcases List.mem_append.mp member with old | new
        · exact (filed.given ticket old).trans (Nat.lt_succ_self _)
        · rw [List.mem_singleton.mp new]
          exact Nat.lt_succ_self _
  | run position => exact filed.step_at (.inl rfl)
  | fail position => exact filed.step_at (.inr rfl)

theorem filed_start : Filed {} where
  issues := rfl
  numbered := List.nodup_nil
  given := by simp

theorem filed_run (happenings : List Service.Happening) : (exec (step app) {} happenings).Filed :=
  exec_invariant (fun _ happening filed => filed.step happening) filed_start happenings

/-- A request with the number was answered. -/
def Gone (number : Nat) (ticketed : Ticketed) : Prop :=
  number < ticketed.arrived ∧ ∀ ticket ∈ ticketed.tickets, ticket.number ≠ number

theorem Gone.step {number : Nat} (gone : Gone number ticketed) (happening : Service.Happening) :
    Gone number (ticketed.step app happening).2 := by
  obtain ⟨given, others⟩ := gone
  cases happening with
  | arrive request now =>
      refine ⟨given.trans (Nat.lt_succ_self _), fun ticket member => ?_⟩
      rcases List.mem_append.mp member with old | new
      · exact others ticket old
      · rw [List.mem_singleton.mp new]
        exact given.ne'
  | run position | fail position =>
      refine ⟨given, fun ticket member => others ticket ?_⟩
      simp only [Ticketed.step] at member
      split at member
      · exact List.mem_of_mem_eraseIdx member
      · exact member

/-- A statement is of the request whose ticket is in its place. -/
theorem at_of_ticket {ticket : Ticket}
    (isTicket : (ticketed.step app happening).1.ticket = some ticket) :
    ∃ position, (happening = .run position ∨ happening = .fail position) ∧
      ticketed.tickets[position]? = some ticket := by
  cases happening with
  | arrive request now => cases isTicket
  | run position => exact ⟨position, .inl rfl, isTicket⟩
  | fail position => exact ⟨position, .inr rfl, isTicket⟩

theorem Gone.number_ne {number : Nat} (gone : Gone number ticketed) {ticket : Ticket}
    (isTicket : (ticketed.step app happening).1.ticket = some ticket) : ticket.number ≠ number := by
  obtain ⟨position, -, isAt⟩ := at_of_ticket isTicket
  exact gone.2 ticket (List.mem_of_getElem? isAt)

/-- A statement that answers a request is its last. -/
theorem gone_of_answer (filed : ticketed.Filed) {ticket : Ticket} {answer : Answer}
    (isTicket : (ticketed.step app happening).1.ticket = some ticket)
    (isAnswer : (ticketed.step app happening).1.answer = some answer) :
    Gone ticket.number (ticketed.step app happening).2 := by
  obtain ⟨position, isAt, isThere⟩ := at_of_ticket isTicket
  rw [step_at isAt] at isAnswer ⊢
  refine ⟨filed.given ticket (List.mem_of_getElem? isThere), fun other member same => ?_⟩
  dsimp only at isAnswer member
  rw [isAnswer, Option.isSome_some, if_pos rfl] at member
  obtain ⟨index, different, isOther⟩ := List.mem_eraseIdx_iff_getElem?.mp member
  have numbers : (ticketed.tickets.map Ticket.number)[index]? =
      (ticketed.tickets.map Ticket.number)[position]? := by
    rw [List.getElem?_map, List.getElem?_map, isOther, isThere, Option.map_some, same]
    rfl
  have inside' : index < (ticketed.tickets.map Ticket.number).length := by
    rw [List.length_map]
    exact (List.getElem?_eq_some_iff.mp isOther).1
  exact different ((List.getElem?_inj inside' filed.numbered).mp numbers)

/-! ## What a request for a token changes -/

/-- A statement of a request for a token is run on its task. -/
theorem Filed.task_of_ticket (filed : ticketed.Filed) {number : Nat} {request : IssueRequest}
    (isTicket : (ticketed.step app happening).1.ticket = some ⟨number, .issue request⟩) :
    ∃ (position : Nat) (task : Task), (happening = .run position ∨ happening = .fail position) ∧
      ticketed.service.tasks[position]? = some task ∧ task.issue? = some request := by
  obtain ⟨position, isAt, isThere⟩ := at_of_ticket isTicket
  have same := filed.issue?_eq position
  rw [isThere] at same
  obtain ⟨task, isTask, isIssue⟩ := Option.map_eq_some_iff.mp same.symm
  exact ⟨position, task, isAt, isTask, isIssue⟩

theorem keepsRows_of_same
    (same : (ticketed.step app happening).2.service.db = ticketed.service.db) :
    KeepsRows (Event.of (step app) ticketed happening) := by
  unfold KeepsRows
  simp only [Event.of_post, Event.of_pre, same, implies_true, and_self]

/-- Only the statement that takes a device's seat away takes a seat. -/
theorem takesSeat_iff {position : Nat} {task : Task}
    (isTask : ticketed.service.tasks[position]? = some task) :
    TakesSeat (Event.of (step app) ticketed (.run position)) ↔
      ∃ request now license deviceId displacing row,
        task = .seating request now license (deviceId :: displacing) ∧
          ticketed.service.db.devices.lookup deviceId = some row ∧ row.displacedAt = none := by
  constructor
  · rintro ⟨position', request, now, license, deviceId, displacing, row, isRun, isTask', found⟩
    cases isRun
    cases isTask.symm.trans isTask'
    exact ⟨request, now, license, deviceId, displacing, row, rfl, found⟩
  · rintro ⟨request, now, license, deviceId, displacing, row, rfl, found⟩
    exact ⟨position, request, now, license, deviceId, displacing, row, rfl, isTask, found⟩

/-- The rows stay what they are when a device that has no seat loses it. -/
theorem lookup_displaceDevice_iff {db : Db} {deviceId : String} {now : UInt64} :
    (∀ id, (db.displaceDevice deviceId now).devices.lookup id = db.devices.lookup id) ↔
      ¬ ∃ row, db.devices.lookup deviceId = some row ∧ row.displacedAt = none := by
  simp only [Db.displaceDevice, HashMap.lookup_modify_eq]
  constructor
  · rintro same ⟨row, found, seated⟩
    have kept := same deviceId
    rw [if_pos rfl, found] at kept
    simp only [Option.map_some, seated, Option.isNone_none, if_true, Option.some.injEq] at kept
    have displaced := congrArg DeviceRow.displacedAt kept
    rw [seated] at displaced
    cases displaced
  · intro unseated id
    split
    next isDevice =>
      rw [isDevice]
      cases found : db.devices.lookup deviceId with
      | none => rfl
      | some row =>
          have displaced : row.displacedAt ≠ none := fun seated => unseated ⟨row, found, seated⟩
          simp [displaced]
    next => rfl

/-- A statement of a request for a token, other than one that answers with a token, changes the
rows exactly when it takes a seat. -/
theorem keepsRows_iff (filed : ticketed.Filed) {number : Nat} {request : IssueRequest}
    (isTicket : (ticketed.step app happening).1.ticket = some ⟨number, .issue request⟩)
    (noToken : ∀ answer, (ticketed.step app happening).1.answer = some answer → ¬ answer.Grants) :
    KeepsRows (Event.of (step app) ticketed happening) ↔
      ¬ TakesSeat (Event.of (step app) ticketed happening) := by
  obtain ⟨position, task, rfl | rfl, isTask, isIssue⟩ := filed.task_of_ticket isTicket
  · have after : (ticketed.step app (.run position)).2.service.db =
        (task.step app ticketed.service.db).2 := by
      rw [service_step, Service.db_step_run app isTask]
    have reads (same : (task.step app ticketed.service.db).2 = ticketed.service.db)
        (isOther : ∀ request now license deviceId displacing,
          task ≠ .seating request now license (deviceId :: displacing)) :
        KeepsRows (Event.of (step app) ticketed (.run position)) ↔
          ¬ TakesSeat (Event.of (step app) ticketed (.run position)) := by
      rw [takesSeat_iff isTask]
      refine iff_of_true (keepsRows_of_same (after.trans same)) ?_
      rintro ⟨request, now, license, deviceId, displacing, row, isSeating, -⟩
      exact isOther request now license deviceId displacing isSeating
    cases task with
    | begins request' now =>
        cases request' with
        | issue request' =>
            refine reads ?_ (by rintro _ _ _ _ _ ⟨⟩)
            simp only [Task.step]
            split <;> rfl
        | heartbeat | revoke | refresh | payment => cases isIssue
    | noToken request' now =>
        refine reads ?_ (by rintro _ _ _ _ _ ⟨⟩)
        simp only [Task.step]
        split <;> rfl
    | licensed request' now license => exact reads rfl (by rintro _ _ _ _ _ ⟨⟩)
    | seating request' now license displacing =>
        cases displacing with
        | cons deviceId displacing =>
            rw [takesSeat_iff isTask]
            unfold KeepsRows
            simp only [Event.of_post, Event.of_pre, after, Task.step]
            rw [lookup_displaceDevice_iff]
            constructor
            · rintro ⟨unseated, -⟩ ⟨_, _, _, _, _, row, isSeating, found⟩
              cases isSeating
              exact unseated ⟨row, found⟩
            · intro unseated
              refine ⟨?_, fun _ => rfl⟩
              rintro ⟨row, found⟩
              exact unseated ⟨_, _, _, _, _, row, rfl, found⟩
        | nil =>
            refine reads ?_ (by rintro _ _ _ _ _ ⟨⟩)
            simp only [Task.step, recordAnswer]
            cases recorded : ticketed.service.db.recordIssue license.id request'.deviceId
                request'.idempotencyKey (signToken app license request'.deviceId now) now with
            | none => rfl
            | some db' =>
                have answered : (ticketed.step app (.run position)).1.answer = some
                    { status := .created
                      body := .token (Base32.encode (signToken app license request'.deviceId now))
                      licenses := [license.id] } := by
                  simp only [Ticketed.step, Service.step, isTask, Task.step, recordAnswer, recorded]
                exact absurd (.inr rfl) (noToken _ answered)
    | beating | beaten | revoking | refreshing => cases isIssue
  · refine iff_of_true (keepsRows_of_same ?_) ?_
    · rw [service_step]
      simp only [Service.step, isTask]
    · rintro ⟨_, _, _, _, _, _, _, isRun, -⟩
      cases isRun

/-- Before it is answered, a request for a token was not answered. -/
theorem unanswered_before {happenings : List Service.Happening} {before after : List TicketedEvent}
    {e e' : TicketedEvent} {ticket : Ticket}
    (split : history (step app) {} happenings = before ++ e :: after)
    (isTicket : e.out.ticket = some ticket) (member : e' ∈ before)
    (isTicket' : e'.out.ticket = some ticket) : e'.out.answer = none := by
  obtain ⟨first, second, rfl, rfl, isEvent⟩ := history_split split
  obtain ⟨earlier, later, rfl, isEvent'⟩ := exists_prefix_of_mem_history member
  rw [Option.eq_none_iff_forall_ne_some]
  intro answer isAnswer
  rw [isEvent'] at isTicket' isAnswer
  have gone := gone_of_answer (filed_run earlier) isTicket' isAnswer
  have keep (ticketed : Ticketed) (happening : Service.Happening)
      (gone : Gone ticket.number ticketed) :
      Gone ticket.number (ticketed.step app happening).2 := gone.step happening
  have stillGone := exec_invariant keep gone later
  rw [isEvent, exec_append, exec_cons] at isTicket
  exact stillGone.number_ne isTicket rfl

/-! ## The token of a key -/

/-- A token that is recorded stays recorded. -/
theorem lookup_issuedTokens_of_writes {db db' : Db} {task : Task} {key : String} {row : IssuedToken}
    (writes : task.Writes app db db') (found : db.issuedTokens.lookup key = some row) :
    db'.issuedTokens.lookup key = some row := by
  cases writes with
  | reads | displaces | beats | revokes => exact found
  | pays request now event change accepted =>
      unfold Db.applyWebhook
      split
      · exact found
      · cases change <;> exact found
  | issues request now license recorded =>
      unfold Db.recordIssue at recorded
      dsimp only at recorded
      split at recorded
      · cases recorded
      next unused =>
        cases recorded
        dsimp only
        rw [HashMap.lookup_insert_eq]
        split
        next same =>
          rw [← same, found] at unused
          exact absurd rfl unused
        next => exact found

/-- The token with which a request was answered is recorded under its key. -/
def Db.Holds (db : Db) (key : String) (answer : Answer) : Prop :=
  ∃ row, db.issuedTokens.lookup key = some row ∧ answer.body = .token (Base32.encode row.token)

theorem holds_step {key : String} {answer : Answer}
    (holds : Db.Holds ticketed.service.db key answer) (happening : Service.Happening) :
    Db.Holds (ticketed.step app happening).2.service.db key answer := by
  obtain ⟨row, found, isBody⟩ := holds
  refine ⟨row, ?_, isBody⟩
  rw [service_step]
  rcases ticketed.service.db_step app happening with same | ⟨position, task, -, -, after⟩
  · rw [same]
    exact found
  · rw [after]
    exact lookup_issuedTokens_of_writes (task.writes_step app ticketed.service.db) found

/-- A request that gets a token gets the one that is recorded under its key. -/
theorem holds_of_grants (filed : ticketed.Filed) {number : Nat} {request : IssueRequest}
    {answer : Answer}
    (answers : AnswersIssue number request answer (Event.of (step app) ticketed happening))
    (grants : answer.Grants) :
    Db.Holds (ticketed.step app happening).2.service.db request.idempotencyKey answer := by
  obtain ⟨isTicket, isAnswer⟩ := Outcome.mk.inj answers
  obtain ⟨position, task, rfl | rfl, isTask, isIssue⟩ := filed.task_of_ticket isTicket
  · have after : (ticketed.step app (.run position)).2.service.db =
        (task.step app ticketed.service.db).2 := by
      rw [service_step, Service.db_step_run app isTask]
    have isAnswer : (ticketed.service.step app (.run position)).1 = some answer := isAnswer
    have isAnswer : (task.step app ticketed.service.db).1 = .inl answer := by
      simp only [Service.step, isTask] at isAnswer
      split at isAnswer
      next answered => rw [answered, Option.some.inj isAnswer]
      next => cases isAnswer
    rw [after]
    cases task with
    | begins request' now =>
        cases request' with
        | issue request' =>
            cases isIssue
            simp only [Task.step] at isAnswer ⊢
            split at isAnswer
            next existing known =>
              cases isAnswer
              obtain ⟨row, found, rfl⟩ := Option.map_eq_some_iff.mp known
              exact ⟨row, found, rfl⟩
            next => cases isAnswer
        | heartbeat | revoke | refresh | payment => cases isIssue
    | noToken request' now =>
        simp only [Task.step] at isAnswer
        split at isAnswer
        · cases isAnswer
          rcases grants with isOk | isCreated
          · cases isOk
          · cases isCreated
        · cases isAnswer
    | licensed request' now license => cases isAnswer
    | seating request' now license displacing =>
        cases displacing with
        | cons deviceId displacing => cases isAnswer
        | nil =>
            cases isIssue
            simp only [Task.step, recordAnswer] at isAnswer ⊢
            cases recorded : ticketed.service.db.recordIssue license.id request.deviceId
                request.idempotencyKey (signToken app license request.deviceId now) now with
            | none =>
                simp only [recorded] at isAnswer
                cases isAnswer
                rcases grants with isOk | isCreated
                · cases isOk
                · cases isCreated
            | some db' =>
                simp only [recorded] at isAnswer ⊢
                cases isAnswer
                unfold Db.recordIssue at recorded
                dsimp only at recorded
                split at recorded
                · cases recorded
                · cases recorded
                  exact ⟨_, HashMap.lookup_insert_eq .. |>.trans (if_pos rfl), rfl⟩
    | beating | beaten | revoking | refreshing => cases isIssue
  · have isAnswer : (ticketed.service.step app (.fail position)).1 = some answer := isAnswer
    have isFailed : answer = task.failed := by
      simp only [Service.step, isTask] at isAnswer
      exact (Option.some.inj isAnswer).symm
    have isInternal : task.failed = internal := by
      cases task with
      | begins request' now =>
          cases request' with
          | payment => cases isIssue
          | issue | heartbeat | revoke | refresh => rfl
      | noToken | licensed | seating | beating | beaten | revoking | refreshing => rfl
    rw [isFailed, isInternal] at grants
    rcases grants with isOk | isCreated
    · cases isOk
    · cases isCreated

/-- Once a request got a token, the token stays under its key. -/
theorem holds_run {happenings : List Service.Happening} {e : TicketedEvent} {number : Nat}
    {request : IssueRequest} {answer : Answer} (member : e ∈ history (step app) {} happenings)
    (answers : AnswersIssue number request answer e) (grants : answer.Grants) :
    Db.Holds (exec (step app) {} happenings).service.db request.idempotencyKey answer := by
  obtain ⟨before, after, rfl, isEvent⟩ := exists_prefix_of_mem_history member
  rw [isEvent] at answers
  rw [exec_append, exec_cons]
  have keep (ticketed : Ticketed) (happening : Service.Happening)
      (holds : Db.Holds ticketed.service.db request.idempotencyKey answer) :
      Db.Holds (ticketed.step app happening).2.service.db request.idempotencyKey answer :=
    holds_step holds happening
  exact exec_invariant keep (holds_of_grants (filed_run before) answers grants) after

end Ticketed

/-- A request for a token that gets none leaves the rows of the devices and of the tokens as the
other requests left them. -/
def LeavesRows (events : List TicketedEvent) : Prop :=
  ∀ before e after number request answer, events = before ++ e :: after →
    AnswersIssue number request answer e → ¬ answer.Grants →
      ∀ e' ∈ before ++ [e], e'.out.ticket = some ⟨number, .issue request⟩ → KeepsRows e'

/-- A request for a token that gets none has taken no seat. -/
def TakesNoSeat (events : List TicketedEvent) : Prop :=
  ∀ before e after number request answer, events = before ++ e :: after →
    AnswersIssue number request answer e → ¬ answer.Grants →
      ∀ e' ∈ before, e'.out.ticket = some ⟨number, .issue request⟩ → ¬ TakesSeat e'

/-- In every run, requests that get a token under one key get the same one, a device has one row,
and a request that gets no token leaves the rows as they were exactly when it took no seat before
it failed. -/
theorem issue_leaves_rows_iff (app : AppState) (happenings : List Service.Happening) :
    let events := history (Ticketed.step app) {} happenings
    (∀ e ∈ events, ∀ e' ∈ events, ∀ number request answer number' request' answer',
      AnswersIssue number request answer e → AnswersIssue number' request' answer' e' →
        answer.Grants → answer'.Grants → request.idempotencyKey = request'.idempotencyKey →
          ∃ token, answer.body = .token token ∧ answer'.body = .token token) ∧
    (exec (Ticketed.step app) {} happenings).service.db.devices.keys.Nodup ∧
    (LeavesRows events ↔ TakesNoSeat events) := by
  refine ⟨?_, AList.keys_nodup _, ?_, ?_⟩
  · intro e member e' member' number request answer number' request' answer' answers answers'
      grants grants' sameKey
    obtain ⟨row, found, isBody⟩ := Ticketed.holds_run member answers grants
    obtain ⟨row', found', isBody'⟩ := Ticketed.holds_run member' answers' grants'
    rw [sameKey, found'] at found
    cases found
    exact ⟨_, isBody, isBody'⟩
  · intro leaves before e after number request answer split answers refused e' member isTicket
    have keeps := leaves before e after number request answer split answers refused e'
      (List.mem_append_left _ member) isTicket
    have unanswered := Ticketed.unanswered_before split (congrArg Outcome.ticket answers) member
      isTicket
    obtain ⟨first, second, rfl, rfl, -⟩ := history_split split
    obtain ⟨earlier, later, rfl, isEvent⟩ := exists_prefix_of_mem_history member
    rw [isEvent] at keeps isTicket unanswered ⊢
    refine (Ticketed.keepsRows_iff (Ticketed.filed_run earlier) isTicket ?_).mp keeps
    intro answer' isAnswer
    rw [← Event.of_out, unanswered] at isAnswer
    cases isAnswer
  · intro takesNone before e after number request answer split answers refused e' member isTicket
    have none (earlier) (isEarlier : earlier ∈ before)
        (isTicket : earlier.out.ticket = some ⟨number, .issue request⟩) : ¬ TakesSeat earlier :=
      takesNone before e after number request answer split answers refused earlier isEarlier isTicket
    rcases List.mem_append.mp member with isEarlier | isLast
    · have spares := none e' isEarlier isTicket
      have unanswered := Ticketed.unanswered_before split (congrArg Outcome.ticket answers)
        isEarlier isTicket
      obtain ⟨first, second, rfl, rfl, -⟩ := history_split split
      obtain ⟨earlier, later, rfl, isEvent⟩ := exists_prefix_of_mem_history isEarlier
      rw [isEvent] at spares isTicket unanswered ⊢
      refine (Ticketed.keepsRows_iff (Ticketed.filed_run earlier) isTicket ?_).mpr spares
      intro answer' isAnswer
      rw [← Event.of_out, unanswered] at isAnswer
      cases isAnswer
    · rw [List.mem_singleton.mp isLast] at isTicket ⊢
      obtain ⟨first, second, rfl, rfl, isEvent⟩ := history_split split
      rw [isEvent] at answers isTicket ⊢
      obtain ⟨-, isAnswer⟩ := Outcome.mk.inj answers
      refine (Ticketed.keepsRows_iff (Ticketed.filed_run first) isTicket ?_).mpr ?_
      · intro answer' isAnswer' grants
        cases isAnswer.symm.trans isAnswer'
        exact refused grants
      · -- The statement that takes a seat is not the last of its request.
        rintro ⟨position, request', now, license, deviceId, displacing, row, isRun, isTask, -⟩
        simp only [Event.of_op] at isRun
        rw [isRun] at isAnswer
        have isAnswer : ((exec (Ticketed.step app) {} first).service.step app (.run position)).1 =
            some answer := isAnswer
        simp only [Event.of_pre] at isTask
        simp only [Service.step, isTask, Task.step] at isAnswer
        cases isAnswer

open Service.Happening in
/-- A licence with one seat, which a second device is about to take. -/
def seatAtStake : List Service.Happening :=
  [arrive (Served.granted "e" "a" "l" 1 1) 1, run 0,
    arrive (.issue ⟨"a", "d", "k"⟩) 2, run 0, run 0, run 0, run 0,
    arrive (.issue ⟨"a", "d2", "k2"⟩) 3, run 0, run 0, run 0]

/-- The second request takes the seat. -/
def seatTaken : TicketedEvent :=
  Event.of (Ticketed.step Served.sampleApp)
    (exec (Ticketed.step Served.sampleApp) {} seatAtStake) (.run 0)

/-- ... and then the database fails. -/
def databaseFails : TicketedEvent :=
  Event.of (Ticketed.step Served.sampleApp) seatTaken.post (.fail 0)

theorem failed_issue_takes_seat :
    ¬ ∀ (app : AppState) (happenings : List Service.Happening),
      LeavesRows (history (Ticketed.step app) {} happenings) := by
  intro always
  have isRun : history (Ticketed.step Served.sampleApp) {} (seatAtStake ++ [.run 0] ++ [.fail 0]) =
      history (Ticketed.step Served.sampleApp) {} seatAtStake ++ [seatTaken] ++
        databaseFails :: [] := by
    rw [history_concat, history_concat, exec_concat]
    rfl
  have isIssue : seatTaken.out.ticket = some ⟨2, .issue ⟨"a", "d2", "k2"⟩⟩ := by decide
  have isFailure : databaseFails.out = ⟨some ⟨2, .issue ⟨"a", "d2", "k2"⟩⟩, some internal⟩ := by
    decide
  have keeps := always Served.sampleApp _ _ _ _ _ _ _ isRun isFailure (by decide) seatTaken
    (List.mem_append_left _ (List.mem_append_right _ (List.mem_singleton.mpr rfl))) isIssue
  exact absurd (keeps.1 "d") (by decide)

end Lumepeer.Broker
