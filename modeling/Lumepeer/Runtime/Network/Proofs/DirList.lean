import Lumepeer.Runtime.Network.DirList

/-!
# The path a listing is shown under

An answer is labelled with the path that was asked for last when it arrives. It
is the right one where no other path was asked for since the request that is
answered, and in particular where the guest asks only when nothing is on its way.
-/

namespace Lumepeer.Runtime.DirList
open Lumepeer.Lib Lumepeer.Core

/-- An executed step. -/
abbrev Call := Event World Op Deed

/-- The path and the entries of a directory that the host read. -/
def readOf (e : Call) : Option (String × List DirEntry) :=
  match e.out with
  | .answered path response =>
      if response.refused.isNone then some (path, response.entries) else none
  | .asked | .failed _ | .received | .idle => none

/-- All that the host read. -/
def reads (calls : List Call) : List (String × List DirEntry) := calls.filterMap readOf

/-- The listing in the view has the entries that the host read for a request of its path. -/
def Labelled (calls : List Call) (world : World) : Prop :=
  ∀ view listing, world.view = some view → view.dirListing = some listing → listing.refused = none →
    (listing.path, listing.entries) ∈ reads calls

/-- After every step. -/
def AlwaysLabelled (ops : List Op) : Prop :=
  ∀ before e after, history World.step .start ops = before ++ e :: after →
    Labelled (before ++ [e]) e.post

/-- A listing that arrives answers the path that was asked for last, or the host has read the same
entries for a request of that path too. -/
def InTurn (before : List Call) (e : Call) : Prop :=
  e.op = .receive → ∀ path response rest, e.pre.toGuest = (path, response) :: rest →
    response.refused = none → ∀ view, e.pre.view = some view →
      view.dirListAsked = some path ∨ (view.dirListAsked.getD "", response.entries) ∈ reads before

/-- At every step. -/
def AlwaysInTurn (ops : List Op) : Prop :=
  ∀ before e after, history World.step .start ops = before ++ e :: after → InTurn before e

/-! ## One step -/

theorem reads_concat (calls : List Call) (e : Call) :
    reads (calls ++ [e]) = reads calls ++ (readOf e).toList := by
  rw [reads, List.filterMap_append]
  cases found : readOf e with
  | none => simp [reads, found]
  | some read => simp [reads, found]

theorem mem_reads_concat {calls : List Call} {e : Call} {read : String × List DirEntry}
    (member : read ∈ reads calls) : read ∈ reads (calls ++ [e]) := by
  rw [reads_concat]
  exact List.mem_append_left _ member

/-- Asking touches the path that was asked for last and nothing else of the view. -/
theorem onRequestDirList_ok {browses : Bool} {view : Option View} {path sent : String} {next : View}
    (ok : onRequestDirList browses view path = .ok (sent, next)) :
    sent = path ∧ ∃ old, view = some old ∧ next = { old with dirListAsked := some path } := by
  unfold onRequestDirList at ok
  split at ok
  · cases ok
  · split at ok
    · cases ok
    · split at ok
      · cases ok
      · rename_i old
        obtain ⟨rfl, rfl⟩ := Prod.mk.inj (Except.ok.inj ok)
        exact ⟨rfl, old, rfl, rfl⟩

/-- What is on its way to the guest is what the host has read. -/
def Backed (calls : List Call) (world : World) : Prop :=
  ∀ path response, (path, response) ∈ world.toGuest → response.refused = none →
    (path, response.entries) ∈ reads calls

theorem backed_step {calls : List Call} {world : World} (op : Op) (backed : Backed calls world) :
    Backed (calls ++ [Event.of World.step world op]) (world.step op).2 := by
  intro path response member unrefused
  cases op with
  | ask browses asked room =>
      refine mem_reads_concat (backed path response ?_ unrefused)
      simp only [World.step] at member
      split at member
      · exact member
      · exact member
  | serve speaks granted disk room =>
      cases waiting : world.toHost with
      | nil =>
          simp only [World.step, waiting] at member
          exact mem_reads_concat (backed path response member unrefused)
      | cons request rest =>
          cases answer : onDirListRequest speaks granted request disk with
          | none =>
              simp only [World.step, waiting, answer] at member
              exact mem_reads_concat (backed path response member unrefused)
          | some answered =>
              have isRead : answered.refused = none → (request, answered.entries) ∈ reads
                  (calls ++ [Event.of World.step world (.serve speaks granted disk room)]) := by
                intro unrefused
                rw [reads_concat]
                apply List.mem_append_right
                simp [readOf, Event.of, World.step, waiting, answer, unrefused]
              simp only [World.step, waiting, answer] at member
              split at member
              · rcases List.mem_append.mp member with earlier | new
                · exact mem_reads_concat (backed path response earlier unrefused)
                · obtain ⟨rfl, rfl⟩ := Prod.mk.inj (List.mem_singleton.mp new)
                  exact isRead unrefused
              · exact mem_reads_concat (backed path response member unrefused)
  | receive =>
      refine mem_reads_concat (backed path response ?_ unrefused)
      cases waiting : world.toGuest with
      | nil =>
          simp only [World.step, waiting] at member
          cases member
      | cons head rest =>
          simp only [World.step, waiting] at member
          exact List.mem_cons_of_mem _ member

/-- A step that is not an arrival leaves the listing. -/
theorem labelled_step_of_ne {calls : List Call} {world : World} {op : Op} (other : op ≠ .receive)
    (labelled : Labelled calls world) :
    Labelled (calls ++ [Event.of World.step world op]) (world.step op).2 := by
  intro view listing isView isListing unrefused
  apply mem_reads_concat
  cases op with
  | ask browses path room =>
      simp only [World.step] at isView
      split at isView
      · exact labelled view listing isView isListing unrefused
      · rename_i sent next asked
        obtain ⟨-, old, isOld, rfl⟩ := onRequestDirList_ok asked
        obtain rfl := Option.some.inj isView
        exact labelled old listing isOld isListing unrefused
  | serve speaks granted disk room =>
      apply labelled view listing ?_ isListing unrefused
      simp only [World.step] at isView
      split at isView
      · exact isView
      · split at isView
        · exact isView
        · exact isView
  | receive => exact absurd rfl other

/-- An arrival labels its listing rightly if and only if it is in turn. -/
theorem labelled_receive_iff {calls : List Call} {world : World} (backed : Backed calls world)
    (labelled : Labelled calls world) :
    Labelled (calls ++ [Event.of World.step world .receive]) (world.step .receive).2 ↔
      InTurn calls (Event.of World.step world .receive) := by
  have noRead : reads (calls ++ [Event.of World.step world .receive]) = reads calls := by
    rw [reads_concat]
    have none : readOf (Event.of World.step world .receive) = none := by
      simp only [readOf, Event.of, World.step]
      cases world.toGuest <;> rfl
    rw [none, Option.toList_none, List.append_nil]
  rw [Labelled, noRead]
  cases waiting : world.toGuest with
  | nil =>
      have same : (world.step .receive).2 = world := by simp only [World.step, waiting]
      rw [same]
      refine ⟨fun _ _ path response rest isWaiting => ?_, fun _ => labelled⟩
      cases waiting.symm.trans isWaiting
  | cons head rest =>
      obtain ⟨path, response⟩ := head
      have isView : (world.step .receive).2.view =
          world.view.map fun view => onDirListResponse view response := by
        simp only [World.step, waiting]
      rw [isView]
      constructor
      · intro right _ path' response' rest' isWaiting unrefused view isView
        obtain ⟨isHead, -⟩ := List.cons.inj (waiting.symm.trans isWaiting)
        obtain ⟨rfl, rfl⟩ := Prod.mk.inj isHead
        have isView : world.view = some view := isView
        exact .inr (right (onDirListResponse view response) _ (by rw [isView]; rfl) rfl unrefused)
      · intro inTurn view listing isSome isListing unrefused
        obtain ⟨old, isOld, rfl⟩ := Option.map_eq_some_iff.mp isSome
        obtain rfl := Option.some.inj isListing
        rcases inTurn rfl path response rest waiting unrefused old isOld with last | also
        · have isRead := backed path response (by simp [waiting]) unrefused
          simp only [last, Option.getD_some]
          exact isRead
        · exact also

/-! ## Whole runs -/

theorem backed_exec (ops : List Op) :
    Backed (history World.step .start ops) (exec World.step .start ops) := by
  induction ops using List.reverseRecOn with
  | nil => exact fun _ _ member => absurd member List.not_mem_nil
  | append_singleton ops op ih =>
      rw [history_concat, exec_concat]
      exact backed_step op ih

theorem labelled_start : Labelled [] .start := by
  intro view listing isView isListing
  obtain rfl := Option.some.inj isView
  cases isListing

theorem labelled_exec {ops : List Op} (inTurn : AlwaysInTurn ops) :
    Labelled (history World.step .start ops) (exec World.step .start ops) := by
  induction ops using List.reverseRecOn with
  | nil => exact labelled_start
  | append_singleton ops op ih =>
      rw [AlwaysInTurn, history_concat] at inTurn
      have labelled : Labelled (history World.step .start ops) (exec World.step .start ops) := by
        apply ih
        intro before e after split
        apply inTurn before e (after ++ [Event.of World.step (exec World.step .start ops) op])
        rw [split, List.append_assoc, List.cons_append]
      have here := inTurn _ _ [] rfl
      rw [history_concat, exec_concat]
      by_cases arrives : op = .receive
      · subst arrives
        exact (labelled_receive_iff (backed_exec ops) labelled).mpr here
      · exact labelled_step_of_ne arrives labelled

/-- What holds after every step holds where a step begins. -/
theorem AlwaysLabelled.labelled {ops first second : List Op} (always : AlwaysLabelled ops)
    (isOps : ops = first ++ second) :
    Labelled (history World.step .start first) (exec World.step .start first) := by
  rcases List.eq_nil_or_concat first with rfl | ⟨init, last, rfl⟩
  · exact labelled_start
  · rw [List.concat_eq_append] at isOps ⊢
    rw [history_concat, exec_concat]
    apply always _ (Event.of World.step (exec World.step .start init) last)
      (history World.step (World.step (exec World.step .start init) last).2 second)
    rw [isOps, List.append_assoc, history_append]
    rfl

/-- In every interleaving: the listing in the view always has the entries that the host read for a
request of its path if and only if every listing arrives in turn. -/
theorem labelled_iff (ops : List Op) : AlwaysLabelled ops ↔ AlwaysInTurn ops := by
  constructor
  · intro always before e after split arrives
    obtain ⟨first, second, isOps, rfl, isEvent⟩ := history_split split
    have labelled := always.labelled isOps
    have here := always _ e after split
    rw [arrives] at isEvent
    rw [isEvent] at here ⊢
    exact (labelled_receive_iff (backed_exec first) labelled).mp here rfl
  · intro inTurn before e after split
    obtain ⟨first, second, isOps, rfl, isEvent⟩ := history_split split
    have whole : AlwaysInTurn (first ++ [e.op]) := by
      intro before' e' after' split'
      apply inTurn before' e' (after' ++ after)
      rw [split, List.append_cons, isEvent, ← history_concat, split', List.append_assoc,
        List.cons_append]
    have labelled := labelled_exec whole
    rw [history_concat, exec_concat] at labelled
    rw [isEvent]
    exact labelled

/-- A file. -/
def file (name : String) : DirEntry := { name, size := 1, isDir := false, modifiedUnix := 0 }

/-- Two directories asked for at once. -/
def twoAtOnce : List Op :=
  [.ask true "/a" true, .ask true "/b" true, .serve true true (.listed [file "in-a"] false) true,
    .receive]

/-- The first answer is shown under the second path. -/
theorem listing_under_wrong_path : ¬∀ ops, AlwaysLabelled ops := by
  intro always
  have labelled := always twoAtOnce (history World.step .start (twoAtOnce.take 3))
    (Event.of World.step (exec World.step .start (twoAtOnce.take 3)) .receive) [] rfl
  have shown : ((exec World.step .start twoAtOnce).view.bind View.dirListing).any (fun listing =>
      listing.refused.isNone && ((listing.path, listing.entries) ∉
        reads (history World.step .start twoAtOnce) : Bool)) = true := by
    decide +kernel
  obtain ⟨listing, isListing, wrong⟩ := (Option.any_eq_true _ _).mp shown
  obtain ⟨view, isView, isListing⟩ := Option.bind_eq_some_iff.mp isListing
  obtain ⟨unrefused, missing⟩ := Bool.and_eq_true_iff.mp wrong
  exact of_decide_eq_true missing
    (labelled view listing isView isListing (Option.isNone_iff_eq_none.mp unrefused))

end Lumepeer.Runtime.DirList
