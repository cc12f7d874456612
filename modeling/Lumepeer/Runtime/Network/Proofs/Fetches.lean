import Lumepeer.Lib.Run
import Lumepeer.Runtime.Network.Fetches
import Mathlib.Data.List.Intervals

/-!
# Whether an answer finds its own request

The guest holds every answer against its oldest request. The host hashes and walks
in tasks that end in any order, and says nothing of a directory that it cannot
offer. While it answers in the order in which it was asked, and always answers,
every answer finds its own request.
-/

namespace Lumepeer.Runtime.Fetches
open Lumepeer.Lib Lumepeer.Core
open FileOffers (Path Hash safeFileName)

abbrev FetchEvent := Event Fetches Happening Unit

variable {dialect : Dialect} {state : Fetches}

/-- The requests that were answered, are being worked on or are on their way. -/
def stages (state : Fetches) : List Nat :=
  state.answered ++ (state.preparing ++ state.walking ++ state.requests).map (·.number)

/-- The answer to the request is still to come. -/
def ToCome (state : Fetches) (number : Nat) : Prop :=
  number ∈ (state.preparing ++ state.walking ++ state.requests).map (·.number)
    ∨ number ∈ state.answers.map (·.number)

/-- The answer says that the request is refused. -/
def Answer.IsRefusal (answer : Answer) : Prop :=
  ∃ reason, answer.kind = .fileFetchRefused reason

/-- Every request is answered at most once and not forgotten, an answer is held against its own
request, which an offer is taken for, and what waits for an answer will get one. -/
structure AnsweredByOwn (e : FetchEvent) : Prop where
  one : ∀ number < e.post.asked, e.post.stages.count number = 1
  own : ∀ answer, e.op = .answer → e.pre.answers.head? = some answer →
    ∃ fetch, e.pre.fetchesOut = fetch :: e.post.fetchesOut ∧ fetch.number = answer.number
      ∧ (answer.IsRefusal ∨ e.post.taken = e.pre.taken ++ [{ number := answer.number, fetch }])
  waits : ∀ fetch ∈ e.post.fetchesOut, e.post.ToCome fetch.number

/-- Nothing that was asked for before is being worked on. -/
def Oldest (state : Fetches) (number : Nat) : Prop :=
  ∀ ask ∈ state.preparing ++ state.walking, number ≤ ask.number

/-- A directory that was walked can be offered. -/
def Offerable (state : Fetches) (found : Option (List ManifestEntry)) : Prop :=
  state.permits.mayTransferFiles = true ∧ state.permits.mayOfferDirectory = true
    ∧ ∃ entries ∈ found.bind walkDirectory,
      ∀ entry ∈ entries, ¬ entry.size > state.permits.offerCeiling

/-- The host works on a request, or refuses it with nothing else to answer before it. -/
def Prompt (state : Fetches) : Verdict → Prop
  | .silent => False
  | .refuse _ => state.preparing ++ state.walking = []
  | .walk | .prepare => True

/-- The host answers in the order in which it was asked, and never not at all; and the guest may
take what it is offered. -/
def InTurn (dialect : Dialect) (state : Fetches) : Happening → Prop
  | .request disk =>
      ∀ ask ∈ state.requests.head?, state.Prompt (state.verdict dialect ask.path disk)
  | .prepared position _ => ∀ ask ∈ state.preparing[position]?, state.Oldest ask.number
  | .walked position found => ∀ ask ∈ state.walking[position]?,
      state.Oldest ask.number ∧ state.Offerable found
  | .answer => ∀ answer ∈ state.answers.head?, answer.IsRefusal ∨ state.mayTransferFiles = true
  | _ => True

instance (number : Nat) : Decidable (state.Oldest number) := by
  unfold Oldest
  infer_instance

instance (found : Option (List ManifestEntry)) : Decidable (state.Offerable found) := by
  unfold Offerable
  infer_instance

instance (answer : Answer) : Decidable answer.IsRefusal := by
  unfold Answer.IsRefusal
  cases answer.kind with
  | fileFetchRefused reason => exact isTrue ⟨reason, rfl⟩
  | _ => exact isFalse nofun

instance (verdict : Verdict) : Decidable (state.Prompt verdict) := by
  cases verdict <;> dsimp only [Prompt] <;> infer_instance

instance (dialect : Dialect) (happening : Happening) :
    Decidable (state.InTurn dialect happening) := by
  cases happening <;> dsimp only [InTurn] <;> infer_instance

/-! ## Names -/

section names

theorem takeWhile_eq_of_all {α : Type} {p q : α → Bool} (weaker : ∀ a, p a = true → q a = true) :
    ∀ {l : List α}, (∀ a ∈ l.takeWhile q, p a = true) → l.takeWhile p = l.takeWhile q
  | [], _ => rfl
  | a :: l, all => by
      cases isQ : q a with
      | false =>
          have isP : p a = false := by
            by_contra isP
            rw [Bool.not_eq_false] at isP
            rw [weaker a isP] at isQ
            cases isQ
          simp [isP, isQ]
      | true =>
          have isP : p a = true := all a (by simp [isQ])
          have rest : ∀ b ∈ l.takeWhile q, p b = true := fun b member =>
            all b (by simp [isQ, member])
          simp [isP, isQ, takeWhile_eq_of_all weaker rest]

theorem safeFileName_eq {name safe : String} (isSafe : safeFileName name = some safe) :
    safe = name := by
  unfold safeFileName at isSafe
  simp only at isSafe
  repeat' split at isSafe
  all_goals first | cases isSafe; rfl | cases isSafe

/-- No separator is in a safe name. -/
theorem safeFileName_separator {name safe : String} (isSafe : safeFileName name = some safe)
    {c : Char} (member : c ∈ name.toList) : RemotePath.isSeparator c = false := by
  by_contra isSeparator
  rw [Bool.not_eq_false, RemotePath.isSeparator, Bool.or_eq_true, decide_eq_true_iff,
    decide_eq_true_iff] at isSeparator
  have refused : (name.toList.contains ':' || name.toList.contains '/'
      || name.toList.contains '\\') = true := by
    rw [Bool.or_eq_true, Bool.or_eq_true, List.contains_iff_mem, List.contains_iff_mem,
      List.contains_iff_mem]
    rcases isSeparator with rfl | rfl
    · exact .inl (.inr member)
    · exact .inr member
  unfold safeFileName at isSafe
  simp only [refused, if_true] at isSafe
  repeat' split at isSafe
  all_goals cases isSafe

theorem isSep_isSeparator (dialect : Dialect) {c : Char} (isSep : dialect.isSep c = true) :
    RemotePath.isSeparator c = true := by
  cases dialect with
  | unix =>
      rw [RemotePath.isSeparator, of_decide_eq_true isSep]
      rfl
  | windows => exact isSep

theorem rdropWhile_of_afterLast {p : Char → Bool} {path : List Char}
    (ends : afterLast p path ≠ []) : path.rdropWhile p = path := by
  rw [List.rdropWhile_eq_self_iff]
  intro some_ isLast
  refine ends (List.rtakeWhile_eq_nil_iff.mpr fun _ => ?_)
  rw [isLast]
  exact Bool.false_ne_true

theorem afterLast_ne_nil {path : List Char} (ends : afterLast RemotePath.isSeparator path ≠ []) :
    afterLast dialect.isSep path ≠ [] := by
  intro empty
  refine ends (List.rtakeWhile_eq_nil_iff.mpr fun some_ => ?_)
  have isLast := List.rtakeWhile_eq_nil_iff.mp empty some_
  rw [Bool.not_eq_true, Bool.not_eq_false'] at isLast
  rw [isSep_isSeparator dialect isLast]
  exact Bool.false_ne_true

/-- Where no separator is left in the name, all platforms agree on it. -/
theorem afterLast_eq {path : List Char}
    (plain : ∀ c ∈ afterLast dialect.isSep path, RemotePath.isSeparator c = false) :
    afterLast RemotePath.isSeparator path = afterLast dialect.isSep path := by
  refine congrArg List.reverse (takeWhile_eq_of_all (fun c => ?_) fun c member => ?_)
  · rw [Bool.not_eq_true', Bool.not_eq_true']
    intro isNone
    by_contra isSep
    rw [Bool.not_eq_false] at isSep
    rw [isSep_isSeparator dialect isSep] at isNone
    cases isNone
  · rw [plain c (List.mem_reverse.mpr member)]
    rfl

/-- What a host offers for a path has the name that the guest expects. -/
theorem offeredName_eq {path expected offered : String}
    (isExpected : expectedName path = some expected)
    (isOffered : offeredName dialect path = some offered) : offered = expected := by
  unfold expectedName at isExpected
  simp only at isExpected
  split at isExpected
  next safe =>
    cases isExpected
    have ends : afterLast RemotePath.isSeparator path.toList ≠ [] := by
      intro empty
      rw [empty] at safe
      cases safe
    unfold offeredName at isOffered
    rw [rdropWhile_of_afterLast (afterLast_ne_nil ends)] at isOffered
    rw [safeFileName_eq isOffered, afterLast_eq fun c member =>
      safeFileName_separator isOffered (by rwa [String.toList_ofList])]
  next => cases isExpected

end names

/-! ## The order -/

section order

/-- A guest that expects this name takes what the answer offers. -/
def Fits (name : String) : MessageKind → Prop
  | .fileFetchRefused _ => True
  | .fileOffer offered size _ =>
      offered = name ∧ safeFileName offered = some offered ∧ ¬ size > fileOfferMaxBytes
  | .dirOffer offered none entries =>
      offered = name ∧ safeFileName offered = some offered
        ∧ ¬ entries.length > maxDirManifestEntries
        ∧ ∀ entry ∈ entries, (RemotePath.relativeComponents entry.path.toList).isSome
  | _ => False

/-- The requests up to `r` have got their answers, those up to `k` have been answered, and the host
has heard of those up to `m`. -/
structure InOrder (dialect : Dialect) (state : Fetches) (r k m : Nat) : Prop where
  fetches : state.fetchesOut.map (·.number) = List.Ico r state.asked
  answers : state.answers.map (·.number) = List.Ico r k
  working : ((state.preparing ++ state.walking).map (·.number)).Perm (List.Ico k m)
  requests : state.requests.map (·.number) = List.Ico m state.asked
  done : state.answered = List.Ico 0 k
  heard : r ≤ k
  begun : k ≤ m
  made : m ≤ state.asked
  names : ∀ fetch ∈ state.fetchesOut, ∀ ask ∈ state.preparing ++ state.walking ++ state.requests,
    ask.number = fetch.number → expectedName ask.path = some fetch.name
  fits : ∀ fetch ∈ state.fetchesOut, ∀ answer ∈ state.answers,
    answer.number = fetch.number → Fits fetch.name answer.kind
  named : ∀ ask ∈ state.walking, (offeredName dialect ask.path).isSome

variable {r k m : Nat}

theorem InOrder.one (order : InOrder dialect state r k m) :
    ∀ number < state.asked, state.stages.count number = 1 := by
  have all : state.stages.Perm (List.Ico 0 state.asked) := by
    unfold stages
    rw [order.done, List.map_append, order.requests,
      ← List.Ico.append_consecutive (Nat.zero_le k) (order.begun.trans order.made),
      ← List.Ico.append_consecutive order.begun order.made]
    exact (order.working.append_right _).append_left _
  intro number below
  rw [all.count_eq]
  exact List.count_eq_one_of_mem (List.Ico.nodup 0 state.asked)
    (List.Ico.mem.mpr ⟨Nat.zero_le _, below⟩)

theorem InOrder.waits (order : InOrder dialect state r k m) :
    ∀ fetch ∈ state.fetchesOut, state.ToCome fetch.number := by
  intro fetch member
  have inside : fetch.number ∈ List.Ico r state.asked :=
    order.fetches ▸ List.mem_map_of_mem member
  obtain ⟨above, below⟩ := List.Ico.mem.mp inside
  unfold ToCome
  rw [List.map_append, List.mem_append, order.requests, order.answers, order.working.mem_iff,
    List.Ico.mem, List.Ico.mem, List.Ico.mem]
  omega

/-- What is being worked on was asked for after what is answered, and before what is on its way. -/
theorem InOrder.working_bounds (order : InOrder dialect state r k m) {ask : Ask}
    (member : ask ∈ state.preparing ++ state.walking) : k ≤ ask.number ∧ ask.number < m :=
  List.Ico.mem.mp (order.working.mem_iff.mp (List.mem_map_of_mem member))

/-- What nothing older is being worked on beside is the next to be answered. -/
theorem InOrder.oldest (order : InOrder dialect state r k m) {ask : Ask}
    (member : ask ∈ state.preparing ++ state.walking) (oldest : state.Oldest ask.number) :
    ask.number = k := by
  have bounds := order.working_bounds member
  have first : k ∈ (state.preparing ++ state.walking).map (·.number) :=
    order.working.mem_iff.mpr (List.Ico.mem.mpr ⟨le_rfl, by omega⟩)
  obtain ⟨other, isOther, isFirst⟩ := List.mem_map.mp first
  have under := oldest other isOther
  omega

/-- The next answer goes out. -/
theorem InOrder.reply (order : InOrder dialect state r k m) {state' : Fetches} {kind : MessageKind}
    {m' : Nat} (fetchesOut : state'.fetchesOut = state.fetchesOut)
    (asked : state'.asked = state.asked)
    (answers : state'.answers = state.answers ++ [{ number := k, kind }])
    (done : state'.answered = state.answered ++ [k])
    (working : ((state'.preparing ++ state'.walking).map (·.number)).Perm (List.Ico (k + 1) m'))
    (requests : state'.requests.map (·.number) = List.Ico m' state.asked)
    (begun : k + 1 ≤ m') (made : m' ≤ state.asked)
    (asks : ∀ ask ∈ state'.preparing ++ state'.walking ++ state'.requests,
      ask ∈ state.preparing ++ state.walking ++ state.requests)
    (walking : ∀ ask ∈ state'.walking, ask ∈ state.walking)
    (fits : ∀ fetch ∈ state.fetchesOut, fetch.number = k → Fits fetch.name kind) :
    InOrder dialect state' r (k + 1) m' := by
  refine ⟨?_, ?_, working, ?_, ?_, Nat.le_succ_of_le order.heard, begun, asked ▸ made, ?_, ?_,
    fun ask member => order.named ask (walking ask member)⟩
  · rw [fetchesOut, asked]
    exact order.fetches
  · rw [answers, List.map_append, order.answers, List.Ico.succ_top order.heard]
    rfl
  · rw [asked]
    exact requests
  · rw [done, order.done, List.Ico.succ_top (Nat.zero_le k)]
  · intro fetch isFetch ask isAsk
    rw [fetchesOut] at isFetch
    exact order.names fetch isFetch ask (asks ask isAsk)
  · intro fetch isFetch answer isAnswer same
    rw [fetchesOut] at isFetch
    rw [answers] at isAnswer
    rcases List.mem_append.mp isAnswer with before | new
    · exact order.fits fetch isFetch answer before same
    · rw [List.mem_singleton.mp new] at same ⊢
      exact fits fetch isFetch same.symm

/-- A download that is asked for. -/
theorem InOrder.remoteDownload (order : InOrder dialect state r k m) (path : String) (into : Path)
    (isDir : Bool) : InOrder dialect (state.onRemoteDownload path into isDir) r k m := by
  unfold onRemoteDownload
  split
  · exact order
  split
  · exact order
  cases isExpected : expectedName path with
  | none => exact order
  | some name =>
      dsimp only
      split
      · exact order
      split
      · exact order
      have asked := order.begun.trans order.made
      refine ⟨?_, order.answers, order.working, ?_, order.done, order.heard, order.begun,
        Nat.le_succ_of_le order.made, ?_, ?_, order.named⟩
      · rw [List.map_append, order.fetches, List.Ico.succ_top (order.heard.trans asked)]
        rfl
      · rw [List.map_append, order.requests, List.Ico.succ_top order.made]
        rfl
      · intro fetch isFetch ask isAsk same
        have fetched : fetch ∈ state.fetchesOut ∧ fetch.number < state.asked
            ∨ fetch = { number := state.asked, name, into } := by
          rcases List.mem_append.mp isFetch with before | new
          · have inside : fetch.number ∈ List.Ico r state.asked :=
              order.fetches ▸ List.mem_map_of_mem before
            exact .inl ⟨before, (List.Ico.mem.mp inside).2⟩
          · exact .inr (List.mem_singleton.mp new)
        have asking : ask ∈ state.preparing ++ state.walking ++ state.requests
              ∧ ask.number < state.asked ∨ ask = { number := state.asked, path } := by
          rw [← List.append_assoc] at isAsk
          rcases List.mem_append.mp isAsk with before | new
          · refine .inl ⟨before, ?_⟩
            rcases List.mem_append.mp before with working | waiting
            · exact (order.working_bounds working).2.trans_le order.made
            · have inside : ask.number ∈ List.Ico m state.asked :=
                order.requests ▸ List.mem_map_of_mem waiting
              exact (List.Ico.mem.mp inside).2
          · exact .inr (List.mem_singleton.mp new)
        rcases fetched with ⟨before, below⟩ | rfl
        · rcases asking with ⟨old, -⟩ | rfl
          · exact order.names fetch before ask old same
          · exact absurd same below.ne'
        · rcases asking with ⟨-, below⟩ | rfl
          · exact absurd same below.ne
          · exact isExpected
      · intro fetch isFetch answer isAnswer same
        rcases List.mem_append.mp isFetch with before | new
        · exact order.fits fetch before answer isAnswer same
        · have inside : answer.number ∈ List.Ico r k :=
            order.answers ▸ List.mem_map_of_mem isAnswer
          have bound := (List.Ico.mem.mp inside).2
          rw [List.mem_singleton.mp new] at same
          simp only at same
          omega

/-- The next request on its way is the next that the host hears of. -/
theorem InOrder.first_request (order : InOrder dialect state r k m) {ask : Ask}
    {requests : List Ask} (isRequests : state.requests = ask :: requests) :
    m < state.asked ∧ ask.number = m
      ∧ requests.map (·.number) = List.Ico (m + 1) state.asked := by
  have numbers := order.requests
  rw [isRequests] at numbers
  have waiting : m < state.asked := by
    by_contra past
    rw [List.Ico.eq_nil_of_le (Nat.le_of_not_lt past)] at numbers
    cases numbers
  rw [List.Ico.eq_cons waiting] at numbers
  exact ⟨waiting, List.cons.inj numbers⟩

/-- The host begins to work on the next request. -/
theorem InOrder.start (order : InOrder dialect state r k m) {state' : Fetches} {ask : Ask}
    {requests : List Ask} (isRequests : state.requests = ask :: requests)
    (fetchesOut : state'.fetchesOut = state.fetchesOut) (asked : state'.asked = state.asked)
    (answers : state'.answers = state.answers) (done : state'.answered = state.answered)
    (working : (state'.preparing ++ state'.walking).Perm
      (state.preparing ++ state.walking ++ [ask]))
    (rest : state'.requests = requests)
    (named : ∀ ask ∈ state'.walking, (offeredName dialect ask.path).isSome) :
    InOrder dialect state' r k (m + 1) := by
  obtain ⟨waiting, isFirst, others⟩ := order.first_request isRequests
  refine ⟨?_, ?_, ?_, ?_, ?_, order.heard, Nat.le_succ_of_le order.begun, asked ▸ waiting, ?_, ?_,
    named⟩
  · rw [fetchesOut, asked]
    exact order.fetches
  · rw [answers]
    exact order.answers
  · refine (working.map _).trans ?_
    rw [List.map_append, List.map_singleton, isFirst, List.Ico.succ_top order.begun]
    exact order.working.append_right _
  · rw [rest, asked]
    exact others
  · rw [done]
    exact order.done
  · intro fetch isFetch other isOther
    rw [fetchesOut] at isFetch
    rw [rest] at isOther
    refine order.names fetch isFetch other ?_
    rw [isRequests]
    rcases List.mem_append.mp isOther with begun | waits
    · rcases List.mem_append.mp (working.mem_iff.mp begun) with before | new
      · exact List.mem_append_left _ before
      · rw [List.mem_singleton.mp new]
        exact List.mem_append_right _ List.mem_cons_self
    · exact List.mem_append_right _ (List.mem_cons_of_mem ask waits)
  · rw [fetchesOut, answers]
    exact order.fits

theorem verdict_walk {path : String} {disk : Except Unit (Bool × Bool)}
    (walks : state.verdict dialect path disk = .walk) : (offeredName dialect path).isSome := by
  unfold verdict at walks
  repeat' split at walks
  all_goals cases walks
  next named =>
    exact Option.isSome_iff_ne_none.mpr (mt Option.isNone_iff_eq_none.mpr named)

/-- A request that gets to the host. -/
theorem InOrder.request (order : InOrder dialect state r k m) {ask : Ask} {requests : List Ask}
    (isRequests : state.requests = ask :: requests) {disk : Except Unit (Bool × Bool)}
    (inTurn : state.InTurn dialect (.request disk)) :
    ∃ k' m',
      InOrder dialect ({ state with requests }.onFileFetchRequest dialect ask disk) r k' m' := by
  have inTurn := inTurn ask (by rw [isRequests]; rfl)
  unfold onFileFetchRequest
  have same : ({ state with requests } : Fetches).verdict dialect ask.path disk =
      state.verdict dialect ask.path disk := rfl
  rw [same]
  cases isVerdict : state.verdict dialect ask.path disk with
  | silent =>
      rw [isVerdict] at inTurn
      exact inTurn.elim
  | refuse reason =>
      rw [isVerdict] at inTurn
      have idle : state.preparing ++ state.walking = [] := inTurn
      have none := order.working
      rw [idle] at none
      have isM : k = m := by
        have empty := List.nil_perm.mp none
        have begun := order.begun
        rw [List.Ico.eq_empty_iff] at empty
        omega
      obtain ⟨waiting, isNext, others⟩ := order.first_request isRequests
      have isFirst : ask.number = k := isNext.trans isM.symm
      refine ⟨k + 1, m + 1, order.reply rfl rfl ?_ ?_ ?_ others (by omega) waiting
        (fun other member => ?_) (fun _ member => member)
        fun fetch _ _ => show Fits fetch.name (.fileFetchRefused reason) from trivial⟩
      · rw [← isFirst]
        rfl
      · rw [← isFirst]
        rfl
      · show ((state.preparing ++ state.walking).map _).Perm _
        rw [idle, isM, List.Ico.self_empty]
        exact List.Perm.refl []
      · rw [isRequests]
        rcases List.mem_append.mp member with working | later
        · exact List.mem_append_left _ working
        · exact List.mem_append_right _ (List.mem_cons_of_mem ask later)
  | walk =>
      refine ⟨k, m + 1, order.start isRequests rfl rfl rfl rfl ?_ rfl fun other member => ?_⟩
      · rw [List.append_assoc]
      · rcases List.mem_append.mp member with before | new
        · exact order.named other before
        · rw [List.mem_singleton.mp new]
          exact verdict_walk isVerdict
  | prepare =>
      refine ⟨k, m + 1, order.start isRequests rfl rfl rfl rfl ?_ rfl order.named⟩
      rw [List.append_assoc, List.append_assoc]
      exact List.perm_append_comm.append_left _

/-- What was being worked on, but for the oldest. -/
theorem InOrder.erased (order : InOrder dialect state r k m) {ask : Ask} {rest : List Ask}
    (isRest : (state.preparing ++ state.walking).Perm (ask :: rest)) (isNext : ask.number = k) :
    (rest.map (·.number)).Perm (List.Ico (k + 1) m) ∧ k + 1 ≤ m := by
  have member : ask ∈ state.preparing ++ state.walking := isRest.mem_iff.mpr List.mem_cons_self
  have bounds := order.working_bounds member
  have below : k < m := by omega
  have numbers := (isRest.map (·.number)).symm.trans order.working
  rw [List.map_cons, isNext, List.Ico.eq_cons below] at numbers
  exact ⟨(List.perm_cons k).mp numbers, below⟩

theorem perm_cons_eraseIdx {asks : List Ask} {position : Nat} {ask : Ask}
    (isAsk : asks[position]? = some ask) : asks.Perm (ask :: asks.eraseIdx position) := by
  obtain ⟨inside, rfl⟩ := List.getElem?_eq_some_iff.mp isAsk
  exact (List.getElem_cons_eraseIdx_perm inside).symm

theorem prepareOffer_eq {path : String} {file : Option (UInt64 × Hash)} {name : String}
    {size : UInt64} {hash : Hash}
    (isOffer : prepareOffer dialect path file = some (name, size, hash)) :
    offeredName dialect path = some name ∧ ¬ size > fileOfferMaxBytes := by
  simp only [prepareOffer, Option.bind_eq_bind, Option.bind_eq_some_iff, Option.guard_eq_some',
    Option.pure_def, Option.some.injEq, Prod.mk.injEq] at isOffer
  obtain ⟨⟨size, hash⟩, -, -, below, name, isName, rfl, rfl, rfl⟩ := isOffer
  exact ⟨isName, UInt64.not_lt.mpr below⟩

theorem safeFileName_safeFileName {name safe : String} (isSafe : safeFileName name = some safe) :
    safeFileName safe = some safe := by
  cases safeFileName_eq isSafe
  exact isSafe

theorem offeredName_safe {path name : String} (isName : offeredName dialect path = some name) :
    safeFileName name = some name :=
  safeFileName_safeFileName isName

/-- A hashed file is offered or refused. -/
theorem InOrder.prepared (order : InOrder dialect state r k m) {position : Nat} {ask : Ask}
    (isAsk : state.preparing[position]? = some ask) (oldest : state.Oldest ask.number)
    (file : Option (UInt64 × Hash)) :
    InOrder dialect ({ state with preparing := state.preparing.eraseIdx position }.onFetchPrepared
      ask.number (prepareOffer dialect ask.path file)) r (k + 1) m := by
  have member : ask ∈ state.preparing ++ state.walking :=
    List.mem_append_left _ (List.mem_of_getElem? isAsk)
  have isNext := order.oldest member oldest
  obtain ⟨working, begun⟩ := order.erased
    ((perm_cons_eraseIdx isAsk).append_right state.walking) isNext
  have fewer : ∀ other ∈ state.preparing.eraseIdx position ++ state.walking ++ state.requests,
      other ∈ state.preparing ++ state.walking ++ state.requests := by
    intro other isOther
    simp only [List.mem_append] at isOther ⊢
    exact isOther.imp_left (Or.imp_left List.mem_of_mem_eraseIdx)
  rw [isNext]
  have refused (reason : FileFetchRefusal) : InOrder dialect
      (refuseFetch { state with
        preparing := state.preparing.eraseIdx position, fetchPreparing := state.fetchPreparing - 1 }
        k reason) r (k + 1) m :=
    order.reply rfl rfl rfl rfl working order.requests begun order.made fewer
      (fun _ member => member)
      fun fetch _ _ => show Fits fetch.name (.fileFetchRefused reason) from trivial
  unfold onFetchPrepared
  dsimp only
  split
  · exact refused .notGranted
  cases isPrepared : prepareOffer dialect ask.path file with
  | none => exact refused .unreadable
  | some offer =>
      obtain ⟨name, size, hash⟩ := offer
      dsimp only
      split
      · exact refused .unreadable
      obtain ⟨isName, below⟩ := prepareOffer_eq isPrepared
      refine order.reply rfl rfl rfl rfl working order.requests begun order.made fewer
        (fun _ member => member) fun fetch isFetch isNumber => ?_
      have expected := order.names fetch isFetch ask (List.mem_append_left _ member)
        (isNext.trans isNumber.symm)
      exact ⟨offeredName_eq expected isName, offeredName_safe isName, below⟩

theorem walkDirectory_eq {found entries : List ManifestEntry}
    (isWalked : walkDirectory found = some entries) : ¬ entries.length > maxDirManifestEntries
      ∧ ∀ entry ∈ entries, (RemotePath.relativeComponents entry.path.toList).isSome := by
  unfold walkDirectory at isWalked
  dsimp only at isWalked
  split at isWalked
  · cases isWalked
  next few =>
    cases isWalked
    exact ⟨few, fun entry member => (List.mem_filter.mp member).2⟩

/-- A directory that was walked is offered. -/
theorem InOrder.walked (order : InOrder dialect state r k m) {position : Nat} {ask : Ask}
    (isAsk : state.walking[position]? = some ask) (oldest : state.Oldest ask.number)
    {found : Option (List ManifestEntry)} (offerable : state.Offerable found) :
    InOrder dialect ({ state with walking := state.walking.eraseIdx position }.onDirWalked
      ask.number ((offeredName dialect ask.path).getD "") (found.bind walkDirectory)) r (k + 1)
      m := by
  have isWalking := List.mem_of_getElem? isAsk
  have member : ask ∈ state.preparing ++ state.walking := List.mem_append_right _ isWalking
  have isNext := order.oldest member oldest
  obtain ⟨working, begun⟩ := order.erased
    (((perm_cons_eraseIdx isAsk).append_left state.preparing).trans List.perm_middle) isNext
  obtain ⟨name, isName⟩ := Option.isSome_iff_exists.mp (order.named ask isWalking)
  obtain ⟨mayTransfer, mayOffer, entries, isEntries, small⟩ := offerable
  have isEntries : found.bind walkDirectory = some entries := isEntries
  obtain ⟨files, -, isWalked⟩ := Option.bind_eq_some_iff.mp isEntries
  have under : (entries.any fun entry => entry.size > state.permits.offerCeiling) = false := by
    rw [List.any_eq_false]
    intro entry isEntry
    rw [decide_eq_true_iff]
    exact small entry isEntry
  have isReply : ({ state with walking := state.walking.eraseIdx position } : Fetches).onDirWalked
      ask.number ((offeredName dialect ask.path).getD "") (found.bind walkDirectory) =
        ({ state with walking := state.walking.eraseIdx position } : Fetches).reply k
          (.dirOffer name none entries) := by
    unfold onDirWalked
    simp only [mayTransfer, mayOffer, isEntries, isName, isNext, under, Option.getD_some,
      Bool.not_true, Bool.or_self, Bool.false_eq_true, if_false]
  rw [isReply]
  refine order.reply rfl rfl rfl rfl working order.requests begun order.made
    (fun other isOther => ?_) (fun other isOther => List.mem_of_mem_eraseIdx isOther)
    fun fetch isFetch isNumber => ?_
  · simp only [List.mem_append] at isOther ⊢
    exact isOther.imp_left (Or.imp_right List.mem_of_mem_eraseIdx)
  · have expected := order.names fetch isFetch ask (List.mem_append_left _ member)
      (isNext.trans isNumber.symm)
    obtain ⟨few, safe⟩ := walkDirectory_eq isWalked
    exact ⟨offeredName_eq expected isName, offeredName_safe isName, few, safe⟩

/-- The front of the queue is the request of the next answer, and both go. -/
theorem InOrder.received (order : InOrder dialect state r k m) {state' : Fetches} {answer : Answer}
    {answers : List Answer} {fetch : Fetch} {fetches : List Fetch}
    (isAnswers : state.answers = answer :: answers)
    (isFetches : state.fetchesOut = fetch :: fetches)
    (fetchesOut : state'.fetchesOut = fetches) (rest : state'.answers = answers)
    (asked : state'.asked = state.asked) (done : state'.answered = state.answered)
    (preparing : state'.preparing = state.preparing) (walking : state'.walking = state.walking)
    (requests : state'.requests = state.requests) :
    InOrder dialect state' (r + 1) k m := by
  have numbers := order.answers
  have numbered := order.fetches
  have asked_ := order.begun.trans order.made
  have below : r < k := by
    by_contra past
    rw [isAnswers, List.Ico.eq_nil_of_le (Nat.le_of_not_lt past)] at numbers
    cases numbers
  rw [isAnswers, List.Ico.eq_cons below] at numbers
  rw [isFetches, List.Ico.eq_cons (below.trans_le asked_)] at numbered
  refine ⟨?_, ?_, ?_, ?_, ?_, below, order.begun, asked ▸ order.made, ?_, ?_, ?_⟩
  · rw [fetchesOut, asked]
    exact (List.cons.inj numbered).2
  · rw [rest]
    exact (List.cons.inj numbers).2
  · rw [preparing, walking]
    exact order.working
  · rw [requests, asked]
    exact order.requests
  · rw [done]
    exact order.done
  · intro other isOther ask isAsk
    rw [fetchesOut] at isOther
    rw [preparing, walking, requests] at isAsk
    exact order.names other (isFetches ▸ List.mem_cons_of_mem fetch isOther) ask isAsk
  · intro other isOther message isMessage
    rw [fetchesOut] at isOther
    rw [rest] at isMessage
    exact order.fits other (isFetches ▸ List.mem_cons_of_mem fetch isOther) message
      (isAnswers ▸ List.mem_cons_of_mem answer isMessage)
  · intro ask isAsk
    rw [walking] at isAsk
    exact order.named ask isAsk

/-- The next answer is to the request at the front of the queue. -/
theorem InOrder.front (order : InOrder dialect state r k m) {answer : Answer}
    {answers : List Answer} (isAnswers : state.answers = answer :: answers) :
    ∃ fetch fetches, state.fetchesOut = fetch :: fetches ∧ fetch.number = answer.number
      ∧ Fits fetch.name answer.kind := by
  have numbers := order.answers
  have below : r < k := by
    by_contra past
    rw [isAnswers, List.Ico.eq_nil_of_le (Nat.le_of_not_lt past)] at numbers
    cases numbers
  rw [isAnswers, List.Ico.eq_cons below] at numbers
  have numbered := order.fetches
  rw [List.Ico.eq_cons (below.trans_le (order.begun.trans order.made))] at numbered
  cases isFetches : state.fetchesOut with
  | nil =>
      rw [isFetches] at numbered
      cases numbered
  | cons fetch fetches =>
      rw [isFetches] at numbered
      have same : fetch.number = answer.number :=
        (List.cons.inj numbered).1.trans (List.cons.inj numbers).1.symm
      exact ⟨fetch, fetches, rfl, same, order.fits fetch (isFetches ▸ List.mem_cons_self) answer
        (isAnswers ▸ List.mem_cons_self) same.symm⟩

/-- What an answer does that fits. -/
theorem onAnswer_fits {answer : Answer} {fetch : Fetch} {fetches : List Fetch}
    (isFetches : state.fetchesOut = fetch :: fetches) (fits : Fits fetch.name answer.kind)
    (inTurn : answer.IsRefusal ∨ state.mayTransferFiles = true) :
    (answer.IsRefusal ∧ state.onAnswer answer = { state with fetchesOut := fetches })
      ∨ state.onAnswer answer = { state with
          fetchesOut := fetches
          taken := state.taken ++ [{ number := answer.number, fetch }] } := by
  obtain ⟨number, kind⟩ := answer
  unfold onAnswer
  cases kind with
  | fileFetchRefused reason =>
      refine .inl ⟨⟨reason, rfl⟩, ?_⟩
      simp only [onFileFetchRefused, isFetches, List.tail_cons]
  | fileOffer name size hash =>
      obtain ⟨rfl, safe, small⟩ := fits
      have may : state.mayTransferFiles = true := inTurn.resolve_left fun ⟨_, isRefusal⟩ => by
        cases isRefusal
      refine .inr ?_
      simp only [onFileOfferInbound, takeFetched, may, safe, small, isFetches, Bool.not_true,
        Bool.false_eq_true, if_false, if_true]
  | dirOffer name rootId entries =>
      cases rootId with
      | some _ => exact fits.elim
      | none =>
          obtain ⟨rfl, safe, few, paths⟩ := fits
          have may : state.mayTransferFiles = true := inTurn.resolve_left fun ⟨_, isRefusal⟩ => by
            cases isRefusal
          have inside : (entries.any fun entry =>
              (RemotePath.relativeComponents entry.path.toList).isNone) = false := by
            rw [List.any_eq_false]
            intro entry isEntry
            rw [Option.isNone_iff_eq_none, ← Ne, ← Option.isSome_iff_ne_none]
            exact paths entry isEntry
          refine .inr ?_
          simp only [onDirOfferInbound, takeFetched, may, safe, few, inside, isFetches,
            Bool.not_true, Bool.false_eq_true, decide_false, Bool.or_self, if_false, if_true]
  | _ => exact fits.elim

end order

/-! ## Runs -/

section runs

/-- A step in turn keeps the order. -/
theorem InOrder.step (order : InOrder dialect state r k m) {op : Happening}
    (inTurn : state.InTurn dialect op) :
    ∃ r' k' m', InOrder dialect (state.step dialect op).2 r' k' m' := by
  cases op with
  | remoteDownload path into isDir => exact ⟨r, k, m, order.remoteDownload path into isDir⟩
  | request disk =>
      unfold Fetches.step
      cases isRequests : state.requests with
      | nil => exact ⟨r, k, m, order⟩
      | cons ask requests =>
          obtain ⟨k', m', order'⟩ := order.request isRequests inTurn
          exact ⟨r, k', m', order'⟩
  | prepared position file =>
      simp only [Fetches.step]
      cases isAsk : state.preparing[position]? with
      | none => exact ⟨r, k, m, order⟩
      | some ask => exact ⟨r, k + 1, m, order.prepared isAsk (inTurn ask isAsk) file⟩
  | walked position found =>
      simp only [Fetches.step]
      cases isAsk : state.walking[position]? with
      | none => exact ⟨r, k, m, order⟩
      | some ask =>
          obtain ⟨oldest, offerable⟩ := inTurn ask isAsk
          exact ⟨r, k + 1, m, order.walked isAsk oldest offerable⟩
  | answer =>
      simp only [Fetches.step]
      cases isAnswers : state.answers with
      | nil => exact ⟨r, k, m, order⟩
      | cons answer answers =>
          obtain ⟨fetch, fetches, isFetches, -, fits⟩ := order.front isAnswers
          have may := inTurn answer (by rw [isAnswers]; rfl)
          have queued : ({ state with answers } : Fetches).fetchesOut = fetch :: fetches := isFetches
          refine ⟨r + 1, k, m, ?_⟩
          rcases onAnswer_fits queued fits may with
            ⟨-, isAfter⟩ | isAfter
          all_goals
            dsimp only
            rw [isAfter]
            exact order.received isAnswers isFetches rfl rfl rfl rfl rfl rfl rfl
  | permits permits => exact ⟨r, k, m, { order with }⟩
  | guestGrants fileManageToHost mayTransferFiles => exact ⟨r, k, m, { order with }⟩
  | ownOffer => exact ⟨r, k, m, { order with }⟩
  | offerAnswered => exact ⟨r, k, m, { order with }⟩
  | decided directory =>
      simp only [Fetches.step]
      split
      · exact ⟨r, k, m, { order with }⟩
      · exact ⟨r, k, m, { order with }⟩

/-- What an answer does in order. -/
theorem InOrder.own (order : InOrder dialect state r k m)
    (inTurn : state.InTurn dialect .answer) {answer : Answer}
    (isFirst : state.answers.head? = some answer) :
    ∃ fetch, state.fetchesOut = fetch :: (state.step dialect .answer).2.fetchesOut
      ∧ fetch.number = answer.number ∧ (answer.IsRefusal
        ∨ (state.step dialect .answer).2.taken =
          state.taken ++ [{ number := answer.number, fetch }]) := by
  obtain ⟨answers, isAnswers⟩ := List.head?_eq_some_iff.mp isFirst
  obtain ⟨fetch, fetches, isFetches, same, fits⟩ := order.front isAnswers
  have may := inTurn answer isFirst
  have queued : ({ state with answers } : Fetches).fetchesOut = fetch :: fetches := isFetches
  refine ⟨fetch, ?_⟩
  simp only [Fetches.step, isAnswers]
  rcases onAnswer_fits queued fits may with
    ⟨isRefusal, isAfter⟩ | isAfter
  · rw [isAfter]
    exact ⟨isFetches, same, .inl isRefusal⟩
  · rw [isAfter]
    exact ⟨isFetches, same, .inr rfl⟩

theorem inOrder_start : InOrder dialect {} 0 0 0 :=
  ⟨rfl, rfl, .refl [], rfl, rfl, le_rfl, le_rfl, le_rfl, nofun, nofun, nofun⟩

theorem run_inOrder (dialect : Dialect) (happenings : List Happening)
    (inTurn : ∀ e ∈ history (step dialect) {} happenings, e.pre.InTurn dialect e.op) :
    ∃ r k m, InOrder dialect (exec (step dialect) {} happenings) r k m :=
  let Ordered (state : Fetches) : Prop := ∃ r k m, InOrder dialect state r k m
  have keep : ∀ state op, Ordered state → state.InTurn dialect op →
      Ordered (step dialect state op).2 := by
    rintro state op ⟨r, k, m, order⟩ ok
    exact order.step ok
  exec_induction keep ⟨0, 0, 0, inOrder_start⟩ inTurn

end runs

/-- In a run in which the host answers in turn and the guest may take what it is offered, every
answer finds its own request. -/
theorem answers_find_their_requests (dialect : Dialect) (happenings : List Happening)
    (inTurn : ∀ e ∈ history (step dialect) {} happenings, e.pre.InTurn dialect e.op) :
    ∀ e ∈ history (step dialect) {} happenings, AnsweredByOwn e := by
  intro e member
  obtain ⟨before, after, rfl, isEvent⟩ := exists_prefix_of_mem_history member
  have ok := inTurn e member
  rw [isEvent] at ok ⊢
  obtain ⟨r, k, m, order⟩ := run_inOrder dialect before fun event earlier =>
    inTurn event (by rw [history_append]; exact List.mem_append_left _ earlier)
  obtain ⟨r', k', m', order'⟩ := order.step ok
  refine ⟨order'.one, fun answer isAnswer isFirst => ?_, order'.waits⟩
  have isAnswer : e.op = .answer := isAnswer
  have isFirst : (exec (step dialect) {} before).answers.head? = some answer := isFirst
  rw [isAnswer] at ok ⊢
  exact order.own ok isFirst

/-- A file and a directory of the same name. -/
def bothArrive : List Happening :=
  [.remoteDownload "/a/x" "/here" true, .remoteDownload "/b/x" "/there" true,
    .request (.ok (false, false)), .request (.ok (false, true)),
    .prepared 0 (some (1, ⟨List.replicate 32 0, rfl⟩)), .walked 0 (some [⟨"y", 1, false⟩]),
    .answer, .answer]

theorem both_find_their_requests :
    (exec (step .unix) {} bothArrive).taken =
        [⟨0, ⟨0, "x", "/here"⟩⟩, ⟨1, ⟨1, "x", "/there"⟩⟩] ∧
      ∀ e ∈ history (step .unix) {} bothArrive, AnsweredByOwn e :=
  ⟨by decide, answers_find_their_requests .unix bothArrive (by decide)⟩

/-- A directory that cannot be walked is never answered for. -/
theorem failed_walk_is_not_answered :
    ¬ ∀ (dialect : Dialect) (happenings : List Happening),
      ∀ e ∈ history (step dialect) {} happenings, AnsweredByOwn e := by
  intro always
  have answered := always .unix
    [.remoteDownload "/a/x" "/here" true, .request (.ok (false, true)), .walked 0 none]
  have last := answered _ (List.mem_of_getElem? (i := 2) rfl)
  exact absurd (last.one 0 (by decide)) (by decide)

end Lumepeer.Runtime.Fetches
