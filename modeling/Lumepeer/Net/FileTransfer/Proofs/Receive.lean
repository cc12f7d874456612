import Lumepeer.Lib.Run
import Lumepeer.Net.FileTransfer

/-!
# What a tracker knows of the bytes it received

The operations of a `ReceiveTracker` as the steps of a machine, and for each of
them what it can do: the refusals that change nothing, and the change of the two
maps when it goes through. A caller that hashes every chunk the tracker accepted
keeps the book in step with the bytes: `Consistent` relates the two maps to the
chunks accepted so far, every operation keeps the relation, and so the answer to
`finish` is about the file that arrived.
-/

namespace Lumepeer.Net
open Lumepeer.Lib Lumepeer.Core

/-- One operation on a tracker. -/
inductive TrackerOp where
  | begin (total : UInt64)
  | beginWith (id : TransferId) (total : UInt64)
  | applyChunk (id : TransferId) (offset len : UInt64)
  | hashChunk (id : TransferId) (bytes : Slice)
  | finish (id : TransferId) (expected : Bytes 32)
  | cancel (id : TransferId)

/-- The answer to an operation. -/
inductive TrackerAnswer where
  | began (result : Except NetError TransferId)
  | registered (result : Except NetError Unit)
  | applied (result : Except NetError Unit)
  | finished (ok : Bool)
  | done
  deriving DecidableEq

namespace ReceiveTracker

variable {blake3 : Blake3} {tracker : ReceiveTracker blake3} {id : TransferId}

/-- Runs one operation. -/
def step (tracker : ReceiveTracker blake3) : TrackerOp → TrackerAnswer × ReceiveTracker blake3
  | .begin total => (.began (tracker.begin total).1, (tracker.begin total).2)
  | .beginWith id total =>
      (.registered (tracker.beginWith id total).1, (tracker.beginWith id total).2)
  | .applyChunk id offset len =>
      (.applied (tracker.applyChunk id offset len).1, (tracker.applyChunk id offset len).2)
  | .hashChunk id bytes => (.done, tracker.hashChunk id bytes)
  | .finish id expected =>
      (.finished (tracker.finish id expected).1, (tracker.finish id expected).2)
  | .cancel id => (.done, tracker.cancel id)

/-- A transfer is registered under a free id while there is room. -/
theorem beginWith_cases (tracker : ReceiveTracker blake3) (id : TransferId) (total : UInt64) :
    (∃ e, tracker.beginWith id total = (.error e, tracker)) ∨
    (tracker.active < maxConcurrentFileTransfers ∧ tracker.states.lookup id = none ∧
      tracker.beginWith id total =
        (.ok (),
          { tracker with
            states := tracker.states.insert id { received := 0, total, ended := none }
            hashes := tracker.hashes.insert id blake3.new })) := by
  unfold beginWith
  split
  · exact .inl ⟨_, rfl⟩
  · rename_i room
    split
    · exact .inl ⟨_, rfl⟩
    · rename_i free
      exact .inr ⟨Nat.not_le.mp room, Option.not_isSome_iff_eq_none.mp free, rfl⟩

/-- `begin` registers the next id of its own count. -/
theorem begin_cases (tracker : ReceiveTracker blake3) (total : UInt64) :
    (∃ e, tracker.begin total = (.error e, tracker)) ∨
    (tracker.active < maxConcurrentFileTransfers ∧ tracker.states.lookup tracker.nextId = none ∧
      tracker.begin total =
        (.ok tracker.nextId,
          { states := tracker.states.insert tracker.nextId { received := 0, total, ended := none }
            hashes := tracker.hashes.insert tracker.nextId blake3.new
            nextId := tracker.nextId + 1 })) := by
  rcases beginWith_cases tracker tracker.nextId total with ⟨e, refused⟩ | ⟨room, free, begun⟩
  · exact .inl ⟨e, by simp only [begin, refused]⟩
  · exact .inr ⟨room, free, by simp only [begin, begun]⟩

/-- A chunk goes through when it continues a live transfer and stays within its size. -/
theorem applyChunk_cases (tracker : ReceiveTracker blake3) (id : TransferId) (offset len : UInt64) :
    (∃ e, tracker.applyChunk id offset len = (.error e, tracker)) ∨
    ∃ state received, tracker.states.lookup id = some state ∧ state.ended = none ∧
      received.toNat = state.received.toNat + len.toNat ∧ received.toNat ≤ state.total.toNat ∧
      tracker.applyChunk id offset len =
        (.ok (), { tracker with states := tracker.states.insert id { state with received } }) := by
  unfold applyChunk
  cases found : tracker.states.lookup id with
  | none => exact .inl ⟨_, rfl⟩
  | some state =>
      simp only
      split
      · exact .inl ⟨_, rfl⟩
      · rename_i live
        split
        · exact .inl ⟨_, rfl⟩
        · split
          · exact .inl ⟨_, rfl⟩
          · rename_i received sum
            split
            · exact .inl ⟨_, rfl⟩
            · rename_i within
              refine .inr ⟨state, received, rfl, Option.not_isSome_iff_eq_none.mp live,
                toNat_of_checkedAdd64 sum, ?_, rfl⟩
              exact UInt64.le_iff_toNat_le.mp (UInt64.not_lt.mp within)

theorem lookup_end_ (how : TransferEnd) (other : TransferId) :
    (tracker.end_ id how).states.lookup other =
      if other = id then (tracker.states.lookup id).map fun state => { state with ended := some how }
      else tracker.states.lookup other :=
  HashMap.lookup_modify_eq ..

theorem lookup_hashes_end_ (how : TransferEnd) (other : TransferId) :
    (tracker.end_ id how).hashes.lookup other =
      if other = id then none else tracker.hashes.lookup other :=
  HashMap.lookup_erase_eq ..

/-- A transfer without a hasher is not finished; one with a hasher ends. -/
theorem finish_cases (tracker : ReceiveTracker blake3) (id : TransferId) (expected : Bytes 32) :
    (tracker.hashes.lookup id = none ∧ tracker.finish id expected = (false, tracker)) ∨
    ∃ hasher how, tracker.hashes.lookup id = some hasher ∧
      (tracker.finish id expected).2 = tracker.end_ id how ∧
      ((tracker.finish id expected).1 = true ↔ how = .completed) ∧
      ((tracker.finish id expected).1 = true ↔ blake3.finalize hasher = expected ∧
        ∃ state, tracker.states.lookup id = some state ∧ state.received = state.total) := by
  unfold finish
  cases found : tracker.hashes.lookup id with
  | none => exact .inl ⟨rfl, rfl⟩
  | some hasher =>
      refine .inr ⟨hasher, _, rfl, rfl, ?_, ?_⟩
      · split <;> simp_all
      · simp [Option.any_eq_true]

end ReceiveTracker

/-! ## Chunks that are hashed -/

/-- What the receiving loop does: it registers, takes chunks, finishes and cancels transfers. -/
inductive ReceiveOp where
  | begin (total : UInt64)
  | beginWith (id : TransferId) (total : UInt64)
  | chunk (id : TransferId) (offset : UInt64) (bytes : Slice)
  | finish (id : TransferId) (expected : Bytes 32)
  | cancel (id : TransferId)

/-- The answer is an error. -/
def TrackerAnswer.isError : TrackerAnswer → Bool
  | .began (.error _) | .registered (.error _) | .applied (.error _) => true
  | _ => false

/-- What the code relies on of `blake3`: hashing piece by piece is hashing the whole. -/
structure Blake3.Lawful (blake3 : Blake3) : Prop where
  finalize_updates : ∀ pieces : List (List UInt8),
    blake3.finalize (pieces.foldl blake3.update blake3.new) = blake3.hash pieces.flatten

namespace ReceiveTracker

variable {blake3 : Blake3}

/-- Runs one operation of the receiving loop; the bytes of an accepted chunk are hashed. -/
def receive (tracker : ReceiveTracker blake3) : ReceiveOp → TrackerAnswer × ReceiveTracker blake3
  | .begin total => tracker.step (.begin total)
  | .beginWith id total => tracker.step (.beginWith id total)
  | .chunk id offset bytes =>
      match tracker.step (.applyChunk id offset bytes.len) with
      | (.applied (.ok ()), tracker) => (.applied (.ok ()), tracker.hashChunk id bytes)
      | refused => refused
  | .finish id expected => tracker.step (.finish id expected)
  | .cancel id => tracker.step (.cancel id)

/-- The chunk of transfer `id` an event accepted. -/
def acceptedIn (id : TransferId) (event : Event (ReceiveTracker blake3) ReceiveOp TrackerAnswer) :
    List (List UInt8) :=
  match event.op, event.out with
  | .chunk into _ bytes, .applied (.ok ()) => if into = id then [bytes.1] else []
  | _, _ => []

/-- The chunks of transfer `id` the events accepted, in order. -/
def accepted (id : TransferId)
    (events : List (Event (ReceiveTracker blake3) ReceiveOp TrackerAnswer)) : List (List UInt8) :=
  events.flatMap (acceptedIn id)

/-- The book says of every transfer what its accepted chunks are. -/
structure Consistent (tracker : ReceiveTracker blake3) (chunks : TransferId → List (List UInt8)) :
    Prop where
  few : tracker.active ≤ maxConcurrentFileTransfers
  unknown : ∀ id, tracker.states.lookup id = none → chunks id = []
  hashed : ∀ id, tracker.hashes.lookup id =
    ((tracker.states.lookup id).filter fun state => state.ended.isNone).map fun _ =>
      (chunks id).foldl blake3.update blake3.new
  counted : ∀ id state, tracker.states.lookup id = some state →
    state.received.toNat = (chunks id).flatten.length
  within : ∀ id state, tracker.states.lookup id = some state →
    state.received.toNat ≤ state.total.toNat

variable {tracker : ReceiveTracker blake3} {chunks : TransferId → List (List UInt8)}

theorem consistent_default : Consistent (default : ReceiveTracker blake3) fun _ => [] where
  few := Nat.zero_le _
  unknown _ _ := rfl
  hashed _ := rfl
  counted := by
    intro id state found
    cases found
  within := by
    intro id state found
    cases found

/-- Fewer live transfers, or as many. -/
theorem active_le {next : ReceiveTracker blake3}
    (live : ∀ id state', next.states.lookup id = some state' → state'.ended = none →
      ∃ state, tracker.states.lookup id = some state ∧ state.ended = none) :
    next.active ≤ tracker.active := by
  apply HashMap.countWhere_le_of_lookup
  intro id state' found isLive
  obtain ⟨state, foundBefore, wasLive⟩ := live id state' found (Option.isNone_iff_eq_none.mp isLive)
  exact ⟨state, foundBefore, Option.isNone_iff_eq_none.mpr wasLive⟩

theorem Consistent.register (book : Consistent tracker chunks) {id : TransferId}
    (room : tracker.active < maxConcurrentFileTransfers)
    (free : tracker.states.lookup id = none) (total : UInt64) (nextId : TransferId) :
    Consistent
      { states := tracker.states.insert id { received := 0, total, ended := none }
        hashes := tracker.hashes.insert id blake3.new, nextId : ReceiveTracker blake3 } chunks where
  few := by
    have others := HashMap.countWhere_eq_others (fun _ state => state.ended.isNone) tracker.states id
    rw [free] at others
    simp only [active, HashMap.countWhere_insert] at room others ⊢
    simp at others ⊢
    omega
  unknown := by
    intro other absent
    simp only [HashMap.lookup_insert_eq] at absent
    split at absent
    · cases absent
    · exact book.unknown other absent
  hashed := by
    intro other
    simp only [HashMap.lookup_insert_eq]
    split
    · rename_i same
      rw [same, book.unknown id free]
      rfl
    · exact book.hashed other
  counted := by
    intro other state found
    simp only [HashMap.lookup_insert_eq] at found
    split at found
    · rename_i same
      cases found
      rw [same, book.unknown id free]
      rfl
    · exact book.counted other state found
  within := by
    intro other state found
    simp only [HashMap.lookup_insert_eq] at found
    split at found
    · cases found
      exact Nat.zero_le _
    · exact book.within other state found

theorem Consistent.chunk (book : Consistent tracker chunks) {id : TransferId} {state : TransferState}
    {received : UInt64} {bytes : Slice} (found : tracker.states.lookup id = some state)
    (live : state.ended = none)
    (sum : received.toNat = state.received.toNat + bytes.len.toNat)
    (fits : received.toNat ≤ state.total.toNat) :
    Consistent
      (hashChunk { tracker with states := tracker.states.insert id { state with received } } id bytes)
      fun other => chunks other ++ if id = other then [bytes.1] else [] where
  few := by
    refine (active_le ?_).trans book.few
    intro other state' found' live'
    simp only [hashChunk, HashMap.lookup_insert_eq] at found'
    split at found'
    · rename_i same
      exact ⟨state, same ▸ found, live⟩
    · exact ⟨state', found', live'⟩
  unknown := by
    intro other absent
    simp only [hashChunk, HashMap.lookup_insert_eq] at absent
    split at absent
    · cases absent
    · rename_i different
      rw [if_neg (Ne.symm different), book.unknown other absent]
      rfl
  hashed := by
    intro other
    simp only [hashChunk, HashMap.lookup_modify_eq, HashMap.lookup_insert_eq]
    split
    · rename_i same
      rw [book.hashed id, found, same, if_pos rfl, List.foldl_append]
      simp [Option.filter_some, live]
    · rename_i different
      rw [book.hashed other, if_neg (Ne.symm different), List.append_nil]
  counted := by
    intro other state' found'
    simp only [hashChunk, HashMap.lookup_insert_eq] at found'
    split at found'
    · rename_i same
      cases found'
      have length : bytes.len.toNat = bytes.1.length := UInt64.toNat_ofNat_of_lt' bytes.2
      rw [if_pos same.symm, List.flatten_append, List.length_append, same,
        ← book.counted id state found, sum, length]
      simp
    · rename_i different
      rw [if_neg (Ne.symm different), List.append_nil]
      exact book.counted other state' found'
  within := by
    intro other state' found'
    simp only [hashChunk, HashMap.lookup_insert_eq] at found'
    split at found'
    · cases found'
      exact fits
    · exact book.within other state' found'

theorem Consistent.end_ (book : Consistent tracker chunks) (id : TransferId) (how : TransferEnd) :
    Consistent (tracker.end_ id how) chunks where
  few := by
    refine (active_le ?_).trans book.few
    intro other state' found' live'
    rw [lookup_end_] at found'
    split at found'
    · obtain ⟨state, -, rfl⟩ := Option.map_eq_some_iff.mp found'
      cases live'
    · exact ⟨state', found', live'⟩
  unknown := by
    intro other absent
    rw [lookup_end_] at absent
    split at absent
    · rename_i same
      exact same ▸ book.unknown id (Option.map_eq_none_iff.mp absent)
    · exact book.unknown other absent
  hashed := by
    intro other
    rw [lookup_hashes_end_, lookup_end_]
    split
    · cases tracker.states.lookup id <;> rfl
    · exact book.hashed other
  counted := by
    intro other state' found'
    rw [lookup_end_] at found'
    split at found'
    · rename_i same
      obtain ⟨state, found, rfl⟩ := Option.map_eq_some_iff.mp found'
      exact same ▸ book.counted id state found
    · exact book.counted other state' found'
  within := by
    intro other state' found'
    rw [lookup_end_] at found'
    split at found'
    · obtain ⟨state, found, rfl⟩ := Option.map_eq_some_iff.mp found'
      exact book.within id state found
    · exact book.within other state' found'

/-- A refused operation changes nothing. -/
theorem receive_of_isError {op : ReceiveOp} (isError : (tracker.receive op).1.isError) :
    (tracker.receive op).2 = tracker := by
  cases op with
  | begin total =>
      rcases begin_cases tracker total with ⟨e, refused⟩ | ⟨-, -, begun⟩
      · simp only [receive, step, refused]
      · simp only [receive, step, begun] at isError
        cases isError
  | beginWith id total =>
      rcases beginWith_cases tracker id total with ⟨e, refused⟩ | ⟨-, -, begun⟩
      · simp only [receive, step, refused]
      · simp only [receive, step, begun] at isError
        cases isError
  | chunk id offset bytes =>
      rcases applyChunk_cases tracker id offset bytes.len with
        ⟨e, refused⟩ | ⟨state, received, -, -, -, -, applied⟩
      · simp only [receive, step, refused]
      · simp only [receive, step, applied] at isError
        cases isError
  | finish id expected => cases isError
  | cancel id => cases isError

/-- Every operation of the loop keeps the book, with the chunk it accepted. -/
theorem Consistent.receive (book : Consistent tracker chunks) (op : ReceiveOp) :
    Consistent (tracker.receive op).2 fun id =>
      chunks id ++ acceptedIn id (Event.of ReceiveTracker.receive tracker op) := by
  cases op with
  | begin total =>
      simp only [ReceiveTracker.receive, step, acceptedIn, Event.of_op, List.append_nil]
      rcases begin_cases tracker total with ⟨e, refused⟩ | ⟨room, free, begun⟩
      · rw [refused]
        exact book
      · rw [begun]
        exact book.register room free total _
  | beginWith id total =>
      simp only [ReceiveTracker.receive, step, acceptedIn, Event.of_op, List.append_nil]
      rcases beginWith_cases tracker id total with ⟨e, refused⟩ | ⟨room, free, begun⟩
      · rw [refused]
        exact book
      · rw [begun]
        exact book.register room free total _
  | chunk id offset bytes =>
      rcases applyChunk_cases tracker id offset bytes.len with
        ⟨e, refused⟩ | ⟨state, received, found, live, sum, fits, applied⟩
      · simp only [ReceiveTracker.receive, step, refused, acceptedIn, Event.of_op, Event.of_out,
          List.append_nil]
        exact book
      · simp only [ReceiveTracker.receive, step, applied, acceptedIn, Event.of_op, Event.of_out]
        exact book.chunk found live sum fits
  | finish id expected =>
      simp only [ReceiveTracker.receive, step, acceptedIn, Event.of_op, List.append_nil]
      rcases finish_cases tracker id expected with ⟨-, unfinished⟩ | ⟨hasher, how, -, ended, -⟩
      · rw [unfinished]
        exact book
      · rw [ended]
        exact book.end_ id how
  | cancel id =>
      simp only [ReceiveTracker.receive, step, acceptedIn, Event.of_op, List.append_nil]
      exact book.end_ id .cancelled

/-- The book is kept over every run of the loop. -/
theorem consistent_run (ops : List ReceiveOp) :
    Consistent (exec receive (default : ReceiveTracker blake3) ops) fun id =>
      accepted id (history receive (default : ReceiveTracker blake3) ops) := by
  induction ops using List.reverseRecOn with
  | nil => exact consistent_default
  | append_singleton ops op ih =>
      have kept := ih.receive op
      rw [exec_concat]
      simp only [accepted, history_concat, List.flatMap_append, List.flatMap_cons, List.flatMap_nil,
        List.append_nil] at kept ⊢
      exact kept

theorem Consistent.finish_iff (lawful : blake3.Lawful) (book : Consistent tracker chunks)
    (id : TransferId) (expected : Bytes 32) :
    (tracker.finish id expected).1 = true ↔
      ∃ state, tracker.states.lookup id = some state ∧ state.ended = none ∧
        (chunks id).flatten.length = state.total.toNat ∧
        blake3.hash (chunks id).flatten = expected := by
  have hashed := book.hashed id
  rcases finish_cases tracker id expected with
    ⟨noHasher, unfinished⟩ | ⟨hasher, how, hasHasher, -, -, isTrue⟩
  · rw [unfinished]
    simp only [Bool.false_eq_true, false_iff, not_exists]
    rintro state ⟨found, live, -⟩
    rw [found, noHasher] at hashed
    simp [live] at hashed
  · rw [isTrue]
    rw [hasHasher] at hashed
    obtain ⟨state, foundLive, isHasher⟩ := Option.map_eq_some_iff.mp hashed.symm
    obtain ⟨found, live⟩ := Option.filter_eq_some_iff.mp foundLive
    rw [← isHasher, lawful.finalize_updates]
    constructor
    · rintro ⟨sameHash, state', found', whole⟩
      cases found.symm.trans found'
      refine ⟨state, found, Option.isNone_iff_eq_none.mp live, ?_, sameHash⟩
      rw [← book.counted id state found, whole]
    · rintro ⟨state', found', -, whole, sameHash⟩
      cases found.symm.trans found'
      refine ⟨sameHash, state, found, ?_⟩
      rw [← book.counted id state found] at whole
      exact UInt64.toNat_inj.mp whole

/-- Over every run of the receiving loop: no transfer has more bytes than announced, few are live,
the count of bytes is that of the accepted chunks, an error changes nothing, and `finish` answers
whether the file that arrived is the announced one. -/
theorem tracker_keeps_the_book (lawful : blake3.Lawful) (ops : List ReceiveOp) :
    let events := history receive (default : ReceiveTracker blake3) ops
    let tracker := exec receive (default : ReceiveTracker blake3) ops
    (∀ id state, tracker.state id = some state →
      state.received ≤ state.total ∧
      state.received.toNat = ((accepted id events).map List.length).sum) ∧
    tracker.active ≤ maxConcurrentFileTransfers ∧
    (∀ event ∈ events, event.out.isError → event.post = event.pre) ∧
    (∀ id expected, (tracker.finish id expected).1 = true ↔
      ∃ state, tracker.state id = some state ∧ state.ended = none ∧
        (accepted id events).flatten.length = state.total.toNat ∧
        blake3.hash (accepted id events).flatten = expected) := by
  intro events tracker
  have book : Consistent tracker fun id => accepted id events := consistent_run ops
  refine ⟨?_, book.few, ?_, ?_⟩
  · intro id state found
    refine ⟨UInt64.le_iff_toNat_le.mpr (book.within id state found), ?_⟩
    rw [book.counted id state found, List.length_flatten]
  · intro event member isError
    rw [eq_of_mem_history member] at isError ⊢
    exact receive_of_isError isError
  · intro id expected
    exact book.finish_iff lawful id expected

end ReceiveTracker

/-- The BLAKE3 digest of no bytes. -/
def emptyDigest : Bytes 32 :=
  ⟨[0xaf, 0x13, 0x49, 0xb9, 0xf5, 0xf9, 0xa1, 0xa6, 0xa0, 0x40, 0x4d, 0xea, 0x36, 0xdc, 0xc9, 0x49,
    0x9b, 0xcb, 0x25, 0xc9, 0xad, 0xc1, 0x12, 0xb7, 0xcc, 0x9a, 0x93, 0xca, 0xe4, 0x1f, 0x32, 0x62],
    rfl⟩

/-- The BLAKE3 digest of these three bytes. -/
def abcDigest : Bytes 32 :=
  ⟨[0x64, 0x37, 0xb3, 0xac, 0x38, 0x46, 0x51, 0x33, 0xff, 0xb6, 0x3b, 0x75, 0x27, 0x3a, 0x8d, 0xb5,
    0x48, 0xc5, 0x58, 0x46, 0x5d, 0x79, 0xdb, 0x03, 0xfd, 0x35, 0x9c, 0x6c, 0xd5, 0xbd, 0x9d, 0x85],
    rfl⟩

/-- The BLAKE3 digest of these two bytes. -/
def oneTwoDigest : Bytes 32 :=
  ⟨[0xb7, 0xd7, 0x70, 0x04, 0x0f, 0x78, 0x0e, 0x9d, 0xef, 0xf6, 0xbc, 0x03, 0x8a, 0xbe, 0xa6, 0x6e,
    0x10, 0x8b, 0x88, 0xd0, 0x98, 0xd1, 0x6d, 0x24, 0xcd, 0x74, 0x86, 0xeb, 0x67, 0x10, 0x60, 0xb2],
    rfl⟩

/-- A digest that is that of BLAKE3 where it is known here. -/
def sampleDigest (bytes : List UInt8) : Bytes 32 :=
  if bytes = [] then emptyDigest
  else if bytes = [97, 98, 99] then abcDigest
  else if bytes = [1, 2] then oneTwoDigest
  else .replicate 32 0

/-- A hasher that keeps the bytes. -/
def sampleBlake3 : Blake3 where
  Hasher := List UInt8
  new := []
  update hasher bytes := hasher ++ bytes
  finalize := sampleDigest
  hash := sampleDigest

theorem sampleBlake3_lawful : sampleBlake3.Lawful where
  finalize_updates pieces := by
    have kept : pieces.foldl (fun hasher bytes => hasher ++ bytes) [] = pieces.flatten := by
      rw [List.foldl_append_eq_append, List.map_id', List.nil_append]
    exact congrArg sampleBlake3.hash kept

theorem ReceiveTracker.three_bytes_finish :
    let ops : List ReceiveOp := [.begin 3, .chunk 0 0 ⟨[97, 98], by decide⟩,
      .chunk 0 1 ⟨[98], by decide⟩, .chunk 0 2 ⟨[99], by decide⟩]
    let tracker := exec receive (default : ReceiveTracker sampleBlake3) ops
    (tracker.finish 0 abcDigest).1 = true := by
  intro ops tracker
  obtain ⟨-, -, -, finishes⟩ := tracker_keeps_the_book sampleBlake3_lawful ops
  exact (finishes 0 abcDigest).mpr ⟨⟨3, 3, none⟩, rfl, rfl, rfl, rfl⟩

end Lumepeer.Net
