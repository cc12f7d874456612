import Lumepeer.Lib.Placing
import Lumepeer.Net.Obfuscate.Proofs.Datagram
import Lumepeer.Net.Obfuscate.Socket

/-!
# What a poll delivers

The datagrams of a batch that open go into the caller's buffers in the order of
their arrival; what does not open takes no place. A batch is delivered whole
exactly if each of its datagrams fits the buffer of its own number: the scratch
buffers end with the poll, so what finds no buffer is gone, and nothing is left
for a later poll.
-/

namespace Lumepeer.Net.ObfuscatedSocket
open Lumepeer.Lib Lumepeer.Core

variable {aead : XChaCha20Poly1305}

/-- What of a socket no poll changes. -/
structure Fixed where
  obfuscator : Obfuscator
  routed : Bool
  deriving DecidableEq

/-- The fixed part of a socket. -/
def fixed (socket : ObfuscatedSocket) : Fixed := ⟨socket.obfuscator, socket.hostRoute.isSome⟩

/-- The plaintext of a datagram that opens, with the meta it is to be delivered with. -/
def opened (aead : XChaCha20Poly1305) (f : Fixed) (arrival : RecvMeta × List UInt8) :
    Option (List UInt8 × RecvMeta) :=
  match f.obfuscator.open aead arrival.2 with
  | some (.ok plain) => some (plain, deliveredMeta f.routed arrival.1 plain)
  | _ => none

/-- The sizes of the caller's buffers. -/
def sizes (slots : Slots) : List Nat := slots.bufs.map List.length

/-- A datagram fits the buffer of this number. -/
def fits (slots : Slots) (i : Nat) (item : List UInt8 × RecvMeta) : Bool :=
  (sizes slots)[i]?.any fun size => item.1.length ≤ size

/-- A datagram fits one of the caller's buffers. -/
def fitsSome (slots : Slots) (item : List UInt8 × RecvMeta) : Bool :=
  (sizes slots).any fun size => item.1.length ≤ size

/-- What is to be delivered of a batch: the datagrams that open and fit a buffer of the caller, in
the order of their arrival. -/
def deliverable (aead : XChaCha20Poly1305) (f : Fixed) (slots : Slots) (batch : Batch) :
    List (List UInt8 × RecvMeta) :=
  (batch.arrivals.filterMap (opened aead f)).filter (fitsSome slots)

/-- There is room for a batch: each deliverable datagram fits the buffer of its own number. -/
def Room (aead : XChaCha20Poly1305) (f : Fixed) (slots : Slots) (batch : Batch) : Prop :=
  ∀ i item, (deliverable aead f slots batch)[i]? = some item →
    i < slots.metas.length ∧ fits slots i item = true

/-- What the caller reads after a poll. -/
def delivered (polled : Polled) : List (List UInt8 × RecvMeta) :=
  match polled.outcome with
  | .ready out => polled.slots.read out
  | .pending | .failed _ => []

/-- The batches among some answers. -/
def batches (answers : List Answer) : List Batch :=
  answers.filterMap fun answer =>
    match answer with
    | .ready batch => some batch
    | .pending | .failed _ => none

theorem fitsSome_of_fits {slots : Slots} (i : Nat) (item : List UInt8 × RecvMeta)
    (here : fits slots i item = true) : fitsSome slots item = true := by
  unfold fits at here
  cases isSize : (sizes slots)[i]? with
  | none =>
      rw [isSize] at here
      cases here
  | some size =>
      rw [isSize] at here
      exact List.any_eq_true.mpr ⟨size, List.mem_of_getElem? isSize, here⟩

theorem zip_set {α β : Type} (xs : List α) (ys : List β) (i : Nat) (x : α) (y : β) :
    (xs.set i x).zip (ys.set i y) = (xs.zip ys).set i (x, y) := by
  induction xs generalizing ys i with
  | nil => rfl
  | cons first xs ih =>
      cases ys with
      | nil => cases i <;> rfl
      | cons second ys =>
          cases i with
          | zero => rfl
          | succ i =>
              rw [List.set_cons_succ, List.set_cons_succ, List.zip_cons_cons, List.zip_cons_cons,
                List.set_cons_succ, ih]

/-- A write leaves a buffer its size. -/
theorem sizes_set {slots : Slots} {metas : List RecvMeta} {out : Nat} {buf plain : List UInt8}
    (isBuf : slots.bufs[out]? = some buf) (small : plain.length ≤ buf.length) :
    sizes ⟨slots.bufs.set out (plain ++ buf.drop plain.length), metas⟩ = sizes slots := by
  obtain ⟨inBufs, isItem⟩ := List.getElem?_eq_some_iff.mp isBuf
  have inSizes : out < (slots.bufs.map List.length).length := by rwa [List.length_map]
  have length : (plain ++ buf.drop plain.length).length = (slots.bufs.map List.length)[out] := by
    rw [List.length_append, List.length_drop, List.getElem_map, isItem]
    omega
  unfold sizes
  rw [List.map_set, length, List.set_getElem_self]

/-- A written place is read behind the places before it. -/
theorem read_set {slots : Slots} {out : Nat} {buf plain : List UInt8} {recvMeta : RecvMeta}
    (isBuf : slots.bufs[out]? = some buf) (inMetas : out < slots.metas.length)
    (length : recvMeta.len = plain.length) :
    (Slots.mk (slots.bufs.set out (plain ++ buf.drop plain.length))
      (slots.metas.set out recvMeta)).read (out + 1) = slots.read out ++ [(plain, recvMeta)] := by
  obtain ⟨inBufs, -⟩ := List.getElem?_eq_some_iff.mp isBuf
  have written : (slots.bufs.set out (plain ++ buf.drop plain.length)).zip
      (slots.metas.set out recvMeta) =
        (slots.bufs.zip slots.metas).set out (plain ++ buf.drop plain.length, recvMeta) :=
    zip_set slots.bufs slots.metas out _ _
  have inZip : out < (slots.bufs.zip slots.metas).length := by
    rw [List.length_zip]
    omega
  have upTo : ((slots.bufs.zip slots.metas).set out
      (plain ++ buf.drop plain.length, recvMeta)).take (out + 1) =
        (slots.bufs.zip slots.metas).take out ++ [(plain ++ buf.drop plain.length, recvMeta)] := by
    rw [List.take_add_one, List.take_set_of_le (Nat.le_refl out), List.getElem?_set_self inZip]
    rfl
  unfold Slots.read
  rw [written, upTo, List.map_append]
  simp [length]

/-- What the loop did between two of its states: `items` went into the next places. -/
structure Placed (s s' : Opening) (items : List (List UInt8 × RecvMeta)) : Prop where
  read : s'.slots.read s'.out = s.slots.read s.out ++ items
  out : s'.out = s.out + items.length
  sizes : sizes s'.slots = sizes s.slots
  metas : s'.slots.metas.length = s.slots.metas.length
  fixed : fixed s'.socket = fixed s.socket
  untouched : items = [] → s'.slots = s.slots

namespace Placed

/-- The tap and the route take no place. -/
theorem aside {s : Opening} {socket : ObfuscatedSocket}
    (same : ObfuscatedSocket.fixed socket = ObfuscatedSocket.fixed s.socket) :
    Placed s { s with socket } [] where
  read := (List.append_nil _).symm
  out := rfl
  sizes := rfl
  metas := rfl
  fixed := same
  untouched _ := rfl

theorem refl (s : Opening) : Placed s s [] := aside rfl

theorem trans {s s' s'' : Opening} {first second : List (List UInt8 × RecvMeta)}
    (before : Placed s s' first) (after : Placed s' s'' second) :
    Placed s s'' (first ++ second) where
  read := by rw [after.read, before.read, List.append_assoc]
  out := by rw [after.out, before.out, List.length_append, Nat.add_assoc]
  sizes := after.sizes.trans before.sizes
  metas := after.metas.trans before.metas
  fixed := after.fixed.trans before.fixed
  untouched := by
    intro nothing
    obtain ⟨noFirst, noSecond⟩ := List.append_eq_nil_iff.mp nothing
    rw [after.untouched noSecond, before.untouched noFirst]

/-- The places behind those taken are as they were. -/
theorem fits_eq {s s' : Opening} {items : List (List UInt8 × RecvMeta)}
    (placed : Placed s s' items) :
    ObfuscatedSocket.fits s'.slots = ObfuscatedSocket.fits s.slots := by
  funext i item
  unfold ObfuscatedSocket.fits
  rw [placed.sizes]

end Placed

/-- What one pass of the loop does with a datagram: it is noise; it opens and the metas are used up;
it opens and is too large for the next buffer; or it goes there. -/
theorem onDatagram_cases (aead : XChaCha20Poly1305) (clock : Nat → Instant) (s : Opening)
    (rawMeta : RecvMeta) (datagram : List UInt8) :
    (opened aead (fixed s.socket) (rawMeta, datagram) = none ∧
      ∃ s', onDatagram aead clock s rawMeta datagram = (s', false) ∧ Placed s s' []) ∨
    ∃ item, opened aead (fixed s.socket) (rawMeta, datagram) = some item ∧
      ((s.slots.metas.length ≤ s.out ∧ onDatagram aead clock s rawMeta datagram = (s, true)) ∨
       (s.out < s.slots.metas.length ∧ fits s.slots s.out item = false ∧
         onDatagram aead clock s rawMeta datagram = (s, false)) ∨
       (s.out < s.slots.metas.length ∧ fits s.slots s.out item = true ∧
         ∃ s', onDatagram aead clock s rawMeta datagram = (s', false) ∧ Placed s s' [item])) := by
  have same : (fixed s.socket).obfuscator = s.socket.obfuscator := rfl
  unfold opened onDatagram
  rw [same]
  rcases s.socket.obfuscator.open aead datagram with - | problem | plain
  · exact .inl ⟨rfl, _, rfl, Placed.aside rfl⟩
  · exact .inl ⟨rfl, _, rfl, Placed.aside rfl⟩
  · refine .inr ⟨_, rfl, ?_⟩
    simp only
    by_cases full : s.slots.metas.length ≤ s.out
    · exact .inl ⟨full, if_pos full⟩
    · have inMetas : s.out < s.slots.metas.length := Nat.not_le.mp full
      rw [if_neg full]
      right
      have isSize : (sizes s.slots)[s.out]? = s.slots.bufs[s.out]?.map List.length :=
        List.getElem?_map
      cases isBuf : s.slots.bufs[s.out]? with
      | none => exact .inl ⟨inMetas, by rw [fits, isSize, isBuf]; rfl, rfl⟩
      | some buf =>
          have isFits : fits s.slots s.out
              (plain, deliveredMeta (fixed s.socket).routed rawMeta plain) =
                decide (plain.length ≤ buf.length) := by
            rw [fits, isSize, isBuf]
            rfl
          rw [isFits]
          simp only
          by_cases small : buf.length < plain.length
          · exact .inl ⟨inMetas, decide_eq_false (by omega), if_pos small⟩
          · refine .inr ⟨inMetas, decide_eq_true (by omega), _, if_neg small, ?_⟩
            exact
              { read := read_set isBuf inMetas rfl
                out := rfl
                sizes := sizes_set isBuf (Nat.not_lt.mp small)
                metas := List.length_set
                fixed := by
                  simp only [fixed, Option.isSome_map]
                untouched := by
                  intro nothing
                  cases nothing }

/-- The loop hands the datagrams that open to the caller's buffers in order. -/
theorem openAll_placed (aead : XChaCha20Poly1305) (clock : Nat → Instant)
    (arrivals : List (RecvMeta × List UInt8)) (s : Opening) :
    Placed s (openAll aead clock arrivals s).1
      (place (fits s.slots) s.slots.metas.length s.out
        (arrivals.filterMap (opened aead (fixed s.socket)))) := by
  induction arrivals generalizing s with
  | nil => exact Placed.refl s
  | cons arrival arrivals ih =>
      obtain ⟨rawMeta, datagram⟩ := arrival
      rw [openAll]
      rcases onDatagram_cases aead clock s rawMeta datagram with
        ⟨isNoise, s', passed, aside⟩ | ⟨item, opens, case⟩
      · have rest := ih s'
        rw [aside.fits_eq, aside.metas, aside.fixed, aside.out] at rest
        rw [passed, List.filterMap_cons_none isNoise]
        exact aside.trans rest
      · rw [List.filterMap_cons_some opens, place]
        rcases case with ⟨full, stops⟩ | ⟨room, tooLarge, passed⟩ | ⟨room, here, s', passed, goes⟩
        · rw [stops, if_pos full]
          exact Placed.refl s
        · rw [passed, if_neg (Nat.not_le.mpr room), tooLarge]
          exact ih s
        · have rest := ih s'
          rw [goes.fits_eq, goes.metas, goes.fixed, goes.out] at rest
          rw [passed, if_neg (Nat.not_le.mpr room), if_pos here]
          exact goes.trans rest

/-- What of a batch finds a buffer. -/
def placed (aead : XChaCha20Poly1305) (f : Fixed) (slots : Slots) (batch : Batch) :
    List (List UInt8 × RecvMeta) :=
  place (fits slots) slots.metas.length 0 (batch.arrivals.filterMap (opened aead f))

theorem placed_sublist (f : Fixed) (slots : Slots) (batch : Batch) :
    (placed aead f slots batch).Sublist (deliverable aead f slots batch) :=
  place_sublist fitsSome_of_fits _ 0 _

theorem placed_eq_iff (f : Fixed) (slots : Slots) (batch : Batch) :
    placed aead f slots batch = deliverable aead f slots batch ↔ Room aead f slots batch := by
  have fitting : ∀ i item, fits slots i item = true → fitsSome slots item = true :=
    fitsSome_of_fits
  have wanted : placed aead f slots batch = deliverable aead f slots batch ↔ _ :=
    place_eq_iff fitting 0 (batch.arrivals.filterMap (opened aead f))
  simp only [Nat.zero_add] at wanted
  exact wanted

theorem batches_ready (batch : Batch) (answers : List Answer) :
    batches (.ready batch :: answers) = batch :: batches answers := rfl

/-- A poll takes answers off the inner socket and delivers what of their batches finds a buffer:
the batches before the last one of a poll had nothing for the caller. -/
theorem pollRecv_spec (aead : XChaCha20Poly1305) (clock : Nat → Instant) (inner : List Answer)
    (socket : ObfuscatedSocket) (slots : Slots) :
    ∃ taken, inner = taken ++ (pollRecv aead clock inner socket slots).inner ∧
      fixed (pollRecv aead clock inner socket slots).socket = fixed socket ∧
      delivered (pollRecv aead clock inner socket slots) =
        (batches taken).flatMap (placed aead (fixed socket) slots) := by
  induction inner generalizing socket with
  | nil => exact ⟨[], rfl, rfl, rfl⟩
  | cons answer inner ih =>
      cases answer with
      | pending => exact ⟨[.pending], rfl, rfl, rfl⟩
      | failed message => exact ⟨[.failed message], rfl, rfl, rfl⟩
      | ready batch =>
          have loop : Placed _ _ (placed aead (fixed socket) slots batch) :=
            openAll_placed aead clock batch.arrivals ⟨socket, slots, 0⟩
          rw [pollRecv]
          cases isLoop : openAll aead clock batch.arrivals ⟨socket, slots, 0⟩ with
          | mk s full =>
              rw [isLoop] at loop
              simp only at loop ⊢
              by_cases ends : (full || decide (s.out > 0)) = true
              · rw [if_pos ends]
                refine ⟨[.ready batch], rfl, loop.fixed, ?_⟩
                rw [batches_ready, List.flatMap_cons]
                exact loop.read.trans (List.append_nil _).symm
              · rw [if_neg ends]
                have noneOut : s.out = 0 := by
                  rw [Bool.or_eq_true, not_or, decide_eq_true_eq] at ends
                  omega
                have nothing : placed aead (fixed socket) slots batch = [] := by
                  have length := loop.out
                  rw [noneOut] at length
                  exact List.length_eq_zero_iff.mp (by omega)
                rw [loop.untouched nothing]
                obtain ⟨taken, isInner, kept, isDelivered⟩ := ih s.socket
                refine ⟨.ready batch :: taken, congrArg (Answer.ready batch :: ·) isInner,
                  kept.trans loop.fixed, ?_⟩
                rw [isDelivered, loop.fixed, batches_ready, List.flatMap_cons, nothing,
                  List.nil_append]

theorem fixed_meanwhile (socket : ObfuscatedSocket) (call : Call) :
    fixed (socket.meanwhile call) = fixed socket := by
  simp only [fixed, meanwhile, Option.isSome_map]

/-- The answers a poll took off the inner socket. -/
def taken (e : Event (ObfuscatedSocket × List Answer) Call Polled) : List Answer :=
  e.pre.2.take (e.pre.2.length - e.out.inner.length)

/-- What one step takes off the inner socket, and what it makes of it. -/
theorem step_spec (aead : XChaCha20Poly1305) (socket : ObfuscatedSocket) (inner : List Answer)
    (call : Call) :
    let e := Event.of (step aead) (socket, inner) call
    inner = taken e ++ e.post.2 ∧ fixed e.post.1 = fixed socket ∧
      delivered e.out =
        (batches (taken e)).flatMap (placed aead (fixed socket) call.slots) := by
  obtain ⟨front, isInner, kept, isDelivered⟩ :=
    pollRecv_spec aead call.clock inner (socket.meanwhile call) call.slots
  rw [fixed_meanwhile] at kept isDelivered
  have isTaken : taken (Event.of (step aead) (socket, inner) call) = front := by
    show inner.take (inner.length -
      (pollRecv aead call.clock inner (socket.meanwhile call) call.slots).inner.length) = front
    generalize (pollRecv aead call.clock inner (socket.meanwhile call) call.slots).inner = later
      at isInner
    rw [isInner, List.length_append, Nat.add_sub_cancel, List.take_left' rfl]
  intro e
  rw [isTaken]
  exact ⟨isInner, kept, isDelivered⟩

/-- What a poll had to deliver. -/
def due (aead : XChaCha20Poly1305) (f : Fixed)
    (e : Event (ObfuscatedSocket × List Answer) Call Polled) : List (List UInt8 × RecvMeta) :=
  (batches (taken e)).flatMap (deliverable aead f e.op.slots)

/-- Every poll of a run delivers what of its batches finds a buffer. -/
theorem run_spec (aead : XChaCha20Poly1305) (socket : ObfuscatedSocket) (inner : List Answer)
    (calls : List Call) :
    (history (step aead) (socket, inner) calls).flatMap taken ++
        (exec (step aead) (socket, inner) calls).2 = inner ∧
      ∀ e ∈ history (step aead) (socket, inner) calls, delivered e.out =
        (batches (taken e)).flatMap (placed aead (fixed socket) e.op.slots) := by
  induction calls generalizing socket inner with
  | nil => exact ⟨rfl, fun e member => nomatch member⟩
  | cons call calls ih =>
      obtain ⟨isInner, kept, isDelivered⟩ := step_spec aead socket inner call
      obtain ⟨rest, later⟩ := ih (step aead (socket, inner) call).2.1
        (step aead (socket, inner) call).2.2
      rw [show fixed (step aead (socket, inner) call).2.1 = fixed socket from kept] at later
      rw [history_cons, exec_cons, List.flatMap_cons, List.append_assoc]
      refine ⟨?_, List.forall_mem_cons.mpr ⟨isDelivered, later⟩⟩
      exact (congrArg (taken _ ++ ·) rest).trans isInner.symm

/-- The meta of what is delivered has the plaintext's own length and stride. -/
theorem length_of_mem_deliverable {f : Fixed} {slots : Slots} {batch : Batch}
    {item : List UInt8 × RecvMeta} (member : item ∈ deliverable aead f slots batch) :
    item.2.len = item.1.length ∧ item.2.stride = item.1.length := by
  obtain ⟨arrival, -, opens⟩ := List.mem_filterMap.mp (List.mem_of_mem_filter member)
  unfold opened at opens
  split at opens
  · cases opens
    exact ⟨rfl, rfl⟩
  · cases opens

/-- In every run the answers of the inner socket are used up in order, each once; what the caller
finds is a part of what was due, in its order and with its own lengths; and it is all of it exactly
if every batch had room in the buffers of the poll that took it. -/
theorem delivers_all_iff (aead : XChaCha20Poly1305) (socket : ObfuscatedSocket)
    (inner : List Answer) (calls : List Call) :
    let run := history (step aead) (socket, inner) calls
    run.flatMap taken ++ (exec (step aead) (socket, inner) calls).2 = inner ∧
    (run.flatMap fun e => delivered e.out).Sublist (run.flatMap (due aead (fixed socket))) ∧
    (∀ e ∈ run, ∀ item ∈ delivered e.out,
      item.2.len = item.1.length ∧ item.2.stride = item.1.length) ∧
    ((run.flatMap fun e => delivered e.out) = run.flatMap (due aead (fixed socket)) ↔
      ∀ e ∈ run, ∀ batch ∈ batches (taken e), Room aead (fixed socket) e.op.slots batch) := by
  intro run
  obtain ⟨used, isDelivered⟩ := run_spec aead socket inner calls
  have inside : ∀ e ∈ run, (delivered e.out).Sublist (due aead (fixed socket) e) := by
    intro e member
    rw [isDelivered e member]
    exact List.Sublist.flatMap_right _ fun batch _ => placed_sublist _ _ batch
  refine ⟨used, List.Sublist.flatMap_right _ inside, ?_, ?_⟩
  · intro e member item isItem
    obtain ⟨batch, -, inBatch⟩ := List.mem_flatMap.mp ((inside e member).subset isItem)
    exact length_of_mem_deliverable inBatch
  · rw [flatMap_eq_iff_of_sublist inside]
    refine forall₂_congr fun e member => ?_
    rw [isDelivered e member, due,
      flatMap_eq_iff_of_sublist fun batch _ => placed_sublist _ _ batch]
    exact forall₂_congr fun batch _ => placed_eq_iff _ _ batch

/-- A greeting and a second datagram of its size, coalesced in one receive. -/
def sampleBatch : Batch where
  wire :=
    [Obfuscator.sampleDraw.nonce.toList ++
      [249, 121, 55, 29, 219, 75, 217, 213, 243, 191, 84, 175, 53, 45, 213, 90, 90, 252, 102,
        253] ++ (Obfuscator.sampleDraw.nonce.toList ++ [2, 0, 121, 111] ++ List.replicate 16 0)]
  wireMeta := [{ addr := HostRoute.alias, len := 88, stride := 44, dstIp := none }]
  received := 1

/-- The socket of a guest, and a caller with one buffer. -/
def sampleSocket : ObfuscatedSocket where
  obfuscator :=
    Obfuscator.forGuest (fun _ _ => Obfuscator.sampleKey) (List.Vector.replicate 16 0x42)
  stunTap := none
  hostRoute := none

/-- One poll with one buffer of four bytes. -/
def sampleCall : Call where
  slots :=
    { bufs := [[0, 0, 0, 0]]
      metas := [{ addr := HostRoute.alias, len := 0, stride := 0, dstIp := none }] }
  clock _ := 0

/-- A receive that coalesces two datagrams loses the second one to a caller with one buffer, in
that poll and in the polls after it. -/
theorem not_delivers_all :
    ¬ ∀ (aead : XChaCha20Poly1305) (socket : ObfuscatedSocket) (inner : List Answer)
      (calls : List Call),
        let run := history (step aead) (socket, inner) calls
        (run.flatMap fun e => delivered e.out) = run.flatMap (due aead (fixed socket)) := by
  intro all
  have lengths := congrArg List.length (all Obfuscator.sampleAead sampleSocket [.ready sampleBatch]
    [sampleCall, sampleCall])
  revert lengths
  decide

end Lumepeer.Net.ObfuscatedSocket
