import Lumepeer.Lib.Run
import Lumepeer.Lib.Saturating
import Lumepeer.Lib.SlidingMin
import Lumepeer.Net.Media

/-!
# The view pipeline's two queues

The guest's queue of encoded frames between the media receiver and the view
window, and the host's bookkeeping of acknowledged frames, both of
`crates/runtime/src/view.rs`. Every method of the source works under one lock,
so that a run is a list of calls. A moment and a duration are nanoseconds, with
`saturating_duration_since` the subtraction of `Nat`; a `usize` is a `Nat` below
`2 ^ 64`.
-/

namespace Lumepeer.Runtime
open Lumepeer.Lib Lumepeer.Core Lumepeer.Net

/-! ## The bitstream feed -/

/-- `EncodedFrame` (`media/src/encode/mod.rs:64-71`). -/
structure EncodedFrame where
  keyframe : Bool
  timestampUs : UInt64
  data : List UInt8
  deriving DecidableEq

/-- `BITSTREAM_QUEUE_FRAMES` (`view.rs:661`). -/
def bitstreamQueueFrames : Nat := 64

/-- `BITSTREAM_QUEUE_BYTES` (`view.rs:665`). -/
def bitstreamQueueBytes : Nat := 8 * 1024 * 1024

/-- `BitstreamQueue` (`view.rs:744-752`). -/
structure BitstreamQueue where
  frames : List EncodedFrame
  bytes : Nat
  desync : Bool
  deriving DecidableEq

namespace BitstreamFeed

/-- The queue of a new feed. -/
def new : BitstreamQueue := { frames := [], bytes := 0, desync := false }

/-- `BitstreamFeed::push` (`view.rs:767-782`). -/
def push (queue : BitstreamQueue) (frame : EncodedFrame) : BitstreamQueue :=
  let bytes := min (queue.bytes + frame.data.length) (2 ^ 64 - 1)
  let frames := queue.frames ++ [frame]
  if frames.length > bitstreamQueueFrames || bytes > bitstreamQueueBytes then
    { frames := [], bytes := 0, desync := true }
  else { queue with frames := frames, bytes := bytes }

/-- `BitstreamFeed::desync` (`view.rs:786-794`). -/
def desync (_ : BitstreamQueue) : BitstreamQueue := { frames := [], bytes := 0, desync := true }

/-- `BitstreamFeed::drain` (`view.rs:820-828`). -/
def drain (queue : BitstreamQueue) : Option (List EncodedFrame × Bool) × BitstreamQueue :=
  if queue.frames.isEmpty && !queue.desync then (none, queue)
  else (some (queue.frames, queue.desync), { frames := [], bytes := 0, desync := false })

/-- A call on the feed. -/
inductive Op where
  | push (frame : EncodedFrame)
  | desync
  | drain

/-- A call answers with what a drain returns. -/
def step (queue : BitstreamQueue) : Op → Option (List EncodedFrame × Bool) × BitstreamQueue
  | .push frame => (none, push queue frame)
  | .desync => (none, desync queue)
  | .drain => drain queue

/-- How a wait of `take` for the next frame ends, and the calls made during it. -/
inductive Wait where
  | notified (others : List Op)
  | timedOut (others : List Op)

/-- `BitstreamFeed::take` (`view.rs:801-817`). No wait is left when the deadline is behind. -/
def take (queue : BitstreamQueue) (waits : List Wait) : (List EncodedFrame × Bool) × BitstreamQueue :=
  match drain queue with
  | (some batch, rest) => (batch, rest)
  | (none, rest) =>
      match waits with
      | [] => (([], false), rest)
      | .timedOut others :: _ =>
          let (batch, left) := drain (exec step rest others)
          (batch.getD ([], false), left)
      | .notified others :: waits => take (exec step rest others) waits

end BitstreamFeed

/-! ## Acknowledged frames -/

/-- `MEDIA_ACK_BEST_WINDOW_MS` (`core/src/constants.rs:926`), in nanoseconds. -/
def mediaAckBestWindow : Nat := 5000 * 1000000

/-- `AckState` (`view.rs:2436-2458`). -/
structure AckState where
  live : Bool
  sent : UInt64
  acked : UInt64
  inFlight : List (UInt64 × Nat)
  best : List (Nat × Nat)
  lastDelay : Option Nat
  jitter : Nat
  deriving DecidableEq

namespace AckState

/-- The state of a new `FrameAcks`. -/
def new : AckState :=
  { live := false, sent := 0, acked := 0, inFlight := [], best := [], lastDelay := none, jitter := 0 }

/-- `AckState::note_delay` (`view.rs:2461-2466`). -/
def noteDelay (state : AckState) (time delay : Nat) : AckState :=
  { state with best := SlidingMin.note state.best time delay }

/-- `AckState::best` (`view.rs:2468-2478`). -/
def bestDelay (state : AckState) (now : Nat) : Option Nat × AckState :=
  let left := SlidingMin.prune mediaAckBestWindow now state.best
  (left.head?.map Prod.snd, { state with best := left })

end AckState

namespace FrameAcks

/-- `FrameAcks::opened` (`view.rs:2489-2491`). -/
def opened (state : AckState) : AckState := { state with live := true }

/-- `FrameAcks::closed` (`view.rs:2495-2502`). -/
def closed (state : AckState) : AckState := { state with live := false, inFlight := [] }

/-- `FrameAcks::sent` (`view.rs:2505-2512`). -/
def sent (state : AckState) (time : Nat) : AckState :=
  let number := saturatingAdd64 state.sent 1
  if state.live then
    { state with sent := number, inFlight := state.inFlight ++ [(number, time)] }
  else { state with sent := number }

/-- The newest waiting frame that an acknowledgement covers, with when it was handed over. -/
def newest (state : AckState) (count : UInt64) : Option (UInt64 × Nat) :=
  (state.inFlight.takeWhile fun frame => frame.1 ≤ count).getLast?

/-- `FrameAcks::acked` (`view.rs:2515-2542`). -/
def acked (state : AckState) (count : UInt64) (time : Nat) : AckState :=
  if count ≤ state.acked then state
  else
    let popped :=
      { state with
        acked := count
        inFlight := state.inFlight.dropWhile fun frame => frame.1 ≤ count }
    match newest state count with
    | none => popped
    | some (_, handedOver) =>
        let delay := time - handedOver
        let noted := { popped.noteDelay time delay with lastDelay := some delay }
        match state.lastDelay with
        | none => noted
        | some previous =>
            let swing := (delay - previous) + (previous - delay)
            { noted with jitter := (state.jitter * 7 + swing) / 8 }

/-- `FrameAcks::admits` (`view.rs:2547-2556`). -/
def admits (state : AckState) (now slack : Nat) : Bool × AckState :=
  match state.inFlight with
  | [] => (true, state)
  | (_, oldest) :: _ =>
      match state.bestDelay now with
      | (none, left) => (true, left)
      | (some best, left) => (now - oldest ≤ best + slack, left)

/-- `FrameAcks::best` (`view.rs:2574-2576`). -/
def best (state : AckState) (now : Nat) : Option Nat × AckState := state.bestDelay now

/-- A call on the acknowledgements. -/
inductive Op where
  | opened
  | closed
  | sent (time : Nat)
  | acked (count : UInt64) (time : Nat)
  | admits (now slack : Nat)
  | best (now : Nat)
  deriving DecidableEq

/-- What a call answers. -/
inductive Answer where
  | done
  | admits (room : Bool)
  | best (delay : Option Nat)
  deriving DecidableEq

/-- One call. -/
def step (state : AckState) : Op → Answer × AckState
  | .opened => (.done, opened state)
  | .closed => (.done, closed state)
  | .sent time => (.done, sent state time)
  | .acked count time => (.done, acked state count time)
  | .admits now slack => (.admits (admits state now slack).1, (admits state now slack).2)
  | .best now => (.best (best state now).1, (best state now).2)

end FrameAcks

/-!
## Frames on the media wire

How an encoded frame is laid out on the wire and taken apart again, what the
encode loop checks of it before it is handed over, and the task that writes what
is handed over, all of `crates/runtime/src/view.rs`; and the check of the
decoder's shared memory (`crates/media/src/decode/mod.rs`).
-/

/-- `MEDIA_PAYLOAD_HEADER_BYTES` (`view.rs:614`). -/
def mediaPayloadHeaderBytes : Nat := 9

/-- `encode_media_payload` (`view.rs:629-635`). -/
def encodeMediaPayload (frame : EncodedFrame) : List UInt8 :=
  (if frame.keyframe then 1 else 0) :: (toLeBytes64 frame.timestampUs ++ frame.data)

/-- `decode_media_payload` (`view.rs:641-653`). -/
def decodeMediaPayload (bytes : List UInt8) : Option EncodedFrame :=
  if bytes.length ≤ mediaPayloadHeaderBytes then none
  else do
    let keyframe ← bytes.head?
    let (timestamp, data) ← splitBytes 8 bytes.tail
    return { keyframe := keyframe ≠ 0, timestampUs := fromLeBytes64 timestamp, data }

/-- What the encode loop makes of a frame the encoder returned. -/
inductive FrameCheck where
  | empty
  | tooLarge
  | handedOver
  deriving DecidableEq, Repr

/-- The checks of `spawn_encode_loop_with` on a frame (`view.rs:1984-1997`). -/
def checkFrame (frame : EncodedFrame) : FrameCheck :=
  if frame.data.isEmpty then .empty
  else if frame.data.length > maxMediaFrameBytes then .tooLarge
  else .handedOver

/-- `spawn_media_writer` (`view.rs:2295-2311`): what ends it, if one of these frames does, and the
writer it leaves. -/
def mediaWriter {W : Type} [AsyncWrite W] (writer : MediaFrameWriter W) :
    List EncodedFrame → Option NetError × MediaFrameWriter W
  | [] => (none, writer)
  | frame :: jobs =>
      match writer.writeFrame (encodeMediaPayload frame) with
      | (.error e, writer) => (some e, writer)
      | (.ok (), writer) => mediaWriter writer jobs

/-- The frames a guest takes off the media stream, at most `reads` of them, and what ends it
(`view.rs:2981-3009`). A header without a picture is passed over, and so is what is malformed. -/
def receiveFrames {R : Type} [AsyncRead R] :
    Nat → MediaFrameReader R → List EncodedFrame × Option NetError
  | 0, _ => ([], none)
  | reads + 1, reader =>
      match reader.readFrame with
      | (.error e, _) => ([], some e)
      | (.ok payload, reader) =>
          let (frames, stop) := receiveFrames reads reader
          ((decodeMediaPayload payload).toList ++ frames, stop)

/-- `SLOT_PAYLOAD_BYTES` (`decode/mod.rs:473`). -/
def slotPayloadBytes : Nat := 8 * 1024 * 1024

/-- The check of `write_slot` (`decode/mod.rs:715-720`), with the text of its error. -/
def checkSlotPayload (payload : List UInt8) : Except String Unit :=
  if payload.length > slotPayloadBytes then
    .error s!"payload of {payload.length} bytes exceeds the {slotPayloadBytes} byte slot"
  else .ok ()

end Lumepeer.Runtime
