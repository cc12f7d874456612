import Lumepeer.Core.Clipboard
import Lumepeer.Lib.Run

/-!
# The clipboard thread

The loop of `run` in `crates/runtime/src/clipboard_os.rs`, one turn of it at a
time, beside the machine's clipboard that it polls. What the clipboard holds is
replaced as a whole by whoever writes to it. A read may fail, which the loop
cannot tell from a clipboard without that kind of content. The world around the
loop counts its steps and knows at which of them the content was placed and the
watch was last turned on; the loop does not.
-/

namespace Lumepeer.Runtime.ClipboardOs
open Lumepeer.Lib Lumepeer.Core

/-- `ClipboardChange` (`clipboard_os.rs:578-584`). -/
inductive ClipboardChange where
  | text (text : String)
  | files (paths : List String)
  deriving DecidableEq

/-- The variables that `run` keeps from turn to turn (`clipboard_os.rs:697-699`). -/
structure Watch where
  seen : Option String
  seenFiles : Option (List String)
  hadBaseline : Bool
  deriving DecidableEq

namespace Watch

/-- The watch before the first turn. -/
def new : Watch := { seen := none, seenFiles := none, hadBaseline := false }

/-- A turn of `run` that serves `ClipboardJob::Write` (`clipboard_os.rs:705-715`). -/
def write (watch : Watch) (text : String) (applied : Bool) : Watch :=
  if applied then { watch with seen := some text } else watch

/-- A turn of `run` that serves `ClipboardJob::WriteFiles` (`clipboard_os.rs:716-729`). -/
def writeFiles (watch : Watch) (paths : List String) (applied : Bool) : Watch :=
  if applied then { watch with seenFiles := some paths } else watch

/-- A turn of `run` that polls (`clipboard_os.rs:735-789`), from what its two reads return and
whether the channel has room. -/
def poll (watch : Watch) (watching : Bool) (files : Option (List String)) (text : Option String)
    (room : Bool) : Option ClipboardChange × Watch :=
  if !watching then (none, new)
  else if !watch.hadBaseline then
    (none, { seen := text, seenFiles := files, hadBaseline := true })
  else
    match files with
    | some paths =>
        -- A file list wins over the text beside it.
        let watch := { watch with seen := text }
        if watch.seenFiles = some paths then (none, watch)
        else if room then (some (.files paths), { watch with seenFiles := some paths })
        else (none, watch)
    | none =>
        let watch := { watch with seenFiles := none }
        match text with
        | none => (none, watch)
        | some text =>
            if watch.seen = some text then (none, watch)
            else if room then (some (.text text), { watch with seen := some text })
            else (none, watch)

end Watch

/-- What the machine's clipboard holds: what its two reads return when they do not fail. -/
structure Content where
  text : Option String
  files : Option (List String)
  deriving DecidableEq

/-- The thread, the flag it shares with the actor and the clipboard. -/
structure World where
  watch : Watch
  watching : Bool
  content : Content
  /-- The number of the step to come. -/
  now : Nat
  /-- The step that placed the content. -/
  placed : Nat
  /-- The step that last turned the watch on. -/
  onSince : Nat
  deriving DecidableEq

/-- How the reads of a poll go: the file list, then what another application places between the
two reads, then the text; and whether the channel has room. -/
structure Reads where
  files : Bool
  between : Option Content
  text : Bool
  room : Bool
  deriving DecidableEq

/-- A step of the thread, of the actor or of another application. -/
inductive Op where
  | copy (content : Content)
  | setWatching (on : Bool)
  | write (text : String) (applied : Bool)
  | writeFiles (paths : List String) (applied : Bool)
  | poll (reads : Reads)
  deriving DecidableEq

namespace World

/-- The machine when the thread starts. -/
def new (content : Content) : World :=
  { watch := .new, watching := false, content := content, now := 1, placed := 0, onSince := 0 }

/-- Somebody places new content. -/
def place (world : World) (content : Content) : World :=
  { world with content := content, placed := world.now }

/-- `ClipboardWorker::set_watching` (`clipboard_os.rs:643-648`). -/
def setWatching (world : World) (on : Bool) : World :=
  { world with
    watching := on
    onSince := if on && !world.watching then world.now else world.onSince }

/-- The clipboard when a poll reads the text. -/
def readingText (world : World) (reads : Reads) : World :=
  match reads.between with
  | none => world
  | some content => world.place content

/-- One poll. What it reports comes with the step that placed it. -/
def poll (world : World) (reads : Reads) : Option (ClipboardChange × Nat) × World :=
  let files := if reads.files then world.content.files else none
  let later := world.readingText reads
  let text := if reads.text then later.content.text else none
  let (change, watch) := world.watch.poll world.watching files text reads.room
  let report := change.map fun change =>
    match change with
    | .files paths => (ClipboardChange.files paths, world.placed)
    | .text text => (ClipboardChange.text text, later.placed)
  (report, { later with watch := watch })

/-- One step, with what it sends on `on_change`. -/
def step (world : World) (op : Op) : Option (ClipboardChange × Nat) × World :=
  let (report, next) :=
    match op with
    | .copy content => (none, world.place content)
    | .setWatching on => (none, world.setWatching on)
    | .write text applied =>
        let written := if applied then world.place { text := some text, files := none } else world
        (none, { written with watch := world.watch.write text applied })
    | .writeFiles paths applied =>
        let written := if applied then world.place { text := none, files := some paths } else world
        (none, { written with watch := world.watch.writeFiles paths applied })
    | .poll reads => world.poll reads
  (report, { next with now := next.now + 1 })

end World

/-!
## A machine whose clipboard is synced

The clipboard thread with the watch on, beside the `ClipboardSync` of one peer:
a text the thread reports goes into `local_changed` (`network.rs:14542-14551`),
and a message that `remote_received` accepts becomes a `ClipboardJob::Write`
(`network.rs:12050-12057`). The two run side by side, so a poll may come before
the jobs that are waiting.
-/

/-- The variables of the thread, the clipboard, the sync state and the texts still to be written. -/
structure Machine where
  watch : Watch
  content : Content
  sync : ClipboardSync
  jobs : List String
  deriving DecidableEq

namespace Machine

/-- The machine when the thread starts. -/
def new (content : Content) : Machine := { watch := .new, content, sync := .new, jobs := [] }

/-- A message of the peer, a copy by the person, a job served, or a poll: whether its two reads
succeed and whether the channel has room. -/
inductive Op where
  | receive (data : List UInt8)
  | copy (content : Content)
  | write (applied : Bool)
  | poll (files text room : Bool)
  deriving DecidableEq

/-- What a step came to: a message was accepted, or a report was fed into `local_changed`. -/
inductive Happening where
  | nothing
  | received (data : List UInt8)
  | fed (text : String) (answer : Except CoreError (Option (List UInt8)))
  deriving DecidableEq

/-- A message of the peer. -/
def receive (machine : Machine) (data : List UInt8) : Happening × Machine :=
  match machine.sync.remoteReceived data with
  | (.error _, sync) => (.nothing, { machine with sync })
  | (.ok bytes, sync) =>
      -- What was accepted is UTF-8, so `from_utf8_lossy` loses nothing.
      (.received bytes, { machine with sync, jobs := machine.jobs ++ (fromUtf8 bytes).toList })

/-- The thread serves the oldest job. -/
def write (machine : Machine) (applied : Bool) : Machine :=
  match machine.jobs with
  | [] => machine
  | text :: jobs =>
      { machine with
        watch := machine.watch.write text applied
        content := if applied then { text := some text, files := none } else machine.content
        jobs }

/-- The thread polls. -/
def poll (machine : Machine) (files text room : Bool) : Happening × Machine :=
  let paths := if files then machine.content.files else none
  let found := if text then machine.content.text else none
  match machine.watch.poll true paths found room with
  | (some (.text text), watch) =>
      let (answer, sync) := machine.sync.localChanged (asBytes text)
      (.fed text answer, { machine with watch, sync })
  | (_, watch) => (.nothing, { machine with watch })

/-- One step. -/
def step (machine : Machine) : Op → Happening × Machine
  | .receive data => machine.receive data
  | .copy content => (.nothing, { machine with content })
  | .write applied => (.nothing, machine.write applied)
  | .poll files text room => machine.poll files text room

end Machine

end Lumepeer.Runtime.ClipboardOs
