import Lumepeer.Core.Basic
import Lumepeer.Lib.Utf8

/-!
# Clipboard text sync

The payload rule and the echo suppression of `crates/core/src/clipboard.rs`. A
function that takes `&mut self` returns what it returns beside the next state.
-/

namespace Lumepeer.Core
open Lumepeer.Lib

/-- `validate_payload` (`clipboard.rs:91-101`). -/
def validatePayload (data : List UInt8) : Except CoreError Unit :=
  if data.isEmpty || data.length > clipboardMaxBytes then .error .malformed
  else
    match fromUtf8 data with
    | some _ => .ok ()
    | none => .error .malformed

/-- `ClipboardSync` (`clipboard.rs:110-113`). -/
structure ClipboardSync where
  lastApplied : Option (List UInt8)
  deriving DecidableEq

namespace ClipboardSync

/-- `ClipboardSync::new` (`clipboard.rs:118-120`). -/
def new : ClipboardSync := { lastApplied := none }

/-- `ClipboardSync::local_changed` (`clipboard.rs:129-139`). -/
def localChanged (sync : ClipboardSync) (data : List UInt8) :
    Except CoreError (Option (List UInt8)) × ClipboardSync :=
  match validatePayload data with
  | .error refusal => (.error refusal, sync)
  | .ok () =>
      if sync.lastApplied = some data then (.ok none, { sync with lastApplied := none })
      else (.ok (some data), sync)

/-- `ClipboardSync::remote_received` (`clipboard.rs:147-151`). -/
def remoteReceived (sync : ClipboardSync) (data : List UInt8) :
    Except CoreError (List UInt8) × ClipboardSync :=
  match validatePayload data with
  | .error refusal => (.error refusal, sync)
  | .ok () => (.ok data, { sync with lastApplied := some data })

end ClipboardSync

end Lumepeer.Core
