import Mathlib.Data.Finset.Erase
import Mathlib.Data.Finset.Insert
import Mathlib.Data.Finset.Sort

/-!
# The keys of a guest's keyboard

The tables and the routing rule of `crates/guestkeys/src/lib.rs`: where a key
sits, which modifiers are held and which machine a keystroke belongs to while a
grab is live. A `BTreeSet<u32>` of positions is a `Finset`.
-/

namespace Lumepeer.Guestkeys

/-- `MODIFIER_SHIFT` (`protocol.rs:40`). -/
def modifierShift : UInt32 := (1 : UInt32) <<< 0

/-- `MODIFIER_CTRL` (`protocol.rs:42`). -/
def modifierCtrl : UInt32 := (1 : UInt32) <<< 1

/-- `MODIFIER_ALT` (`protocol.rs:44`). -/
def modifierAlt : UInt32 := (1 : UInt32) <<< 2

/-- `MODIFIER_META` (`protocol.rs:46`). -/
def modifierMeta : UInt32 := (1 : UInt32) <<< 3

/-! ## evdev codes (`lib.rs:127-141`) -/

def evdevLeftShift : UInt32 := 42
def evdevRightShift : UInt32 := 54
def evdevLeftCtrl : UInt32 := 29
def evdevRightCtrl : UInt32 := 97
def evdevLeftAlt : UInt32 := 56
def evdevRightAlt : UInt32 := 100
def evdevLeftMeta : UInt32 := 125
def evdevRightMeta : UInt32 := 126

/-! ## Virtual keys (`lib.rs:146-339`) -/

namespace Vk

def back : UInt16 := 0x08
def tab : UInt16 := 0x09
def clear : UInt16 := 0x0c
def «return» : UInt16 := 0x0d
def pause : UInt16 := 0x13
def capital : UInt16 := 0x14
def escape : UInt16 := 0x1b
def space : UInt16 := 0x20
def prior : UInt16 := 0x21
def next : UInt16 := 0x22
def «end» : UInt16 := 0x23
def home : UInt16 := 0x24
def left : UInt16 := 0x25
def up : UInt16 := 0x26
def right : UInt16 := 0x27
def down : UInt16 := 0x28
def snapshot : UInt16 := 0x2c
def insert : UInt16 := 0x2d
def delete : UInt16 := 0x2e
def digit0 : UInt16 := 0x30
def digit1 : UInt16 := 0x31
def digit9 : UInt16 := 0x39
def letterA : UInt16 := 0x41
def letterB : UInt16 := 0x42
def letterC : UInt16 := 0x43
def letterD : UInt16 := 0x44
def letterE : UInt16 := 0x45
def letterF : UInt16 := 0x46
def letterG : UInt16 := 0x47
def letterH : UInt16 := 0x48
def letterI : UInt16 := 0x49
def letterJ : UInt16 := 0x4a
def letterK : UInt16 := 0x4b
def letterL : UInt16 := 0x4c
def letterM : UInt16 := 0x4d
def letterN : UInt16 := 0x4e
def letterO : UInt16 := 0x4f
def letterP : UInt16 := 0x50
def letterQ : UInt16 := 0x51
def letterR : UInt16 := 0x52
def letterS : UInt16 := 0x53
def letterT : UInt16 := 0x54
def letterU : UInt16 := 0x55
def letterV : UInt16 := 0x56
def letterW : UInt16 := 0x57
def letterX : UInt16 := 0x58
def letterY : UInt16 := 0x59
def letterZ : UInt16 := 0x5a
def lwin : UInt16 := 0x5b
def rwin : UInt16 := 0x5c
def apps : UInt16 := 0x5d
def numpad0 : UInt16 := 0x60
def numpad1 : UInt16 := 0x61
def numpad2 : UInt16 := 0x62
def numpad3 : UInt16 := 0x63
def numpad4 : UInt16 := 0x64
def numpad5 : UInt16 := 0x65
def numpad6 : UInt16 := 0x66
def numpad7 : UInt16 := 0x67
def numpad8 : UInt16 := 0x68
def numpad9 : UInt16 := 0x69
def multiply : UInt16 := 0x6a
def add : UInt16 := 0x6b
def subtract : UInt16 := 0x6d
def decimal : UInt16 := 0x6e
def divide : UInt16 := 0x6f
def f1 : UInt16 := 0x70
def f10 : UInt16 := 0x79
def f11 : UInt16 := 0x7a
def f12 : UInt16 := 0x7b
def f13 : UInt16 := 0x7c
def f24 : UInt16 := 0x87
def numlock : UInt16 := 0x90
def scroll : UInt16 := 0x91
def lshift : UInt16 := 0xa0
def rshift : UInt16 := 0xa1
def lcontrol : UInt16 := 0xa2
def rcontrol : UInt16 := 0xa3
def lmenu : UInt16 := 0xa4
def rmenu : UInt16 := 0xa5
def volumeMute : UInt16 := 0xad
def volumeDown : UInt16 := 0xae
def volumeUp : UInt16 := 0xaf
def oem1 : UInt16 := 0xba
def oemPlus : UInt16 := 0xbb
def oemComma : UInt16 := 0xbc
def oemMinus : UInt16 := 0xbd
def oemPeriod : UInt16 := 0xbe
def oem2 : UInt16 := 0xbf
def oem3 : UInt16 := 0xc0
def oem4 : UInt16 := 0xdb
def oem5 : UInt16 := 0xdc
def oem6 : UInt16 := 0xdd
def oem7 : UInt16 := 0xde
def oem8 : UInt16 := 0xdf
def oem102 : UInt16 := 0xe2

end Vk

/-- `GrabbedKey` (`lib.rs:52-59`). -/
structure GrabbedKey where
  scancode : UInt32
  modifiers : UInt32
  pressed : Bool
  deriving DecidableEq, Repr

/-- `Held` (`lib.rs:74-83`). -/
structure Held where
  shift : Bool
  ctrl : Bool
  alt : Bool
  «meta» : Bool
  deriving DecidableEq, Repr

namespace Held

/-- `Held::of_positions` (`lib.rs:95-103`). -/
def ofPositions (positions : Finset UInt32) : Held :=
  let any (left right : UInt32) : Bool := left ∈ positions || right ∈ positions
  { shift := any evdevLeftShift evdevRightShift
    ctrl := any evdevLeftCtrl evdevRightCtrl
    alt := any evdevLeftAlt evdevRightAlt
    «meta» := any evdevLeftMeta evdevRightMeta }

/-- `Held::bits` (`lib.rs:107-123`). -/
def bits (held : Held) : UInt32 :=
  let bits := if held.shift then modifierShift else 0
  let bits := if held.ctrl then bits ||| modifierCtrl else bits
  let bits := if held.alt then bits ||| modifierAlt else bits
  if held.meta then bits ||| modifierMeta else bits

end Held

/-- `Route` (`lib.rs:343-357`). -/
inductive Route where
  | here
  | there
  | both
  deriving DecidableEq, Repr

/-- `types_a_character` (`lib.rs:449-460`). -/
def typesACharacter (virtualKey : UInt16) : Bool :=
  virtualKey = Vk.space || (Vk.digit0 ≤ virtualKey && virtualKey ≤ Vk.digit9) ||
    (Vk.letterA ≤ virtualKey && virtualKey ≤ Vk.letterZ) ||
    (Vk.numpad0 ≤ virtualKey && virtualKey ≤ Vk.divide) ||
    (Vk.oem1 ≤ virtualKey && virtualKey ≤ Vk.oem3) ||
    (Vk.oem4 ≤ virtualKey && virtualKey ≤ Vk.oem8) || virtualKey = Vk.oem102

/-- The `Ctrl`, `Alt` and `Shift` keys. -/
def sharedKeys : List UInt16 :=
  [Vk.lshift, Vk.rshift, Vk.lcontrol, Vk.rcontrol, Vk.lmenu, Vk.rmenu]

/-- `route` (`lib.rs:403-441`). -/
def route (virtualKey : UInt16) (pressed sent : Bool) (held : Held) : Route :=
  if virtualKey ∈ sharedKeys then .both
  else if sent then .there
  else if !pressed then .here
  else if virtualKey = Vk.lwin || virtualKey = Vk.rwin then .there
  else if held.ctrl && held.alt && held.shift && !held.meta then .here
  else if held.ctrl && held.alt && (virtualKey = Vk.delete || virtualKey = Vk.decimal) then .here
  else if held.meta && virtualKey = Vk.letterL then .here
  else if held.ctrl || held.alt || held.meta then .there
  else if held.shift && !typesACharacter virtualKey then .there
  else if virtualKey = Vk.snapshot then .there
  else .here

/-- `numpad_position` (`lib.rs:613-628`). -/
def numpadPosition (virtualKey : UInt16) : Option UInt32 := List.lookup virtualKey [
  (Vk.home, 71), (Vk.numpad7, 71), (Vk.up, 72), (Vk.numpad8, 72), (Vk.prior, 73),
  (Vk.numpad9, 73), (Vk.left, 75), (Vk.numpad4, 75), (Vk.clear, 76), (Vk.numpad5, 76),
  (Vk.right, 77), (Vk.numpad6, 77), (Vk.«end», 79), (Vk.numpad1, 79), (Vk.down, 80),
  (Vk.numpad2, 80), (Vk.next, 81), (Vk.numpad3, 81), (Vk.insert, 82), (Vk.numpad0, 82),
  (Vk.delete, 83)]

/-- `letter_position` (`lib.rs:633-663`). -/
def letterPosition (virtualKey : UInt16) : Option UInt32 := List.lookup virtualKey [
  (Vk.letterQ, 16), (Vk.letterW, 17), (Vk.letterE, 18), (Vk.letterR, 19), (Vk.letterT, 20),
  (Vk.letterY, 21), (Vk.letterU, 22), (Vk.letterI, 23), (Vk.letterO, 24), (Vk.letterP, 25),
  (Vk.letterA, 30), (Vk.letterS, 31), (Vk.letterD, 32), (Vk.letterF, 33), (Vk.letterG, 34),
  (Vk.letterH, 35), (Vk.letterJ, 36), (Vk.letterK, 37), (Vk.letterL, 38), (Vk.letterZ, 44),
  (Vk.letterX, 45), (Vk.letterC, 46), (Vk.letterV, 47), (Vk.letterB, 48), (Vk.letterN, 49),
  (Vk.letterM, 50)]

/-- The single keys of `evdev_of_virtual_key` (`lib.rs:547-605`). -/
def namedPosition (virtualKey : UInt16) : Option UInt32 := List.lookup virtualKey [
  (Vk.escape, 1), (Vk.digit0, 11), (Vk.oemMinus, 12), (Vk.oemPlus, 13), (Vk.back, 14),
  (Vk.tab, 15), (Vk.oem4, 26), (Vk.oem6, 27), (Vk.«return», 28), (Vk.lcontrol, evdevLeftCtrl),
  (Vk.oem1, 39), (Vk.oem7, 40), (Vk.oem3, 41), (Vk.lshift, evdevLeftShift), (Vk.oem5, 43),
  (Vk.oemComma, 51), (Vk.oemPeriod, 52), (Vk.oem2, 53), (Vk.rshift, evdevRightShift),
  (Vk.multiply, 55), (Vk.lmenu, evdevLeftAlt), (Vk.space, 57), (Vk.capital, 58),
  (Vk.numlock, 69), (Vk.scroll, 70), (Vk.subtract, 74), (Vk.add, 78), (Vk.decimal, 83),
  (Vk.oem102, 86), (Vk.f11, 87), (Vk.f12, 88), (Vk.rcontrol, evdevRightCtrl), (Vk.divide, 98),
  (Vk.snapshot, 99), (Vk.rmenu, evdevRightAlt), (Vk.home, 102), (Vk.up, 103), (Vk.prior, 104),
  (Vk.left, 105), (Vk.right, 106), (Vk.«end», 107), (Vk.down, 108), (Vk.next, 109),
  (Vk.insert, 110), (Vk.delete, 111), (Vk.volumeMute, 113), (Vk.volumeDown, 114),
  (Vk.volumeUp, 115), (Vk.pause, 119), (Vk.lwin, evdevLeftMeta), (Vk.rwin, evdevRightMeta),
  (Vk.apps, 127)]

/-- `evdev_of_virtual_key` (`lib.rs:529-607`). -/
def evdevOfVirtualKey (virtualKey : UInt16) (extended : Bool) : Option UInt32 :=
  if extended && virtualKey = Vk.«return» then some 96
  else if extended && (virtualKey = Vk.lshift || virtualKey = Vk.rshift) then none
  else
    match if extended then none else numpadPosition virtualKey with
    | some position => some position
    | none =>
        match letterPosition virtualKey with
        | some position => some position
        | none =>
            if Vk.digit1 ≤ virtualKey && virtualKey ≤ Vk.digit9 then
              some (2 + (virtualKey - Vk.digit1).toUInt32)
            else if Vk.f1 ≤ virtualKey && virtualKey ≤ Vk.f10 then
              some (59 + (virtualKey - Vk.f1).toUInt32)
            else if Vk.f13 ≤ virtualKey && virtualKey ≤ Vk.f24 then
              some (183 + (virtualKey - Vk.f13).toUInt32)
            else namedPosition virtualKey

/-!
## The keyboard hook

The state of a live grab and the callback's decision, of
`crates/guestkeys/src/windows_hook.rs`. What a call hands to the sink is part of
what it returns. Every call holds the slot's lock from its first read of the
slot to its end, so calls follow one another; a poisoned lock is left out.
-/

/-- `KBDLLHOOKSTRUCT`, as far as it is read: the flags by their names. -/
structure KbdllHookStruct where
  vkCode : UInt32
  /-- `LLKHF_EXTENDED`. -/
  extended : Bool
  /-- `LLKHF_INJECTED`. -/
  injected : Bool
  /-- `LLKHF_UP`. -/
  up : Bool
  dwExtraInfo : UInt64
  deriving DecidableEq, Repr

/-- `Grabbing` (`windows_hook.rs:47-67`), without the sink. -/
structure Grabbing where
  held : Finset UInt32
  released : Finset UInt32
  deriving DecidableEq

/-- The slot as `install` leaves it (`windows_hook.rs:112-116`). -/
def installed : Option Grabbing := some { held := ∅, released := ∅ }

/-- `E2E_MARK` (`windows_hook.rs:293`). -/
def e2eMark : UInt64 := 0x4c554d45

/-- `pressed_by_the_e2e_matrix` (`windows_hook.rs:302-304`); `e2e` says whether the build is one of
the e2e matrix. -/
def pressedByTheE2eMatrix (e2e : Bool) (event : KbdllHookStruct) : Bool :=
  e2e && event.dwExtraInfo = e2eMark

/-- The position of an event a grab looks at (`windows_hook.rs:224-237`), with its virtual key;
`none` for one that it leaves alone. -/
def keyOf (e2e : Bool) (event : KbdllHookStruct) : Option (UInt16 × UInt32) :=
  if event.injected && !pressedByTheE2eMatrix e2e event then none
  else if event.vkCode.toNat < 2 ^ 16 then
    (evdevOfVirtualKey event.vkCode.toUInt16 event.extended).map fun scancode =>
      (event.vkCode.toUInt16, scancode)
  else none

/-- `claim` (`windows_hook.rs:223-274`): whether the keystroke is hidden from this machine, and
what is handed to the sink. -/
def claim (e2e : Bool) (slot : Option Grabbing) (event : KbdllHookStruct) :
    (Bool × Option GrabbedKey) × Option Grabbing :=
  match keyOf e2e event with
  | none => ((false, none), slot)
  | some (virtualKey, scancode) =>
      let pressed := !event.up
      match slot with
      | none => ((false, none), slot)
      | some grabbing =>
          let sent := decide (scancode ∈ grabbing.held)
          let way := route virtualKey pressed sent (Held.ofPositions grabbing.held)
          if way = .here then ((false, none), slot)
          else
            let grabbing :=
              if pressed then
                { held := insert scancode grabbing.held
                  released := grabbing.released.erase scancode : Grabbing }
              else
                { held := grabbing.held.erase scancode
                  released := insert scancode grabbing.released }
            ((way = .there,
              some { scancode, modifiers := (Held.ofPositions grabbing.held).bits, pressed }),
              some grabbing)

/-- `sent` (`windows_hook.rs:278-289`). -/
def sent (slot : Option Grabbing) (scancode : UInt32) (pressed : Bool) : Bool :=
  match slot with
  | none => false
  | some grabbing => if pressed then scancode ∈ grabbing.held else scancode ∈ grabbing.released

/-- `release_slot` (`windows_hook.rs:142-159`): what is handed to the sink. -/
def releaseSlot (slot : Option Grabbing) : List GrabbedKey × Option Grabbing :=
  match slot with
  | none => ([], none)
  | some grabbing =>
      (grabbing.held.sort.map fun scancode => { scancode, modifiers := 0, pressed := false }, none)

end Lumepeer.Guestkeys
