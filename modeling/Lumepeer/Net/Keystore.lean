import Lumepeer.Lib.HashMap

/-!
# The keystore

The trait of `crates/net/src/keystore.rs` as its callers see it: slots by entry
name, each call of which may fail. Whether a call fails is an argument. A failing
write leaves the slot as it was, leaves it unreadable, which is what a file written
halfway is, or has written all of it when the flush to the disk fails.
-/

namespace Lumepeer.Net
open Lumepeer.Lib

/-- What a slot holds: a secret, or bytes that no longer read as one. -/
inductive Slot where
  | secret (bytes : List UInt8)
  | unreadable
  deriving DecidableEq, Repr

/-- The slots that were written. -/
abbrev Keystore := HashMap String Slot

/-- How a write ends. -/
inductive StoreOutcome where
  | stored
  | refused
  | torn
  | unsynced
  deriving DecidableEq, Repr

namespace Keystore

/-- `Keystore::load_secret` (`keystore.rs:92`); `none` is an error and `some none` an empty slot. -/
def loadSecret (store : Keystore) (entry : String) (fails : Bool) : Option (Option (List UInt8)) :=
  if fails then none
  else
    match store.lookup entry with
    | none => some none
    | some (.secret bytes) => some (some bytes)
    | some .unreadable => none

/-- `Keystore::store_secret` (`keystore.rs:98`), whether it succeeds. -/
def storeSecret (store : Keystore) (entry : String) (bytes : List UInt8) :
    StoreOutcome → Bool × Keystore
  | .stored => (true, store.insert entry (.secret bytes))
  | .refused => (false, store)
  | .torn => (false, store.insert entry .unreadable)
  | .unsynced => (false, store.insert entry (.secret bytes))

/-- `Keystore::delete_secret` (`keystore.rs:105`), whether it succeeds. -/
def deleteSecret (store : Keystore) (entry : String) (fails : Bool) : Bool × Keystore :=
  if fails then (false, store) else (true, store.erase entry)

section
variable {store : Keystore} {entry : String} {bytes : List UInt8} {fails : Bool}

theorem lookup_of_loadSecret (loaded : store.loadSecret entry fails = some (some bytes)) :
    store.lookup entry = some (.secret bytes) := by
  unfold loadSecret at loaded
  split at loaded
  · cases loaded
  · split at loaded <;> cases loaded
    assumption

theorem lookup_of_loadSecret_none (loaded : store.loadSecret entry fails = some none) :
    store.lookup entry = none := by
  unfold loadSecret at loaded
  split at loaded
  · cases loaded
  · split at loaded <;> cases loaded
    assumption

theorem lookup_storeSecret {outcome : StoreOutcome} (other : String) (elsewhere : other ≠ entry) :
    (store.storeSecret entry bytes outcome).2.lookup other = store.lookup other := by
  cases outcome with
  | refused => rfl
  | stored | torn | unsynced => exact AList.lookup_insert_ne elsewhere

theorem storeSecret_ok {outcome : StoreOutcome}
    (ok : (store.storeSecret entry bytes outcome).1 = true) :
    (store.storeSecret entry bytes outcome).2.lookup entry = some (.secret bytes) := by
  cases outcome with
  | refused | torn | unsynced => cases ok
  | stored => exact AList.lookup_insert _

theorem lookup_deleteSecret (other : String) :
    (store.deleteSecret entry fails).2.lookup other = store.lookup other ∨
      other = entry ∧ (store.deleteSecret entry fails).2.lookup other = none := by
  unfold deleteSecret
  split
  · exact .inl rfl
  · simp only [HashMap.lookup_erase_eq]
    by_cases same : other = entry
    · exact .inr ⟨same, if_pos same⟩
    · exact .inl (if_neg same)

end

end Keystore

end Lumepeer.Net
