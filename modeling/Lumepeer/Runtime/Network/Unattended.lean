import Lumepeer.Core.Unattended
import Lumepeer.Core.Wire
import Lumepeer.Lib.Base32
import Lumepeer.Net.Keystore

/-!
# The settings of unattended access

The slots of `crates/runtime/src/unattended_store.rs` and the four changes of
`crates/runtime/src/network.rs` that go through the gate and then through the
keystore. What the keystore answers is an argument: each of its calls may fail, and
each entry is asked for at most once in a change and once in a restart. The salt and
the secret that are drawn are arguments too.
-/

namespace Lumepeer.Core
open Lumepeer.Lib

/-- `Totp::secret_base32` (`unattended.rs:160-162`). -/
def Totp.secretBase32 (totp : Totp) : String := Base32.encode totp.secret

/-- `Totp::provisioning_uri` (`unattended.rs:172-177`). -/
def Totp.provisioningUri (totp : Totp) (account : String) : String :=
  "otpauth://totp/Lumepeer:" ++ account ++ "?secret=" ++ totp.secretBase32
    ++ "&issuer=Lumepeer&algorithm=SHA1&digits=6&period="
    ++ toString unattendedTotpStepSecs.toNat

/-- `UnattendedAccess::totp` (`unattended.rs:335-337`). -/
def UnattendedAccess.totp (access : UnattendedAccess) : Option Totp :=
  access.totpSecret.map fun secret => ⟨secret.toList⟩

end Lumepeer.Core

namespace Lumepeer.Runtime
open Lumepeer.Lib Lumepeer.Core Lumepeer.Net

/-- `UNATTENDED_PASSWORD_ENTRY` (`keystore.rs:44`). -/
def unattendedPasswordEntry : String := "lumepeer.unattended.password"

/-- `UNATTENDED_ROLE_ENTRY` (`keystore.rs:53`). -/
def unattendedRoleEntry : String := "lumepeer.unattended.role"

/-- `UNATTENDED_TOTP_ENTRY` (`keystore.rs:60`). -/
def unattendedTotpEntry : String := "lumepeer.unattended.totp"

/-- What the keystore answers: how a write to an entry ends, and whether a removal of it fails. -/
structure Answers where
  stores : String → StoreOutcome
  deletes : String → Bool

namespace UnattendedStore

/-- `TOTP_SECRET_BYTES` (`unattended_store.rs:23`). -/
def totpSecretBytes : Nat := 20

/-- The last part of `restore` (`unattended_store.rs:86-101`). -/
def restoreRole (store : Keystore) (fails : String → Bool) (access : UnattendedAccess) :
    UnattendedAccess :=
  match store.loadSecret unattendedRoleEntry (fails unattendedRoleEntry) with
  | some (some bytes) =>
      match Wire.role.decode bytes with
      | some (role, _) => access.setRole role
      | none => access
  | some none => access
  | none => access

/-- `UnattendedStore::restore` (`unattended_store.rs:45-102`); `fails` are the entries that cannot
be read. -/
def restore (store : Keystore) (fails : String → Bool) (access : UnattendedAccess) :
    UnattendedAccess :=
  match store.loadSecret unattendedPasswordEntry (fails unattendedPasswordEntry) with
  | none => access
  | some none => access
  | some (some bytes) =>
      match fromUtf8 bytes with
      | none => access
      | some phc =>
          let access := access.restorePasswordHash phc
          match store.loadSecret unattendedTotpEntry (fails unattendedTotpEntry) with
          | some (some bytes) =>
              if whole : bytes.length = totpSecretBytes then
                restoreRole store fails (access.setTotpSecret ⟨bytes, whole⟩)
              else access.disable
          | some none => restoreRole store fails access
          | none => access.disable

/-- `UnattendedStore::save_password` (`unattended_store.rs:111-118`), whether it succeeds. -/
def savePassword (store : Keystore) (access : UnattendedAccess) (answers : Answers) :
    Bool × Keystore :=
  match access.passwordHash with
  | some phc =>
      store.storeSecret unattendedPasswordEntry (asBytes phc)
        (answers.stores unattendedPasswordEntry)
  | none => store.deleteSecret unattendedPasswordEntry (answers.deletes unattendedPasswordEntry)

/-- `UnattendedStore::save_totp` (`unattended_store.rs:124-129`), whether it succeeds. -/
def saveTotp (store : Keystore) (access : UnattendedAccess) (answers : Answers) :
    Bool × Keystore :=
  match access.totpSecret with
  | some secret =>
      store.storeSecret unattendedTotpEntry secret.toList (answers.stores unattendedTotpEntry)
  | none => store.deleteSecret unattendedTotpEntry (answers.deletes unattendedTotpEntry)

/-- `UnattendedStore::save_role` (`unattended_store.rs:137-142`), whether it succeeds. A role always
encodes. -/
def saveRole (store : Keystore) (access : UnattendedAccess) (answers : Answers) :
    Bool × Keystore :=
  store.storeSecret unattendedRoleEntry (Wire.role.encode access.role)
    (answers.stores unattendedRoleEntry)

/-- `UnattendedStore::clear` (`unattended_store.rs:181-185`), whether it succeeds. -/
def clear (store : Keystore) (answers : Answers) : Bool × Keystore :=
  match store.deleteSecret unattendedTotpEntry (answers.deletes unattendedTotpEntry) with
  | (false, store) => (false, store)
  | (true, store) =>
      match store.deleteSecret unattendedRoleEntry (answers.deletes unattendedRoleEntry) with
      | (false, store) => (false, store)
      | (true, store) =>
          store.deleteSecret unattendedPasswordEntry (answers.deletes unattendedPasswordEntry)

end UnattendedStore

/-- `TotpProvisioning` (`network.rs:1042-1047`). -/
structure TotpProvisioning where
  secretBase32 : String
  uri : String
  deriving DecidableEq

/-- The gate, the admissions that are in flight, and the keystore. -/
structure UnattendedSettings where
  unattended : UnattendedAccess
  unattendedPending : NodeId → Bool := fun _ => false
  unattendedProofs : NodeId → Bool := fun _ => false
  store : Keystore

namespace UnattendedSettings
open UnattendedStore

/-- `ActorError`, as far as it is returned here. -/
inductive ActorError where
  | unattended (error : UnattendedError)
  | net
  deriving DecidableEq

/-- `Actor::on_unattended_set_password` (`network.rs:16421-16435`). -/
def onUnattendedSetPassword (crates : Crates) (settings : UnattendedSettings) (password : String)
    (salt : Bytes 16) (answers : Answers) : Except ActorError Unit × UnattendedSettings :=
  let previous := settings.unattended.passwordHash
  match settings.unattended.setPassword crates password salt with
  | (.error error, unattended) => (.error (.unattended error), { settings with unattended })
  | (.ok (), unattended) =>
      match savePassword settings.store unattended answers with
      | (false, store) =>
          let unattended := match previous with
            | some phc => unattended.restorePasswordHash phc
            | none => unattended.disable
          (.error .net, { settings with unattended, store })
      | (true, store) => (.ok (), { settings with unattended, store })

/-- `Actor::on_unattended_disable` (`network.rs:16443-16450`). -/
def onUnattendedDisable (settings : UnattendedSettings) (answers : Answers) :
    Except ActorError Unit × UnattendedSettings :=
  let settings := { settings with
    unattended := settings.unattended.disable
    unattendedPending := fun _ => false
    unattendedProofs := fun _ => false }
  match clear settings.store answers with
  | (false, store) => (.error .net, { settings with store })
  | (true, store) => (.ok (), { settings with store })

/-- `Actor::on_unattended_set_totp` (`network.rs:16457-16497`); `secret` is what it draws. -/
def onUnattendedSetTotp (settings : UnattendedSettings) (enabled : Bool) (secret : Bytes 20)
    (answers : Answers) : Except ActorError (Option TotpProvisioning) × UnattendedSettings :=
  if !enabled then
    let unattended := settings.unattended.clearTotpSecret
    match saveTotp settings.store unattended answers with
    | (false, store) => (.error .net, { settings with unattended, store })
    | (true, store) => (.ok none, { settings with unattended, store })
  else if !settings.unattended.enabled then (.error (.unattended .notConfigured), settings)
  else
    let previous := settings.unattended.totpSecret
    let unattended := settings.unattended.setTotpSecret secret
    match saveTotp settings.store unattended answers with
    | (false, store) =>
        let unattended := match previous with
          | some old => unattended.setTotpSecret old
          | none => unattended.clearTotpSecret
        (.error .net, { settings with unattended, store })
    | (true, store) =>
        let settings := { settings with unattended, store }
        match unattended.totp with
        | none => (.error (.unattended .notConfigured), settings)
        | some totp =>
            (.ok (some { secretBase32 := totp.secretBase32, uri := totp.provisioningUri "device" }),
              settings)

/-- `Actor::on_unattended_set_role` (`network.rs:16503-16512`). -/
def onUnattendedSetRole (settings : UnattendedSettings) (role : Role) (answers : Answers) :
    Except ActorError Unit × UnattendedSettings :=
  let previous := settings.unattended.role
  let unattended := settings.unattended.setRole role
  match saveRole settings.store unattended answers with
  | (false, store) =>
      (.error .net, { settings with unattended := unattended.setRole previous, store })
  | (true, store) => (.ok (), { settings with unattended, store })

/-- A change of the settings, with what it draws. -/
inductive Change where
  | setPassword (password : String) (salt : Bytes 16)
  | disable
  | setTotp (enabled : Bool) (secret : Bytes 20)
  | setRole (role : Role)

/-- The error of a result. -/
def failure {α : Type} : Except ActorError α → Option ActorError
  | .error error => some error
  | .ok _ => none

/-- One change: the error it fails with, if it fails, and what it leaves. -/
def change (crates : Crates) (settings : UnattendedSettings) (answers : Answers) :
    Change → Option ActorError × UnattendedSettings
  | .setPassword password salt =>
      let (result, next) := settings.onUnattendedSetPassword crates password salt answers
      (failure result, next)
  | .disable =>
      let (result, next) := settings.onUnattendedDisable answers
      (failure result, next)
  | .setTotp enabled secret =>
      let (result, next) := settings.onUnattendedSetTotp enabled secret answers
      (failure result, next)
  | .setRole role =>
      let (result, next) := settings.onUnattendedSetRole role answers
      (failure result, next)

end UnattendedSettings

end Lumepeer.Runtime
