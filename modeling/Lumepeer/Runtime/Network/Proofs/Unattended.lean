import Lumepeer.Core.Unattended.Proofs.Crates
import Lumepeer.Runtime.Network.Unattended

/-!
# Settings that could not be saved

A change that the keystore refuses is taken back with the setters of the gate. What
they touch besides their own field stays touched, and two of the four changes take
nothing back. What a restart loads is unchanged where the slot is, which a write that
stops halfway and a removal that gets to one slot only do not leave alone.
-/

namespace Lumepeer.Runtime
open Lumepeer.Lib Lumepeer.Core Lumepeer.Net

namespace UnattendedStore

/-- What a restart loads. -/
def restart (store : Keystore) (fails : String → Bool) : UnattendedAccess :=
  restore store fails .new

/-- The password hash that can be read. -/
def storedPassword (store : Keystore) (fails : String → Bool) : Option String :=
  match store.loadSecret unattendedPasswordEntry (fails unattendedPasswordEntry) with
  | some (some bytes) => fromUtf8 bytes
  | some none => none
  | none => none

/-- The second factor that can be read; `none` is one that is there and cannot. -/
def storedSecret (store : Keystore) (fails : String → Bool) : Option (Option (Bytes 20)) :=
  match store.loadSecret unattendedTotpEntry (fails unattendedTotpEntry) with
  | some (some bytes) =>
      if whole : bytes.length = totpSecretBytes then some (some ⟨bytes, whole⟩) else none
  | some none => some none
  | none => none

/-- The role that can be read. -/
def storedRole (store : Keystore) (fails : String → Bool) : Role :=
  match store.loadSecret unattendedRoleEntry (fails unattendedRoleEntry) with
  | some (some bytes) => ((Wire.role.decode bytes).map (·.1)).getD .viewOnly
  | some none => .viewOnly
  | none => .viewOnly

/-- A keystore whose every call succeeds. -/
def noneFails : String → Bool := fun _ => false

variable {store store' : Keystore} {fails : String → Bool}

theorem restoreRole_eq {access : UnattendedAccess} (least : access.role = .viewOnly) :
    restoreRole store fails access = access.setRole (storedRole store fails) := by
  have same : access.setRole .viewOnly = access := by
    rw [← least]
    rfl
  unfold restoreRole storedRole
  cases store.loadSecret unattendedRoleEntry (fails unattendedRoleEntry) with
  | none => exact same.symm
  | some loaded =>
      cases loaded with
      | none => exact same.symm
      | some bytes =>
          cases decoded : Wire.role.decode bytes with
          | none =>
              simp only [decoded]
              exact same.symm
          | some result =>
              simp only [decoded]
              rfl

/-- A restart takes the password, the second factor and the role, or nothing. -/
theorem restart_eq : restart store fails =
    match storedPassword store fails, storedSecret store fails with
    | some phc, some totpSecret =>
        { passwordHash := some phc, totpSecret, role := storedRole store fails }
    | _, _ => .new := by
  unfold restart restore storedPassword storedSecret
  cases store.loadSecret unattendedPasswordEntry (fails unattendedPasswordEntry) with
  | none => rfl
  | some loaded =>
      cases loaded with
      | none => rfl
      | some bytes =>
          cases text : fromUtf8 bytes with
          | none =>
              simp only [text]
          | some phc =>
              simp only [text]
              cases store.loadSecret unattendedTotpEntry (fails unattendedTotpEntry) with
              | none => rfl
              | some second =>
                  cases second with
                  | none => exact restoreRole_eq rfl
                  | some key =>
                      by_cases whole : key.length = totpSecretBytes
                      · simp only [dif_pos whole]
                        exact restoreRole_eq rfl
                      · simp only [dif_neg whole]
                        rfl

/-! ## What slots come to -/

theorem loadSecret_congr {entry : String} (fails : Bool)
    (same : store'.lookup entry = store.lookup entry) :
    store'.loadSecret entry fails = store.loadSecret entry fails := by
  unfold Keystore.loadSecret
  rw [same]

theorem storedPassword_congr
    (same : store'.lookup unattendedPasswordEntry = store.lookup unattendedPasswordEntry) :
    storedPassword store' fails = storedPassword store fails := by
  unfold storedPassword
  rw [loadSecret_congr _ same]

theorem storedSecret_congr
    (same : store'.lookup unattendedTotpEntry = store.lookup unattendedTotpEntry) :
    storedSecret store' fails = storedSecret store fails := by
  unfold storedSecret
  rw [loadSecret_congr _ same]

theorem storedRole_congr
    (same : store'.lookup unattendedRoleEntry = store.lookup unattendedRoleEntry) :
    storedRole store' fails = storedRole store fails := by
  unfold storedRole
  rw [loadSecret_congr _ same]

theorem loadSecret_unreadable {entry : String} (fails : Bool)
    (torn : store.lookup entry = some .unreadable) : store.loadSecret entry fails = none := by
  unfold Keystore.loadSecret
  rw [torn]
  exact ite_self none

/-- A read that fails loads no more than one that does not. -/
theorem storedPassword_eq : storedPassword store fails =
    if fails unattendedPasswordEntry then none else storedPassword store noneFails := by
  unfold storedPassword
  cases fails unattendedPasswordEntry <;> rfl

theorem storedSecret_eq : storedSecret store fails =
    if fails unattendedTotpEntry then none else storedSecret store noneFails := by
  unfold storedSecret
  cases fails unattendedTotpEntry <;> rfl

theorem storedRole_eq : storedRole store fails =
    if fails unattendedRoleEntry then .viewOnly else storedRole store noneFails := by
  unfold storedRole
  cases fails unattendedRoleEntry <;> rfl

theorem storedPassword_fails :
    storedPassword store fails = none ∨ storedPassword store fails = storedPassword store noneFails := by
  rw [storedPassword_eq]
  exact ite_eq_or_eq _ _ _

theorem storedSecret_fails :
    storedSecret store fails = none ∨ storedSecret store fails = storedSecret store noneFails := by
  rw [storedSecret_eq]
  exact ite_eq_or_eq _ _ _

theorem storedRole_fails :
    storedRole store fails = .viewOnly ∨ storedRole store fails = storedRole store noneFails := by
  rw [storedRole_eq]
  exact ite_eq_or_eq _ _ _

/-- A restart loads nothing, or a gate that is on. -/
theorem restart_cases (store : Keystore) (fails : String → Bool) :
    restart store fails = .new ∧
        (storedPassword store fails = none ∨ storedSecret store fails = none) ∨
      ∃ phc totpSecret, storedPassword store fails = some phc ∧
        storedSecret store fails = some totpSecret ∧ restart store fails =
          { passwordHash := some phc, totpSecret, role := storedRole store fails } := by
  rw [restart_eq]
  cases storedPassword store fails with
  | none => exact .inl ⟨rfl, .inl rfl⟩
  | some phc =>
      cases storedSecret store fails with
      | none => exact .inl ⟨rfl, .inr rfl⟩
      | some totpSecret => exact .inr ⟨phc, totpSecret, rfl, rfl, rfl⟩

/-- A gate that no restart turns on is off after every restart. -/
theorem restart_eq_new (off : (restart store noneFails).enabled = false) (fails : String → Bool) :
    restart store fails = .new := by
  rcases restart_cases store noneFails with ⟨-, unread⟩ | ⟨phc, totpSecret, -, -, isOn⟩
  · rcases restart_cases store fails with ⟨isOff, -⟩ | ⟨phc, totpSecret, password, secret, -⟩
    · exact isOff
    · rcases unread with missing | missing
      · rcases storedPassword_fails with absent | same
        · rw [absent] at password
          cases password
        · rw [same, missing] at password
          cases password
      · rcases storedSecret_fails with absent | same
        · rw [absent] at secret
          cases secret
        · rw [same, missing] at secret
          cases secret
  · rw [isOn] at off
    cases off

/-- A slot is torn that a restart needs: it loads the same only where it loads nothing. -/
theorem restart_torn_iff (off : ∀ fails, restart store' fails = .new) :
    (∀ fails, restart store' fails = restart store fails) ↔
      (restart store noneFails).enabled = false := by
  constructor
  · intro same
    rw [← same, off]
    rfl
  · intro isOff fails
    rw [off, restart_eq_new isOff]

theorem restart_congr (password : storedPassword store' fails = storedPassword store fails)
    (secret : storedSecret store' fails = storedSecret store fails)
    (role : storedRole store' fails = storedRole store fails) :
    restart store' fails = restart store fails := by
  rw [restart_eq, restart_eq, password, secret, role]

/-! ## Writes that stop halfway -/

theorem restart_torn_password (fails : String → Bool) :
    restart (store.insert unattendedPasswordEntry .unreadable) fails = .new := by
  have unread : storedPassword (store.insert unattendedPasswordEntry .unreadable) fails = none := by
    unfold storedPassword
    rw [loadSecret_unreadable _ (AList.lookup_insert _)]
  rw [restart_eq, unread]

theorem restart_torn_totp (fails : String → Bool) :
    restart (store.insert unattendedTotpEntry .unreadable) fails = .new := by
  have unread : storedSecret (store.insert unattendedTotpEntry .unreadable) fails = none := by
    unfold storedSecret
    rw [loadSecret_unreadable _ (AList.lookup_insert _)]
  rw [restart_eq, unread]
  cases storedPassword (store.insert unattendedTotpEntry .unreadable) fails <;> rfl

/-- A role that cannot be read is the least one. -/
theorem restart_of_torn_role (password : storedPassword store' fails = storedPassword store fails)
    (secret : storedSecret store' fails = storedSecret store fails)
    (role : storedRole store' fails = .viewOnly) :
    restart store' fails = (restart store fails).setRole .viewOnly := by
  rw [restart_eq, restart_eq, password, secret, role]
  cases storedPassword store fails with
  | none => rfl
  | some phc => cases storedSecret store fails <;> rfl

theorem role_restart_fails : (restart store fails).role = .viewOnly ∨
    (restart store fails).role = (restart store noneFails).role := by
  rcases restart_cases store fails with ⟨isOff, -⟩ | ⟨phc, totpSecret, password, secret, isOn⟩
  · rw [isOff]
    exact .inl rfl
  · rcases storedRole_fails with least | sameRole
    · rw [isOn]
      exact .inl least
    · have samePassword : storedPassword store noneFails = some phc := by
        rcases storedPassword_fails with absent | same
        · rw [absent] at password
          cases password
        · exact same.symm.trans password
      have sameSecret : storedSecret store noneFails = some totpSecret := by
        rcases storedSecret_fails with absent | same
        · rw [absent] at secret
          cases secret
        · exact same.symm.trans secret
      right
      rw [isOn, restart_eq, samePassword, sameSecret]
      exact sameRole

theorem restart_torn_role_iff :
    (∀ fails, restart (store.insert unattendedRoleEntry .unreadable) fails = restart store fails) ↔
      (restart store noneFails).role = .viewOnly := by
  have torn (fails : String → Bool) :
      restart (store.insert unattendedRoleEntry .unreadable) fails =
        (restart store fails).setRole .viewOnly := by
    apply restart_of_torn_role
    · exact storedPassword_congr (AList.lookup_insert_ne (by decide))
    · exact storedSecret_congr (AList.lookup_insert_ne (by decide))
    · unfold storedRole
      rw [loadSecret_unreadable _ (AList.lookup_insert _)]
  constructor
  · intro same
    rw [← same, torn]
    rfl
  · intro least fails
    have same : (restart store fails).role = .viewOnly := by
      rcases role_restart_fails with isLeast | same
      · exact isLeast
      · exact same.trans least
    rw [torn]
    unfold UnattendedAccess.setRole
    rw [← same]

/-! ## Writes that were not flushed -/

/-- A restart loads the new password, unless it cannot read the second factor. -/
theorem restart_unsynced_password_iff (phc : String) :
    (∀ fails, restart (store.insert unattendedPasswordEntry (.secret (asBytes phc))) fails =
      restart store fails) ↔
      storedSecret store noneFails = none ∨ storedPassword store noneFails = some phc := by
  have written : storedPassword (store.insert unattendedPasswordEntry (.secret (asBytes phc)))
      noneFails = some phc := by
    unfold storedPassword Keystore.loadSecret
    rw [AList.lookup_insert]
    exact fromUtf8_asBytes phc
  have secret (fails : String → Bool) := @storedSecret_congr store
    (store.insert unattendedPasswordEntry (.secret (asBytes phc))) fails
    (AList.lookup_insert_ne (by decide))
  have role (fails : String → Bool) := @storedRole_congr store
    (store.insert unattendedPasswordEntry (.secret (asBytes phc))) fails
    (AList.lookup_insert_ne (by decide))
  generalize store.insert unattendedPasswordEntry (.secret (asBytes phc)) = store' at *
  constructor
  · intro same
    have before := same noneFails
    rw [restart_eq, written, secret, role] at before
    rcases restart_cases store noneFails with ⟨isOff, -⟩ | ⟨phc', totpSecret, read, -, isOn⟩
    · rw [isOff] at before
      cases held : storedSecret store noneFails with
      | none => exact .inl rfl
      | some totpSecret =>
          rw [held] at before
          cases before
    · cases held : storedSecret store noneFails with
      | none => exact .inl rfl
      | some totpSecret' =>
          rw [held, isOn] at before
          exact .inr (read.trans (congrArg UnattendedAccess.passwordHash before).symm)
  · rintro (unread | same) fails
    · have unread' : storedSecret store fails = none := by
        rw [storedSecret_eq, unread, ite_self]
      rw [restart_eq, restart_eq, secret, unread']
      cases storedPassword store' fails <;> cases storedPassword store fails <;> rfl
    · refine restart_congr ?_ (secret fails) (role fails)
      rw [storedPassword_eq, @storedPassword_eq store, written, same]

/-- ... and the new second factor, unless it cannot read the password. -/
theorem restart_unsynced_totp_iff (key : Bytes 20) :
    (∀ fails, restart (store.insert unattendedTotpEntry (.secret key.toList)) fails =
      restart store fails) ↔
      storedPassword store noneFails = none ∨ storedSecret store noneFails = some (some key) := by
  have written : storedSecret (store.insert unattendedTotpEntry (.secret key.toList)) noneFails =
      some (some key) := by
    unfold storedSecret Keystore.loadSecret
    rw [AList.lookup_insert]
    exact dif_pos key.2
  have password (fails : String → Bool) := @storedPassword_congr store
    (store.insert unattendedTotpEntry (.secret key.toList)) fails
    (AList.lookup_insert_ne (by decide))
  have role (fails : String → Bool) := @storedRole_congr store
    (store.insert unattendedTotpEntry (.secret key.toList)) fails
    (AList.lookup_insert_ne (by decide))
  generalize store.insert unattendedTotpEntry (.secret key.toList) = store' at *
  constructor
  · intro same
    have before := same noneFails
    rw [restart_eq, written, password, role] at before
    cases found : storedPassword store noneFails with
    | none => exact .inl rfl
    | some phc =>
        right
        rw [found] at before
        rcases restart_cases store noneFails with ⟨isOff, -⟩ | ⟨phc', totpSecret, -, held, isOn⟩
        · rw [isOff] at before
          cases before
        · rw [isOn] at before
          have same : some key = totpSecret := congrArg UnattendedAccess.totpSecret before
          rw [held, same]
  · rintro (unread | same) fails
    · have unread' : storedPassword store fails = none := by
        rw [storedPassword_eq, unread, ite_self]
      rw [restart_eq, restart_eq, password, unread']
    · refine restart_congr (password fails) ?_ (role fails)
      rw [storedSecret_eq, @storedSecret_eq store, written, same]

/-- ... and the new role, if it loads a gate at all. -/
theorem restart_unsynced_role_iff (role : Role) :
    (∀ fails, restart (store.insert unattendedRoleEntry (.secret (Wire.role.encode role))) fails =
      restart store fails) ↔
      ((restart store noneFails).enabled = true → storedRole store noneFails = role) := by
  have written : storedRole (store.insert unattendedRoleEntry (.secret (Wire.role.encode role)))
      noneFails = role := by
    unfold storedRole Keystore.loadSecret
    rw [AList.lookup_insert]
    cases role <;> rfl
  have password (fails : String → Bool) := @storedPassword_congr store
    (store.insert unattendedRoleEntry (.secret (Wire.role.encode role))) fails
    (AList.lookup_insert_ne (by decide))
  have secret (fails : String → Bool) := @storedSecret_congr store
    (store.insert unattendedRoleEntry (.secret (Wire.role.encode role))) fails
    (AList.lookup_insert_ne (by decide))
  generalize store.insert unattendedRoleEntry (.secret (Wire.role.encode role)) = store' at *
  constructor
  · intro same isOn
    have before := same noneFails
    rw [restart_eq, password, secret, written] at before
    rcases restart_cases store noneFails with ⟨isOff, -⟩ | ⟨phc, totpSecret, read, held, loads⟩
    · rw [isOff] at isOn
      cases isOn
    · rw [read, held, loads] at before
      exact (congrArg UnattendedAccess.role before).symm
  · intro same fails
    cases isOn : (restart store noneFails).enabled with
    | true =>
        refine restart_congr (password fails) (secret fails) ?_
        rw [storedRole_eq, @storedRole_eq store, written, same isOn]
    | false =>
        have isOn' : (restart store' noneFails).enabled = false := by
          rcases restart_cases store noneFails with ⟨-, unread⟩ | ⟨phc, totpSecret, -, -, loads⟩
          · rw [restart_eq, password, secret]
            rcases unread with absent | absent
            · rw [absent]
              rfl
            · rw [absent]
              cases storedPassword store noneFails <;> rfl
          · rw [loads] at isOn
            cases isOn
        rw [restart_eq_new isOn', restart_eq_new isOn]

/-! ## Removals that get to some of the slots -/

/-- What restarts load from a keystore whose second factor and role were removed, or the second
factor alone. -/
theorem restart_cleared_iff (roleToo : Bool)
    (password : store'.lookup unattendedPasswordEntry = store.lookup unattendedPasswordEntry)
    (secret : store'.lookup unattendedTotpEntry = none)
    (role : store'.lookup unattendedRoleEntry =
      if roleToo then none else store.lookup unattendedRoleEntry) :
    (∀ fails, restart store' fails = restart store fails) ↔
      storedPassword store noneFails = none ∨ store.lookup unattendedTotpEntry = none ∧
        (roleToo = true → storedRole store noneFails = .viewOnly) := by
  have leastRole (isToo : roleToo = true) (fails : String → Bool) :
      storedRole store' fails = .viewOnly := by
    rw [if_pos isToo] at role
    unfold storedRole Keystore.loadSecret
    rw [role]
    cases fails unattendedRoleEntry <;> rfl
  constructor
  · intro same
    cases found : storedPassword store noneFails with
    | none => exact .inl rfl
    | some phc =>
        right
        have loads : restart store' noneFails =
            { passwordHash := some phc, role := storedRole store' noneFails } := by
          have noSecret : storedSecret store' noneFails = some none := by
            unfold storedSecret Keystore.loadSecret
            rw [secret]
            rfl
          rw [restart_eq, storedPassword_congr password, found, noSecret]
        have before := (same noneFails).symm.trans loads
        rcases restart_cases store noneFails with ⟨isOff, -⟩ | ⟨phc', totpSecret, -, held, isOn⟩
        · rw [isOff] at before
          cases before
        · rw [isOn] at before
          have noSecret : totpSecret = none := congrArg UnattendedAccess.totpSecret before
          have sameRole : storedRole store noneFails = storedRole store' noneFails :=
            congrArg UnattendedAccess.role before
          refine ⟨?_, fun isToo => sameRole.trans (leastRole isToo noneFails)⟩
          rw [noSecret] at held
          unfold storedSecret at held
          cases loaded : store.loadSecret unattendedTotpEntry (noneFails unattendedTotpEntry) with
          | none =>
              rw [loaded] at held
              cases held
          | some second =>
              cases second with
              | none => exact Keystore.lookup_of_loadSecret_none loaded
              | some bytes =>
                  rw [loaded] at held
                  dsimp only at held
                  split at held <;> cases held
  · rintro (absent | ⟨empty, least⟩) fails
    · have unread : storedPassword store fails = none := by
        rcases storedPassword_fails with missing | same
        · exact missing
        · exact same.trans absent
      have unread' : storedPassword store' fails = none :=
        (storedPassword_congr password).trans unread
      rw [restart_eq, restart_eq, unread, unread']
    · refine restart_congr (storedPassword_congr password)
        (storedSecret_congr (secret.trans empty.symm)) ?_
      cases roleToo with
      | false => exact storedRole_congr role
      | true =>
          rw [leastRole rfl]
          rcases storedRole_fails with isLeast | same
          · exact isLeast.symm
          · exact (same.trans (least rfl)).symm

end UnattendedStore

namespace UnattendedSettings
open UnattendedStore

/-- The gate is as it was, and a restart loads what it would have loaded. -/
def ChangesNothing (before after : UnattendedSettings) : Prop :=
  after.unattended = before.unattended ∧
    ∀ fails, restart after.store fails = restart before.store fails

/-- A change that fails changes nothing. -/
def Undone (crates : Crates) (settings : UnattendedSettings) (answers : Answers)
    (change : Change) : Prop :=
  (settings.change crates answers change).1.isSome →
    settings.ChangesNothing (settings.change crates answers change).2

/-- The gate is off, and nothing is left of what it was set to. -/
def Blank (access : UnattendedAccess) : Prop :=
  access.passwordHash = none ∧ access.totpSecret = none ∧ access.failedAttempts = 0 ∧
    access.lockouts = 0 ∧ access.lockedUntil = none ∧ access.lastCodeStep = none

/-- The password keeps the policy and hashes. -/
def Acceptable (crates : Crates) (password : String) (salt : Bytes 16) : Prop :=
  unattendedPasswordMinBytes ≤ (asBytes password).length ∧
    (asBytes password).length ≤ unattendedPasswordMaxBytes ∧
    (crates.hashPassword (asBytes password) salt).isSome

/-- What was there is nothing that taking the change back loses, where the keystore refuses it; and
a keystore that leaves a slot torn, has written it all the same, or clears some of them, leaves what a
restart makes nothing new of. -/
def Undoable (crates : Crates) (settings : UnattendedSettings) (answers : Answers) :
    Change → Prop
  | .setPassword password salt =>
      Acceptable crates password salt → answers.stores unattendedPasswordEntry ≠ .stored →
        (settings.unattended.passwordHash = none → Blank settings.unattended) ∧
        (answers.stores unattendedPasswordEntry = .torn →
          (restart settings.store noneFails).enabled = false) ∧
        (answers.stores unattendedPasswordEntry = .unsynced →
          storedSecret settings.store noneFails = none ∨
            storedPassword settings.store noneFails =
              crates.hashPassword (asBytes password) salt)
  | .disable =>
      answers.deletes unattendedTotpEntry ∨ answers.deletes unattendedRoleEntry ∨
          answers.deletes unattendedPasswordEntry →
        Blank settings.unattended ∧
        (answers.deletes unattendedTotpEntry = false →
          storedPassword settings.store noneFails = none ∨
            settings.store.lookup unattendedTotpEntry = none ∧
              (answers.deletes unattendedRoleEntry = false →
                storedRole settings.store noneFails = .viewOnly))
  | .setTotp false _ =>
      answers.deletes unattendedTotpEntry → settings.unattended.totpSecret = none
  | .setTotp true secret =>
      settings.unattended.enabled → answers.stores unattendedTotpEntry ≠ .stored →
        settings.unattended.lastCodeStep = none ∧
        (answers.stores unattendedTotpEntry = .torn →
          (restart settings.store noneFails).enabled = false) ∧
        (answers.stores unattendedTotpEntry = .unsynced →
          storedPassword settings.store noneFails = none ∨
            storedSecret settings.store noneFails = some (some secret))
  | .setRole role =>
      (answers.stores unattendedRoleEntry = .torn →
        (restart settings.store noneFails).role = .viewOnly) ∧
      (answers.stores unattendedRoleEntry = .unsynced →
        (restart settings.store noneFails).enabled = true →
          storedRole settings.store noneFails = role)

variable {crates : Crates} {settings : UnattendedSettings} {answers : Answers}

theorem disable_eq_iff (access : UnattendedAccess) : access.disable = access ↔ Blank access := by
  obtain ⟨passwordHash, totpSecret, role, failedAttempts, lockouts, lockedUntil, lastCodeStep⟩ :=
    access
  unfold UnattendedAccess.disable Blank
  simp only [UnattendedAccess.mk.injEq, true_and]
  constructor
  · rintro ⟨rfl, rfl, rfl, rfl, rfl, rfl⟩
    exact ⟨rfl, rfl, rfl, rfl, rfl, rfl⟩
  · rintro ⟨rfl, rfl, rfl, rfl, rfl, rfl⟩
    exact ⟨rfl, rfl, rfl, rfl, rfl, rfl⟩

/-- A write that fails leaves the slot as it was, torn, or written all the same. -/
theorem storeSecret_cases (store : Keystore) (entry : String) (bytes : List UInt8)
    (outcome : StoreOutcome) :
    outcome = .stored ∧ (store.storeSecret entry bytes outcome).1 = true ∨
    outcome = .refused ∧ store.storeSecret entry bytes outcome = (false, store) ∨
    outcome = .torn ∧
      store.storeSecret entry bytes outcome = (false, store.insert entry .unreadable) ∨
    outcome = .unsynced ∧
      store.storeSecret entry bytes outcome = (false, store.insert entry (.secret bytes)) := by
  cases outcome with
  | stored => exact .inl ⟨rfl, rfl⟩
  | refused => exact .inr (.inl ⟨rfl, rfl⟩)
  | torn => exact .inr (.inr (.inl ⟨rfl, rfl⟩))
  | unsynced => exact .inr (.inr (.inr ⟨rfl, rfl⟩))

theorem undone_setRole (role : Role) :
    Undone crates settings answers (.setRole role) ↔
      Undoable crates settings answers (.setRole role) := by
  unfold Undone Undoable change onUnattendedSetRole saveRole
  dsimp only
  rcases storeSecret_cases settings.store unattendedRoleEntry
    (Wire.role.encode (settings.unattended.setRole role).role) (answers.stores unattendedRoleEntry)
    with ⟨outcome, stored⟩ | ⟨outcome, refused⟩ | ⟨outcome, torn⟩ | ⟨outcome, unsynced⟩
  · rcases result : settings.store.storeSecret unattendedRoleEntry
      (Wire.role.encode (settings.unattended.setRole role).role)
      (answers.stores unattendedRoleEntry) with ⟨ok, store⟩
    rw [result] at stored
    subst stored
    rw [outcome]
    exact iff_of_true nofun ⟨nofun, nofun⟩
  · rw [refused, outcome]
    exact iff_of_true (fun _ => ⟨rfl, fun _ => rfl⟩) ⟨nofun, nofun⟩
  · rw [torn, outcome]
    constructor
    · intro undone
      exact ⟨fun _ => restart_torn_role_iff.mp (undone rfl).2, nofun⟩
    · intro undoable _
      exact ⟨rfl, restart_torn_role_iff.mpr (undoable.1 rfl)⟩
  · rw [unsynced, outcome]
    constructor
    · intro undone
      exact ⟨nofun, fun _ => (restart_unsynced_role_iff role).mp (undone rfl).2⟩
    · intro undoable _
      exact ⟨rfl, (restart_unsynced_role_iff role).mpr (undoable.2 rfl)⟩

/-- The second factor goes: memory forgets it before the keystore is asked. -/
theorem undone_clearTotp (secret : Bytes 20) :
    Undone crates settings answers (.setTotp false secret) ↔
      Undoable crates settings answers (.setTotp false secret) := by
  have cleared : settings.unattended.clearTotpSecret = settings.unattended ↔
      settings.unattended.totpSecret = none := by
    constructor
    · intro same
      rw [← same]
      rfl
    · intro unset
      unfold UnattendedAccess.clearTotpSecret
      rw [← unset]
  have saves : saveTotp settings.store settings.unattended.clearTotpSecret answers =
      settings.store.deleteSecret unattendedTotpEntry (answers.deletes unattendedTotpEntry) := rfl
  unfold Undone Undoable change onUnattendedSetTotp
  dsimp only
  rw [saves]
  unfold Keystore.deleteSecret
  cases answers.deletes unattendedTotpEntry with
  | false => exact iff_of_true nofun nofun
  | true =>
      constructor
      · intro undone _
        exact cleared.mp (undone rfl).1
      · intro unset _
        exact ⟨cleared.mpr (unset rfl), fun _ => rfl⟩

/-- The setters that take a second factor back forget the codes that were spent. -/
theorem takenBack_totp (access : UnattendedAccess) (secret : Bytes 20) :
    (match access.totpSecret with
      | some old => (access.setTotpSecret secret).setTotpSecret old
      | none => (access.setTotpSecret secret).clearTotpSecret) =
        { access with lastCodeStep := none } := by
  obtain ⟨passwordHash, totpSecret, role, failedAttempts, lockouts, lockedUntil, lastCodeStep⟩ :=
    access
  cases totpSecret <;> rfl

/-- A second factor that is new, or another one. -/
theorem undone_setTotp (secret : Bytes 20) :
    Undone crates settings answers (.setTotp true secret) ↔
      Undoable crates settings answers (.setTotp true secret) := by
  have spent : ({ settings.unattended with lastCodeStep := none } : UnattendedAccess) =
      settings.unattended ↔ settings.unattended.lastCodeStep = none := by
    constructor
    · intro same
      rw [← same]
    · intro unspent
      rw [← unspent]
  unfold Undone Undoable change onUnattendedSetTotp
  dsimp only
  by_cases enabled : settings.unattended.enabled = true
  · rw [enabled]
    have saves : saveTotp settings.store (settings.unattended.setTotpSecret secret) answers =
        settings.store.storeSecret unattendedTotpEntry secret.toList
          (answers.stores unattendedTotpEntry) := rfl
    simp only [Bool.not_true, Bool.false_eq_true, if_false]
    have taken := takenBack_totp settings.unattended secret
    rw [saves]
    rcases storeSecret_cases settings.store unattendedTotpEntry secret.toList
      (answers.stores unattendedTotpEntry)
      with ⟨outcome, stored⟩ | ⟨outcome, refused⟩ | ⟨outcome, torn⟩ | ⟨outcome, unsynced⟩
    · rcases result : settings.store.storeSecret unattendedTotpEntry secret.toList
        (answers.stores unattendedTotpEntry) with ⟨ok, store⟩
      rw [result] at stored
      subst stored
      exact iff_of_true nofun fun _ unstored => absurd outcome unstored
    · rw [refused, outcome]
      constructor
      · intro undone _ _
        exact ⟨spent.mp (taken.symm.trans (undone rfl).1), nofun, nofun⟩
      · intro undoable _
        exact ⟨taken.trans (spent.mpr (undoable trivial nofun).1), fun _ => rfl⟩
    · rw [torn, outcome]
      constructor
      · intro undone _ _
        exact ⟨spent.mp (taken.symm.trans (undone rfl).1),
          fun _ => (restart_torn_iff restart_torn_totp).mp (undone rfl).2, nofun⟩
      · intro undoable _
        obtain ⟨unspent, off, -⟩ := undoable trivial nofun
        exact ⟨taken.trans (spent.mpr unspent), (restart_torn_iff restart_torn_totp).mpr (off rfl)⟩
    · rw [unsynced, outcome]
      constructor
      · intro undone _ _
        exact ⟨spent.mp (taken.symm.trans (undone rfl).1), nofun,
          fun _ => (restart_unsynced_totp_iff secret).mp (undone rfl).2⟩
      · intro undoable _
        obtain ⟨unspent, -, same⟩ := undoable trivial nofun
        exact ⟨taken.trans (spent.mpr unspent),
          (restart_unsynced_totp_iff secret).mpr (same rfl)⟩
  · rw [Bool.not_eq_true] at enabled
    rw [enabled]
    exact iff_of_true (fun _ => ⟨rfl, fun _ => rfl⟩) nofun

/-- A password the gate takes, or one that it refuses and stays as it is. -/
theorem setPassword_cases (access : UnattendedAccess) (password : String) (salt : Bytes 16) :
    (Acceptable crates password salt ∧ ∃ phc,
      crates.hashPassword (asBytes password) salt = some phc ∧
      access.setPassword crates password salt =
        (.ok (), { access with passwordHash := some phc })) ∨
    (¬Acceptable crates password salt ∧ ∃ error, access.setPassword crates password salt =
      (.error error, access)) := by
  unfold UnattendedAccess.setPassword Acceptable
  by_cases outside : (asBytes password).length < unattendedPasswordMinBytes ∨
      (asBytes password).length > unattendedPasswordMaxBytes
  · right
    refine ⟨?_, _, if_pos (by simpa using outside)⟩
    rintro ⟨least, most, -⟩
    rcases outside with short | long
    · exact absurd short (not_lt.mpr least)
    · exact absurd long (not_lt.mpr most)
  · rw [if_neg (by simpa using outside)]
    obtain ⟨least, most⟩ := not_or.mp outside
    cases hashed : crates.hashPassword (asBytes password) salt with
    | none => exact .inr ⟨fun accepted => (nomatch accepted.2.2), _, rfl⟩
    | some phc => exact .inl ⟨⟨not_lt.mp least, not_lt.mp most, rfl⟩, phc, rfl, rfl⟩

/-- What takes a password back: the hash that was there, or none and nothing else either. -/
theorem takenBack_password (access : UnattendedAccess) (phc : String) :
    (match access.passwordHash with
      | some old => ({ access with passwordHash := some phc } : UnattendedAccess).restorePasswordHash
          old
      | none => ({ access with passwordHash := some phc } : UnattendedAccess).disable) = access ↔
      (access.passwordHash = none → Blank access) := by
  cases previous : access.passwordHash with
  | some old =>
      refine iff_of_true ?_ nofun
      show ({ access with passwordHash := some old } : UnattendedAccess) = access
      rw [← previous]
  | none =>
      rw [forall_prop_of_true rfl]
      exact disable_eq_iff access

theorem undone_setPassword (password : String) (salt : Bytes 16) :
    Undone crates settings answers (.setPassword password salt) ↔
      Undoable crates settings answers (.setPassword password salt) := by
  unfold Undone Undoable change onUnattendedSetPassword
  dsimp only
  rcases @setPassword_cases crates settings.unattended password salt with
    ⟨accepted, phc, hashed, takes⟩ | ⟨refused, error, takes⟩
  · have taken := takenBack_password settings.unattended phc
    have saves : savePassword settings.store
        { settings.unattended with passwordHash := some phc } answers =
        settings.store.storeSecret unattendedPasswordEntry (asBytes phc)
          (answers.stores unattendedPasswordEntry) := rfl
    rw [takes]
    dsimp only
    rw [saves]
    rcases storeSecret_cases settings.store unattendedPasswordEntry (asBytes phc)
      (answers.stores unattendedPasswordEntry)
      with ⟨outcome, stored⟩ | ⟨outcome, refused⟩ | ⟨outcome, torn⟩ | ⟨outcome, unsynced⟩
    · rcases result : settings.store.storeSecret unattendedPasswordEntry (asBytes phc)
        (answers.stores unattendedPasswordEntry) with ⟨ok, store⟩
      rw [result] at stored
      subst stored
      exact iff_of_true nofun fun _ unstored => absurd outcome unstored
    · rw [refused, outcome]
      constructor
      · intro undone _ _
        exact ⟨taken.mp (undone rfl).1, nofun, nofun⟩
      · intro undoable _
        exact ⟨taken.mpr (undoable accepted nofun).1, fun _ => rfl⟩
    · rw [torn, outcome]
      constructor
      · intro undone _ _
        exact ⟨taken.mp (undone rfl).1,
          fun _ => (restart_torn_iff restart_torn_password).mp (undone rfl).2, nofun⟩
      · intro undoable _
        obtain ⟨blank, off, -⟩ := undoable accepted nofun
        exact ⟨taken.mpr blank, (restart_torn_iff restart_torn_password).mpr (off rfl)⟩
    · rw [unsynced, outcome]
      constructor
      · intro undone _ _
        exact ⟨taken.mp (undone rfl).1, nofun,
          fun _ => hashed ▸ (restart_unsynced_password_iff phc).mp (undone rfl).2⟩
      · intro undoable _
        obtain ⟨blank, -, same⟩ := undoable accepted nofun
        exact ⟨taken.mpr blank, (restart_unsynced_password_iff phc).mpr (hashed ▸ same rfl)⟩
  · rw [takes]
    exact iff_of_true (fun _ => ⟨rfl, fun _ => rfl⟩) fun accepted => absurd accepted refused

/-- Turning it off: memory forgets everything before the keystore is asked. -/
theorem undone_disable :
    Undone crates settings answers .disable ↔ Undoable crates settings answers .disable := by
  have blank := disable_eq_iff settings.unattended
  unfold Undone Undoable change onUnattendedDisable clear Keystore.deleteSecret
  dsimp only
  cases totp : answers.deletes unattendedTotpEntry with
  | true =>
      constructor
      · intro undone _
        exact ⟨blank.mp (undone rfl).1, nofun⟩
      · intro undoable _
        exact ⟨blank.mpr (undoable (.inl rfl)).1, fun _ => rfl⟩
  | false =>
      have secret : (settings.store.erase unattendedTotpEntry).lookup unattendedTotpEntry = none :=
        AList.lookup_erase _ _
      cases role : answers.deletes unattendedRoleEntry with
      | true =>
          have cleared := restart_cleared_iff false
            (AList.lookup_erase_ne (by decide)) secret (AList.lookup_erase_ne (by decide))
          constructor
          · intro undone _
            refine ⟨blank.mp (undone rfl).1, fun _ => ?_⟩
            rcases cleared.mp (undone rfl).2 with absent | ⟨unset, -⟩
            · exact .inl absent
            · exact .inr ⟨unset, nofun⟩
          · intro undoable _
            obtain ⟨isBlank, slots⟩ := undoable (.inr (.inl rfl))
            refine ⟨blank.mpr isBlank, cleared.mpr ?_⟩
            rcases slots rfl with absent | ⟨unset, -⟩
            · exact .inl absent
            · exact .inr ⟨unset, nofun⟩
      | false =>
          cases password : answers.deletes unattendedPasswordEntry with
          | false =>
              refine iff_of_true nofun ?_
              rintro (totp | role | password) <;> contradiction
          | true =>
              have cleared := @restart_cleared_iff settings.store
                ((settings.store.erase unattendedTotpEntry).erase unattendedRoleEntry) true
                ((AList.lookup_erase_ne (by decide)).trans (AList.lookup_erase_ne (by decide)))
                ((AList.lookup_erase_ne (by decide)).trans secret) (AList.lookup_erase _ _)
              constructor
              · intro undone _
                refine ⟨blank.mp (undone rfl).1, fun _ => ?_⟩
                rcases cleared.mp (undone rfl).2 with absent | ⟨unset, least⟩
                · exact .inl absent
                · exact .inr ⟨unset, fun _ => least rfl⟩
              · intro undoable _
                obtain ⟨isBlank, slots⟩ := undoable (.inr (.inr rfl))
                refine ⟨blank.mpr isBlank, cleared.mpr ?_⟩
                rcases slots rfl with absent | ⟨unset, least⟩
                · exact .inl absent
                · exact .inr ⟨unset, fun _ => least rfl⟩

/-- A failed change changes nothing exactly where it can be undone. -/
theorem failed_change_iff (crates : Crates) (settings : UnattendedSettings) (answers : Answers)
    (change : Change) :
    Undone crates settings answers change ↔ Undoable crates settings answers change := by
  cases change with
  | setPassword password salt => exact undone_setPassword password salt
  | disable => exact undone_disable
  | setTotp enabled secret =>
      cases enabled with
      | false => exact undone_clearTotp secret
      | true => exact undone_setTotp secret
  | setRole role => exact undone_setRole role

/-- A keystore that refuses every write and every removal. -/
def sampleRefusing : Answers where
  stores _ := .refused
  deletes _ := true

/-- A device with a password and a second factor, whose code of step 7 is spent. -/
def sampleSpent : UnattendedSettings where
  unattended :=
    { passwordHash := some "phc", totpSecret := some (List.Vector.replicate 20 1)
      lastCodeStep := some 7 }
  store := (AList.insert unattendedPasswordEntry (.secret (asBytes "phc")) ∅).insert
    unattendedTotpEntry (.secret (List.replicate 20 1))

/-- Another second factor that is not saved makes the spent code good again. -/
theorem refused_factor_forgets_spent_code :
    ¬ ∀ (crates : Crates) (settings : UnattendedSettings) (answers : Answers) (change : Change),
      Undone crates settings answers change := by
  intro all
  have undone := all sampleCrates sampleSpent sampleRefusing
    (.setTotp true (List.Vector.replicate 20 2)) rfl
  have forgotten : (sampleSpent.change sampleCrates sampleRefusing
      (.setTotp true (List.Vector.replicate 20 2))).2.unattended.lastCodeStep = none := rfl
  rw [undone.1] at forgotten
  cases forgotten

end UnattendedSettings

end Lumepeer.Runtime
