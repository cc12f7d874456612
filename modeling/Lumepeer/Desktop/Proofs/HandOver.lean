import Lumepeer.Desktop.GuestStores
import Lumepeer.Lib.Run

/-!
# The guest stores are not lost on the way

`Sound` holds what a run of hand-overs keeps, relative to the stores it began
with: the profile only grows, by rows and passwords of the admin tree; the admin
tree only shrinks, and only once the profile covers it; and every confirmation
under way was sent by a client whose profile covers it. The list has a bound and
its file is written in place, so an adoption keeps this only while the rows fit
and a write that stops halfway has nothing to destroy.
-/

namespace Lumepeer.Desktop.GuestStores
open Lumepeer.Lib Lumepeer.Net Lumepeer.Runtime.HistoryFile

namespace State

/-- The rows of the list in the admin tree. -/
def adminRows (s : State) : List HistoryEntry :=
  match s.guest with
  | none => []
  | some tree => openEntries tree.history

/-- The slot of an entry in the admin tree. -/
def adminSlot (s : State) (entry : String) : Option Slot :=
  match s.guest with
  | none => none
  | some tree => tree.passwords.lookup entry

/-- The rows of the list in the profile. -/
def profileRows (s : State) : List HistoryEntry := openEntries s.profile.history

/-- The slot of an entry in the profile. -/
def profileSlot (s : State) (entry : String) : Option Slot := s.profile.remembered.lookup entry

/-- The profile has a password under the entry that can be read. -/
def HasPassword (s : State) (entry : String) : Prop :=
  ∃ bytes, s.profileSlot entry = some (.secret bytes)

/-- The stores before the first client start. -/
def initial (guest : Option InAdminTree) (profile : Profile) : State := { guest, profile }

end State

open State

/-- Every row and every password that was in one of the two places is still in one of them, and the
profile's rows and passwords are as they were. -/
structure Lossless (before after : State) : Prop where
  profileRows : ∀ row ∈ before.profileRows, row ∈ after.profileRows
  profileValue : ∀ row ∈ after.profileRows, Lists before.profileRows row.peerLabel →
    row ∈ before.profileRows
  adminRows : ∀ label row, ¬ Lists before.profileRows label →
    rowOf before.adminRows label = some row → row ∈ after.profileRows ∨ row ∈ after.adminRows
  profileSlots : ∀ entry slot, before.profileSlot entry = some slot →
    after.profileSlot entry = some slot
  adminSlots : ∀ entry slot, ¬ before.HasPassword entry → before.adminSlot entry = some slot →
    after.profileSlot entry = some slot ∨ after.adminSlot entry = some slot

/-- The profile's list on disk has every host of the admin tree's, and its keystore a password for
every one that is remembered there. -/
def AllKept (s : State) : Prop :=
  ∀ row ∈ s.adminRows, Lists s.profileRows row.peerLabel ∧
    (s.adminSlot (entryName row.peerLabel) ≠ none → s.HasPassword (entryName row.peerLabel))

/-- An adoption is safe: the hosts handed over are listed already, or they fit the list that is
written, a write that is refused does not leave a list of the length looked for, and one that stops
halfway meets an empty list. -/
def Fits (s : State) (op : Op) : Prop :=
  match op, s.client with
  | .adopt outcome, .keeping _ hosts [] _ => Safe s.profileRows hosts outcome
  | _, _ => True

instance (s : State) (op : Op) : Decidable (Fits s op) := by
  unfold Fits
  split <;> infer_instance

/-! ## What a run keeps -/

variable {start s s' : State}

/-- The profile covers what the admin tree had at the start. -/
def Covered (start s : State) : Prop :=
  ∀ row ∈ start.adminRows, Lists s.profileRows row.peerLabel ∧
    (start.adminSlot (entryName row.peerLabel) ≠ none → s.HasPassword (entryName row.peerLabel))

/-- Stores handed over hold what the admin tree had at the start and the profile has not. -/
structure Handed (start s : State) (hosts : List HistoryEntry)
    (passwords : List RememberedPassword) : Prop where
  hosts : hosts = start.adminRows
  values : ∀ one ∈ passwords,
    start.adminSlot (entryName one.host) = some (.secret (asBytes one.password))
  all : ∀ row ∈ start.adminRows, start.adminSlot (entryName row.peerLabel) ≠ none →
    s.HasPassword (entryName row.peerLabel) ∨ ∃ one ∈ passwords, one.host = row.peerLabel

/-- What the profile holds, relative to the start. -/
structure ProfileKept (start s : State) : Prop where
  rows : ∀ row ∈ start.profileRows, row ∈ s.profileRows
  rowOrigin : ∀ row ∈ s.profileRows, row ∈ start.profileRows ∨
    ¬ Lists start.profileRows row.peerLabel ∧ rowOf start.adminRows row.peerLabel = some row
  slots : ∀ entry slot, start.profileSlot entry = some slot → s.profileSlot entry = some slot
  secretOrigin : ∀ entry bytes, s.profileSlot entry = some (.secret bytes) →
    start.profileSlot entry = some (.secret bytes) ∨ start.adminSlot entry = some (.secret bytes)

/-- What the admin tree holds, relative to the start. -/
structure AdminKept (start s : State) : Prop where
  rows : s.adminRows = start.adminRows ∨ s.adminRows = [] ∧ Covered start s
  slots : ∀ entry, s.adminSlot entry = start.adminSlot entry ∨
    s.adminSlot entry = none ∧ Covered start s ∧
      ∃ row ∈ start.adminRows, entry = entryName row.peerLabel

/-- What is under way on a connection. -/
structure Carries (start s : State) (held : Connection) : Prop where
  stores : ∀ stores, .guestStores stores ∈ held.replies →
    stores = ⟨[], []⟩ ∨ Handed start s stores.hosts stores.passwords
  taken : .guestStoresTaken ∈ held.requests → Covered start s

/-- What a running `take` has in hand. -/
def Holds (start s : State) : Client → Prop
  | .idle | .asking .. => True
  | .keeping _ hosts rest _ => Handed start s hosts rest
  | .confirming .. => Covered start s

/-- What every state of a run of hand-overs keeps. -/
structure Sound (start s : State) : Prop where
  profile : ProfileKept start s
  admin : AdminKept start s
  carries : ∀ conn held, s.connections.lookup conn = some held → Carries start s held
  holds : Holds start s s.client

/-! ## The profile only grows -/

/-- No row and no readable password of the profile is gone. -/
structure Grows (s s' : State) : Prop where
  rows : ∀ row ∈ s.profileRows, row ∈ s'.profileRows
  secrets : ∀ entry, s.HasPassword entry → s'.HasPassword entry

theorem Grows.of_profile_eq (same : s'.profile = s.profile) : Grows s s' where
  rows row member := by
    rw [profileRows, same]
    exact member
  secrets entry has := by
    rw [HasPassword, profileSlot, same]
    exact has

theorem Covered.mono (grows : Grows s s') (covered : Covered start s) : Covered start s' := by
  intro row member
  obtain ⟨⟨mine, isMine, same⟩, password⟩ := covered row member
  exact ⟨⟨mine, grows.rows mine isMine, same⟩, fun there => grows.secrets _ (password there)⟩

theorem Handed.mono {hosts : List HistoryEntry} {passwords : List RememberedPassword}
    (grows : Grows s s') (handed : Handed start s hosts passwords) :
    Handed start s' hosts passwords where
  hosts := handed.hosts
  values := handed.values
  all row member there := (handed.all row member there).imp_left (grows.secrets _)

theorem Carries.mono {held : Connection} (grows : Grows s s') (carries : Carries start s held) :
    Carries start s' held where
  stores stores member := (carries.stores stores member).imp_right (Handed.mono grows)
  taken member := (carries.taken member).mono grows

theorem Holds.mono {client : Client} (grows : Grows s s') (holds : Holds start s client) :
    Holds start s' client := by
  cases client with
  | idle | asking => trivial
  | keeping => exact Handed.mono grows holds
  | confirming => exact Covered.mono grows holds

theorem AdminKept.mono (grows : Grows s s') (same : s'.guest = s.guest)
    (admin : AdminKept start s) : AdminKept start s' where
  rows := by
    rw [adminRows, same]
    exact admin.rows.imp_right (And.imp_right (Covered.mono grows))
  slots entry := by
    rw [adminSlot, same]
    exact (admin.slots entry).imp_right (And.imp_right (And.imp_left (Covered.mono grows)))

theorem ProfileKept.of_profile_eq (same : s'.profile = s.profile) (kept : ProfileKept start s) :
    ProfileKept start s' := by
  have sameRows : s'.profileRows = s.profileRows := by rw [profileRows, same]; rfl
  have sameSlot : s'.profileSlot = s.profileSlot := by
    funext entry
    rw [profileSlot, same]
    rfl
  obtain ⟨rows, rowOrigin, slots, secretOrigin⟩ := kept
  exact ⟨by rwa [sameRows], by rwa [sameRows], by rwa [sameSlot], by rwa [sameSlot]⟩

/-- A step that changes neither place keeps what they hold. -/
theorem Sound.of_places_eq (sound : Sound start s) (guest : s'.guest = s.guest)
    (profile : s'.profile = s.profile)
    (carries : ∀ conn held, s'.connections.lookup conn = some held → Carries start s held)
    (holds : Holds start s s'.client) : Sound start s' :=
  have grows := Grows.of_profile_eq profile
  { profile := sound.profile.of_profile_eq profile
    admin := sound.admin.mono grows guest
    carries := fun conn held found => (carries conn held found).mono grows
    holds := holds.mono grows }

/-- `take` returns. -/
theorem Sound.finish (sound : Sound start s) (moved : List String) :
    Sound start (s.finish moved).2 :=
  sound.of_places_eq rfl rfl sound.carries trivial

/-! ## The channel -/

/-- A request on a new connection. -/
theorem Sound.carries_connect (sound : Sound start s) {request : Ask}
    (taken : request = .guestStoresTaken → Covered start s) {conn : Nat} {held : Connection}
    (found : (s.connect request).connections.lookup conn = some held) : Carries start s held := by
  simp only [State.connect, HashMap.lookup_insert_eq] at found
  split at found
  · cases found
    refine ⟨fun stores member => (List.not_mem_nil member).elim, fun member => taken ?_⟩
    exact (List.mem_singleton.mp member).symm
  · exact sound.carries conn held found

/-- A request on a connection that is held. -/
theorem Sound.carries_send (sound : Sound start s) {target : Nat} {request : Ask}
    (taken : request = .guestStoresTaken → Covered start s) {conn : Nat} {held : Connection}
    (found : (s.send target request).connections.lookup conn = some held) :
    Carries start s held := by
  simp only [State.send, HashMap.lookup_modify_eq] at found
  split at found
  · obtain ⟨old, isOld, rfl⟩ := Option.map_eq_some_iff.mp found
    have carries := sound.carries target old isOld
    refine ⟨carries.stores, fun member => ?_⟩
    rcases List.mem_append.mp member with earlier | new
    · exact carries.taken earlier
    · exact taken (List.mem_singleton.mp new).symm
  · exact sound.carries conn held found

theorem sound_start (sound : Sound start s) (connects : Bool) :
    Sound start (s.onStart connects).2 := by
  unfold onStart
  split
  · exact sound.of_places_eq rfl rfl (fun _ _ => sound.carries_connect (by rintro ⟨⟩)) trivial
  · exact sound.finish []

theorem sound_drop (sound : Sound start s) (reconnects : Bool) :
    Sound start (s.onDrop reconnects).2 := by
  have holds := sound.holds
  unfold onDrop
  split
  · split
    · exact sound.of_places_eq rfl rfl (fun _ _ => sound.carries_connect (by rintro ⟨⟩)) trivial
    · exact sound.finish []
  · rename_i isClient
    rw [isClient] at holds
    split
    · exact sound.of_places_eq rfl rfl (fun _ _ => sound.carries_connect fun _ => holds) holds
    · exact sound.finish []
  · exact sound.finish []
  · exact sound.finish []
  · exact sound
  · exact sound

/-- The reply that is taken, and what is left. -/
theorem takeReply_eq {conn : Nat} {reply : Answer} (taken : s.takeReply conn = some (reply, s')) :
    ∃ held replies, s.connections.lookup conn = some held ∧ held.replies = reply :: replies ∧
      s' = { s with connections := s.connections.insert conn { held with replies } } := by
  unfold takeReply at taken
  split at taken
  · cases taken
  · rename_i held found
    split at taken
    · cases taken
    · rename_i reply replies isReplies
      cases taken
      exact ⟨held, replies, found, isReplies, rfl⟩

theorem Sound.takeReply (sound : Sound start s) {conn : Nat} {reply : Answer}
    (taken : s.takeReply conn = some (reply, s')) :
    Sound start s' ∧ s'.client = s.client ∧
      ∀ stores, reply = .guestStores stores →
        stores = ⟨[], []⟩ ∨ Handed start s' stores.hosts stores.passwords := by
  obtain ⟨held, replies, found, isReplies, rfl⟩ := takeReply_eq taken
  have carries := sound.carries conn held found
  have rest : Sound start
      { s with connections := s.connections.insert conn { held with replies } } := by
    refine sound.of_places_eq rfl rfl ?_ sound.holds
    intro other held' found'
    simp only [HashMap.lookup_insert_eq] at found'
    split at found'
    · cases found'
      refine ⟨fun stores member => carries.stores stores ?_, carries.taken⟩
      simp [isReplies, member]
    · exact sound.carries other held' found'
  refine ⟨rest, rfl, fun stores isStores => ?_⟩
  have handed := carries.stores stores (by simp [isReplies, isStores])
  exact handed.imp_right (Handed.mono (Grows.of_profile_eq (s := s) rfl))

theorem sound_receive (sound : Sound start s) : Sound start s.onReceive.2 := by
  unfold onReceive
  split
  · split
    · exact sound
    · rename_i conn _ _ _ reply s' taken
      obtain ⟨sound', -, handed⟩ := sound.takeReply taken
      cases reply with
      | done | refused => exact sound'.finish []
      | guestStores stores =>
          simp only [onStores]
          split
          · exact sound'.finish []
          · rename_i filled
            rcases handed stores rfl with rfl | handed
            · exact absurd rfl filled
            · exact sound'.of_places_eq rfl rfl sound'.carries handed
  · split
    · exact sound
    · rename_i conn _ moved _ _ reply s' taken
      have sound' := (sound.takeReply taken).1
      cases reply <;> exact sound'.finish _
  · exact sound
  · exact sound

/-! ## The session host -/

/-- What a hand-over reads out of the admin tree. -/
theorem collectPasswords_eq {store : Keystore} {entries : List HistoryEntry} {faults : List Bool}
    {passwords : List RememberedPassword}
    (collected : collectPasswords store entries faults = some passwords) :
    (∀ one ∈ passwords,
      store.lookup (entryName one.host) = some (.secret (asBytes one.password))) ∧
    ∀ row ∈ entries, store.lookup (entryName row.peerLabel) ≠ none →
      ∃ one ∈ passwords, one.host = row.peerLabel := by
  induction entries generalizing faults passwords with
  | nil =>
      cases collected
      exact ⟨by simp, by simp⟩
  | cons entry entries ih =>
      rw [collectPasswords] at collected
      cases loaded : loadPassword store entry.peerLabel (faults.headD false) with
      | none =>
          rw [loaded] at collected
          cases collected
      | some answer =>
          rw [loaded] at collected
          unfold loadPassword at loaded
          cases slot : store.loadSecret (entryName entry.peerLabel) (faults.headD false) with
          | none =>
              rw [slot] at loaded
              cases loaded
          | some bytes =>
              rw [slot] at loaded
              cases bytes with
              | none =>
                  cases loaded
                  obtain ⟨values, all⟩ := ih collected
                  refine ⟨values, fun row member there => ?_⟩
                  rcases List.mem_cons.mp member with rfl | later
                  · exact absurd (Keystore.lookup_of_loadSecret_none slot) there
                  · exact all row later there
              | some bytes =>
                  have isSlot := Keystore.lookup_of_loadSecret slot
                  cases text : fromUtf8 bytes with
                  | none => simp [text] at loaded
                  | some password =>
                      simp only [text, Option.some.injEq] at loaded
                      subst loaded
                      obtain ⟨more, isMore, rfl⟩ := Option.map_eq_some_iff.mp collected
                      obtain ⟨values, all⟩ := ih isMore
                      refine ⟨fun one member => ?_, fun row member there => ?_⟩
                      · rcases List.mem_cons.mp member with rfl | later
                        · rw [asBytes_of_fromUtf8 text]
                          exact isSlot
                        · exact values one later
                      · rcases List.mem_cons.mp member with rfl | later
                        · exact ⟨_, List.mem_cons_self, rfl⟩
                        · obtain ⟨one, isOne, same⟩ := all row later there
                          exact ⟨one, List.mem_cons_of_mem _ isOne, same⟩

/-- What is handed over is nothing, or what the admin tree had at the start and the profile has
not. -/
theorem Sound.handed (sound : Sound start s) {faults : List Bool} {stores : Stores}
    (read : guestStores s.guest faults = .guestStores stores) :
    stores = ⟨[], []⟩ ∨ Handed start s stores.hosts stores.passwords := by
  unfold guestStores at read
  cases isGuest : s.guest with
  | none =>
      rw [isGuest] at read
      cases read
      exact .inl rfl
  | some tree =>
      rw [isGuest] at read
      simp only at read
      cases collected : tree.collect faults with
      | none =>
          rw [collected] at read
          cases read
      | some taken =>
          rw [collected] at read
          cases read
          obtain ⟨passwords, isPasswords, rfl⟩ := Option.map_eq_some_iff.mp collected
          have rows : openEntries tree.history = s.adminRows := by
            rw [adminRows, isGuest]
          have slots (entry : String) : tree.passwords.lookup entry = s.adminSlot entry := by
            rw [adminSlot, isGuest]
          obtain ⟨values, all⟩ := collectPasswords_eq isPasswords
          rcases sound.admin.rows with same | ⟨gone, -⟩
          · refine .inr ⟨rows.trans same, fun one member => ?_, fun row member there => ?_⟩
            · have isSlot := values one member
              rw [slots] at isSlot
              rcases sound.admin.slots (entryName one.host) with kept | ⟨none', -⟩
              · rw [← kept, isSlot]
              · rw [none'] at isSlot
                cases isSlot
            · rcases sound.admin.slots (entryName row.peerLabel) with kept | ⟨-, covered, -⟩
              · refine .inr (all row (by rwa [rows, same]) ?_)
                rw [slots, kept]
                exact there
              · exact .inl ((covered row member).2 there)
          · rw [rows, gone] at isPasswords ⊢
            cases isPasswords
            exact .inl rfl

/-- Forgetting passwords empties slots of listed hosts only. -/
theorem lookup_forgetAll (store : Keystore) (entries : List HistoryEntry) (faults : List Bool)
    (entry : String) :
    (forgetAll store entries faults).2.lookup entry = store.lookup entry ∨
      (forgetAll store entries faults).2.lookup entry = none ∧
        ∃ row ∈ entries, entry = entryName row.peerLabel := by
  induction entries generalizing store faults with
  | nil => exact .inl rfl
  | cons head entries ih =>
      have one : (store.deleteSecret (entryName head.peerLabel) (faults.headD false)).2.lookup entry =
          store.lookup entry ∨ entry = entryName head.peerLabel ∧
            (store.deleteSecret (entryName head.peerLabel) (faults.headD false)).2.lookup entry =
              none := Keystore.lookup_deleteSecret entry
      rw [forgetAll]
      cases deleted : store.deleteSecret (entryName head.peerLabel) (faults.headD false) with
      | mk ok rest =>
          rw [deleted] at one
          have isHead (gone : entry = entryName head.peerLabel ∧ rest.lookup entry = none) :
              ∃ row ∈ head :: entries, entry = entryName row.peerLabel :=
            ⟨head, List.mem_cons_self, gone.1⟩
          cases ok with
          | false => exact one.imp_right fun gone => ⟨gone.2, isHead gone⟩
          | true =>
              rcases ih rest faults.tail with same | ⟨gone, row, member, isRow⟩
              · rcases one with kept | gone
                · exact .inl (same.trans kept)
                · exact .inr ⟨same.trans gone.2, isHead gone⟩
              · exact .inr ⟨gone, row, List.mem_cons_of_mem _ member, isRow⟩

/-- A removal takes the whole list or none of it. -/
theorem rows_remove (tree : InAdminTree) (faults : List Bool) (unlinkFails : Bool) :
    openEntries (tree.remove faults unlinkFails).2.history = openEntries tree.history ∨
      openEntries (tree.remove faults unlinkFails).2.history = [] := by
  unfold InAdminTree.remove
  split
  · exact .inl rfl
  · split
    · exact .inl rfl
    · exact .inl rfl
    · split
      · exact .inl rfl
      · exact .inr rfl

theorem passwords_remove (tree : InAdminTree) (faults : List Bool) (unlinkFails : Bool) :
    (tree.remove faults unlinkFails).2.passwords =
      (forgetAll tree.passwords (openEntries tree.history) faults).2 := by
  unfold InAdminTree.remove
  split
  · rename_i forgot
    rw [forgot]
  · rename_i forgot
    rw [forgot]
    split
    · rfl
    · rfl
    · split <;> rfl

theorem guestStoresTaken_eq (guest : Option InAdminTree) (faults : List Bool) (unlinkFails : Bool) :
    (guestStoresTaken guest faults unlinkFails).2 =
      guest.map fun tree => (tree.remove faults unlinkFails).2 := by
  cases guest with
  | none => rfl
  | some tree =>
      simp only [guestStoresTaken, Option.map_some]
      split <;> simp_all

theorem guestStoresTaken_ne (guest : Option InAdminTree) (faults : List Bool) (unlinkFails : Bool)
    (stores : Stores) : (guestStoresTaken guest faults unlinkFails).1 ≠ .guestStores stores := by
  cases guest with
  | none => nofun
  | some tree =>
      simp only [guestStoresTaken]
      split <;> nofun

/-- A confirmed hand-over is deleted from the admin tree, in whole or in part. -/
theorem AdminKept.remove (admin : AdminKept start s) (covered : Covered start s)
    (faults : List Bool) (unlinkFails : Bool) :
    AdminKept start { s with guest := (guestStoresTaken s.guest faults unlinkFails).2 } := by
  cases isGuest : s.guest with
  | none =>
      have same : ({ s with guest := none } : State) = s := by rw [← isGuest]
      rw [guestStoresTaken_eq, Option.map_none, same]
      exact admin
  | some tree =>
      rw [guestStoresTaken_eq, Option.map_some]
      have isRows : s.adminRows = openEntries tree.history := by rw [adminRows, isGuest]
      have isSlot (entry : String) : s.adminSlot entry = tree.passwords.lookup entry := by
        rw [adminSlot, isGuest]
      constructor
      · rcases rows_remove tree faults unlinkFails with same | gone
        · have rows := admin.rows
          rw [isRows, ← same] at rows
          exact rows
        · exact .inr ⟨gone, covered⟩
      · intro entry
        have kept := lookup_forgetAll tree.passwords (openEntries tree.history) faults entry
        rw [← passwords_remove tree faults unlinkFails] at kept
        rcases kept with same | ⟨gone, row, member, isRow⟩
        · have slots := admin.slots entry
          rw [isSlot, ← same] at slots
          exact slots
        · rw [← isRows] at member
          rcases admin.rows with rows | ⟨none', -⟩
          · exact .inr ⟨gone, covered, row, by rwa [← rows], isRow⟩
          · rw [none'] at member
            cases member

theorem Sound.remove (sound : Sound start s) (covered : Covered start s) (faults : List Bool)
    (unlinkFails : Bool) :
    Sound start { s with guest := (guestStoresTaken s.guest faults unlinkFails).2 } :=
  have grows : Grows s { s with guest := (guestStoresTaken s.guest faults unlinkFails).2 } :=
    Grows.of_profile_eq rfl
  { profile := sound.profile.of_profile_eq (s := s) rfl
    admin := sound.admin.remove covered faults unlinkFails
    carries := fun conn held found => (sound.carries conn held found).mono grows
    holds := sound.holds.mono grows }

theorem sound_serve (sound : Sound start s) (conn : Nat) (faults : List Bool)
    (unlinkFails sent : Bool) : Sound start (s.onServe conn faults unlinkFails sent) := by
  unfold onServe
  split
  · exact sound
  · rename_i held found
    have carries := sound.carries conn held found
    -- What becomes of the connection: the reply is on it, or it ended.
    have served {after : Connection} (good : Carries start s after) :
        ∀ other held', (if sent then s.connections.insert conn after
          else s.connections.erase conn).lookup other = some held' → Carries start s held' := by
      intro other held' found'
      split at found'
      · rw [HashMap.lookup_insert_eq] at found'
        split at found'
        · cases found'
          exact good
        · exact sound.carries other held' found'
      · rw [HashMap.lookup_erase_eq] at found'
        split at found'
        · cases found'
        · exact sound.carries other held' found'
    split
    · exact sound
    · rename_i requests isRequests
      refine sound.of_places_eq rfl rfl (served ⟨?_, ?_⟩) sound.holds
      · intro stores member
        rcases List.mem_append.mp member with earlier | new
        · exact carries.stores stores earlier
        · exact sound.handed (List.mem_singleton.mp new).symm
      · intro member
        exact carries.taken (by simp [isRequests, member])
    · rename_i requests isRequests
      have covered := carries.taken (by simp [isRequests])
      -- No stores are in the reply, and the requests are those that were behind this one.
      have after {reply : Answer} (plain : ∀ stores, reply ≠ .guestStores stores) :
          Carries start s { held with requests, replies := held.replies ++ [reply] } := by
        refine ⟨fun stores member => ?_, fun member => carries.taken (by simp [isRequests, member])⟩
        rcases List.mem_append.mp member with earlier | new
        · exact carries.stores stores earlier
        · exact absurd (List.mem_singleton.mp new).symm (plain stores)
      have answered : (∀ stores, (if held.handed then guestStoresTaken s.guest faults unlinkFails
          else (.refused, s.guest)).1 ≠ .guestStores stores) ∧
          Sound start { s with guest := (if held.handed then
            guestStoresTaken s.guest faults unlinkFails else (.refused, s.guest)).2 } := by
        split
        · exact ⟨guestStoresTaken_ne _ _ _, sound.remove covered faults unlinkFails⟩
        · exact ⟨fun _ => by rintro ⟨⟩, sound⟩
      obtain ⟨plain, sound'⟩ := answered
      refine sound'.of_places_eq rfl rfl ?_ sound'.holds
      intro other held' found'
      exact (served (after plain) other held' found').mono (Grows.of_profile_eq (s := s) rfl)

/-! ## The client -/

/-- What a password kept in an empty slot makes of the profile. -/
theorem ProfileKept.store (kept : ProfileKept start s) {entry : String} {bytes : List UInt8}
    (empty : s.profileSlot entry = none) (value : start.adminSlot entry = some (.secret bytes))
    (outcome : StoreOutcome) :
    ProfileKept start { s with profile := { s.profile with
      remembered := (s.profile.remembered.storeSecret entry bytes outcome).2 } } where
  rows := kept.rows
  rowOrigin := kept.rowOrigin
  slots other slot there := by
    have old := kept.slots other slot there
    have elsewhere : other ≠ entry := by
      rintro rfl
      rw [empty] at old
      cases old
    exact (Keystore.lookup_storeSecret other elsewhere).trans old
  secretOrigin other secret found := by
    by_cases same : other = entry
    · subst same
      cases outcome with
      | refused => exact kept.secretOrigin other secret found
      | stored | unsynced =>
          have written : some (Slot.secret bytes) = some (.secret secret) :=
            (AList.lookup_insert s.profile.remembered).symm.trans found
          cases written
          exact .inr value
      | torn =>
          have written : some Slot.unreadable = some (.secret secret) :=
            (AList.lookup_insert s.profile.remembered).symm.trans found
          cases written
    · exact kept.secretOrigin other secret
        ((Keystore.lookup_storeSecret other same).symm.trans found)

theorem Grows.store {entry : String} {bytes : List UInt8} (empty : s.profileSlot entry = none)
    (outcome : StoreOutcome) :
    Grows s { s with profile := { s.profile with
      remembered := (s.profile.remembered.storeSecret entry bytes outcome).2 } } where
  rows row member := member
  secrets other := by
    rintro ⟨secret, found⟩
    have elsewhere : other ≠ entry := by
      rintro rfl
      rw [empty] at found
      cases found
    exact ⟨secret, (Keystore.lookup_storeSecret other elsewhere).trans found⟩

/-- A password kept leaves the rest to be kept. -/
theorem Handed.tail {hosts : List HistoryEntry} {one : RememberedPassword}
    {rest : List RememberedPassword} (handed : Handed start s hosts (one :: rest))
    (has : s.HasPassword (entryName one.host)) : Handed start s hosts rest where
  hosts := handed.hosts
  values other member := handed.values other (List.mem_cons_of_mem _ member)
  all row member there := by
    rcases handed.all row member there with here | ⟨other, isOther, same⟩
    · exact .inl here
    · rcases List.mem_cons.mp isOther with rfl | later
      · exact .inl (by rwa [← same])
      · exact .inr ⟨other, later, same⟩

theorem sound_keep (sound : Sound start s) (loadFails : Bool) (outcome : StoreOutcome) :
    Sound start (s.onKeep loadFails outcome).2 := by
  unfold onKeep
  split
  · rename_i conn hosts host password rest moved isClient
    have handed : Handed start s hosts ({ host, password } :: rest) := by
      have holds := sound.holds
      rw [isClient] at holds
      exact holds
    cases loaded : s.profile.remembered.loadSecret (entryName host) loadFails with
    | none =>
        simp only [loaded]
        exact sound.finish []
    | some slot =>
        cases slot with
        | some bytes =>
            have has : s.HasPassword (entryName host) :=
              ⟨bytes, Keystore.lookup_of_loadSecret loaded⟩
            simp only [loaded, if_true]
            exact sound.of_places_eq rfl rfl sound.carries (handed.tail has)
        | none =>
            have empty := Keystore.lookup_of_loadSecret_none loaded
            have grows : Grows s { s with profile := { s.profile with
                remembered := (s.profile.remembered.storeSecret (entryName host) (asBytes password)
                  outcome).2 } } := Grows.store empty outcome
            have stored : Sound start { s with profile := { s.profile with
                remembered := (s.profile.remembered.storeSecret (entryName host) (asBytes password)
                  outcome).2 } } :=
              { profile := sound.profile.store empty (handed.values _ List.mem_cons_self) outcome
                admin := sound.admin.mono grows rfl
                carries := fun conn held found => (sound.carries conn held found).mono grows
                holds := sound.holds.mono grows }
            simp only [loaded]
            split
            · rename_i ok
              refine stored.of_places_eq rfl rfl stored.carries ((handed.mono grows).tail ?_)
              exact ⟨_, Keystore.storeSecret_ok ok⟩
            · exact stored.finish []
  · exact sound

theorem sound_adopt (sound : Sound start s) {outcome : WriteOutcome}
    (fits : Fits s (.adopt outcome)) : Sound start (s.onAdopt outcome).2 := by
  unfold onAdopt
  split
  · rename_i conn hosts moved isClient
    have handed : Handed start s hosts [] := by
      have holds := sound.holds
      rw [isClient] at holds
      exact holds
    simp only [Fits, isClient] at fits
    obtain ⟨keeps, joins, adopts⟩ := adopt_spec fits
    have grows : Grows s { s with profile := { s.profile with
        history := (adopt s.profile.history hosts outcome).2 } } := ⟨keeps, fun _ => id⟩
    have adopted : Sound start { s with profile := { s.profile with
        history := (adopt s.profile.history hosts outcome).2 } } :=
      { profile :=
          { rows := fun row member => keeps row (sound.profile.rows row member)
            rowOrigin := by
              intro row member
              rcases mem_join (joins row member) with old | ⟨fresh, isRow⟩
              · exact sound.profile.rowOrigin row old
              · refine .inr ⟨fun ⟨mine, isMine, same⟩ =>
                  fresh ⟨mine, sound.profile.rows mine isMine, same⟩, ?_⟩
                rw [← handed.hosts]
                exact isRow
            slots := sound.profile.slots
            secretOrigin := sound.profile.secretOrigin }
        admin := sound.admin.mono grows rfl
        carries := fun conn held found => (sound.carries conn held found).mono grows
        holds := sound.holds.mono grows }
    simp only
    split
    · rename_i yes
      -- All the rows are on disk now, and all the passwords were before them.
      have covered : Covered start { s with profile := { s.profile with
          history := (adopt s.profile.history hosts outcome).2 } } := by
        intro row member
        have isHost : row ∈ hosts := by rwa [handed.hosts]
        have joined : Lists (join s.profileRows hosts) row.peerLabel := lists_join isHost
        obtain ⟨mine, isMine, same⟩ := joined
        refine ⟨⟨mine, adopts yes mine isMine, same⟩, fun there => ?_⟩
        rcases handed.all row member there with has | ⟨one, isOne, -⟩
        · exact grows.secrets _ has
        · cases isOne
      exact adopted.of_places_eq rfl rfl (fun _ _ => adopted.carries_send fun _ => covered) covered
    · exact adopted.finish []
  · exact sound

/-! ## Runs -/

theorem sound_step (sound : Sound start s) (op : Op) (fits : Fits s op) :
    Sound start (s.step op).2 := by
  cases op with
  | start connects => exact sound_start sound connects
  | drop reconnects => exact sound_drop sound reconnects
  | serve conn faults unlinkFails sent => exact sound_serve sound conn faults unlinkFails sent
  | receive => exact sound_receive sound
  | keep loadFails outcome => exact sound_keep sound loadFails outcome
  | adopt outcome => exact sound_adopt sound fits

theorem sound_initial (guest : Option InAdminTree) (profile : Profile) :
    Sound (initial guest profile) (initial guest profile) where
  profile := ⟨fun _ => id, fun _ => .inl, fun _ _ => id, fun _ _ => .inl⟩
  admin := ⟨.inl rfl, fun _ => .inl rfl⟩
  carries conn held found := by
    have none' : (∅ : HashMap Nat Connection).lookup conn = none := AList.lookup_empty conn
    exact absurd (none'.symm.trans found) nofun
  holds := trivial

theorem lossless_of_sound (sound : Sound start s) : Lossless start s where
  profileRows := sound.profile.rows
  profileValue := by
    intro row member listed
    rcases sound.profile.rowOrigin row member with own | ⟨fresh, -⟩
    · exact own
    · exact absurd listed fresh
  adminRows := by
    intro label row fresh isRow
    have member : row ∈ start.adminRows := List.mem_of_find?_eq_some isRow
    have isLabel : row.peerLabel = label := by simpa using List.find?_some isRow
    rcases sound.admin.rows with same | ⟨-, covered⟩
    · exact .inr (by rwa [same])
    · obtain ⟨mine, isMine, same⟩ := (covered row member).1
      rw [isLabel] at same
      rcases sound.profile.rowOrigin mine isMine with own | ⟨-, given⟩
      · exact absurd ⟨mine, own, same⟩ fresh
      · rw [same, isRow] at given
        cases given
        exact .inl isMine
  profileSlots := sound.profile.slots
  adminSlots := by
    intro entry slot without isSlot
    rcases sound.admin.slots entry with same | ⟨-, covered, row, member, rfl⟩
    · exact .inr (same.trans isSlot)
    · obtain ⟨bytes, has⟩ := (covered row member).2 (by simp [isSlot])
      rcases sound.profile.secretOrigin _ _ has with own | given
      · exact absurd ⟨bytes, own⟩ without
      · rw [isSlot] at given
        cases given
        exact .inl has

/-- The profile covers what the admin tree holds once it covers what it held. -/
theorem Sound.allKept (sound : Sound start s) (covered : Covered start s) : AllKept s := by
  intro row member
  have isRow : row ∈ start.adminRows := by
    rcases sound.admin.rows with same | ⟨gone, -⟩
    · rwa [← same]
    · rw [gone] at member
      cases member
  refine ⟨(covered row isRow).1, fun there => (covered row isRow).2 ?_⟩
  rcases sound.admin.slots (entryName row.peerLabel) with same | ⟨gone, -⟩
  · rwa [← same]
  · exact absurd gone there

theorem guest_onDrop (reconnects : Bool) : (s.onDrop reconnects).2.guest = s.guest := by
  unfold onDrop
  split
  · split <;> rfl
  · split <;> rfl
  all_goals rfl

theorem guest_onReceive : s.onReceive.2.guest = s.guest := by
  unfold onReceive
  split
  · split
    · rfl
    · rename_i reply s' taken
      obtain ⟨held, replies, -, -, rfl⟩ := takeReply_eq taken
      cases reply with
      | guestStores stores =>
          simp only [onStores]
          split <;> rfl
      | done | refused => rfl
  · split
    · rfl
    · rename_i reply s' taken
      obtain ⟨held, replies, -, -, rfl⟩ := takeReply_eq taken
      cases reply <;> rfl
  all_goals rfl

theorem guest_onKeep (loadFails : Bool) (outcome : StoreOutcome) :
    (s.onKeep loadFails outcome).2.guest = s.guest := by
  unfold onKeep
  split
  · simp only
    split
    · rfl
    · split <;> rfl
    · rfl
  · rfl

theorem guest_onAdopt (outcome : WriteOutcome) : (s.onAdopt outcome).2.guest = s.guest := by
  unfold onAdopt
  split
  · simp only
    split <;> rfl
  · rfl

/-- The admin tree changes only where a confirmation is taken off a connection. -/
theorem guest_step (op : Op) : (s.step op).2.guest = s.guest ∨
    ∃ conn held, s.connections.lookup conn = some held ∧ .guestStoresTaken ∈ held.requests := by
  cases op with
  | start connects =>
      refine .inl ?_
      show (s.onStart connects).2.guest = s.guest
      unfold onStart
      split <;> rfl
  | drop reconnects => exact .inl (guest_onDrop reconnects)
  | receive => exact .inl guest_onReceive
  | keep loadFails outcome => exact .inl (guest_onKeep loadFails outcome)
  | adopt outcome => exact .inl (guest_onAdopt outcome)
  | serve conn faults unlinkFails sent =>
      show (s.onServe conn faults unlinkFails sent).guest = s.guest ∨ _
      unfold onServe
      split
      · exact .inl rfl
      · rename_i held found
        split
        · exact .inl rfl
        · exact .inl rfl
        · rename_i requests isRequests
          exact .inr ⟨conn, held, found, by simp [isRequests]⟩

/-- Hand-overs whose adoptions fit lose nothing, and delete the admin copy only once all of it is
kept. -/
theorem handOver_loses_nothing (guest : Option InAdminTree) (profile : Profile) (ops : List Op)
    (fits : ∀ e ∈ history State.step (initial guest profile) ops, Fits e.pre e.op) :
    Lossless (initial guest profile) (exec State.step (initial guest profile) ops) ∧
      ∀ e ∈ history State.step (initial guest profile) ops,
        e.post.guest ≠ e.pre.guest → AllKept e.pre := by
  have keep (s : State) (op : Op) (sound : Sound (initial guest profile) s) (ok : Fits s op) :
      Sound (initial guest profile) (s.step op).2 := sound_step sound op ok
  have first := sound_initial guest profile
  refine ⟨lossless_of_sound (exec_induction keep first fits), fun e member deletes => ?_⟩
  have sound := (history_induction keep first fits e member).1
  rw [eq_of_mem_history member] at deletes
  obtain ⟨conn, held, found, asked⟩ := (guest_step e.op).resolve_left deletes
  exact sound.allKept ((sound.carries conn held found).taken asked)

/-- A remembered host, last seen at some second. -/
def hostRow (label : String) (lastSeenAt : UInt64) : HistoryEntry where
  peerLabel := label
  role := .viewOnly
  lastSeenAt := lastSeenAt
  code := "lumepeer1:code"
  transport := none
  addrs := []
  trusted := false
  device := none

/-- Two hosts with a password each in the admin tree. -/
def twoInAdminTree : InAdminTree where
  history := .path (some (.rows [hostRow "host-ab12" 1, hostRow "host-cd34" 2]))
  passwords := ((∅ : Keystore).insert (entryName "host-ab12") (.secret [0x70, 0x77])).insert
    (entryName "host-cd34") (.secret [0x71])

/-- The profile of somebody who has been to the second of them since. -/
def oneInProfile : Profile where
  history := .path (some (.rows [hostRow "host-cd34" 3]))
  remembered := (∅ : Keystore).insert (entryName "host-cd34") (.secret [0x72])

/-- A start that is over after the first password, and one at which everything works. -/
def handOverInTwoStarts : List Op :=
  [.start true, .serve 0 [] false true, .receive, .keep false .stored, .start true,
    .serve 1 [] false true, .receive, .keep false .stored, .keep false .stored, .adopt .written,
    .serve 1 [] false true, .receive]

theorem two_hosts_are_handed_over :
    Lossless (initial (some twoInAdminTree) oneInProfile)
        (exec State.step (initial (some twoInAdminTree) oneInProfile) handOverInTwoStarts) ∧
      ∀ e ∈ history State.step (initial (some twoInAdminTree) oneInProfile) handOverInTwoStarts,
        e.post.guest ≠ e.pre.guest → AllKept e.pre :=
  handOver_loses_nothing (some twoInAdminTree) oneInProfile handOverInTwoStarts (by decide)

/-- One host and its password in the admin tree. -/
def oneInAdminTree : InAdminTree where
  history := .path (some (.rows [hostRow "host-ab12" 1]))
  passwords := (∅ : Keystore).insert (entryName "host-ab12") (.secret [0x70, 0x77])

/-- A start at which everything works. -/
def wholeHandOver : List Op :=
  [.start true, .serve 0 [] false true, .receive, .keep false .stored, .adopt .written,
    .serve 0 [] false true, .receive]

/-- A list of fifty hosts, each seen later than the one in the admin tree. -/
def fullProfile : Profile where
  history := .path (some (.rows ((List.range 50).map fun i =>
    hostRow (String.ofList (List.replicate (i + 1) 'h')) (UInt64.ofNat (i + 2)))))
  remembered := ∅

/-- The fifty-first host falls off the list that is written, and is then deleted where it was. -/
theorem oldest_host_is_in_neither :
    ¬ ∀ (guest : Option InAdminTree) (profile : Profile) (ops : List Op),
      Lossless (initial guest profile) (exec State.step (initial guest profile) ops) := by
  intro all
  have kept := (all (some oneInAdminTree) fullProfile wholeHandOver).adminRows "host-ab12"
    (hostRow "host-ab12" 1) (by decide) (by decide)
  exact absurd kept (by decide)

end Lumepeer.Desktop.GuestStores
