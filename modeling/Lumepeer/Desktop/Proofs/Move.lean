import Lumepeer.Desktop.Protected
import Lumepeer.Lib.Run

/-!
# The move out of the profile

What a run of starts keeps of the files and entries the profile held at its
beginning. Three things can go wrong, and each has its own condition: an entry
that both stores hold with different secrets is deleted from the profile as if it
had been moved, a test that does not see a file lets a copy run over it, and the
marker takes no account of a file that was not copied, an invite that was not
listed, a keystore that did not open or a list that was not read.
-/

namespace Lumepeer.Desktop.Protected
open Lumepeer.Lib Lumepeer.Net

/-- A file that `move_from_profile` moves. -/
def IsMoved (profile : Profile) (path : Path) : Prop :=
  (profile.addressBook = some path.dir ∧ path.name = "address_book.json") ∨
  (profile.history = some path.dir ∧ path.name = "connection_history.json") ∨
  (profile.audit = some path.dir ∧ path.name ∈ ["audit.db", "audit.db-wal", "audit.db-shm"]) ∨
  (profile.inviteDir = some path.dir ∧ isInvite path.name = true)

/-- The hosts of the list that is still in the profile. -/
def profileHosts (profile : Profile) (hostsOf : List UInt8 → List String) (s : State) :
    List String :=
  match profile.history with
  | none => []
  | some dir =>
      match s.profileFiles.lookup { dir, name := "connection_history.json" } with
      | none => []
      | some bytes => hostsOf bytes

/-- Every file and entry of the profile is still there or is in the protected store, byte for
byte. -/
structure NothingLost (before after : State) : Prop where
  files : ∀ path bytes, before.profileFiles.lookup path = some bytes →
    after.profileFiles.lookup path = some bytes ∨ after.directory.lookup path.name = some bytes
  entries : ∀ entry slot, before.profileKeys.lookup entry = some slot →
    after.profileKeys.lookup entry = some slot ∨ after.keys.lookup entry = some slot

/-- Nothing in the protected store is overwritten. -/
structure NotOverwritten (before after : State) : Prop where
  files : ∀ name bytes, before.directory.lookup name = some bytes →
    after.directory.lookup name = some bytes
  entries : ∀ entry slot, before.keys.lookup entry = some slot →
    after.keys.lookup entry = some slot

/-- Everything of the profile that could be read is in the protected store. -/
structure AllMoved (profile : Profile) (hostsOf : List UInt8 → List String)
    (before after : State) : Prop where
  files : ∀ path bytes, IsMoved profile path → before.profileFiles.lookup path = some bytes →
    before.directory.lookup path.name = none → after.directory.lookup path.name = some bytes
  entries : ∀ entry ∈ fixedEntries ++ (profileHosts profile hostsOf before).map entryName,
    ∀ bytes, before.profileKeys.lookup entry = some (.secret bytes) →
      after.keys.lookup entry = some (.secret bytes)

/-- An entry that both stores hold is the same secret in both. -/
def Agrees (s : State) (op : Op) : Prop :=
  match op, s.client with
  | .entry .., .entries (entry :: _) _ =>
      match s.keys.lookup entry, s.profileKeys.lookup entry with
      | some (.secret one), some (.secret two) => one = two
      | _, _ => True
  | _, _ => True

/-- The test of the target of a copy sees the file that is there. -/
def Sees (s : State) (op : Op) : Prop :=
  match op, s.client with
  | .copy targetSeen _ _, .files ((source, target) :: _) =>
      (s.directory.lookup target).isSome → (s.profileFiles.lookup source).isSome → targetSeen = true
  | _, _ => True

/-- No invite is left out of the listing, no copy fails or stops halfway, the profile's keystore
opens, and the protected list is read and names the hosts of one left in the profile. -/
def Completes (profile : Profile) (hostsOf : List UInt8 → List String) (s : State) (op : Op) :
    Prop :=
  match op, s.client with
  | .start _ hidden, _ =>
      ∀ path ∈ s.profileFiles.keys, profile.inviteDir = some path.dir →
        isInvite path.name = true → path.name ∉ hidden
  | .copy _ sourceSeen outcome, .files ((source, target) :: _) =>
      s.directory.lookup target = none → (s.profileFiles.lookup source).isSome →
        sourceSeen = true ∧ outcome = .copied
  | .openKeystore opens listReads _, .files [] =>
      opens = true ∧ ((s.directory.lookup "connection_history.json").isSome → listReads = true) ∧
        ∀ host ∈ profileHosts profile hostsOf s, host ∈ listedHosts hostsOf s listReads
  | _, _ => True

section Decidable
variable {profile : Profile} {hostsOf : List UInt8 → List String} {s : State} {op : Op}

instance : Decidable (Agrees s op) := by
  unfold Agrees
  split
  · split <;> infer_instance
  · infer_instance

instance : Decidable (Sees s op) := by
  unfold Sees
  split <;> infer_instance

instance : Decidable (Completes profile hostsOf s op) := by
  unfold Completes
  split <;> infer_instance

end Decidable

/-- No copy stops halfway. -/
def Untorn (s : State) (op : Op) : Prop :=
  match op, s.client with
  | .copy _ true (.torn _), .files ((source, target) :: _) =>
      (s.directory.lookup target).isSome ∨ s.profileFiles.lookup source = none
  | _, _ => True

/-- A start of the client. -/
def isStart : Op → Bool
  | .start .. => true
  | _ => false

/-- Every step since the client has started last completes its moves. -/
def startCompletes (profile : Profile) (hostsOf : List UInt8 → List String)
    (events : List (Event State Op (Option (List UInt8)))) : Bool :=
  events.foldl
    (fun all e => (all || isStart e.op) && decide (Completes profile hostsOf e.pre e.op)) true

/-- A start that writes the marker completes its moves. -/
def MarksCompleted (profile : Profile) (hostsOf : List UInt8 → List String) (start : State)
    (ops : List Op) : Prop :=
  ∀ n < ops.length, (exec (State.step profile hostsOf) start (ops.take n)).marker = false →
    (exec (State.step profile hostsOf) start (ops.take (n + 1))).marker = true →
      startCompletes profile hostsOf
        (history (State.step profile hostsOf) start (ops.take (n + 1))) = true

instance {s : State} {op : Op} : Decidable (Untorn s op) := by
  unfold Untorn
  split <;> infer_instance

instance {profile : Profile} {hostsOf : List UInt8 → List String} {start : State} {ops : List Op} :
    Decidable (MarksCompleted profile hostsOf start ops) :=
  inferInstanceAs (Decidable (∀ n < ops.length, _ → _ → _))

/-! ## Which files -/

section Files
variable {profile : Profile}

theorem mem_located {dir : Option String} {name target : String} {source : Path} :
    (source, target) ∈ located dir name ↔
      target = source.name ∧ dir = some source.dir ∧ source.name = name := by
  cases dir with
  | none => simp [located]
  | some dir =>
      obtain ⟨dir', name'⟩ := source
      simp only [located, List.mem_singleton, Prod.mk.injEq, Path.mk.injEq, Option.some.injEq]
      constructor
      · rintro ⟨⟨rfl, rfl⟩, rfl⟩
        exact ⟨rfl, rfl, rfl⟩
      · rintro ⟨rfl, rfl, rfl⟩
        exact ⟨⟨rfl, rfl⟩, rfl⟩

theorem mem_movedFiles {invites : List Path} {source : Path} {target : String} :
    (source, target) ∈ movedFiles profile invites ↔ target = source.name ∧
      ((profile.addressBook = some source.dir ∧ source.name = "address_book.json") ∨
        (profile.history = some source.dir ∧ source.name = "connection_history.json") ∨
        (profile.audit = some source.dir ∧
          source.name ∈ ["audit.db", "audit.db-wal", "audit.db-shm"]) ∨ source ∈ invites) := by
  have isInvite : (source, target) ∈ (invites.map fun path => (path, path.name)) ↔
      target = source.name ∧ source ∈ invites := by
    simp only [List.mem_map, Prod.mk.injEq]
    constructor
    · rintro ⟨path, member, rfl, rfl⟩
      exact ⟨rfl, member⟩
    · rintro ⟨rfl, member⟩
      exact ⟨source, member, rfl, rfl⟩
  have wal : "audit.db" ++ "-wal" = "audit.db-wal" := by decide
  have shm : "audit.db" ++ "-shm" = "audit.db-shm" := by decide
  have plain : "audit.db" ++ "" = "audit.db" := by decide
  simp only [movedFiles, List.mem_append, isInvite, List.flatMap_cons, List.flatMap_nil,
    List.append_nil, mem_located, wal, shm, plain, List.mem_cons, List.not_mem_nil, or_false]
  tauto

/-- The files to be moved have different names. -/
theorem IsMoved.eq_of_name {one two : Path} (first : IsMoved profile one)
    (second : IsMoved profile two) (same : one.name = two.name) : one = two := by
  have plain : ∀ name ∈ ["address_book.json", "connection_history.json", "audit.db",
      "audit.db-wal", "audit.db-shm"], isInvite name = false := by decide
  obtain ⟨dir, name⟩ := one
  obtain ⟨dir', name'⟩ := two
  obtain rfl : name = name' := same
  have sameDir : dir = dir' := by
    simp only [IsMoved, List.mem_cons, List.not_mem_nil, or_false] at first second plain
    grind
  rw [sameDir]

theorem isMoved_of_mem {s : State} {hidden : List String} {source : Path} {target : String}
    (member : (source, target) ∈ movedFiles profile (invites profile s hidden)) :
    target = source.name ∧ IsMoved profile source := by
  obtain ⟨isTarget, located⟩ := mem_movedFiles.mp member
  refine ⟨isTarget, ?_⟩
  rcases located with book | list | audit | invite
  · exact .inl book
  · exact .inr (.inl list)
  · exact .inr (.inr (.inl audit))
  · have tests := (List.mem_filter.mp invite).2
    simp only [Bool.and_eq_true, decide_eq_true_eq] at tests
    exact .inr (.inr (.inr tests.1))

/-- A file of the profile that the listing does not hide is tried. -/
theorem mem_movedFiles_of_isMoved {s : State} {hidden : List String} {source : Path}
    {bytes : List UInt8} (moved : IsMoved profile source)
    (there : s.profileFiles.lookup source = some bytes)
    (listed : ∀ path ∈ s.profileFiles.keys, profile.inviteDir = some path.dir →
      isInvite path.name = true → path.name ∉ hidden) :
    (source, source.name) ∈ movedFiles profile (invites profile s hidden) := by
  refine mem_movedFiles.mpr ⟨rfl, ?_⟩
  rcases moved with book | list | audit | ⟨isDir, isName⟩
  · exact .inl book
  · exact .inr (.inl list)
  · exact .inr (.inr (.inl audit))
  · have isKey : source ∈ s.profileFiles.keys :=
      AList.mem_keys.mp (AList.lookup_isSome.mp (by rw [there]; rfl))
    have seen := listed source isKey isDir isName
    refine .inr (.inr (.inr (List.mem_filter.mpr ⟨isKey, ?_⟩)))
    simp [isDir, isName, seen]

end Files

/-! ## Nothing is lost -/

section Lost
variable {profile : Profile} {hostsOf : List UInt8 → List String} {start s : State}

/-- The files that are left to try are files to be moved. -/
def Tries (profile : Profile) (rest : List (Path × String)) : Prop :=
  ∀ pair ∈ rest, pair.2 = pair.1.name ∧ IsMoved profile pair.1

/-- What the client has in hand: a file it removes was copied whole, an entry it deletes is in the
protected store. -/
def InHand (profile : Profile) (s : State) : Client → Prop
  | .files rest => Tries profile rest
  | .removing source rest => Tries profile rest ∧ IsMoved profile source ∧
      ∀ bytes, s.profileFiles.lookup source = some bytes →
        s.directory.lookup source.name = some bytes
  | .deleting entry _ _ => ∀ slot, s.profileKeys.lookup entry = some slot →
      s.keys.lookup entry = some slot
  | .idle | .entries .. | .minting => True

/-- What a run keeps of the profile, relative to its start. -/
structure Kept (profile : Profile) (start s : State) : Prop where
  files : ∀ path bytes, start.profileFiles.lookup path = some bytes →
    s.profileFiles.lookup path = some bytes ∨
      IsMoved profile path ∧ s.profileFiles.lookup path = none ∧
        s.directory.lookup path.name = some bytes
  filesShrink : ∀ path bytes, s.profileFiles.lookup path = some bytes →
    start.profileFiles.lookup path = some bytes
  entries : ∀ entry slot, start.profileKeys.lookup entry = some slot →
    s.profileKeys.lookup entry = some slot ∨ s.keys.lookup entry = some slot
  entriesShrink : ∀ entry slot, s.profileKeys.lookup entry = some slot →
    start.profileKeys.lookup entry = some slot
  inHand : InHand profile s s.client

theorem Kept.nothingLost (kept : Kept profile start s) : NothingLost start s where
  files path bytes there := (kept.files path bytes there).imp_right fun moved => moved.2.2
  entries := kept.entries

theorem kept_start (idle : start.client = .idle) : Kept profile start start where
  files _ _ := .inl
  filesShrink _ _ := id
  entries _ _ := .inl
  entriesShrink _ _ := id
  inHand := by
    rw [idle]
    trivial

/-- A step of the client alone. -/
theorem Kept.of_client (kept : Kept profile start s) {client : Client}
    (inHand : InHand profile s client) : Kept profile start { s with client } where
  files := kept.files
  filesShrink := kept.filesShrink
  entries := kept.entries
  entriesShrink := kept.entriesShrink
  inHand := by
    cases client <;> exact inHand

/-- A copy onto the name of a file that is still in the profile. -/
theorem Kept.copy (kept : Kept profile start s) {source : Path} {bytes : List UInt8}
    (moved : IsMoved profile source) (there : s.profileFiles.lookup source = some bytes)
    (content : List UInt8) {client : Client}
    (inHand : InHand profile { s with directory := s.directory.insert source.name content } client) :
    Kept profile start
      { s with directory := s.directory.insert source.name content, client } where
  files path old found := by
    rcases kept.files path old found with here | ⟨isMoved, gone, copied⟩
    · exact .inl here
    · refine .inr ⟨isMoved, gone, ?_⟩
      have elsewhere : path.name ≠ source.name := by
        intro same
        rw [isMoved.eq_of_name moved same, there] at gone
        cases gone
      exact (AList.lookup_insert_ne elsewhere).trans copied
  filesShrink := kept.filesShrink
  entries := kept.entries
  entriesShrink := kept.entriesShrink
  inHand := by
    cases client <;> exact inHand

theorem kept_onCopy (kept : Kept profile start s) (targetSeen sourceSeen : Bool)
    (outcome : CopyOutcome) : Kept profile start (s.onCopy targetSeen sourceSeen outcome) := by
  unfold State.onCopy
  split
  · rename_i source target rest isClient
    have tries : Tries profile ((source, target) :: rest) := by
      have inHand := kept.inHand
      rw [isClient] at inHand
      exact inHand
    obtain ⟨isTarget, moved⟩ : target = source.name ∧ IsMoved profile source :=
      tries (source, target) List.mem_cons_self
    subst isTarget
    have later : Tries profile rest := fun pair member => tries pair (List.mem_cons_of_mem _ member)
    split
    · exact kept.of_client later
    · split
      · exact kept.of_client later
      · rename_i bytes there
        split
        · exact kept.of_client later
        · cases outcome with
          | refused => exact kept.of_client later
          | torn length => exact kept.copy moved there (bytes.take length) later
          | copied =>
              refine kept.copy moved there bytes ⟨later, moved, fun same found => ?_⟩
              rw [← there.symm.trans found |> Option.some.inj]
              exact AList.lookup_insert _
  · exact kept

theorem kept_onUnlink (kept : Kept profile start s) (fails : Bool) :
    Kept profile start (s.onUnlink fails) := by
  unfold State.onUnlink
  split
  · rename_i source rest isClient
    obtain ⟨tries, moved, copied⟩ : Tries profile rest ∧ IsMoved profile source ∧
        ∀ bytes, s.profileFiles.lookup source = some bytes →
          s.directory.lookup source.name = some bytes := by
      have inHand := kept.inHand
      rw [isClient] at inHand
      exact inHand
    cases fails with
    | true => exact kept.of_client tries
    | false =>
        exact
          { files := by
              intro path bytes found
              rcases kept.files path bytes found with here | away
              · by_cases same : path = source
                · subst same
                  exact .inr ⟨moved, AList.lookup_erase _ _, copied bytes here⟩
                · exact .inl ((AList.lookup_erase_ne same).trans here)
              · refine .inr ⟨away.1, ?_, away.2.2⟩
                by_cases same : path = source
                · subst same
                  exact AList.lookup_erase _ _
                · exact (AList.lookup_erase_ne same).trans away.2.1
            filesShrink := by
              intro path bytes found
              by_cases same : path = source
              · subst same
                exact absurd ((AList.lookup_erase _ _).symm.trans found) (by simp)
              · exact kept.filesShrink path bytes ((AList.lookup_erase_ne same).symm.trans found)
            entries := kept.entries
            entriesShrink := kept.entriesShrink
            inHand := tries }
  · exact kept

/-- A secret goes into an empty slot of the protected store. -/
theorem Kept.store (kept : Kept profile start s) {entry : String} {bytes : List UInt8}
    (empty : s.keys.lookup entry = none) (outcome : StoreOutcome) {client : Client}
    (inHand : InHand profile
      { s with keys := (s.keys.storeSecret entry bytes outcome).2 } client) :
    Kept profile start
      { s with keys := (s.keys.storeSecret entry bytes outcome).2, client } where
  files := kept.files
  filesShrink := kept.filesShrink
  entries other slot found := by
    refine (kept.entries other slot found).imp_right fun there => ?_
    have elsewhere : other ≠ entry := by
      rintro rfl
      rw [empty] at there
      cases there
    exact (Keystore.lookup_storeSecret other elsewhere).trans there
  entriesShrink := kept.entriesShrink
  inHand := by
    cases client <;> exact inHand

theorem kept_onEntry (kept : Kept profile start s) (newFails oldFails : Bool)
    (outcome : StoreOutcome) (agrees : Agrees s (.entry newFails oldFails outcome)) :
    Kept profile start (s.onEntry newFails oldFails outcome) := by
  unfold State.onEntry
  split
  · rename_i entry rest complete isClient
    simp only [Agrees, isClient] at agrees
    split
    · rename_i bytes loadedNew loadedOld
      have empty := Keystore.lookup_of_loadSecret_none loadedNew
      have there := Keystore.lookup_of_loadSecret loadedOld
      cases stored : s.keys.storeSecret entry bytes outcome with
      | mk ok keys =>
          have isKeys : keys = (s.keys.storeSecret entry bytes outcome).2 := by rw [stored]
          cases ok with
          | false =>
              subst isKeys
              exact kept.store empty outcome trivial
          | true =>
              have written : (s.keys.storeSecret entry bytes outcome).2.lookup entry =
                  some (.secret bytes) := Keystore.storeSecret_ok (by rw [stored])
              subst isKeys
              refine kept.store empty outcome fun slot found => ?_
              rw [there] at found
              cases found
              exact written
    · rename_i one two loadedNew loadedOld
      have thereNew := Keystore.lookup_of_loadSecret loadedNew
      have thereOld := Keystore.lookup_of_loadSecret loadedOld
      rw [thereNew, thereOld] at agrees
      refine kept.of_client fun slot found => ?_
      rw [thereOld] at found
      cases found
      rw [thereNew, agrees]
    · exact kept.of_client trivial
    · exact kept.of_client trivial
  · exact kept

theorem kept_onDelete (kept : Kept profile start s) (fails : Bool) :
    Kept profile start (s.onDelete fails) := by
  unfold State.onDelete
  split
  · rename_i entry rest complete isClient
    have stored : ∀ slot, s.profileKeys.lookup entry = some slot →
        s.keys.lookup entry = some slot := by
      have inHand := kept.inHand
      rw [isClient] at inHand
      exact inHand
    have deleted (other : String) :
        (s.profileKeys.deleteSecret entry fails).2.lookup other = s.profileKeys.lookup other ∨
          other = entry ∧ (s.profileKeys.deleteSecret entry fails).2.lookup other = none :=
      Keystore.lookup_deleteSecret other
    exact
      { files := kept.files
        filesShrink := kept.filesShrink
        entries := by
          intro other slot found
          rcases kept.entries other slot found with here | away
          · rcases deleted other with same | ⟨rfl, -⟩
            · exact .inl (same.trans here)
            · exact .inr (stored slot here)
          · exact .inr away
        entriesShrink := by
          intro other slot found
          rcases deleted other with same | ⟨-, gone⟩
          · exact kept.entriesShrink other slot (same.symm.trans found)
          · exact absurd (gone.symm.trans found) (by simp)
        inHand := trivial }
  · exact kept

theorem kept_onOpenKeystore (kept : Kept profile start s) (opens listReads marked : Bool) :
    Kept profile start (s.onOpenKeystore hostsOf opens listReads marked) := by
  unfold State.onOpenKeystore
  split
  · split
    · exact kept.of_client trivial
    · exact ⟨kept.files, kept.filesShrink, kept.entries, kept.entriesShrink, trivial⟩
  · exact kept

theorem kept_onFinish (kept : Kept profile start s) (marked : Bool) :
    Kept profile start (s.onFinish marked) := by
  unfold State.onFinish
  split
  · exact ⟨kept.files, kept.filesShrink, kept.entries, kept.entriesShrink, trivial⟩
  · exact kept

theorem kept_onMint (kept : Kept profile start s) (loadFails : Bool) (fresh : Bytes 32)
    (outcome : StoreOutcome) : Kept profile start (s.onMint loadFails fresh outcome).2 := by
  unfold State.onMint
  split
  · split
    · exact kept.of_client trivial
    · exact kept.of_client trivial
    · rename_i loaded
      have empty := Keystore.lookup_of_loadSecret_none loaded
      have stored : Kept profile start
          { s with
            keys := (s.keys.storeSecret identityEntry fresh.toList outcome).2
            client := .idle } := kept.store empty outcome trivial
      split
      · rename_i keys isStored
        rw [isStored] at stored
        exact stored
      · rename_i keys isStored
        rw [isStored] at stored
        exact stored
  · exact kept

theorem kept_onStart (kept : Kept profile start s) (markerSeen : Bool) (hidden : List String) :
    Kept profile start (s.onStart profile markerSeen hidden) := by
  unfold State.onStart
  split
  · exact kept.of_client trivial
  · exact kept.of_client fun pair member => isMoved_of_mem member

theorem kept_step (kept : Kept profile start s) (op : Op) (agrees : Agrees s op) :
    Kept profile start (s.step profile hostsOf op).2 := by
  cases op with
  | start markerSeen hidden => exact kept_onStart kept markerSeen hidden
  | copy targetSeen sourceSeen outcome => exact kept_onCopy kept targetSeen sourceSeen outcome
  | unlink fails => exact kept_onUnlink kept fails
  | openKeystore opens listReads marked => exact kept_onOpenKeystore kept opens listReads marked
  | entry newFails oldFails outcome => exact kept_onEntry kept newFails oldFails outcome agrees
  | delete fails => exact kept_onDelete kept fails
  | finish marked => exact kept_onFinish kept marked
  | mint loadFails fresh outcome => exact kept_onMint kept loadFails fresh outcome

end Lost

/-! ## Nothing is overwritten -/

section Overwritten
variable {profile : Profile} {hostsOf : List UInt8 → List String} {s s' : State}

theorem NotOverwritten.of_eq (files : s'.directory = s.directory) (entries : s'.keys = s.keys) :
    NotOverwritten s s' where
  files name bytes found := by rwa [files]
  entries entry slot found := by rwa [entries]

theorem NotOverwritten.store {entry : String} {bytes : List UInt8} {outcome : StoreOutcome}
    (empty : s.keys.lookup entry = none) (files : s'.directory = s.directory)
    (keys : s'.keys = (s.keys.storeSecret entry bytes outcome).2) : NotOverwritten s s' where
  files name bytes found := by rwa [files]
  entries other slot found := by
    have elsewhere : other ≠ entry := by
      rintro rfl
      rw [empty] at found
      cases found
    rw [keys, Keystore.lookup_storeSecret other elsewhere, found]

theorem NotOverwritten.insert {name : String} {content : List UInt8}
    (empty : s.directory.lookup name = none) (files : s'.directory = s.directory.insert name content)
    (keys : s'.keys = s.keys) : NotOverwritten s s' where
  files other bytes found := by
    have elsewhere : other ≠ name := by
      rintro rfl
      rw [empty] at found
      cases found
    rw [files, AList.lookup_insert_ne elsewhere, found]
  entries entry slot found := by rwa [keys]

theorem notOverwritten_onCopy (targetSeen sourceSeen : Bool) (outcome : CopyOutcome)
    (sees : Sees s (.copy targetSeen sourceSeen outcome)) :
    NotOverwritten s (s.onCopy targetSeen sourceSeen outcome) := by
  unfold State.onCopy
  split
  · rename_i source target rest isClient
    simp only [Sees, isClient] at sees
    split
    · exact .of_eq rfl rfl
    · rename_i notThere
      split
      · exact .of_eq rfl rfl
      · rename_i bytes found
        have empty : s.directory.lookup target = none := by
          by_contra there
          have isThere := Option.isSome_iff_ne_none.mpr there
          have seen := sees isThere (by rw [found]; rfl)
          exact notThere (by simp [isThere, seen])
        split
        · exact .of_eq rfl rfl
        · cases outcome with
          | refused => exact .of_eq rfl rfl
          | torn length => exact .insert empty rfl rfl
          | copied => exact .insert empty rfl rfl
  · exact .of_eq rfl rfl

theorem notOverwritten_onEntry (newFails oldFails : Bool) (outcome : StoreOutcome) :
    NotOverwritten s (s.onEntry newFails oldFails outcome) := by
  unfold State.onEntry
  split
  · split
    · rename_i bytes loadedNew loadedOld
      have empty := Keystore.lookup_of_loadSecret_none loadedNew
      split
      · rename_i keys stored
        exact .store empty rfl (by rw [stored])
      · rename_i keys stored
        exact .store empty rfl (by rw [stored])
    all_goals exact .of_eq rfl rfl
  · exact .of_eq rfl rfl

theorem notOverwritten_onMint (loadFails : Bool) (fresh : Bytes 32) (outcome : StoreOutcome) :
    NotOverwritten s (s.onMint loadFails fresh outcome).2 := by
  unfold State.onMint
  split
  · split
    · exact .of_eq rfl rfl
    · exact .of_eq rfl rfl
    · rename_i loaded
      have empty := Keystore.lookup_of_loadSecret_none loaded
      split
      · rename_i keys stored
        exact .store empty rfl (by rw [stored])
      · rename_i keys stored
        exact .store empty rfl (by rw [stored])
  · exact .of_eq rfl rfl

theorem notOverwritten_step (op : Op) (sees : Sees s op) :
    NotOverwritten s (s.step profile hostsOf op).2 := by
  cases op with
  | start markerSeen hidden =>
      show NotOverwritten s (s.onStart profile markerSeen hidden)
      unfold State.onStart
      split <;> exact .of_eq rfl rfl
  | copy targetSeen sourceSeen outcome =>
      exact notOverwritten_onCopy targetSeen sourceSeen outcome sees
  | unlink fails =>
      show NotOverwritten s (s.onUnlink fails)
      unfold State.onUnlink
      split <;> exact .of_eq rfl rfl
  | openKeystore opens listReads marked =>
      show NotOverwritten s (s.onOpenKeystore hostsOf opens listReads marked)
      unfold State.onOpenKeystore
      split
      · split <;> exact .of_eq rfl rfl
      · exact .of_eq rfl rfl
  | entry newFails oldFails outcome => exact notOverwritten_onEntry newFails oldFails outcome
  | delete fails =>
      show NotOverwritten s (s.onDelete fails)
      unfold State.onDelete
      split <;> exact .of_eq rfl rfl
  | finish marked =>
      show NotOverwritten s (s.onFinish marked)
      unfold State.onFinish
      split <;> exact .of_eq rfl rfl
  | mint loadFails fresh outcome => exact notOverwritten_onMint loadFails fresh outcome

end Overwritten

/-! ## What the marker says -/

section Marker
variable {profile : Profile} {hostsOf : List UInt8 → List String} {start s s' : State}

/-- Every file to be moved is in the protected store, those of `pending` apart. -/
def FilesMoved (profile : Profile) (start s : State) (pending : Path → Prop) : Prop :=
  ∀ path bytes, IsMoved profile path → start.profileFiles.lookup path = some bytes →
    start.directory.lookup path.name = none →
      s.directory.lookup path.name = some bytes ∨ pending path

/-- Every entry to be moved is in the protected store, those of `pending` apart. -/
def EntriesMoved (profile : Profile) (hostsOf : List UInt8 → List String) (start s : State)
    (pending : String → Prop) : Prop :=
  ∀ entry ∈ fixedEntries ++ (profileHosts profile hostsOf start).map entryName,
    ∀ bytes, start.profileKeys.lookup entry = some (.secret bytes) →
      s.keys.lookup entry = some (.secret bytes) ∨ pending entry

/-- How far a start has come. -/
def Progress (profile : Profile) (hostsOf : List UInt8 → List String) (start s : State) :
    Client → Prop
  | .idle | .minting => True
  | .files rest | .removing _ rest =>
      FilesMoved profile start s fun path => (path, path.name) ∈ rest
  | .entries rest complete | .deleting _ rest complete =>
      FilesMoved profile start s (fun _ => False) ∧
        (complete = true → EntriesMoved profile hostsOf start s (· ∈ rest))

/-- A file to be moved is in the protected store, or still in the profile alone. -/
def Whole (profile : Profile) (start s : State) : Prop :=
  ∀ path bytes, IsMoved profile path → start.profileFiles.lookup path = some bytes →
    start.directory.lookup path.name = none →
      s.directory.lookup path.name = some bytes ∨
        s.profileFiles.lookup path = some bytes ∧ s.directory.lookup path.name = none

/-- What a run keeps whose marker is written by starts that complete their moves, relative to its
beginning; `completes` says that of the start that is under way. -/
structure Moving (profile : Profile) (hostsOf : List UInt8 → List String) (start : State)
    (completes : Prop) (s : State) : Prop where
  kept : Kept profile start s
  directory : NotOverwritten start s
  whole : Whole profile start s
  progress : completes → Progress profile hostsOf start s s.client
  marker : s.marker = true → AllMoved profile hostsOf start s

theorem FilesMoved.mono {pending pending' : Path → Prop} (same : NotOverwritten s s')
    (fewer : ∀ path, pending path → pending' path) (moved : FilesMoved profile start s pending) :
    FilesMoved profile start s' pending' := by
  intro path bytes isMoved there empty
  exact (moved path bytes isMoved there empty).imp (same.files _ _) (fewer path)

theorem AllMoved.mono (same : NotOverwritten s s') (moved : AllMoved profile hostsOf start s) :
    AllMoved profile hostsOf start s' where
  files path bytes isMoved there empty :=
    same.files _ _ (moved.files path bytes isMoved there empty)
  entries entry member bytes there := same.entries _ _ (moved.entries entry member bytes there)

theorem moving_start {completes : Prop} (idle : start.client = .idle)
    (unmarked : start.marker = false) : Moving profile hostsOf start completes start where
  kept := kept_start idle
  directory := .of_eq rfl rfl
  whole _ _ _ there empty := .inr ⟨there, empty⟩
  progress _ := by
    rw [idle]
    trivial
  marker := by
    rw [unmarked]
    nofun

/-- A file that is to be moved and has no counterpart, before and now, is at hand. -/
theorem Whole.pending (whole : Whole profile start s) {path : Path} {bytes : List UInt8}
    (moved : IsMoved profile path) (there : start.profileFiles.lookup path = some bytes)
    (empty : start.directory.lookup path.name = none)
    (missing : s.directory.lookup path.name ≠ some bytes) :
    s.profileFiles.lookup path = some bytes ∧ s.directory.lookup path.name = none :=
  (whole path bytes moved there empty).resolve_left missing

/-- The file that is copied has the bytes it had at the start, and its name is no other file's. -/
theorem Kept.written (kept : Kept profile start s) {source path : Path} {bytes content : List UInt8}
    (here : s.profileFiles.lookup source = some bytes) (isMoved : IsMoved profile source)
    (moved : IsMoved profile path) (there : start.profileFiles.lookup path = some content) :
    path = source ∧ (s.directory.insert source.name bytes).lookup path.name = some content ∨
      path ≠ source ∧ (s.directory.insert source.name bytes).lookup path.name =
        s.directory.lookup path.name := by
  by_cases same : path = source
  · subst same
    rw [kept.filesShrink path bytes here] at there
    cases there
    exact .inl ⟨rfl, AList.lookup_insert _⟩
  · exact .inr ⟨same, AList.lookup_insert_ne fun name => same (moved.eq_of_name isMoved name)⟩

theorem whole_onCopy (kept : Kept profile start s) (whole : Whole profile start s)
    {targetSeen sourceSeen : Bool} {outcome : CopyOutcome}
    (untorn : Untorn s (.copy targetSeen sourceSeen outcome)) (sees : Sees s (.copy targetSeen
      sourceSeen outcome)) : Whole profile start (s.onCopy targetSeen sourceSeen outcome) := by
  unfold State.onCopy
  split
  · rename_i source target rest isClient
    obtain ⟨isTarget, isMoved⟩ : target = source.name ∧ IsMoved profile source := by
      have inHand := kept.inHand
      rw [isClient] at inHand
      exact inHand (source, target) List.mem_cons_self
    subst isTarget
    split
    · exact whole
    · rename_i absent
      split
      · exact whole
      · rename_i bytes here
        split
        · exact whole
        · rename_i seen
          cases outcome with
          | refused => exact whole
          | torn length =>
              have isSeen : sourceSeen = true := by simpa using seen
              subst isSeen
              simp only [Untorn, isClient, here, reduceCtorEq, or_false] at untorn
              simp only [Sees, isClient] at sees
              exact absurd (by simp [untorn, sees untorn (by rw [here]; rfl)]) absent
          | copied =>
              intro path content moved there empty
              rcases kept.written here isMoved moved there with ⟨-, isWritten⟩ | ⟨-, same⟩
              · exact .inl isWritten
              · show (s.directory.insert source.name bytes).lookup path.name = _ ∨ _ ∧
                  (s.directory.insert source.name bytes).lookup path.name = none
                rw [same]
                exact whole path content moved there empty
  · exact whole

theorem whole_onUnlink (kept : Kept profile start s) (whole : Whole profile start s) (fails : Bool) :
    Whole profile start (s.onUnlink fails) := by
  unfold State.onUnlink
  split
  · rename_i source rest isClient
    have copied : ∀ bytes, s.profileFiles.lookup source = some bytes →
        s.directory.lookup source.name = some bytes := by
      have inHand := kept.inHand
      rw [isClient] at inHand
      exact inHand.2.2
    intro path bytes moved there empty
    rcases whole path bytes moved there empty with isWhole | ⟨here, none'⟩
    · exact .inl isWhole
    · cases fails with
      | true => exact .inr ⟨here, none'⟩
      | false =>
          by_cases same : path = source
          · subst same
            exact .inl (copied bytes here)
          · exact .inr ⟨(AList.lookup_erase_ne same).trans here, none'⟩
  · exact whole

/-- Only the moves of files are about files. -/
theorem Whole.of_eq (whole : Whole profile start s) (files : s'.profileFiles = s.profileFiles)
    (directory : s'.directory = s.directory) : Whole profile start s' := by
  unfold Whole
  rw [files, directory]
  exact whole

theorem whole_step (kept : Kept profile start s) (whole : Whole profile start s) {op : Op}
    (untorn : Untorn s op) (sees : Sees s op) :
    Whole profile start (s.step profile hostsOf op).2 := by
  cases op with
  | copy targetSeen sourceSeen outcome => exact whole_onCopy kept whole untorn sees
  | unlink fails => exact whole_onUnlink kept whole fails
  | start markerSeen hidden =>
      apply whole.of_eq <;> simp only [State.step, State.onStart] <;> split <;> rfl
  | openKeystore opens listReads marked =>
      apply whole.of_eq <;> simp only [State.step, State.onOpenKeystore] <;> split <;>
        first | rfl | split <;> rfl
  | entry newFails oldFails outcome =>
      apply whole.of_eq <;> simp only [State.step, State.onEntry] <;> split <;>
        first | rfl | split <;> first | rfl | split <;> rfl
  | delete fails =>
      apply whole.of_eq <;> simp only [State.step, State.onDelete] <;> split <;> rfl
  | finish marked =>
      apply whole.of_eq <;> simp only [State.step, State.onFinish] <;> split <;> rfl
  | mint loadFails fresh outcome =>
      apply whole.of_eq <;> simp only [State.step, State.onMint] <;> split <;>
        first | rfl | split <;> first | rfl | split <;> rfl

/-- What a step changes of the moves, beside what every step keeps. -/
structure Advances (profile : Profile) (hostsOf : List UInt8 → List String) (start s s' : State) :
    Prop where
  progress : Progress profile hostsOf start s' s'.client
  marker : s'.marker = true → s.marker = true ∨ AllMoved profile hostsOf start s'

/-- A step that does not write the marker. -/
theorem advances_of_eq (marker : s'.marker = s.marker)
    (progress : Progress profile hostsOf start s' s'.client) :
    Advances profile hostsOf start s s' where
  progress := progress
  marker marked := .inl (by rwa [← marker])

theorem advances_onStart {ok : Prop} (moving : Moving profile hostsOf start ok s) {markerSeen : Bool}
    {hidden : List String} (completes : Completes profile hostsOf s (.start markerSeen hidden)) :
    Advances profile hostsOf start s (s.onStart profile markerSeen hidden) := by
  unfold State.onStart
  split
  · exact advances_of_eq rfl trivial
  · refine advances_of_eq rfl fun path bytes moved there empty => ?_
    by_cases whole : s.directory.lookup path.name = some bytes
    · exact .inl whole
    · have here := (moving.whole.pending moved there empty whole).1
      exact .inr (mem_movedFiles_of_isMoved moved here completes)

theorem advances_onCopy (moving : Moving profile hostsOf start True s) {targetSeen sourceSeen : Bool}
    {outcome : CopyOutcome} (sees : Sees s (.copy targetSeen sourceSeen outcome))
    (completes : Completes profile hostsOf s (.copy targetSeen sourceSeen outcome)) :
    Advances profile hostsOf start s (s.onCopy targetSeen sourceSeen outcome) := by
  unfold State.onCopy
  split
  · rename_i source target rest isClient
    simp only [Sees, Completes, isClient] at sees completes
    obtain ⟨isTarget, isMoved⟩ : target = source.name ∧ IsMoved profile source := by
      have inHand := moving.kept.inHand
      rw [isClient] at inHand
      exact inHand (source, target) List.mem_cons_self
    subst isTarget
    have progress : FilesMoved profile start s
        fun path => (path, path.name) ∈ (source, source.name) :: rest := by
      have progress := moving.progress trivial
      rw [isClient] at progress
      exact progress
    -- A turn that skips its file has nothing to do for it.
    have skip (done : ∀ bytes, start.profileFiles.lookup source = some bytes →
        start.directory.lookup source.name = none →
          s.directory.lookup source.name = some bytes) :
        Advances profile hostsOf start s { s with client := .files rest } := by
      refine advances_of_eq rfl fun path bytes moved there empty => ?_
      rcases progress path bytes moved there empty with whole | member
      · exact .inl whole
      · rcases List.mem_cons.mp member with isHead | later
        · obtain rfl : path = source := congrArg Prod.fst isHead
          exact .inl (done bytes there empty)
        · exact .inr later
    split
    · rename_i present
      refine skip fun bytes there empty => ?_
      by_contra missing
      have none' := (moving.whole.pending isMoved there empty missing).2
      simp [none'] at present
    · rename_i absent
      split
      · rename_i gone
        refine skip fun bytes there empty => ?_
        by_contra missing
        have here := (moving.whole.pending isMoved there empty missing).1
        rw [gone] at here
        cases here
      · rename_i bytes here
        have none' : s.directory.lookup source.name = none := by
          by_contra there
          have isThere := Option.isSome_iff_ne_none.mpr there
          have seen := sees isThere (by rw [here]; rfl)
          exact absent (by simp [isThere, seen])
        obtain ⟨seen, rfl⟩ := completes none' (by rw [here]; rfl)
        simp only [seen, Bool.not_true, Bool.false_eq_true, if_false]
        refine ⟨fun path content moved there empty => ?_, .inl⟩
        rcases moving.kept.written here isMoved moved there with ⟨-, isWritten⟩ | ⟨other, same⟩
        · exact .inl isWritten
        · show (s.directory.insert source.name bytes).lookup path.name = _ ∨ _
          rw [same]
          refine (progress path content moved there empty).imp_right fun member => ?_
          rcases List.mem_cons.mp member with isHead | later
          · exact absurd (congrArg Prod.fst isHead) other
          · exact later
  · exact advances_of_eq rfl (moving.progress trivial)

theorem advances_onUnlink (moving : Moving profile hostsOf start True s) (fails : Bool) :
    Advances profile hostsOf start s (s.onUnlink fails) := by
  unfold State.onUnlink
  split
  · rename_i source rest isClient
    have progress := moving.progress trivial
    rw [isClient] at progress
    exact advances_of_eq rfl progress
  · exact advances_of_eq rfl (moving.progress trivial)

/-- Once the files are moved, the protected list names the hosts the profile's list named. -/
theorem Moving.mem_listedHosts (moving : Moving profile hostsOf start True s) {listReads : Bool}
    (reads : (s.directory.lookup "connection_history.json").isSome → listReads = true)
    (named : ∀ host ∈ profileHosts profile hostsOf s, host ∈ listedHosts hostsOf s listReads)
    {host : String} (member : host ∈ profileHosts profile hostsOf start) :
    host ∈ listedHosts hostsOf s listReads := by
  unfold profileHosts at member
  split at member
  · cases member
  · rename_i dir isDir
    split at member
    · cases member
    · rename_i bytes there
      have isMoved : IsMoved profile { dir, name := "connection_history.json" } :=
        .inr (.inl ⟨isDir, rfl⟩)
      rcases moving.kept.files _ bytes there with here | ⟨-, -, copied⟩
      · refine named host ?_
        simp only [profileHosts, isDir, here]
        exact member
      · simp only [listedHosts, copied, reads (by rw [copied]; rfl), if_true]
        exact member

theorem advances_onOpenKeystore (moving : Moving profile hostsOf start True s)
    {opens listReads marked : Bool}
    (completes : Completes profile hostsOf s (.openKeystore opens listReads marked)) :
    Advances profile hostsOf start s (s.onOpenKeystore hostsOf opens listReads marked) := by
  unfold State.onOpenKeystore
  split
  · rename_i isClient
    simp only [Completes, isClient] at completes
    obtain ⟨rfl, reads, named⟩ := completes
    have files : FilesMoved profile start s fun _ => False := by
      have progress := moving.progress trivial
      rw [isClient] at progress
      exact FilesMoved.mono (.of_eq rfl rfl) (fun path member => List.not_mem_nil member) progress
    refine advances_of_eq rfl ⟨files, fun _ entry member bytes there => .inr ?_⟩
    rcases List.mem_append.mp member with fixed | ofHost
    · exact List.mem_append_left _ fixed
    · obtain ⟨host, isHost, rfl⟩ := List.mem_map.mp ofHost
      exact List.mem_append_right _
        (List.mem_map_of_mem (moving.mem_listedHosts reads named isHost))
  · exact advances_of_eq rfl (moving.progress trivial)

/-- One entry is in the protected store, the others of the list are to come. -/
theorem EntriesMoved.tail {entry : String} {rest : List String} (same : NotOverwritten s s')
    (moved : EntriesMoved profile hostsOf start s (· ∈ entry :: rest))
    (done : ∀ bytes, start.profileKeys.lookup entry = some (.secret bytes) →
      s'.keys.lookup entry = some (.secret bytes)) :
    EntriesMoved profile hostsOf start s' (· ∈ rest) := by
  intro other member bytes there
  rcases moved other member bytes there with whole | pending
  · exact .inl (same.entries _ _ whole)
  · rcases List.mem_cons.mp pending with rfl | later
    · exact .inl (done bytes there)
    · exact .inr later

theorem advances_onEntry (moving : Moving profile hostsOf start True s) {newFails oldFails : Bool}
    {outcome : StoreOutcome} (agrees : Agrees s (.entry newFails oldFails outcome)) :
    Advances profile hostsOf start s (s.onEntry newFails oldFails outcome) := by
  unfold State.onEntry
  split
  · rename_i entry rest complete isClient
    simp only [Agrees, isClient] at agrees
    obtain ⟨files, entries⟩ : FilesMoved profile start s (fun _ => False) ∧
        (complete = true → EntriesMoved profile hostsOf start s (· ∈ entry :: rest)) := by
      have progress := moving.progress trivial
      rw [isClient] at progress
      exact progress
    -- What the profile's keystore still has is what it had.
    have atStart {one two : List UInt8} (here : s.profileKeys.lookup entry = some (.secret one))
        (there : start.profileKeys.lookup entry = some (.secret two)) : one = two := by
      rw [moving.kept.entriesShrink entry _ here] at there
      cases there
      rfl
    split
    · rename_i bytes loadedNew loadedOld
      have empty := Keystore.lookup_of_loadSecret_none loadedNew
      have here := Keystore.lookup_of_loadSecret loadedOld
      split
      · rename_i keys stored
        have same : NotOverwritten s { s with keys, client := .deleting entry rest complete } :=
          .store empty rfl (by rw [stored])
        have written : keys.lookup entry = some (.secret bytes) := by
          have ok : (s.keys.storeSecret entry bytes outcome).2.lookup entry =
              some (.secret bytes) := Keystore.storeSecret_ok (by rw [stored])
          rwa [stored] at ok
        refine advances_of_eq rfl ⟨files.mono same fun _ => id, fun yes => ?_⟩
        refine (entries yes).tail same fun content there => ?_
        rw [← atStart here there]
        exact written
      · rename_i keys stored
        have same : NotOverwritten s { s with keys, client := .entries rest false } :=
          .store empty rfl (by rw [stored])
        exact advances_of_eq rfl ⟨files.mono same fun _ => id, nofun⟩
    · rename_i one two loadedNew loadedOld
      have hereNew := Keystore.lookup_of_loadSecret loadedNew
      have here := Keystore.lookup_of_loadSecret loadedOld
      rw [hereNew, here] at agrees
      refine advances_of_eq rfl ⟨files, fun yes => ?_⟩
      refine (entries yes).tail (.of_eq rfl rfl) fun content there => ?_
      rw [← atStart here there, ← agrees]
      exact hereNew
    · rename_i loadedNew loadedOld
      refine advances_of_eq rfl ⟨files, fun yes => ?_⟩
      refine (entries yes).tail (.of_eq rfl rfl) fun content there => ?_
      refine (moving.kept.entries entry _ there).resolve_left fun here => ?_
      have gone := Keystore.lookup_of_loadSecret_none loadedOld
      rw [gone] at here
      cases here
    · exact advances_of_eq rfl ⟨files, nofun⟩
  · exact advances_of_eq rfl (moving.progress trivial)

theorem advances_onDelete (moving : Moving profile hostsOf start True s) (fails : Bool) :
    Advances profile hostsOf start s (s.onDelete fails) := by
  unfold State.onDelete
  split
  · rename_i entry rest complete isClient
    have progress := moving.progress trivial
    rw [isClient] at progress
    exact advances_of_eq rfl progress
  · exact advances_of_eq rfl (moving.progress trivial)

/-- The marker is written for a start that completed its moves. -/
theorem advances_onFinish (moving : Moving profile hostsOf start True s) (marked : Bool) :
    Advances profile hostsOf start s (s.onFinish marked) := by
  unfold State.onFinish
  split
  · rename_i complete isClient
    obtain ⟨files, entries⟩ : FilesMoved profile start s (fun _ => False) ∧
        (complete = true → EntriesMoved profile hostsOf start s (· ∈ [])) := by
      have progress := moving.progress trivial
      rw [isClient] at progress
      exact progress
    refine ⟨trivial, fun isMarked => ?_⟩
    rcases Bool.or_eq_true _ _ |>.mp isMarked with before | now
    · exact .inl before
    · have all := entries (Bool.and_eq_true _ _ |>.mp now).1
      refine .inr ⟨fun path bytes moved there empty => ?_, fun entry member bytes there => ?_⟩
      · exact (files path bytes moved there empty).resolve_right id
      · exact (all entry member bytes there).resolve_right List.not_mem_nil
  · exact advances_of_eq rfl (moving.progress trivial)

theorem advances_onMint (moving : Moving profile hostsOf start True s) (loadFails : Bool)
    (fresh : Bytes 32) (outcome : StoreOutcome) :
    Advances profile hostsOf start s (s.onMint loadFails fresh outcome).2 := by
  unfold State.onMint
  split
  · split
    · exact advances_of_eq rfl trivial
    · exact advances_of_eq rfl trivial
    · split <;> exact advances_of_eq rfl trivial
  · exact advances_of_eq rfl (moving.progress trivial)

/-- The steps of a start that completes its moves advance them. -/
theorem advances_step {ok : Prop} (moving : Moving profile hostsOf start ok s) {op : Op}
    (carries : ok ∨ isStart op = true) (agrees : Agrees s op) (sees : Sees s op)
    (completes : Completes profile hostsOf s op) :
    Advances profile hostsOf start s (s.step profile hostsOf op).2 := by
  rcases carries with isOk | started
  · have moving : Moving profile hostsOf start True s :=
      { moving with progress := fun _ => moving.progress isOk }
    cases op with
    | start markerSeen hidden => exact advances_onStart moving completes
    | copy targetSeen sourceSeen outcome => exact advances_onCopy moving sees completes
    | unlink fails => exact advances_onUnlink moving fails
    | openKeystore opens listReads marked => exact advances_onOpenKeystore moving completes
    | entry newFails oldFails outcome => exact advances_onEntry moving agrees
    | delete fails => exact advances_onDelete moving fails
    | finish marked => exact advances_onFinish moving marked
    | mint loadFails fresh outcome => exact advances_onMint moving loadFails fresh outcome
  · cases op with
    | start markerSeen hidden => exact advances_onStart moving completes
    | _ => cases started

theorem moving_step {ok ok' : Prop} (moving : Moving profile hostsOf start ok s) {op : Op}
    (agrees : Agrees s op) (sees : Sees s op) (untorn : Untorn s op)
    (carries : ok' → (ok ∨ isStart op = true) ∧ Completes profile hostsOf s op)
    (marks : s.marker = false → (s.step profile hostsOf op).2.marker = true → ok') :
    Moving profile hostsOf start ok' (s.step profile hostsOf op).2 := by
  have same : NotOverwritten s (s.step profile hostsOf op).2 := notOverwritten_step op sees
  have advances (isOk : ok') : Advances profile hostsOf start s (s.step profile hostsOf op).2 :=
    advances_step moving (carries isOk).1 agrees sees (carries isOk).2
  exact
    { kept := kept_step moving.kept op agrees
      directory :=
        { files := fun name bytes found => same.files _ _ (moving.directory.files name bytes found)
          entries := fun entry slot found =>
            same.entries _ _ (moving.directory.entries entry slot found) }
      whole := whole_step moving.kept moving.whole untorn sees
      progress := fun isOk => (advances isOk).progress
      marker := fun marked => by
        cases before : s.marker with
        | true => exact (moving.marker before).mono same
        | false =>
            refine ((advances (marks before marked)).marker marked).resolve_left ?_
            rw [before]
            nofun }

end Marker

/-- Nothing of the profile is lost while an entry found in both stores is the same in both, nothing
in the protected store is overwritten by a step whose test sees what is there, and where no copy
stops halfway, the marker of a start that completes its moves says that everything is in the protected
store. -/
theorem move_out_of_profile (profile : Profile) (hostsOf : List UInt8 → List String)
    (start : State) (idle : start.client = .idle) (unmarked : start.marker = false)
    (ops : List Op) :
    ((∀ e ∈ history (State.step profile hostsOf) start ops, Agrees e.pre e.op) →
      NothingLost start (exec (State.step profile hostsOf) start ops)) ∧
    (∀ e ∈ history (State.step profile hostsOf) start ops,
      Sees e.pre e.op → NotOverwritten e.pre e.post) ∧
    ((∀ e ∈ history (State.step profile hostsOf) start ops,
        Agrees e.pre e.op ∧ Sees e.pre e.op ∧ Untorn e.pre e.op) →
      MarksCompleted profile hostsOf start ops →
      (exec (State.step profile hostsOf) start ops).marker = true →
        AllMoved profile hostsOf start (exec (State.step profile hostsOf) start ops)) := by
  refine ⟨fun agrees => ?_, fun e member sees => ?_, fun steps marks => ?_⟩
  · have keep (s : State) (op : Op) (kept : Kept profile start s) (ok : Agrees s op) :
        Kept profile start (s.step profile hostsOf op).2 := kept_step kept op ok
    exact (exec_induction keep (kept_start idle) agrees).nothingLost
  · rw [eq_of_mem_history member]
    exact notOverwritten_step e.op sees
  · have upTo (n : Nat) : n ≤ ops.length → Moving profile hostsOf start
        (startCompletes profile hostsOf (history (State.step profile hostsOf) start (ops.take n)) =
          true) (exec (State.step profile hostsOf) start (ops.take n)) := by
      induction n with
      | zero =>
          intro _
          exact moving_start idle unmarked
      | succ n ih =>
          intro bound
          obtain ⟨op, isOp⟩ : ∃ op, ops[n]? = some op := ⟨_, List.getElem?_eq_getElem bound⟩
          have next : ops.take (n + 1) = ops.take n ++ [op] := by
            rw [List.take_add_one, isOp, Option.toList_some]
          have marks := marks n bound
          have member : Event.of (State.step profile hostsOf)
              (exec (State.step profile hostsOf) start (ops.take n)) op ∈
                history (State.step profile hostsOf) start
                  (ops.take n ++ [op] ++ ops.drop (n + 1)) := by
            simp [history_append]
          rw [← next, List.take_append_drop] at member
          obtain ⟨agrees, sees, untorn⟩ := steps _ member
          rw [next, exec_concat] at marks
          rw [next, exec_concat]
          refine moving_step (ih (Nat.le_of_lt bound)) agrees sees untorn (fun all => ?_) marks
          rw [history_concat, startCompletes, List.foldl_concat] at all
          obtain ⟨carries, completes⟩ := (Bool.and_eq_true _ _).mp all
          exact ⟨(Bool.or_eq_true _ _).mp carries, of_decide_eq_true completes⟩
    have last := (upTo ops.length (Nat.le_refl _)).marker
    rwa [List.take_length] at last

/-- The first start moves the list and an invite, fails to copy the address book and finds no
keystore; the second one moves the book, the identity and the password of the listed host, and writes
the marker. -/
theorem profile_is_moved_in_two_starts :
    let profile : Profile := ⟨some "config", some "config", some "data", none⟩
    let start : State :=
      { profileFiles := (((∅ : HashMap Path (List UInt8)).insert (Path.mk "config" "address_book.json")
          [1, 2]).insert (Path.mk "config" "invite-1.json") [3]).insert
            (Path.mk "data" "connection_history.json") [4]
        profileKeys := ((∅ : Keystore).insert identityEntry (.secret [7])).insert (entryName "host")
          (.secret [8])
        directory := ∅
        keys := ∅ }
    let after := exec (State.step profile fun _ => ["host"]) start
      [.start true [], .copy true true .refused, .copy true true .copied, .unlink false,
        .copy true true .copied, .unlink false, .openKeystore false true false, .start true [],
        .copy true true .copied, .unlink false, .copy true true .copied,
        .openKeystore true true true, .entry false false .stored, .delete false,
        .entry false false .stored, .entry false false .stored, .entry false false .stored,
        .entry false false .stored, .entry false false .stored, .delete false, .finish true]
    after.marker = true ∧ NothingLost start after ∧ AllMoved profile (fun _ => ["host"]) start after := by
  intro profile start after
  have moved := move_out_of_profile profile (fun _ => ["host"]) start rfl rfl
  exact ⟨by decide +kernel, (moved _).1 (by decide +kernel),
    (moved _).2.2 (by decide +kernel) (by decide +kernel) (by decide +kernel)⟩

/-- The identity of the profile is lost when the first start cannot read it: that start mints
another into the protected store, and the next one takes the profile's for already moved. -/
theorem unread_identity_is_lost :
    ¬ ∀ (profile : Profile) (hostsOf : List UInt8 → List String) (start : State) (ops : List Op),
      start.client = .idle → start.marker = false →
        NothingLost start (exec (State.step profile hostsOf) start ops) := by
  intro lossless
  have kept := (lossless ⟨none, none, none, none⟩ (fun _ => [])
    { profileFiles := ∅
      profileKeys := (∅ : Keystore).insert identityEntry (.secret [7])
      directory := ∅
      keys := ∅ }
    [.start true [], .openKeystore true true true, .entry false true .stored,
      .entry false false .stored, .entry false false .stored, .entry false false .stored,
      .entry false false .stored, .finish true, .mint false (.replicate 32 0) .stored,
      .start true [], .openKeystore true true true, .entry false false .stored, .delete false]
    rfl rfl).entries identityEntry (.secret [7]) (by decide)
  revert kept
  decide

end Lumepeer.Desktop.Protected
