import Lumepeer.Net.Nostr

/-!
# What a channel returns of the events that reach it

What is taken out of the inbox is what reached it, in order, and the memory of
ids decides which of it is new. An event that is taken as a copy had its id
returned before; it had its content returned as well where no relay put other
content under that id.
-/

namespace Lumepeer.Net.Nostr
open Lumepeer.Lib

variable {crates : Crates} {topic : String}

/-! ## Genuine events -/

/-- What an honest peer publishes on a topic. -/
structure Draft (crates : Crates) where
  key : crates.SigningKey
  content : String
  createdAt : UInt64
  aux : Bytes 32

namespace Draft

/-- What the id of the event commits to. -/
def commits (topic : String) (draft : Draft crates) : Json :=
  commitment (hexLower (crates.verifyingKey draft.key).toList) topic draft.content draft.createdAt

/-- The NIP-01 id of the event. -/
def id (topic : String) (draft : Draft crates) : String :=
  hexLower (crates.digest (asBytes (crates.toText (draft.commits topic)))).toList

/-- The event as the channel hears it. -/
def heard (topic : String) (draft : Draft crates) : Heard := ⟨draft.id topic, draft.content⟩

/-- The frame is the event as it was published, on this client's subscription. -/
def Forwards (topic : String) (draft : Draft crates) (text : String) : Prop :=
  text.utf8ByteSize ≤ signalMaxMessageBytes ∧
    ∃ event, signedEvent crates draft.key topic draft.content draft.createdAt draft.aux =
        some event ∧
      crates.fromStr text = some (.array [.string "EVENT", .string subscriptionId, event])

/-- A frame that forwards an event is read as that event. -/
theorem Forwards.parseFrame {draft : Draft crates} {text : String}
    (forwards : draft.Forwards topic text) :
    parseFrame crates text topic = .event (draft.id topic) draft.content := by
  obtain ⟨-, event, signed, reads⟩ := forwards
  rw [signedEvent] at signed
  split at signed
  · cases signed
  · cases signed
    simp [Nostr.parseFrame, reads, subscriptionId, Json.asStr, Json.get, List.lookup_cons, Json.asU64,
      onTopic, tags, Json.asArray, Draft.id, commits, eventId]

end Draft

theorem digitChar_inj : ∀ a < 16, ∀ b < 16, Nat.digitChar a = Nat.digitChar b → a = b := by
  decide

theorem hexLower_inj {first second : List UInt8} (same : hexLower first = hexLower second) :
    first = second := by
  rw [hexLower, hexLower, String.ofList_inj] at same
  induction first generalizing second with
  | nil =>
      cases second with
      | nil => rfl
      | cons byte rest => simp at same
  | cons byte rest ih =>
      cases second with
      | nil => simp at same
      | cons other others =>
          simp only [List.flatMap_cons, List.cons_append, List.nil_append, List.cons.injEq] at same
          obtain ⟨high, low, rest'⟩ := same
          have bound := byte.toNat_lt
          have bound' := other.toNat_lt
          have highs := digitChar_inj _ (by omega) _ (by omega) high
          have lows := digitChar_inj _ (by omega) _ (by omega) low
          have same : byte = other := UInt8.toNat_inj.mp (by omega)
          rw [same, ih rest']

/-- `serde_json` reads back what genuine events commit to, and SHA-256 tells their commitments
apart. -/
structure CollisionFree (topic : String) (genuine : Draft crates → Prop) : Prop where
  reads : ∀ draft, genuine draft →
    crates.fromStr (crates.toText (draft.commits topic)) = some (draft.commits topic)
  digest : ∀ draft other, genuine draft → genuine other →
    crates.digest (asBytes (crates.toText (draft.commits topic))) =
        crates.digest (asBytes (crates.toText (other.commits topic))) →
      asBytes (crates.toText (draft.commits topic)) = asBytes (crates.toText (other.commits topic))

/-- Genuine events of one id say the same. -/
theorem CollisionFree.content_eq {genuine : Draft crates → Prop} {draft other : Draft crates}
    (free : CollisionFree topic genuine) (isGenuine : genuine draft) (isGenuine' : genuine other)
    (same : draft.id topic = other.id topic) : draft.content = other.content := by
  have digests := List.Vector.toList_injective (hexLower_inj same)
  have bytes := free.digest draft other isGenuine isGenuine' digests
  have texts : crates.toText (draft.commits topic) = crates.toText (other.commits topic) := by
    have read := congrArg fromUtf8 bytes
    simpa using read
  have commitments : draft.commits topic = other.commits topic := by
    have first := free.reads draft isGenuine
    rw [texts, free.reads other isGenuine'] at first
    exact (Option.some.inj first).symm
  simp only [Draft.commits, commitment, Json.array.injEq, List.cons.injEq, Json.string.injEq]
    at commitments
  exact commitments.2.2.2.2.2.1

/-! ## What a run does -/

/-- The events of a run from a channel that was just opened. -/
def events (crates : Crates) (topic : String) (ops : List Op) : List (Event Channel Op Out) :=
  history (Channel.step crates topic) {} ops

/-- What reached the inbox. -/
def reached (crates : Crates) (topic : String) (ops : List Op) : List Heard :=
  (events crates topic ops).flatMap fun e => e.out.reached

/-- What was taken out of the inbox, each event with whether it was new. -/
def taken (crates : Crates) (topic : String) (ops : List Op) : List (Heard × Bool) :=
  (events crates topic ops).flatMap fun e => e.out.taken

/-- What `recv` returned. -/
def returned (crates : Crates) (topic : String) (ops : List Op) : List String :=
  (events crates topic ops).flatMap fun e => e.out.returned.toList

/-- The channel that a run leads to. -/
def reaches (crates : Crates) (topic : String) (ops : List Op) : Channel :=
  exec (Channel.step crates topic) {} ops

/-- The run, and then a `recv` for each event that is still in the inbox. -/
def drained (crates : Crates) (topic : String) (ops : List Op) : List Op :=
  ops ++ List.replicate (reaches crates topic ops).inbox.length .recv

/-- The ids of what was taken. -/
def ids (taken : List (Heard × Bool)) : List (String × Bool) :=
  taken.map fun entry => (entry.1.id, entry.2)

/-- The contents of what was new. -/
def contents (taken : List (Heard × Bool)) : List String :=
  (taken.filter Prod.snd).map fun entry => entry.1.content

/-! ## One call of `recv` -/

section
variable (seen : List String) (inbox : List Heard)

theorem reached_recvFrom : (Channel.recvFrom seen inbox).1.reached = [] := by
  induction inbox with
  | nil => rfl
  | cons heard inbox ih =>
      rw [Channel.recvFrom]
      split
      · exact ih
      · rfl

theorem taken_recvFrom :
    (Channel.recvFrom seen inbox).1.taken.map Prod.fst ++ (Channel.recvFrom seen inbox).2.1 =
      inbox := by
  induction inbox with
  | nil => rfl
  | cons heard inbox ih =>
      rw [Channel.recvFrom]
      split
      · exact congrArg (heard :: ·) ih
      · rfl

theorem returned_recvFrom :
    (Channel.recvFrom seen inbox).1.returned.toList =
      contents (Channel.recvFrom seen inbox).1.taken := by
  induction inbox with
  | nil => rfl
  | cons heard inbox ih =>
      rw [Channel.recvFrom]
      split
      · exact ih
      · rfl

theorem remembers_recvFrom {log : List (String × Bool)}
    (remembers : Remembers seenCapacity log seen) :
    Remembers seenCapacity (log ++ ids (Channel.recvFrom seen inbox).1.taken)
      (Channel.recvFrom seen inbox).2.2 := by
  induction inbox generalizing log with
  | nil => simpa [Channel.recvFrom, ids] using remembers
  | cons heard inbox ih =>
      rw [Channel.recvFrom]
      split
      · next known =>
          have next := ih (remembers.refused known)
          rw [List.append_assoc] at next
          exact next
      · next isNew => exact remembers.admitted isNew

end

/-- A call of `recv` takes an event out of the inbox, if there is one. -/
theorem length_inbox_recv_le (channel : Channel) :
    channel.recv.2.inbox.length ≤ channel.inbox.length - 1 := by
  have conserved := congrArg List.length (taken_recvFrom channel.seen channel.inbox)
  rw [List.length_append, List.length_map] at conserved
  show (Channel.recvFrom channel.seen channel.inbox).2.1.length ≤ _
  rcases present : channel.inbox with _ | ⟨heard, inbox⟩
  · rw [Channel.recvFrom]
    simp
  · have some : 0 < (Channel.recvFrom channel.seen (heard :: inbox)).1.taken.length := by
      rw [Channel.recvFrom]
      split <;> simp
    rw [present] at conserved
    omega

/-! ## Runs -/

/-- What reached the inbox was taken out in order or is still there, the memory decided what was
new, and that was returned. -/
structure Follows (crates : Crates) (topic : String) (ops : List Op) : Prop where
  order : reached crates topic ops =
    (taken crates topic ops).map Prod.fst ++ (reaches crates topic ops).inbox
  remembers :
    Remembers seenCapacity (ids (taken crates topic ops)) (reaches crates topic ops).seen
  returns : returned crates topic ops = contents (taken crates topic ops)

section
variable (ops : List Op) (op : Op)

theorem reaches_concat : reaches crates topic (ops ++ [op]) =
    (Channel.step crates topic (reaches crates topic ops) op).2 := by
  rw [reaches, exec_concat]
  rfl

theorem reached_concat : reached crates topic (ops ++ [op]) = reached crates topic ops ++
    (Channel.step crates topic (reaches crates topic ops) op).1.reached := by
  simp [reached, events, history_concat, reaches]

theorem taken_concat : taken crates topic (ops ++ [op]) = taken crates topic ops ++
    (Channel.step crates topic (reaches crates topic ops) op).1.taken := by
  simp [taken, events, history_concat, reaches]

theorem returned_concat : returned crates topic (ops ++ [op]) = returned crates topic ops ++
    (Channel.step crates topic (reaches crates topic ops) op).1.returned.toList := by
  simp [returned, events, history_concat, reaches]

end

/-- A step that is no `recv` takes nothing, and appends to the inbox what reaches it. -/
theorem step_of_ne_recv (channel : Channel) {op : Op} (isOther : op ≠ .recv) :
    (Channel.step crates topic channel op).1.taken = [] ∧
      (Channel.step crates topic channel op).1.returned = none ∧
      (Channel.step crates topic channel op).2.seen = channel.seen ∧
      (Channel.step crates topic channel op).2.inbox =
        channel.inbox ++ (Channel.step crates topic channel op).1.reached := by
  cases op with
  | connects relay now =>
      rw [Channel.step]
      split <;> simp
  | ends relay => simp [Channel.step]
  | frame relay text =>
      rw [Channel.step, Channel.frame]
      split
      · simp
      · split
        · simp
        · split
          · split <;> simp
          · simp
          · simp
  | recv => exact absurd rfl isOther

theorem follows (ops : List Op) : Follows crates topic ops := by
  induction ops using List.reverseRecOn with
  | nil => exact ⟨rfl, .nil, rfl⟩
  | append_singleton ops op ih =>
      obtain ⟨order, remembers, returns⟩ := ih
      by_cases isRecv : op = .recv
      · subst isRecv
        generalize ahead : reaches crates topic ops = channel at order remembers
        have result : Channel.step crates topic channel .recv = channel.recv := rfl
        constructor
        · have nothing : channel.recv.1.reached = [] := reached_recvFrom channel.seen channel.inbox
          have conserved : channel.recv.1.taken.map Prod.fst ++ channel.recv.2.inbox =
              channel.inbox := taken_recvFrom channel.seen channel.inbox
          rw [reached_concat, taken_concat, reaches_concat, ahead, result, order, nothing,
            List.map_append, List.append_nil, List.append_assoc, conserved]
        · rw [taken_concat, reaches_concat, ahead, result, ids, List.map_append]
          exact remembers_recvFrom channel.seen channel.inbox remembers
        · rw [returned_concat, taken_concat, ahead, result, returns, contents, contents,
            List.filter_append, List.map_append]
          exact congrArg _ (returned_recvFrom channel.seen channel.inbox)
      · obtain ⟨takes, returnsNone, keeps, grows⟩ :=
          @step_of_ne_recv crates topic (reaches crates topic ops) op isRecv
        constructor
        · rw [reached_concat, taken_concat, reaches_concat, takes, grows, order, List.append_nil,
            List.append_assoc]
        · rw [taken_concat, reaches_concat, takes, keeps, List.append_nil]
          exact remembers
        · rw [returned_concat, taken_concat, takes, returnsNone, List.append_nil, returns]
          exact List.append_nil _

/-- What reached the inbox came in a frame of the run that is read as that event. -/
theorem frame_of_reached {ops : List Op} {heard : Heard}
    (isReached : heard ∈ reached crates topic ops) :
    ∃ relay text, Op.frame relay text ∈ ops ∧ text.utf8ByteSize ≤ signalMaxMessageBytes ∧
      parseFrame crates text topic = .event heard.id heard.content := by
  rw [reached, List.mem_flatMap] at isReached
  obtain ⟨e, member, isReached⟩ := isReached
  have isOp := op_mem_of_mem_history member
  rw [eq_of_mem_history member, Event.of_out] at isReached
  cases op : e.op with
  | connects relay now =>
      rw [op, Channel.step] at isReached
      split at isReached <;> simp at isReached
  | ends relay => simp [op, Channel.step] at isReached
  | frame relay text =>
      refine ⟨relay, text, op ▸ isOp, ?_⟩
      rw [op, Channel.step, Channel.frame] at isReached
      split at isReached
      · simp at isReached
      · split at isReached
        · simp at isReached
        · next small =>
            split at isReached
            · next id content isEvent =>
                split at isReached
                · rw [List.mem_singleton] at isReached
                  subst isReached
                  exact ⟨Nat.le_of_not_lt small, isEvent⟩
                · simp at isReached
            · simp at isReached
            · simp at isReached
  | recv =>
      rw [op] at isReached
      exact absurd (reached_recvFrom e.pre.seen e.pre.inbox ▸ isReached) (List.not_mem_nil)

/-- Calls of `recv` bring nothing into the inbox, and as many as it holds events empty it. -/
theorem drain (ops : List Op) (calls : Nat) :
    reached crates topic (ops ++ List.replicate calls .recv) = reached crates topic ops ∧
      (reaches crates topic (ops ++ List.replicate calls .recv)).inbox.length ≤
        (reaches crates topic ops).inbox.length - calls := by
  induction calls with
  | zero => simp
  | succ calls ih =>
      obtain ⟨same, shorter⟩ := ih
      rw [List.replicate_succ', ← List.append_assoc, reached_concat, reaches_concat, same]
      generalize reaches crates topic (ops ++ List.replicate calls .recv) = channel at shorter
      have nothing : (Channel.step crates topic channel .recv).1.reached = [] :=
        reached_recvFrom channel.seen channel.inbox
      rw [nothing, List.append_nil]
      refine ⟨rfl, ?_⟩
      have less : (Channel.step crates topic channel .recv).2.inbox.length ≤
          channel.inbox.length - 1 := length_inbox_recv_le channel
      omega

/-- In the end everything that reached the inbox was taken. -/
theorem taken_drained (ops : List Op) :
    (taken crates topic (drained crates topic ops)).map Prod.fst = reached crates topic ops := by
  obtain ⟨same, shorter⟩ := @drain crates topic ops
    (reaches crates topic ops).inbox.length
  have empty : (reaches crates topic (drained crates topic ops)).inbox = [] := by
    rw [Nat.sub_self, Nat.le_zero, List.length_eq_zero_iff] at shorter
    exact shorter
  have order := (@follows crates topic (drained crates topic ops)).order
  rw [empty, List.append_nil] at order
  rw [← order]
  exact same

/-! ## Genuine events among the frames of other relays -/

/-- Every frame of the run forwards a genuine event or is one of `hostile`. -/
def Comes (topic : String) (genuine : Draft crates → Prop) (hostile : String → Prop)
    (ops : List Op) : Prop :=
  ∀ relay text, Op.frame relay text ∈ ops →
    hostile text ∨ ∃ draft, genuine draft ∧ draft.Forwards topic text

/-- The frame puts no other content under the id of a genuine event. -/
def Honest (topic : String) (genuine : Draft crates → Prop) (text : String) : Prop :=
  text.utf8ByteSize ≤ signalMaxMessageBytes → ∀ id content,
    parseFrame crates text topic = .event id content →
      ∀ draft, genuine draft → draft.id topic = id → draft.content = content

/-- The content of every genuine event that reached the inbox is returned once all of the inbox is
received, and between two events of one id whose contents are returned stand as many others as the
channel remembers. -/
structure Delivers (topic : String) (genuine : Draft crates → Prop) (ops : List Op) : Prop where
  returns : ∀ draft, genuine draft → draft.heard topic ∈ reached crates topic ops →
    draft.content ∈ returned crates topic (drained crates topic ops)
  isNew : returned crates topic ops = contents (taken crates topic ops)
  apart : ∀ before first between second after,
    taken crates topic ops = before ++ (first, true) :: (between ++ (second, true) :: after) →
      first.id = second.id →
        ∃ others : List String, others.Nodup ∧ others.length = seenCapacity ∧
          first.id ∉ others ∧ ∀ id ∈ others, ∃ heard, (heard, true) ∈ between ∧ heard.id = id

theorem mem_contents {heard : Heard} {log : List (Heard × Bool)} (isNew : (heard, true) ∈ log) :
    heard.content ∈ contents log := by
  rw [contents, List.mem_map]
  exact ⟨(heard, true), by simpa using isNew, rfl⟩

/-- Between two events of one id that were both new stand as many others as the channel
remembers. -/
theorem apart_taken {ops : List Op} {before between after : List (Heard × Bool)}
    {first second : Heard}
    (split : taken crates topic ops =
      before ++ (first, true) :: (between ++ (second, true) :: after))
    (same : first.id = second.id) :
    ∃ others : List String, others.Nodup ∧ others.length = seenCapacity ∧ first.id ∉ others ∧
      ∀ id ∈ others, ∃ heard, (heard, true) ∈ between ∧ heard.id = id := by
  have remembers := (@follows crates topic ops).remembers
  have twice : ids (taken crates topic ops) =
      ids before ++ (first.id, true) :: (ids between ++ (first.id, true) :: ids after) := by
    simp [split, ids, same]
  obtain ⟨others, distinct, many, isOther, between'⟩ := remembers.apart (by decide) twice
  refine ⟨others, distinct, many, isOther, fun id member => ?_⟩
  obtain ⟨⟨heard, isNew⟩, stands, isId⟩ := List.mem_map.mp (between' id member)
  simp only [Prod.mk.injEq] at isId
  exact ⟨heard, isId.2 ▸ stands, isId.1⟩

section
variable {genuine : Draft crates → Prop} {hostile : String → Prop}

/-- A genuine event that reached the inbox is returned where no frame put other content under its
id: whatever was taken under the id before has the same content. -/
theorem returned_of_honest (free : CollisionFree topic genuine)
    (honest : ∀ text, hostile text → Honest topic genuine text) {ops : List Op}
    (comes : Comes topic genuine hostile ops) {draft : Draft crates} (isGenuine : genuine draft)
    (isReached : draft.heard topic ∈ reached crates topic ops) :
    draft.content ∈ returned crates topic (drained crates topic ops) := by
  obtain ⟨-, remembers, returns⟩ :=
    @follows crates topic (drained crates topic ops)
  have everything := @taken_drained crates topic ops
  generalize taken crates topic (drained crates topic ops) = log at *
  rw [returns]
  have isTaken : draft.heard topic ∈ log.map Prod.fst := everything ▸ isReached
  obtain ⟨⟨_, isNew⟩, member, rfl⟩ := List.mem_map.mp isTaken
  cases isNew with
  | true => exact mem_contents member
  | false =>
      have refused : (draft.id topic, false) ∈ ids log := List.mem_map.mpr ⟨_, member, rfl⟩
      have admitted := remembers.admitted_of_refused (by decide) refused
      obtain ⟨⟨earlier, isNew⟩, stands, isId⟩ := List.mem_map.mp admitted
      simp only [Prod.mk.injEq] at isId
      obtain ⟨sameId, rfl⟩ := isId
      have reachedToo : earlier ∈ reached crates topic ops :=
        everything ▸ List.mem_map.mpr ⟨_, stands, rfl⟩
      obtain ⟨relay, text, isOp, small, isEvent⟩ := frame_of_reached reachedToo
      have sameContent : draft.content = earlier.content := by
        rcases comes relay text isOp with isHostile | ⟨other, isGenuine', forwards⟩
        · exact honest text isHostile small _ _ isEvent draft isGenuine sameId.symm
        · have isOther := forwards.parseFrame.symm.trans isEvent
          rw [Frame.event.injEq] at isOther
          rw [← isOther.2]
          exact free.content_eq isGenuine isGenuine' (sameId.symm.trans isOther.1.symm)
      rw [sameContent]
      exact mem_contents stands

/-- A frame of one relay, then a genuine event that another one forwards: what `recv` returns of the
two. -/
theorem returned_after {text forwarded id content : String} {draft : Draft crates}
    (small : text.utf8ByteSize ≤ signalMaxMessageBytes)
    (isEvent : parseFrame crates text topic = .event id content) (same : draft.id topic = id)
    (forwards : draft.Forwards topic forwarded) :
    let ops := [Op.connects 0 0, .connects 1 0, .frame 0 text, .frame 1 forwarded]
    draft.heard topic ∈ reached crates topic ops ∧
      returned crates topic (drained crates topic ops) = [content] := by
  have isEvent' := forwards.parseFrame
  have small' := forwards.1
  simp [reached, returned, drained, reaches, events, Channel.step, Channel.frame, Channel.recv,
    Channel.recvFrom, isEvent, isEvent', same, small, small', Nat.not_lt_of_le, inboxCapacity,
    Draft.heard, remember, seenCapacity, List.replicate]

end

/-! ## An event and a frame that silences it -/

/-- What the id of the event below commits to. -/
def sampleCommitment : String :=
  "[0,\"79be667ef9dcbbac55a06295ce870b07029bfcdb2dce28d959f2815b16f81798\",1,25116,[[\"t\",\"abcd\"]],\"0011\"]"

def samplePubkey : Bytes 32 :=
  ⟨[121, 190, 102, 126, 249, 220, 187, 172, 85, 160, 98, 149, 206, 135, 11, 7, 2, 155, 252, 219, 45,
    206, 40, 217, 89, 242, 129, 91, 22, 248, 23, 152], rfl⟩

def sampleId : Bytes 32 :=
  ⟨[135, 206, 28, 101, 55, 235, 234, 123, 118, 159, 62, 122, 130, 213, 126, 133, 224, 206, 149, 191,
    108, 238, 6, 63, 163, 57, 130, 151, 239, 160, 230, 193], rfl⟩

def sampleSignature : Bytes 64 :=
  ⟨[223, 87, 149, 23, 214, 244, 21, 75, 80, 226, 42, 155, 204, 27, 174, 95, 202, 83, 63, 127, 102,
    217, 241, 187, 182, 26, 238, 5, 121, 178, 106, 196, 216, 152, 70, 236, 251, 110, 55, 194, 201,
    145, 34, 79, 70, 140, 42, 207, 16, 161, 231, 229, 103, 220, 31, 83, 192, 59, 224, 86, 201, 122,
    176, 244], rfl⟩

/-- The event as a relay forwards it. -/
def sampleForwarded : String :=
  "[\"EVENT\",\"lp\",\x7b\"content\":\"0011\",\"created_at\":1," ++
    "\"id\":\"87ce1c6537ebea7b769f3e7a82d57e85e0ce95bf6cee063fa3398297efa0e6c1\"," ++
    "\"kind\":25116," ++
    "\"pubkey\":\"79be667ef9dcbbac55a06295ce870b07029bfcdb2dce28d959f2815b16f81798\"," ++
    "\"sig\":\"df579517d6f4154b50e22a9bcc1bae5fca533f7f66d9f1bbb61aee0579b26ac4" ++
    "d89846ecfb6e37c2c991224f468c2acf10a1e7e567dc1f53c03be056c97ab0f4\"," ++
    "\"tags\":[[\"t\",\"abcd\"]]\x7d]"

/-- A frame with no signature and nothing else of the event but its id. -/
def sampleForged : String :=
  "[\"EVENT\",\"lp\",\x7b\"content\":\"\"," ++
    "\"id\":\"87ce1c6537ebea7b769f3e7a82d57e85e0ce95bf6cee063fa3398297efa0e6c1\"," ++
    "\"kind\":25116,\"tags\":[[\"t\",\"abcd\"]]\x7d]"

/-- The crates on these texts. -/
def sampleCrates : Crates where
  fromStr text :=
    if text = sampleCommitment then
      some (commitment (hexLower samplePubkey.toList) "abcd" "0011" 1)
    else if text = sampleForwarded then
      some <| .array [.string "EVENT", .string "lp", .object
        [("content", .string "0011"), ("created_at", .posInt 1),
          ("id", .string (hexLower sampleId.toList)), ("kind", .posInt 25116),
          ("pubkey", .string (hexLower samplePubkey.toList)),
          ("sig", .string (hexLower sampleSignature.toList)), ("tags", tags "abcd")]]
    else if text = sampleForged then
      some <| .array [.string "EVENT", .string "lp", .object
        [("content", .string ""), ("id", .string (hexLower sampleId.toList)),
          ("kind", .posInt 25116), ("tags", tags "abcd")]]
    else none
  toText
    | .array (.posInt _ :: _) => sampleCommitment
    | _ => "[\"REQ\",\"lp\",\x7b\"#t\":[\"abcd\"],\"kinds\":[25116],\"since\":0\x7d]"
  digest bytes := if bytes = asBytes sampleCommitment then sampleId else List.Vector.replicate 32 0
  SigningKey := Unit
  verifyingKey _ := samplePubkey
  signRaw _ id _ := if id = sampleId then some sampleSignature else none

def sampleDraft : Draft sampleCrates := ⟨(), "0011", 1, List.Vector.replicate 32 0⟩

theorem sampleDraft_forwards : sampleDraft.Forwards "abcd" sampleForwarded := by
  refine ⟨by decide +kernel, _, rfl, ?_⟩
  have apart : sampleForwarded ≠ sampleCommitment := by decide +kernel
  simp only [sampleCrates, if_neg apart, if_true]
  rfl

theorem sample_collisionFree : CollisionFree "abcd" (· = sampleDraft) where
  reads := by
    rintro _ rfl
    rfl
  digest := by
    rintro _ _ rfl rfl same
    rfl

theorem parse_sampleForged :
    parseFrame sampleCrates sampleForged "abcd" = .event (sampleDraft.id "abcd") "" := by
  have apart : sampleForged ≠ sampleCommitment := by decide +kernel
  have apart' : sampleForged ≠ sampleForwarded := by decide +kernel
  have reads : sampleCrates.fromStr sampleForged = some (.array [.string "EVENT", .string "lp",
      .object [("content", .string ""), ("id", .string (hexLower sampleId.toList)),
        ("kind", .posInt 25116), ("tags", tags "abcd")]]) := by
    simp only [sampleCrates, if_neg apart, if_neg apart', if_true]
  rw [parseFrame, reads]
  rfl

/-- However the frames of any number of relays interleave, with the frames `hostile` among them,
a channel returns the content of every genuine event that reached its inbox, just if none of these
frames puts other content under the id of a genuine event. What it returns under one id lies as many
other ids apart as it remembers either way. -/
theorem delivers_iff (hostile : String → Prop) (free : CollisionFree topic genuine)
    (forwarded : ∀ draft, genuine draft → ∃ text, draft.Forwards topic text) :
    (∀ ops, Comes topic genuine hostile ops → Delivers topic genuine ops) ↔
      ∀ text, hostile text → Honest topic genuine text := by
  constructor
  · intro delivers text isHostile small id content isEvent draft isGenuine same
    obtain ⟨frame, forwards⟩ := forwarded draft isGenuine
    obtain ⟨isReached, only⟩ := returned_after small isEvent same forwards
    have comes : Comes topic genuine hostile
        [Op.connects 0 0, .connects 1 0, .frame 0 text, .frame 1 frame] := by
      intro relay other member
      simp only [List.mem_cons, Op.frame.injEq, reduceCtorEq, false_or, List.not_mem_nil,
        or_false] at member
      rcases member with ⟨-, rfl⟩ | ⟨-, rfl⟩
      · exact .inl isHostile
      · exact .inr ⟨draft, isGenuine, forwards⟩
    have isReturned := (delivers _ comes).returns draft isGenuine isReached
    rw [only, List.mem_singleton] at isReturned
    exact isReturned
  · intro honest ops comes
    constructor
    · intro draft isGenuine isReached
      exact returned_of_honest free honest comes isGenuine isReached
    · exact (follows ops).returns
    · intro before first between second after split same
      exact apart_taken split same

/-- A relay that sends a frame of its own under the id of an event, before another relay forwards the
event itself, silences it: the event reaches the inbox, and `recv` returns the relay's content in
its place. -/
theorem forged_frame_silences :
    ∃ ops, (∀ relay text, Op.frame relay text ∈ ops → relay = 0 ∨ text = sampleForwarded) ∧
      sampleDraft.Forwards "abcd" sampleForwarded ∧ CollisionFree "abcd" (· = sampleDraft) ∧
      sampleDraft.heard "abcd" ∈ reached sampleCrates "abcd" ops ∧
      sampleDraft.content ∉
        returned sampleCrates "abcd" (drained sampleCrates "abcd" ops) := by
  obtain ⟨isReached, only⟩ := returned_after (by decide +kernel) parse_sampleForged rfl
    sampleDraft_forwards
  refine ⟨[.connects 0 0, .connects 1 0, .frame 0 sampleForged, .frame 1 sampleForwarded],
    ?_, sampleDraft_forwards, sample_collisionFree, isReached, ?_⟩
  · intro relay text member
    simp only [List.mem_cons, Op.frame.injEq, reduceCtorEq, false_or, List.not_mem_nil,
      or_false] at member
    exact member.imp And.left And.right
  · rw [only]
    decide

/-- With the frame above among those that relays send, some run loses the event. -/
theorem delivers_iff_sample :
    ¬ ∀ ops, Comes "abcd" (· = sampleDraft) (· = sampleForged) ops →
      Delivers "abcd" (· = sampleDraft) ops := by
  have forwarded : ∀ draft, draft = sampleDraft → ∃ text, draft.Forwards "abcd" text := by
    rintro _ rfl
    exact ⟨sampleForwarded, sampleDraft_forwards⟩
  rw [delivers_iff (· = sampleForged) sample_collisionFree forwarded]
  intro honest
  have same := honest sampleForged rfl (by decide +kernel) _ _ parse_sampleForged sampleDraft rfl rfl
  exact absurd same (by decide)

end Lumepeer.Net.Nostr
