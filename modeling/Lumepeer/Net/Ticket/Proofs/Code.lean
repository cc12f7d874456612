import Lumepeer.Net.Ticket

/-!
# Invite codes and signatures

A ticket comes back from its code as the wire carries it, and a signature fixes
all of the signed fields: they are serialized without loss, except that the wire
has no room for the flow label and the scope of an IPv6 address.
-/

namespace Lumepeer.Net
open Lumepeer.Lib Lumepeer.Core

namespace InviteTicket

/-- The ticket as the wire carries it: an obfuscated address has no flow label and no scope. -/
def onWire (ticket : InviteTicket) : InviteTicket :=
  { ticket with
    obfuscatedAddr := ticket.obfuscatedAddr.map fun addr => SocketAddr.new addr.ip addr.port }

theorem ofWire_signedPart (ticket : InviteTicket) :
    ofWire (ticket.signedPart, ticket.signature) = ticket.onWire := by
  simp only [ofWire, signedPart, onWire, Option.map_map]
  rfl

/-- Every address but a scoped or labelled IPv6 one survives the wire. -/
theorem onWire_eq_self_iff (ticket : InviteTicket) :
    ticket.onWire = ticket ↔ ∀ octets port flowinfo scopeId,
      ticket.obfuscatedAddr = some (.v6 octets port flowinfo scopeId) →
        flowinfo = 0 ∧ scopeId = 0 := by
  constructor
  · intro same octets port flowinfo scopeId isV6
    have kept := congrArg obfuscatedAddr same
    rw [onWire, isV6] at kept
    simp only [Option.map_some, SocketAddr.ip, SocketAddr.port, SocketAddr.new, Option.some.injEq,
      SocketAddr.v6.injEq, true_and] at kept
    exact ⟨kept.1.symm, kept.2.symm⟩
  · intro plain
    have kept : ticket.obfuscatedAddr.map (fun addr => SocketAddr.new addr.ip addr.port) =
        ticket.obfuscatedAddr := by
      rcases isAddr : ticket.obfuscatedAddr with - | addr
      · rfl
      · rcases addr with ⟨octets, port⟩ | ⟨octets, port, flowinfo, scopeId⟩
        · rfl
        · obtain ⟨rfl, rfl⟩ := plain octets port flowinfo scopeId isAddr
          rfl
    rw [onWire, kept]

theorem length_socketAddr_le (addr : IpAddr × UInt16) :
    (Wire.socketAddr.encode addr).length ≤ 24 := by
  obtain ⟨ip, port⟩ := addr
  have port3 := length_pushVarint_le 3 port.toNat
  cases ip with
  | v4 octets =>
      show (pushVarint 5 0 ++ (octets.toList ++ pushVarint 3 port.toNat)).length ≤ 24
      have index := length_pushVarint_le 5 0
      rw [List.length_append, List.length_append, octets.toList_length]
      omega
  | v6 octets =>
      show (pushVarint 5 1 ++ (octets.toList ++ pushVarint 3 port.toNat)).length ≤ 24
      have index := length_pushVarint_le 5 1
      rw [List.length_append, List.length_append, octets.toList_length]
      omega

theorem length_signedFields (fields : SignedFields) :
    (Wire.signedFields.encode fields).length < 2 ^ 63 + 200 := by
  obtain ⟨protocolMajor, nodeAddr, inviteId, expiresAt, allowedRequest, addr, fingerprint⟩ := fields
  have isMajor : (Codec.u16.encode protocolMajor).length ≤ 3 := length_pushVarint_le 3 _
  have isExpiry := Codec.length_u64_le expiresAt
  have isRole : (Core.Wire.role.encode allowedRequest).length ≤ 5 := Codec.length_u32_le _
  have isAddr : (Wire.socketAddr.option.encode addr).length ≤ 24 + 1 :=
    Codec.length_option_le addr fun addr _ => length_socketAddr_le addr
  have isFingerprint : ((Codec.array 32).option.encode fingerprint).length ≤ 32 + 1 :=
    Codec.length_option_le fingerprint fun bytes _ => (Codec.length_array bytes).le
  have isNodeAddr : (Wire.byteVec.encode nodeAddr).length < 2 ^ 63 + 10 := by
    have counted := length_pushVarint_le 10 nodeAddr.val.length
    have short := nodeAddr.2
    show (pushVarint 10 nodeAddr.val.length ++ nodeAddr.val.flatMap fun b => [b]).length < _
    rw [List.flatMap_singleton', List.length_append]
    omega
  simp only [Wire.signedFields, Codec.length_pair, Codec.length_array]
  have isInvite : inviteIdBytes = 16 := rfl
  omega

theorem length_inviteTicket (fields : SignedFields) (signature : Bytes 64) :
    (Wire.inviteTicket.encode (fields, signature)).length < 2 ^ 64 := by
  have short := length_signedFields fields
  rw [Wire.inviteTicket, Codec.length_pair, Codec.length_array]
  omega

/-- A code is read back to the ticket it was made from, as the wire carries it. -/
theorem exists_code (ticket : InviteTicket) :
    ∃ code, ticket.toCode = .ok code ∧ fromCode code = .ok ticket.onWire := by
  refine ⟨_, rfl, ?_⟩
  have decoded := Wire.inviteTicket.decode_encode (ticket.signedPart, ticket.signature) []
    (length_inviteTicket _ _)
  rw [List.append_nil] at decoded
  unfold fromCode
  rw [asBytes_append, List.dropPrefix?_append_of_beq _ BEq.rfl]
  simp only [Base32.decode_encode, decoded, ofWire_signedPart]

theorem verifySignature_eq_ok_iff {ed : Dalek} {ticket : InviteTicket} {key : ed.VerifyingKey} :
    verifySignature ed ticket key = .ok () ↔
      ed.verify key (Wire.signedFields.encode ticket.signedPart) ticket.signature = true := by
  unfold verifySignature
  split <;> simp_all

/-- Equal signed bytes come from tickets that are equal on the wire. -/
theorem onWire_eq_of_signed {ticket ticket' : InviteTicket}
    (same : Wire.signedFields.encode ticket.signedPart = Wire.signedFields.encode ticket'.signedPart)
    (signature : ticket.signature = ticket'.signature) : ticket.onWire = ticket'.onWire := by
  have short := length_signedFields ticket.signedPart
  have fields := Wire.signedFields.encode_inj (by omega) same
  rw [← ofWire_signedPart, ← ofWire_signedPart, fields, signature]

/-- A ticket comes back from its code, and a signature that verifies for two tickets under one key
makes them one ticket: each as the wire carries it, which has no flow label and no scope of an IPv6
address. -/
theorem tickets_fixed_by_signature (ed : Dalek) (binding : ed.Binding) :
    (∀ ticket : InviteTicket,
      ∃ code, ticket.toCode = .ok code ∧ fromCode code = .ok ticket.onWire) ∧
    (∀ (ticket ticket' : InviteTicket) (key : ed.VerifyingKey),
      ticket.signature = ticket'.signature → verifySignature ed ticket key = .ok () →
      verifySignature ed ticket' key = .ok () → ticket.onWire = ticket'.onWire) ∧
    (∀ ticket : InviteTicket, ticket.onWire = ticket ↔ ∀ octets port flowinfo scopeId,
      ticket.obfuscatedAddr = some (.v6 octets port flowinfo scopeId) →
        flowinfo = 0 ∧ scopeId = 0) := by
  refine ⟨exists_code, ?_, onWire_eq_self_iff⟩
  intro ticket ticket' key signature verified verified'
  rw [verifySignature_eq_ok_iff] at verified verified'
  rw [← signature] at verified'
  exact onWire_eq_of_signed (binding verified verified') signature

/-- A ticket with the Ed25519 signature of its fields under the test key (`ticket.rs:357-359`). -/
def sampleTicket : InviteTicket :=
  { protocolMajor := 1, nodeAddr := ⟨[1, 2, 3], by decide⟩
    inviteId := List.Vector.replicate 16 0x42, expiresAt := 2000, allowedRequest := .viewOnly
    obfuscatedAddr := some (.v4 (.cons 203 (.cons 0 (.cons 113 (.cons 7 .nil)))) 4115), hostCertFingerprint := none
    signature := ⟨[210, 172, 71, 54, 216, 127, 46, 69, 211, 197, 250, 248, 169, 58, 233, 177, 45, 227,
      55, 10, 18, 91, 169, 146, 175, 138, 210, 205, 55, 73, 93, 222, 229, 57, 85, 163, 143,
      194, 165, 252, 166, 51, 187, 131, 130, 34, 154, 238, 46, 86, 138, 120, 30, 219, 218,
      193, 154, 165, 111, 83, 117, 123, 174, 8], rfl⟩ }

/-- The bytes the test key signs in it. -/
def sampleSigned : List UInt8 :=
  [1, 3, 1, 2, 3, 66, 66, 66, 66, 66, 66, 66, 66, 66, 66, 66, 66, 66, 66, 66, 66, 208, 15, 0, 1, 0,
    203, 0, 113, 7, 147, 32, 0]

/-- Ed25519 under the test key alone, known at that one message. -/
def sampleEd : Dalek where
  SigningKey := Unit
  VerifyingKey := Unit
  verifyingKey := id
  sign _ message :=
    if message = sampleSigned then sampleTicket.signature else List.Vector.replicate 64 0
  verifyStrict _ message signature := message = sampleSigned ∧ signature = sampleTicket.signature
  fromBytes _ := some ()
  verify _ message signature := message = sampleSigned ∧ signature = sampleTicket.signature

/-- The sample ticket verifies, and no other ticket does with its signature. -/
theorem sampleTicket_unedited :
    sampleEd.Binding ∧ verifySignature sampleEd sampleTicket () = .ok () ∧
      ∀ ticket : InviteTicket, ticket.signature = sampleTicket.signature →
        verifySignature sampleEd ticket () = .ok () → ticket.onWire = sampleTicket := by
  have binding : sampleEd.Binding := by
    intro key message message' signature verified verified'
    simp only [sampleEd, decide_eq_true_eq] at verified verified'
    exact verified.1.trans verified'.1.symm
  have verified : verifySignature sampleEd sampleTicket () = .ok () :=
    verifySignature_eq_ok_iff.mpr (by decide)
  refine ⟨binding, verified, ?_⟩
  intro ticket signature accepted
  exact (tickets_fixed_by_signature sampleEd binding).2.1 ticket sampleTicket () signature accepted
    verified

/-- The sample ticket with a link-local address of interface 3 in it. -/
def scopedTicket : InviteTicket :=
  { sampleTicket with
    obfuscatedAddr := some (.v6 ⟨[0xfe, 0x80, 0, 0, 0, 0, 0, 0, 0, 0, 0, 0, 0, 0, 0, 1], rfl⟩ 4115 0 3) }

/-- The scope of an IPv6 address is neither read back from the code nor signed: a ticket whose
address has one is not the ticket its code gives, and the two verify alike. -/
theorem scope_lost_in_code :
    (∃ code, scopedTicket.toCode = .ok code ∧ fromCode code ≠ .ok scopedTicket) ∧
    scopedTicket.onWire ≠ scopedTicket ∧
    scopedTicket.onWire.signature = scopedTicket.signature ∧
    ∀ (ed : Dalek) (key : ed.VerifyingKey),
      verifySignature ed scopedTicket.onWire key = verifySignature ed scopedTicket key := by
  have differ : scopedTicket.onWire ≠ scopedTicket := by decide
  refine ⟨?_, differ, rfl, fun _ _ => rfl⟩
  obtain ⟨code, made, read⟩ := exists_code scopedTicket
  refine ⟨code, made, ?_⟩
  rw [read]
  intro same
  exact differ (Except.ok.inj same)

end InviteTicket

end Lumepeer.Net
