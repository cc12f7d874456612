import Lumepeer.Net.Stun

/-!
# Reading a Binding response

A message is a header and attributes, each padded to a multiple of four bytes.
One pass of the reader's loop takes exactly one attribute with its padding off
the front, so the loop comes to the reflexive address behind any attributes of
other types, and what it returns was carried by such an attribute.
-/

namespace Lumepeer.Net.Stun
open Lumepeer.Lib Lumepeer.Core

/-- An attribute that can be written: its length fits its field and its padding reaches the next
multiple of four. -/
structure Attribute where
  type : UInt16
  value : List UInt8
  padding : List UInt8
  short : value.length < 2 ^ 16
  padded : value.length + padding.length = nextMultipleOf4 value.length

/-- The type and the length in front of a value. -/
def attrHeader (type : UInt16) (value : List UInt8) : List UInt8 :=
  toBeBytes16 type ++ toBeBytes16 (UInt16.ofNat value.length)

/-- The bytes of an attribute. -/
def Attribute.encode (attr : Attribute) : List UInt8 :=
  attrHeader attr.type attr.value ++ attr.value ++ attr.padding

/-- The attributes one after the other. -/
def encodeAll (attrs : List Attribute) : List UInt8 := attrs.flatMap Attribute.encode

/-- The header of a message. -/
def header (msgType : UInt16) (length : Bytes 2) (cookie : UInt32) (txid : Bytes txidBytes) :
    List UInt8 :=
  toBeBytes16 msgType ++ length.toList ++ toBeBytes32 cookie ++ txid.toList

/-- The XOR encoding of an IPv4 address. -/
def xorMapped (reserved : UInt8) (octets : Bytes 4) (port : UInt16) : List UInt8 :=
  [reserved, familyIpv4] ++ toBeBytes16 (port ^^^ magicCookieHi) ++
    toBeBytes32 (fromBeBytes32 octets ^^^ magicCookie)

theorem wordAt_append (before after : List UInt8) (word : UInt16) :
    wordAt (before ++ toBeBytes16 word ++ after) before.length = some word := by
  have cut := getRange_append before (toBeBytes16 word) after
  rw [length_toBeBytes16] at cut
  have made : toArray 2 (toBeBytes16 word) = some ⟨toBeBytes16 word, length_toBeBytes16 word⟩ :=
    dif_pos (length_toBeBytes16 word)
  rw [wordAt, cut, Option.bind_some, made]
  exact congrArg some (fromBeBytes16_toBeBytes16 word)

theorem quadAt_append (before after : List UInt8) (quad : UInt32) :
    quadAt (before ++ toBeBytes32 quad ++ after) before.length = some quad := by
  have cut := getRange_append before (toBeBytes32 quad) after
  rw [length_toBeBytes32] at cut
  have made : toArray 4 (toBeBytes32 quad) = some ⟨toBeBytes32 quad, length_toBeBytes32 quad⟩ :=
    dif_pos (length_toBeBytes32 quad)
  rw [quadAt, cut, Option.bind_some, made]
  exact congrArg some (fromBeBytes32_toBeBytes32 quad)

theorem wordAt_eq_some {bytes : List UInt8} {first : Nat} {word : UInt16}
    (read : wordAt bytes first = some word) :
    ∃ before after, bytes = before ++ toBeBytes16 word ++ after ∧ before.length = first := by
  obtain ⟨array, isArray, rfl⟩ := Option.map_eq_some_iff.mp read
  obtain ⟨part, isPart, made⟩ := Option.bind_eq_some_iff.mp isArray
  obtain ⟨before, after, isBytes, length, -⟩ := getRange_eq_some_iff.mp isPart
  rw [toBeBytes16_fromBeBytes16, toArray_eq_some_iff.mp made]
  exact ⟨before, after, isBytes, length⟩

theorem length_attrHeader (type : UInt16) (value : List UInt8) :
    (attrHeader type value).length = 4 := by
  simp [attrHeader]

theorem length_header (msgType : UInt16) (length : Bytes 2) (cookie : UInt32)
    (txid : Bytes txidBytes) : (header msgType length cookie txid).length = headerBytes := by
  simp [header]
  rfl

theorem le_nextMultipleOf4 (n : Nat) : n ≤ nextMultipleOf4 n := by
  unfold nextMultipleOf4
  omega

/-- The two fields in front of a value are read back. -/
theorem wordAt_attrHeader (type : UInt16) {value : List UInt8} (short : value.length < 2 ^ 16)
    (rest : List UInt8) :
    wordAt (attrHeader type value ++ rest) 0 = some type ∧
      (wordAt (attrHeader type value ++ rest) 2).map UInt16.toNat = some value.length := by
  constructor
  · have read := wordAt_append [] (toBeBytes16 (UInt16.ofNat value.length) ++ rest) type
    rwa [List.nil_append, ← List.append_assoc] at read
  · have read := wordAt_append (toBeBytes16 type) rest (UInt16.ofNat value.length)
    rw [length_toBeBytes16] at read
    rw [attrHeader, read, Option.map_some, UInt16.toNat_ofNat_of_lt' short]

/-- What a pass reads of an attribute. -/
theorem attrPass_append (type : UInt16) {value : List UInt8} (short : value.length < 2 ^ 16)
    (rest : List UInt8) :
    attrPass (attrHeader type value ++ value ++ rest) =
      if type = attrXorMappedAddress then .ended (parseXorMappedIpv4 value)
      else ((getRange (attrHeader type value ++ value ++ rest) (4 + nextMultipleOf4 value.length)
        (attrHeader type value ++ value ++ rest).length).map .further).getD (.ended none) := by
  obtain ⟨isType, isLength⟩ := wordAt_attrHeader type short (value ++ rest)
  obtain ⟨length, readLength, isLength⟩ := Option.map_eq_some_iff.mp isLength
  have isValue := getRange_append (attrHeader type value) value rest
  rw [length_attrHeader] at isValue
  rw [← List.append_assoc] at isType readLength
  unfold attrPass
  simp only [isType, readLength, isLength, isValue, Option.bind_eq_bind, Option.bind_some]
  split <;> rfl

/-- An attribute of another type is passed over with its padding. -/
theorem attrPass_encode {attr : Attribute} (other : attr.type ≠ attrXorMappedAddress)
    (rest : List UInt8) : attrPass (attr.encode ++ rest) = .further rest := by
  have behind : (attrHeader attr.type attr.value ++ attr.value ++ attr.padding).length =
      4 + nextMultipleOf4 attr.value.length := by
    simp only [List.length_append, length_attrHeader, ← attr.padded]
    omega
  have isRest := getRange_append (attrHeader attr.type attr.value ++ attr.value ++ attr.padding)
    rest []
  rw [List.append_nil, behind] at isRest
  rw [Attribute.encode, List.append_assoc _ attr.padding rest, attrPass_append attr.type attr.short,
    if_neg other]
  rw [← List.append_assoc _ attr.padding rest, List.length_append, behind, isRest]
  rfl

/-- An address attribute ends the loop. -/
theorem attrPass_xorMapped {value : List UInt8} (short : value.length < 2 ^ 16)
    (rest : List UInt8) :
    attrPass (attrHeader attrXorMappedAddress value ++ value ++ rest) =
      .ended (parseXorMappedIpv4 value) := by
  rw [attrPass_append attrXorMappedAddress short, if_pos rfl]

/-- What a pass read of the attributes: a header, a value as long as it says, and something
behind. -/
theorem attrs_of_reads {attrs value : List UInt8} {type length : UInt16}
    (isType : wordAt attrs 0 = some type) (isLength : wordAt attrs 2 = some length)
    (isValue : getRange attrs 4 (4 + length.toNat) = some value) :
    value.length < 2 ^ 16 ∧ ∃ rest, attrs = attrHeader type value ++ value ++ rest := by
  obtain ⟨front, after, isAttrs, none⟩ := wordAt_eq_some isType
  obtain ⟨front', after', isAttrs', two⟩ := wordAt_eq_some isLength
  obtain ⟨front'', rest, isAttrs'', four, isEnd⟩ := getRange_eq_some_iff.mp isValue
  have length_value : value.length = length.toNat := by omega
  have sameType : front' = toBeBytes16 type := by
    rw [List.length_eq_zero_iff.mp none, List.nil_append] at isAttrs
    rw [isAttrs, List.append_assoc] at isAttrs'
    exact (List.append_inj_left isAttrs' (by simp [two])).symm
  have sameHeader : front'' = front' ++ toBeBytes16 length := by
    rw [isAttrs', List.append_assoc _ value rest] at isAttrs''
    exact (List.append_inj_left isAttrs'' (by simp [two, four])).symm
  have short := length.toNat_lt
  refine ⟨by omega, rest, ?_⟩
  rw [attrHeader, length_value, UInt16.ofNat_toNat, isAttrs'', sameHeader, sameType]

/-- A pass that reads less than an attribute finds nothing. -/
theorem attrPass_cases (attrs : List UInt8) :
    attrPass attrs = .ended none ∨ ∃ type value rest, value.length < 2 ^ 16 ∧
      attrs = attrHeader type value ++ value ++ rest := by
  cases isType : wordAt attrs 0 with
  | none => exact .inl (by simp [attrPass, isType])
  | some type =>
      cases isLength : wordAt attrs 2 with
      | none => exact .inl (by simp [attrPass, isType, isLength])
      | some length =>
          cases isValue : getRange attrs 4 (4 + length.toNat) with
          | none => exact .inl (by simp [attrPass, isType, isLength, isValue])
          | some value =>
              obtain ⟨short, rest, isAttrs⟩ := attrs_of_reads isType isLength isValue
              exact .inr ⟨type, value, rest, short, isAttrs⟩

/-- A pass that goes on took one attribute of another type off the front. -/
theorem attrPass_eq_further {attrs rest : List UInt8} (goesOn : attrPass attrs = .further rest) :
    ∃ attr : Attribute, attr.type ≠ attrXorMappedAddress ∧ attrs = attr.encode ++ rest := by
  rcases attrPass_cases attrs with nothing | ⟨type, value, behind, short, rfl⟩
  · rw [nothing] at goesOn
    cases goesOn
  · rw [attrPass_append type short] at goesOn
    split at goesOn
    · cases goesOn
    · rename_i other
      cases isRest : getRange (attrHeader type value ++ value ++ behind)
          (4 + nextMultipleOf4 value.length)
          (attrHeader type value ++ value ++ behind).length with
      | none =>
          rw [isRest] at goesOn
          cases goesOn
      | some left =>
          rw [isRest] at goesOn
          cases goesOn
          obtain ⟨before, after, isAttrs, length, toEnd⟩ := getRange_eq_some_iff.mp isRest
          have total := congrArg List.length isAttrs
          have reached := le_nextMultipleOf4 value.length
          have nothing : after = [] := by
            simp only [List.length_append] at total toEnd
            exact List.length_eq_zero_iff.mp (by omega)
          rw [nothing, List.append_nil] at isAttrs
          rcases List.append_eq_append_iff.mp isAttrs with
            ⟨padding, isBefore, -⟩ | ⟨more, isFront, -⟩
          · have width := congrArg List.length isBefore
            simp only [List.length_append, length_attrHeader] at width
            have padded : value.length + padding.length = nextMultipleOf4 value.length := by omega
            exact ⟨⟨type, value, padding, short, padded⟩, other,
              isAttrs.trans (congrArg (· ++ rest) isBefore)⟩
          · have width := congrArg List.length isFront
            simp only [List.length_append, length_attrHeader] at width
            have empty : more = [] := List.length_eq_zero_iff.mp (by omega)
            rw [empty, List.append_nil] at isFront
            have padded : value.length + 0 = nextMultipleOf4 value.length := by omega
            refine ⟨⟨type, value, [], short, padded⟩, other, isAttrs.trans ?_⟩
            rw [Attribute.encode, List.append_nil, isFront]

/-- A pass that finds an address read it from an address attribute. -/
theorem attrPass_eq_ended {attrs : List UInt8} {addr : SocketAddr}
    (finds : attrPass attrs = .ended (some addr)) :
    ∃ value rest, value.length < 2 ^ 16 ∧ parseXorMappedIpv4 value = some addr ∧
      attrs = attrHeader attrXorMappedAddress value ++ value ++ rest := by
  rcases attrPass_cases attrs with nothing | ⟨type, value, rest, short, rfl⟩
  · rw [nothing] at finds
    cases finds
  · rw [attrPass_append type short] at finds
    split at finds
    · rename_i isXor
      cases isXor
      exact ⟨value, rest, short, Pass.ended.inj finds, rfl⟩
    · cases behind : getRange (attrHeader type value ++ value ++ rest)
          (4 + nextMultipleOf4 value.length) (attrHeader type value ++ value ++ rest).length with
      | none =>
          rw [behind] at finds
          cases finds
      | some left =>
          rw [behind] at finds
          cases finds

theorem length_encode (attr : Attribute) : 4 ≤ attr.encode.length := by
  simp only [Attribute.encode, List.length_append, length_attrHeader]
  omega

/-- The loop ends: every pass that goes on leaves a shorter rest. -/
theorem walkAttrs_ends {passes : Nat} {attrs : List UInt8} (enough : attrs.length < passes) :
    ∃ result, walkAttrs passes attrs = some result := by
  induction passes generalizing attrs with
  | zero => omega
  | succ passes ih =>
      unfold walkAttrs
      split
      · exact ⟨none, rfl⟩
      · cases pass : attrPass attrs with
        | ended addr => exact ⟨addr, rfl⟩
        | further rest =>
            obtain ⟨attr, -, rfl⟩ := attrPass_eq_further pass
            apply ih
            have width := length_encode attr
            simp only [List.length_append] at enough
            omega

/-- The loop finds the address behind attributes of other types. -/
theorem walkAttrs_encodeAll {passes : Nat} {attrs : List Attribute} {value rest : List UInt8}
    (others : ∀ attr ∈ attrs, attr.type ≠ attrXorMappedAddress) (short : value.length < 2 ^ 16)
    (enough : (encodeAll attrs).length < passes) :
    walkAttrs passes (encodeAll attrs ++
      (attrHeader attrXorMappedAddress value ++ value ++ rest)) =
        some (parseXorMappedIpv4 value) := by
  induction attrs generalizing passes with
  | nil =>
      cases passes with
      | zero => cases enough
      | succ passes =>
          have nonempty :
              (attrHeader attrXorMappedAddress value ++ value ++ rest).isEmpty = false := by
            simp [attrHeader, ← List.length_eq_zero_iff]
          rw [encodeAll, List.flatMap_nil, List.nil_append, walkAttrs, nonempty,
            if_neg Bool.false_ne_true, attrPass_xorMapped short]
  | cons attr attrs ih =>
      have width := length_encode attr
      rw [encodeAll, List.flatMap_cons, List.length_append] at enough
      cases passes with
      | zero => omega
      | succ passes =>
          have nonempty : (encodeAll (attr :: attrs) ++
              (attrHeader attrXorMappedAddress value ++ value ++ rest)).isEmpty = false := by
            rw [← Bool.not_eq_true, List.isEmpty_iff_length_eq_zero]
            simp only [encodeAll, List.flatMap_cons, List.length_append]
            omega
          rw [walkAttrs, nonempty, if_neg Bool.false_ne_true, encodeAll, List.flatMap_cons,
            List.append_assoc, attrPass_encode (others attr List.mem_cons_self)]
          refine ih (fun other member => others other (List.mem_cons_of_mem _ member)) ?_
          rw [encodeAll]
          omega

/-- What the loop finds stands in an address attribute behind attributes of other types. -/
theorem walkAttrs_eq_some {passes : Nat} {attrs : List UInt8} {addr : SocketAddr}
    (finds : walkAttrs passes attrs = some (some addr)) :
    ∃ (before : List Attribute) (value rest : List UInt8),
      (∀ attr ∈ before, attr.type ≠ attrXorMappedAddress) ∧ value.length < 2 ^ 16 ∧
      parseXorMappedIpv4 value = some addr ∧
      attrs = encodeAll before ++ (attrHeader attrXorMappedAddress value ++ value ++ rest) := by
  induction passes generalizing attrs with
  | zero => cases finds
  | succ passes ih =>
      unfold walkAttrs at finds
      split at finds
      · cases finds
      · cases pass : attrPass attrs with
        | ended found =>
            simp only [pass, Option.some.injEq] at finds
            subst finds
            obtain ⟨value, rest, short, reads, isAttrs⟩ := attrPass_eq_ended pass
            exact ⟨[], value, rest, by simp, short, reads, isAttrs⟩
        | further behind =>
            simp only [pass] at finds
            obtain ⟨attr, other, isAttrs⟩ := attrPass_eq_further pass
            obtain ⟨before, value, rest, others, short, reads, isBehind⟩ := ih finds
            refine ⟨attr :: before, value, rest, ?_, short, reads, ?_⟩
            · rw [List.forall_mem_cons]
              exact ⟨other, others⟩
            · rw [isAttrs, isBehind]
              simp [encodeAll]

/-- A header is read back field by field. -/
theorem attributesOf_header (txid other : Bytes txidBytes) (msgType : UInt16) (length : Bytes 2)
    (cookie : UInt32) (rest : List UInt8) :
    attributesOf txid (header msgType length cookie other ++ rest) =
      if msgType = bindingSuccess ∧ cookie = magicCookie ∧ other = txid then some rest
      else none := by
  have isHeader := getRange_append [] (header msgType length cookie other) rest
  have isRest := getRange_append (header msgType length cookie other) rest []
  have isType := wordAt_append [] (length.toList ++ toBeBytes32 cookie ++ other.toList) msgType
  have isCookie := quadAt_append (toBeBytes16 msgType ++ length.toList) other.toList cookie
  have isTxid := getRange_append (toBeBytes16 msgType ++ length.toList ++ toBeBytes32 cookie)
    other.toList []
  have eight : (toBeBytes16 msgType ++ length.toList ++ toBeBytes32 cookie).length = 8 := by simp
  have four : (toBeBytes16 msgType ++ length.toList).length = 4 := by simp
  have twelve : 8 + other.toList.length = headerBytes := by
    rw [other.toList_length]
    rfl
  rw [List.nil_append, List.length_nil, Nat.zero_add, length_header] at isHeader
  rw [List.append_nil, length_header, ← length_header msgType length cookie other,
    ← List.length_append, length_header] at isRest
  rw [List.nil_append, List.length_nil, ← List.append_assoc, ← List.append_assoc, ← header]
    at isType
  rw [four, ← header] at isCookie
  rw [List.append_nil, eight, twelve, ← header] at isTxid
  unfold attributesOf
  simp only [isHeader, isType, isCookie, isTxid, isRest, Option.bind_eq_bind, Option.bind_some]
  by_cases isSuccess : msgType = bindingSuccess
  · by_cases isMagic : cookie = magicCookie
    · by_cases isTransaction : other = txid
      · simp [isSuccess, isMagic, isTransaction]
      · have differ : other.toList ≠ txid.toList := by
          intro same
          exact isTransaction (Subtype.ext same)
        simp [isSuccess, isMagic, isTransaction, differ]
    · simp [isSuccess, isMagic]
  · simp [isSuccess]

theorem exists_bytes (n : Nat) (bytes : List UInt8) (enough : n ≤ bytes.length) :
    ∃ (first : Bytes n) (rest : List UInt8), bytes = first.toList ++ rest :=
  ⟨⟨bytes.take n, by simp [enough]⟩, bytes.drop n, (List.take_append_drop n bytes).symm⟩

/-- Every message of at least twenty bytes begins with a header. -/
theorem exists_header {msg : List UInt8} (enough : headerBytes ≤ msg.length) :
    ∃ msgType length cookie txid rest, msg = header msgType length cookie txid ++ rest := by
  unfold headerBytes at enough
  obtain ⟨msgType, afterType, rfl⟩ := exists_bytes 2 msg (by omega)
  rw [List.length_append, msgType.toList_length] at enough
  obtain ⟨length, afterLength, rfl⟩ := exists_bytes 2 afterType (by omega)
  rw [List.length_append, length.toList_length] at enough
  obtain ⟨cookie, afterCookie, rfl⟩ := exists_bytes 4 afterLength (by omega)
  rw [List.length_append, cookie.toList_length] at enough
  obtain ⟨txid, rest, rfl⟩ := exists_bytes txidBytes afterCookie (by unfold txidBytes; omega)
  refine ⟨fromBeBytes16 msgType, length, fromBeBytes32 cookie, txid, rest, ?_⟩
  rw [header, toBeBytes16_fromBeBytes16, toBeBytes32_fromBeBytes32]
  simp only [List.append_assoc]

/-- A message with accepted attributes begins with the header of a success response. -/
theorem attributesOf_eq_some {txid : Bytes txidBytes} {msg attrs : List UInt8}
    (accepted : attributesOf txid msg = some attrs) :
    ∃ length : Bytes 2, msg = header bindingSuccess length magicCookie txid ++ attrs := by
  by_cases enough : headerBytes ≤ msg.length
  · obtain ⟨msgType, length, cookie, other, rest, rfl⟩ := exists_header enough
    rw [attributesOf_header] at accepted
    split at accepted
    · rename_i fields
      obtain ⟨rfl, rfl, rfl⟩ := fields
      cases accepted
      exact ⟨length, rfl⟩
    · cases accepted
  · have short : getRange msg 0 headerBytes = none := if_neg fun fits => enough fits.2
    simp [attributesOf, short] at accepted

/-- The XOR encoding of an address is read back, whatever the reserved byte is. -/
theorem parseXorMappedIpv4_xorMapped (reserved : UInt8) (octets : Bytes 4) (port : UInt16) :
    parseXorMappedIpv4 (xorMapped reserved octets port) = some (.v4 octets port) := by
  have size : (xorMapped reserved octets port).length = 8 := by simp [xorMapped]
  have family : (xorMapped reserved octets port)[1]? = some familyIpv4 := rfl
  have isPort := wordAt_append [reserved, familyIpv4]
    (toBeBytes32 (fromBeBytes32 octets ^^^ magicCookie)) (port ^^^ magicCookieHi)
  have isAddr := quadAt_append ([reserved, familyIpv4] ++ toBeBytes16 (port ^^^ magicCookieHi)) []
    (fromBeBytes32 octets ^^^ magicCookie)
  rw [List.append_nil, ← xorMapped] at isAddr
  have four : ([reserved, familyIpv4] ++ toBeBytes16 (port ^^^ magicCookieHi)).length = 4 := by simp
  rw [four] at isAddr
  have isOctets : (⟨toBeBytes32 (fromBeBytes32 octets), length_toBeBytes32 _⟩ : Bytes 4) = octets :=
    Subtype.ext (toBeBytes32_fromBeBytes32 octets)
  unfold parseXorMappedIpv4
  rw [family]
  have isPort : wordAt (xorMapped reserved octets port) 2 = some (port ^^^ magicCookieHi) := isPort
  simp only [size, isPort, isAddr, Option.bind_eq_bind, Option.bind_some, UInt16.xor_assoc,
    UInt32.xor_assoc, UInt16.xor_self, UInt32.xor_self, UInt16.xor_zero, UInt32.xor_zero, isOctets]
  rfl

/-- The reader ends on every message, with an address only where a success response to its
transaction carries one behind attributes of other types. Such an address is found whatever
attributes of other types stand before it and whatever follows, and a message of another type,
cookie or transaction is refused. -/
theorem parseBindingResponse_spec (txid : Bytes txidBytes) :
    (∀ msg, ∃ result, parseBindingResponse txid msg = some result ∧
      ∀ addr, result = some addr → ∃ length attrs value trailing,
        (∀ attr ∈ attrs, attr.type ≠ attrXorMappedAddress) ∧
        parseXorMappedIpv4 value = some addr ∧
        msg = header bindingSuccess length magicCookie txid ++ (encodeAll attrs ++
          (attrHeader attrXorMappedAddress value ++ value ++ trailing))) ∧
    (∀ length attrs reserved octets port trailing,
      (∀ attr ∈ attrs, attr.type ≠ attrXorMappedAddress) →
      parseBindingResponse txid (header bindingSuccess length magicCookie txid ++
        (encodeAll attrs ++ (attrHeader attrXorMappedAddress (xorMapped reserved octets port) ++
          xorMapped reserved octets port ++ trailing))) = some (some (.v4 octets port))) ∧
    (∀ msgType length cookie other rest,
      msgType ≠ bindingSuccess ∨ cookie ≠ magicCookie ∨ other ≠ txid →
      parseBindingResponse txid (header msgType length cookie other ++ rest) = some none) := by
  refine ⟨?_, ?_, ?_⟩
  · intro msg
    unfold parseBindingResponse
    cases accepted : attributesOf txid msg with
    | none => exact ⟨none, rfl, by simp⟩
    | some attrs =>
        obtain ⟨length, isMsg⟩ := attributesOf_eq_some accepted
        have shorter : attrs.length < msg.length + 1 := by
          rw [isMsg, List.length_append]
          omega
        obtain ⟨result, ends⟩ := walkAttrs_ends shorter
        refine ⟨result, ends, ?_⟩
        rintro addr rfl
        obtain ⟨before, value, rest, others, -, reads, isAttrs⟩ := walkAttrs_eq_some ends
        exact ⟨length, before, value, rest, others, reads, by rw [isMsg, isAttrs]⟩
  · intro length attrs reserved octets port trailing others
    have short : (xorMapped reserved octets port).length < 2 ^ 16 := by simp [xorMapped]
    unfold parseBindingResponse
    rw [attributesOf_header, if_pos ⟨rfl, rfl, rfl⟩]
    simp only
    rw [walkAttrs_encodeAll others short, parseXorMappedIpv4_xorMapped]
    simp only [List.length_append]
    omega
  · intro msgType length cookie other rest differs
    unfold parseBindingResponse
    rw [attributesOf_header, if_neg (by tauto)]

/-- The sample response of RFC 5769. -/
example : bindingSuccessAddr
    [0x01, 0x01, 0x00, 0x0c, 0x21, 0x12, 0xa4, 0x42, 0xb7, 0xe7, 0xa7, 0x01, 0xbc, 0x34, 0xd6,
      0x86, 0xfa, 0x87, 0xdf, 0xae, 0x00, 0x20, 0x00, 0x08, 0x00, 0x01, 0xa1, 0x47, 0xe1, 0x12,
      0xa6, 0x43] =
    some (some (.v4 ⟨[192, 0, 2, 1], rfl⟩ 32853)) := by decide

end Lumepeer.Net.Stun
