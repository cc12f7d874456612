import Lumepeer.Lib.Bytes
import Lumepeer.Lib.Utf8
import Lumepeer.Lib.Varint

/-!
# The postcard wire format

A `Codec` lays the values of a type out as bytes the way the postcard format
does: integers and lengths as varints, a byte for a flag or an option, the
index of a variant before its fields, fields one after the other. A codec
carries what makes the layout a wire format: the reader takes off exactly what
the writer put there, never looks past it, and returns bytes that are written
back the same unless one of the varints it read was padded. The combinators
build the codec of a type from those of its fields, laws included.
-/

namespace Lumepeer.Lib

/-- A writer and a reader of one layout. A Rust sequence has fewer than `2 ^ 64` elements; a value
whose encoding is shorter than that is read back. -/
structure Codec (α : Type) where
  encode : α → List UInt8
  decode : List UInt8 → Option (α × List UInt8)
  /-- The spellings of the varints `decode` reads, in order. -/
  varints : List UInt8 → List (List UInt8)
  decode_encode : ∀ a rest, (encode a).length < 2 ^ 64 → decode (encode a ++ rest) = some (a, rest)
  varints_encode : ∀ a rest, (encode a).length < 2 ^ 64 →
    ∀ spelling ∈ varints (encode a ++ rest), ¬ Padded spelling
  encode_of_decode : ∀ {bytes a rest}, decode bytes = some (a, rest) →
    (∀ spelling ∈ varints bytes, ¬ Padded spelling) → encode a ++ rest = bytes
  decode_append : ∀ {bytes a rest}, decode bytes = some (a, rest) →
    ∀ more, decode (bytes ++ more) = some (a, rest ++ more)

namespace Codec

variable {α β : Type}

/-- No two values share an encoding. -/
theorem encode_inj (codec : Codec α) {a b : α} (short : (codec.encode a).length < 2 ^ 64)
    (same : codec.encode a = codec.encode b) : a = b := by
  have readA := codec.decode_encode a [] short
  have readB := codec.decode_encode b [] (same ▸ short)
  rw [← same, readA] at readB
  exact congrArg Prod.fst (Option.some.inj readB)

theorem varintBound_le {last left : Nat} (small : last < 128) (groups : 0 < left) :
    varintBound last left ≤ 128 ^ left := by
  obtain ⟨less, rfl⟩ : ∃ less, left = less + 1 := ⟨left - 1, by omega⟩
  rw [varintBound, Nat.add_sub_cancel, pow_succ, Nat.mul_comm]
  exact Nat.mul_le_mul_left _ small

/-- A machine word as a varint of at most `left` groups. -/
def word (last left : Nat) (small : last < 128) (groups : 0 < left) (toNat : α → Nat)
    (ofNat : Nat → α) (fits : ∀ a, toNat a < varintBound last left)
    (ofNat_toNat : ∀ a, ofNat (toNat a) = a)
    (toNat_ofNat : ∀ n, n < varintBound last left → toNat (ofNat n) = n) : Codec α where
  encode a := pushVarint left (toNat a)
  decode bytes := (takeVarint last left bytes).map fun (n, rest) => (ofNat n, rest)
  varints bytes := [varintSpelling bytes]
  decode_encode a rest _ := by
    rw [takeVarint_pushVarint rest small (fits a) groups]
    exact congrArg (fun value => some (value, rest)) (ofNat_toNat a)
  varints_encode a rest _ := by
    have below : toNat a < 128 ^ left := (fits a).trans_le (varintBound_le small groups)
    simp only [List.mem_singleton, forall_eq]
    rw [varintSpelling_pushVarint below groups]
    exact not_padded_pushVarint below
  encode_of_decode := by
    intro bytes a rest decoded tight
    obtain ⟨⟨n, after⟩, taken, same⟩ := Option.map_eq_some_iff.mp decoded
    cases same
    rw [toNat_ofNat n (takeVarint_lt small taken)]
    exact pushVarint_of_takeVarint taken (tight _ (List.mem_singleton_self _))
  decode_append := by
    intro bytes a rest decoded more
    obtain ⟨⟨n, after⟩, taken, same⟩ := Option.map_eq_some_iff.mp decoded
    cases same
    rw [takeVarint_append taken more]
    rfl

/-- `u16`. -/
def u16 : Codec UInt16 :=
  word 3 3 (by decide) (by decide) UInt16.toNat UInt16.ofNat UInt16.toNat_lt
    (fun _ => UInt16.ofNat_toNat) fun _ small => UInt16.toNat_ofNat_of_lt' small

/-- `u32`. -/
def u32 : Codec UInt32 :=
  word 15 5 (by decide) (by decide) UInt32.toNat UInt32.ofNat UInt32.toNat_lt
    (fun _ => UInt32.ofNat_toNat) fun _ small => UInt32.toNat_ofNat_of_lt' small

/-- `u64`. -/
def u64 : Codec UInt64 :=
  word 1 10 (by decide) (by decide) UInt64.toNat UInt64.ofNat UInt64.toNat_lt
    (fun _ => UInt64.ofNat_toNat) fun _ small => UInt64.toNat_ofNat_of_lt' small

/-- A value of no bytes. -/
def unit : Codec Unit where
  encode _ := []
  decode bytes := some ((), bytes)
  varints _ := []
  decode_encode _ _ _ := rfl
  varints_encode _ _ _ _ member := nomatch member
  encode_of_decode := by
    intro bytes a rest decoded _
    cases decoded
    rfl
  decode_append := by
    intro bytes a rest decoded more
    cases decoded
    rfl

/-- `u8`: the byte itself. -/
def byte : Codec UInt8 where
  encode b := [b]
  decode
    | [] => none
    | b :: rest => some (b, rest)
  varints _ := []
  decode_encode _ _ _ := rfl
  varints_encode := by simp
  encode_of_decode := by
    intro bytes a rest decoded _
    cases bytes with
    | nil => cases decoded
    | cons b bytes =>
        cases decoded
        rfl
  decode_append := by
    intro bytes a rest decoded more
    cases bytes with
    | nil => cases decoded
    | cons b bytes =>
        cases decoded
        rfl

/-- `[u8; n]`: the bytes without a length. -/
def array (n : Nat) : Codec (Bytes n) where
  encode bytes := bytes.toList
  decode := splitBytes n
  varints _ := []
  decode_encode a rest _ := splitBytes_append a rest
  varints_encode := by simp
  encode_of_decode split _ := append_of_splitBytes split
  decode_append := by
    intro bytes a rest split more
    rw [← append_of_splitBytes split, List.append_assoc]
    exact splitBytes_append a (rest ++ more)

/-- One field after another. -/
def pair (first : Codec α) (second : Codec β) : Codec (α × β) where
  encode value := first.encode value.1 ++ second.encode value.2
  decode bytes := do
    let (a, rest) ← first.decode bytes
    let (b, rest) ← second.decode rest
    return ((a, b), rest)
  varints bytes := first.varints bytes ++
    match first.decode bytes with
    | none => []
    | some (_, rest) => second.varints rest
  decode_encode value rest short := by
    rw [List.length_append] at short
    rw [List.append_assoc, first.decode_encode _ _ (by omega)]
    simp only [Option.bind_eq_bind, Option.bind_some]
    rw [second.decode_encode _ _ (by omega)]
    rfl
  varints_encode value rest short := by
    rw [List.length_append] at short
    rw [List.append_assoc, first.decode_encode _ _ (by omega)]
    intro spelling member
    rcases List.mem_append.mp member with inFirst | inSecond
    · exact first.varints_encode _ _ (by omega) spelling inFirst
    · exact second.varints_encode _ _ (by omega) spelling inSecond
  encode_of_decode := by
    intro bytes value rest decoded tight
    obtain ⟨⟨a, between⟩, readFirst, decoded⟩ := Option.bind_eq_some_iff.mp decoded
    obtain ⟨⟨b, after⟩, readSecond, same⟩ := Option.bind_eq_some_iff.mp decoded
    cases same
    rw [readFirst] at tight
    rw [List.append_assoc,
      second.encode_of_decode readSecond fun s member => tight s (List.mem_append_right _ member),
      first.encode_of_decode readFirst fun s member => tight s (List.mem_append_left _ member)]
  decode_append := by
    intro bytes value rest decoded more
    obtain ⟨⟨a, between⟩, readFirst, decoded⟩ := Option.bind_eq_some_iff.mp decoded
    obtain ⟨⟨b, after⟩, readSecond, same⟩ := Option.bind_eq_some_iff.mp decoded
    cases same
    rw [first.decode_append readFirst more]
    simp only [Option.bind_eq_bind, Option.bind_some]
    rw [second.decode_append readSecond more]
    rfl

/-- The values of `codec` that `read` accepts. -/
def parse (codec : Codec α) (read : α → Option β) (write : β → α)
    (read_write : ∀ b, read (write b) = some b)
    (write_of_read : ∀ {a b}, read a = some b → write b = a) : Codec β where
  encode b := codec.encode (write b)
  decode bytes := do
    let (a, rest) ← codec.decode bytes
    let b ← read a
    return (b, rest)
  varints := codec.varints
  decode_encode b rest short := by
    rw [codec.decode_encode _ _ short]
    simp only [Option.bind_eq_bind, Option.bind_some]
    rw [read_write]
    rfl
  varints_encode b := codec.varints_encode (write b)
  encode_of_decode := by
    intro bytes b rest decoded tight
    obtain ⟨⟨a, after⟩, decodedRaw, decoded⟩ := Option.bind_eq_some_iff.mp decoded
    obtain ⟨value, accepted, same⟩ := Option.bind_eq_some_iff.mp decoded
    cases same
    rw [write_of_read accepted]
    exact codec.encode_of_decode decodedRaw tight
  decode_append := by
    intro bytes b rest decoded more
    obtain ⟨⟨a, after⟩, decodedRaw, decoded⟩ := Option.bind_eq_some_iff.mp decoded
    obtain ⟨value, accepted, same⟩ := Option.bind_eq_some_iff.mp decoded
    cases same
    rw [codec.decode_append decodedRaw more]
    simp only [Option.bind_eq_bind, Option.bind_some]
    rw [accepted]
    rfl

/-- The fields of a structure, named. -/
def fields (codec : Codec α) (make : α → β) (view : β → α) (make_view : ∀ b, make (view b) = b)
    (view_make : ∀ a, view (make a) = a) : Codec β :=
  codec.parse (fun a => some (make a)) view (fun b => congrArg some (make_view b)) (by
    rintro a b same
    cases same
    exact view_make a)

/-- `bool`: the bytes 0 and 1. -/
def bool : Codec Bool :=
  byte.parse (fun b => if b = 0 then some false else if b = 1 then some true else none)
    (fun flag => if flag then 1 else 0) (by decide) (by
      intro a b accepted
      split at accepted
      · rename_i zero
        cases accepted
        exact zero.symm
      · split at accepted
        · rename_i one
          cases accepted
          exact one.symm
        · cases accepted)

/-- Folds the signed words onto the unsigned ones: 0, -1, 1, -2, … -/
def zigzag (value : Int16) : UInt16 :=
  if 0 ≤ value.toInt then UInt16.ofNat (2 * value.toInt).toNat
  else UInt16.ofNat (-2 * value.toInt - 1).toNat

/-- Unfolds `zigzag`. -/
def unzigzag (word : UInt16) : Int16 :=
  if word.toNat % 2 = 0 then Int16.ofInt ((word.toNat / 2 : Nat) : Int)
  else Int16.ofInt (-((word.toNat / 2 : Nat) : Int) - 1)

theorem toNat_zigzag (value : Int16) : ((zigzag value).toNat : Int) =
    if 0 ≤ value.toInt then 2 * value.toInt else -2 * value.toInt - 1 := by
  have low := value.le_toInt
  have high := value.toInt_lt
  unfold zigzag
  split
  · rw [UInt16.toNat_ofNat_of_lt' (by simp only [UInt16.size]; omega)]
    omega
  · rw [UInt16.toNat_ofNat_of_lt' (by simp only [UInt16.size]; omega)]
    omega

theorem toInt_unzigzag (word : UInt16) : (unzigzag word).toInt =
    if word.toNat % 2 = 0 then ((word.toNat / 2 : Nat) : Int)
    else -((word.toNat / 2 : Nat) : Int) - 1 := by
  have below := word.toNat_lt
  unfold unzigzag
  split
  · exact Int16.toInt_ofInt_of_le (by omega) (by omega)
  · exact Int16.toInt_ofInt_of_le (by omega) (by omega)

theorem unzigzag_zigzag (value : Int16) : unzigzag (zigzag value) = value := by
  apply Int16.toInt_inj.mp
  have folded := toNat_zigzag value
  rw [toInt_unzigzag]
  split at folded <;> split <;> omega

theorem zigzag_unzigzag (word : UInt16) : zigzag (unzigzag word) = word := by
  apply UInt16.toNat_inj.mp
  have unfolded := toInt_unzigzag word
  have folded := toNat_zigzag (unzigzag word)
  split at unfolded <;> split at folded <;> omega

/-- `i16`, folded by `zigzag`. -/
def i16 : Codec Int16 := u16.fields unzigzag zigzag unzigzag_zigzag zigzag_unzigzag

/-- `Option`: a byte that says whether the value follows. -/
def option (codec : Codec α) : Codec (Option α) where
  encode
    | none => [0]
    | some a => 1 :: codec.encode a
  decode
    | [] => none
    | tag :: bytes =>
        if tag = 0 then some (none, bytes)
        else if tag = 1 then (codec.decode bytes).map fun (a, rest) => (some a, rest)
        else none
  varints
    | [] => []
    | tag :: bytes => if tag = 1 then codec.varints bytes else []
  decode_encode value rest short := by
    cases value with
    | none => rfl
    | some a =>
        rw [List.length_cons] at short
        simp only [List.cons_append]
        rw [codec.decode_encode _ _ (by omega)]
        rfl
  varints_encode value rest short := by
    cases value with
    | none => simp
    | some a =>
        rw [List.length_cons] at short
        simp only [List.cons_append, if_true]
        exact codec.varints_encode _ _ (by omega)
  encode_of_decode := by
    intro bytes value rest decoded tight
    cases bytes with
    | nil => cases decoded
    | cons tag bytes =>
        simp only at decoded tight
        split at decoded
        · rename_i absent
          cases decoded
          rw [absent]
          rfl
        · split at decoded
          · rename_i present
            rw [if_pos present] at tight
            obtain ⟨⟨a, after⟩, read, same⟩ := Option.map_eq_some_iff.mp decoded
            cases same
            rw [present, List.cons_append, codec.encode_of_decode read tight]
          · cases decoded
  decode_append := by
    intro bytes value rest decoded more
    cases bytes with
    | nil => cases decoded
    | cons tag bytes =>
        simp only [List.cons_append] at decoded ⊢
        split at decoded
        · rename_i absent
          cases decoded
          rw [if_pos absent]
        · rename_i notAbsent
          rw [if_neg notAbsent]
          split at decoded
          · rename_i present
            obtain ⟨⟨a, after⟩, read, same⟩ := Option.map_eq_some_iff.mp decoded
            cases same
            rw [if_pos present, codec.decode_append read more]
            rfl
          · cases decoded

/-- Reads `n` values, one after the other. -/
def takeMany (read : List UInt8 → Option (α × List UInt8)) :
    Nat → List UInt8 → Option (List α × List UInt8)
  | 0, bytes => some ([], bytes)
  | n + 1, bytes => do
      let (a, rest) ← read bytes
      let (more, rest) ← takeMany read n rest
      return (a :: more, rest)

/-- The varints of `n` values, one after the other. -/
def varintsOfMany (codec : Codec α) : Nat → List UInt8 → List (List UInt8)
  | 0, _ => []
  | n + 1, bytes => codec.varints bytes ++
      match codec.decode bytes with
      | none => []
      | some (_, rest) => varintsOfMany codec n rest

section Many
variable {codec : Codec α}

theorem takeMany_flatMap {values : List α} (short : (values.flatMap codec.encode).length < 2 ^ 64)
    (rest : List UInt8) :
    takeMany codec.decode values.length (values.flatMap codec.encode ++ rest) =
      some (values, rest) := by
  induction values with
  | nil => rfl
  | cons a values ih =>
      rw [List.flatMap_cons, List.length_append] at short
      simp only [List.length_cons, takeMany, List.flatMap_cons, List.append_assoc]
      rw [codec.decode_encode _ _ (by omega)]
      simp only [Option.bind_eq_bind, Option.bind_some]
      rw [ih (by omega)]
      rfl

theorem varintsOfMany_flatMap {values : List α}
    (short : (values.flatMap codec.encode).length < 2 ^ 64) (rest : List UInt8) :
    ∀ spelling ∈ varintsOfMany codec values.length (values.flatMap codec.encode ++ rest),
      ¬ Padded spelling := by
  induction values with
  | nil => simp [varintsOfMany]
  | cons a values ih =>
      rw [List.flatMap_cons, List.length_append] at short
      simp only [List.length_cons, varintsOfMany, List.flatMap_cons, List.append_assoc]
      rw [codec.decode_encode _ _ (by omega)]
      intro spelling member
      rcases List.mem_append.mp member with inFirst | inMore
      · exact codec.varints_encode _ _ (by omega) spelling inFirst
      · exact ih (by omega) spelling inMore

theorem flatMap_of_takeMany {n : Nat} {bytes rest : List UInt8} {values : List α}
    (taken : takeMany codec.decode n bytes = some (values, rest))
    (tight : ∀ spelling ∈ varintsOfMany codec n bytes, ¬ Padded spelling) :
    values.length = n ∧ values.flatMap codec.encode ++ rest = bytes := by
  induction n generalizing bytes values with
  | zero =>
      cases taken
      exact ⟨rfl, rfl⟩
  | succ n ih =>
      obtain ⟨⟨a, between⟩, readOne, taken⟩ := Option.bind_eq_some_iff.mp taken
      obtain ⟨⟨more, after⟩, readMore, same⟩ := Option.bind_eq_some_iff.mp taken
      cases same
      simp only [varintsOfMany, readOne] at tight
      obtain ⟨counted, written⟩ :=
        ih readMore fun s member => tight s (List.mem_append_right _ member)
      refine ⟨by rw [List.length_cons, counted], ?_⟩
      rw [List.flatMap_cons, List.append_assoc, written,
        codec.encode_of_decode readOne fun s member => tight s (List.mem_append_left _ member)]

theorem takeMany_append {n : Nat} {bytes rest : List UInt8} {values : List α}
    (taken : takeMany codec.decode n bytes = some (values, rest)) (more : List UInt8) :
    takeMany codec.decode n (bytes ++ more) = some (values, rest ++ more) := by
  induction n generalizing bytes values with
  | zero =>
      cases taken
      rfl
  | succ n ih =>
      obtain ⟨⟨a, between⟩, readOne, taken⟩ := Option.bind_eq_some_iff.mp taken
      obtain ⟨⟨others, after⟩, readMore, same⟩ := Option.bind_eq_some_iff.mp taken
      cases same
      simp only [takeMany]
      rw [codec.decode_append readOne more]
      simp only [Option.bind_eq_bind, Option.bind_some]
      rw [ih readMore]
      rfl

theorem length_le_length_flatMap (solid : ∀ a, codec.encode a ≠ []) (values : List α) :
    values.length ≤ (values.flatMap codec.encode).length := by
  induction values with
  | nil => simp
  | cons a values ih =>
      have positive : 0 < (codec.encode a).length := List.length_pos_iff.mpr (solid a)
      rw [List.flatMap_cons, List.length_append, List.length_cons]
      omega

end Many

/-- What is shorter than `2 ^ 64` bytes has a length that is written as a word. -/
theorem length_lt_varintBound {codec : Codec α} (solid : ∀ a, codec.encode a ≠ []) {front : List UInt8}
    {values : List α} (short : (front ++ values.flatMap codec.encode).length < 2 ^ 64) :
    values.length < varintBound 1 10 := by
  have few := length_le_length_flatMap solid values
  rw [List.length_append] at short
  simp only [varintBound]
  omega

/-- `Vec`: the number of elements and the elements. No element is of zero bytes. -/
def vec (codec : Codec α) (solid : ∀ a, codec.encode a ≠ []) : Codec (List α) where
  encode values := pushVarint 10 values.length ++ values.flatMap codec.encode
  decode bytes := do
    let (n, rest) ← takeVarint 1 10 bytes
    takeMany codec.decode n rest
  varints bytes := varintSpelling bytes ::
    match takeVarint 1 10 bytes with
    | none => []
    | some (n, rest) => varintsOfMany codec n rest
  decode_encode values rest short := by
    have counted := length_lt_varintBound solid short
    rw [List.length_append] at short
    rw [List.append_assoc, takeVarint_pushVarint _ (by decide) counted (by decide)]
    exact takeMany_flatMap (by omega) rest
  varints_encode values rest short := by
    have counted := length_lt_varintBound solid short
    have below : values.length < 128 ^ 10 :=
      counted.trans_le (varintBound_le (by decide) (by decide))
    rw [List.length_append] at short
    rw [List.append_assoc, takeVarint_pushVarint _ (by decide) counted (by decide),
      varintSpelling_pushVarint below (by decide)]
    intro spelling member
    rcases List.mem_cons.mp member with rfl | inMany
    · exact not_padded_pushVarint below
    · exact varintsOfMany_flatMap (by omega) rest spelling inMany
  encode_of_decode := by
    intro bytes values rest decoded tight
    obtain ⟨⟨n, between⟩, counted, decoded⟩ := Option.bind_eq_some_iff.mp decoded
    rw [counted] at tight
    obtain ⟨rfl, written⟩ :=
      flatMap_of_takeMany decoded fun s member => tight s (List.mem_cons_of_mem _ member)
    rw [List.append_assoc, written]
    exact pushVarint_of_takeVarint counted (tight _ List.mem_cons_self)
  decode_append := by
    intro bytes values rest decoded more
    obtain ⟨⟨n, between⟩, counted, decoded⟩ := Option.bind_eq_some_iff.mp decoded
    rw [takeVarint_append counted more]
    exact takeMany_append decoded more

/-- `Vec<u8>`. -/
def bytes : Codec (List UInt8) := vec byte (by simp [byte])

/-- `String`: the bytes of the text. -/
def string : Codec String := bytes.parse fromUtf8 asBytes fromUtf8_asBytes asBytes_of_fromUtf8

/-- An `enum` without fields: the index of the variant. -/
def enum (index : α → Nat) (values : List α) (listed : ∀ a, values[index a]? = some a)
    (indexed : values.map index = List.range values.length) (few : values.length < 2 ^ 32) : Codec α :=
  u32.parse (fun i => values[i.toNat]?) (fun a => UInt32.ofNat (index a))
    (by
      intro a
      have below : index a < values.length := (List.getElem?_eq_some_iff.mp (listed a)).1
      rw [UInt32.toNat_ofNat_of_lt' (below.trans few)]
      exact listed a)
    (by
      intro i a found
      have same := congrArg (fun indices => indices[i.toNat]?) indexed
      obtain ⟨below, -⟩ := List.getElem?_eq_some_iff.mp found
      simp only [List.getElem?_map, found, Option.map_some, List.getElem?_range below,
        Option.some.injEq] at same
      rw [same, UInt32.ofNat_toNat])

section Length

theorem length_pair (first : Codec α) (second : Codec β) (a : α) (b : β) :
    ((first.pair second).encode (a, b)).length = (first.encode a).length + (second.encode b).length :=
  List.length_append

theorem length_u16 (value : UInt16) : (u16.encode value).length = varintLen value.toNat :=
  length_pushVarint (value.toNat_lt.trans (by decide)) (by decide)

theorem length_u64 (value : UInt64) : (u64.encode value).length = varintLen value.toNat :=
  length_pushVarint (value.toNat_lt.trans (by decide)) (by decide)

theorem length_u32_le (value : UInt32) : (u32.encode value).length ≤ 5 := length_pushVarint_le 5 _

theorem length_u64_le (value : UInt64) : (u64.encode value).length ≤ 10 :=
  length_pushVarint_le 10 _

theorem length_bool (flag : Bool) : (bool.encode flag).length = 1 := rfl

theorem length_array {n : Nat} (bytes : Bytes n) : ((array n).encode bytes).length = n :=
  bytes.toList_length

theorem length_option_le {codec : Codec α} (value : Option α) {most : Nat}
    (each : ∀ a ∈ value, (codec.encode a).length ≤ most) :
    (codec.option.encode value).length ≤ most + 1 := by
  cases value with
  | none => exact Nat.succ_le_succ (Nat.zero_le _)
  | some a => exact Nat.succ_le_succ (each a rfl)

theorem length_bytes {data : List UInt8} (short : data.length < 2 ^ 64) :
    (bytes.encode data).length = varintLen data.length + data.length := by
  show (pushVarint 10 data.length ++ data.flatMap fun b => [b]).length = _
  rw [List.flatMap_singleton', List.length_append,
    length_pushVarint (short.trans (by decide)) (by decide)]

theorem length_string_le {text : String} {most : Nat} (short : (asBytes text).length ≤ most) :
    (string.encode text).length ≤ most + 10 := by
  show (pushVarint 10 (asBytes text).length ++ (asBytes text).flatMap fun b => [b]).length ≤ _
  have counted := length_pushVarint_le 10 (asBytes text).length
  rw [List.flatMap_singleton', List.length_append]
  omega

theorem length_vec_le {codec : Codec α} (solid : ∀ a, codec.encode a ≠ []) (values : List α)
    {most : Nat} (each : ∀ a ∈ values, (codec.encode a).length ≤ most) :
    ((codec.vec solid).encode values).length ≤ values.length * most + 10 := by
  show (pushVarint 10 values.length ++ values.flatMap codec.encode).length ≤ _
  have counted := length_pushVarint_le 10 values.length
  have all : (values.flatMap codec.encode).length ≤ values.length * most := by
    induction values with
    | nil => simp
    | cons a values ih =>
        have head := each a List.mem_cons_self
        have tail := ih (fun b member => each b (List.mem_cons_of_mem _ member))
          (length_pushVarint_le 10 _)
        rw [List.flatMap_cons, List.length_append, List.length_cons, Nat.succ_mul]
        omega
  rw [List.length_append]
  omega

end Length

end Codec

/-- One variant of an `enum`: the layout of its fields and how they make up the value. -/
structure Variant (α : Type) where
  {Payload : Type}
  codec : Codec Payload
  make : Payload → α
  view : α → Option Payload
  view_make : ∀ payload, view (make payload) = some payload := by intros; rfl
  make_of_view : ∀ {a payload}, view a = some payload → make payload = a := by
    intro a payload viewed
    split at viewed
    · cases viewed
      rfl
    · cases viewed

/-- Every variant of the table makes values of the index it stands at. -/
def IndexedFrom {α : Type} (index : α → Nat) : Nat → List (Variant α) → Prop
  | _, [] => True
  | i, variant :: table =>
      (∀ payload, index (variant.make payload) = i) ∧ IndexedFrom index (i + 1) table

theorem IndexedFrom.index_make {α : Type} {index : α → Nat} {start : Nat}
    {table : List (Variant α)} (indexed : IndexedFrom index start table) {i : Nat}
    {variant : Variant α} (found : table[i]? = some variant) (payload : variant.Payload) :
    index (variant.make payload) = start + i := by
  induction table generalizing start i with
  | nil => simp at found
  | cons head table ih =>
      cases i with
      | zero =>
          cases found
          exact indexed.1 payload
      | succ i =>
          rw [ih indexed.2 (by simpa using found)]
          omega

namespace Codec

variable {α : Type}

/-- The fields of `a` as the variant at its index lays them out. -/
def encodePayload (table : List (Variant α)) (i : Nat) (a : α) : List UInt8 :=
  match table[i]? with
  | none => []
  | some variant =>
      match variant.view a with
      | none => []
      | some payload => variant.codec.encode payload

/-- Reads the fields of the variant at index `i`. -/
def decodePayload (table : List (Variant α)) (i : Nat) (bytes : List UInt8) :
    Option (α × List UInt8) :=
  match table[i]? with
  | none => none
  | some variant =>
      (variant.codec.decode bytes).map fun (payload, rest) => (variant.make payload, rest)

/-- The varints of the fields of the variant at index `i`. -/
def varintsOfPayload (table : List (Variant α)) (i : Nat) (bytes : List UInt8) :
    List (List UInt8) :=
  match table[i]? with
  | none => []
  | some variant => variant.codec.varints bytes

/-- An `enum`: the index of the variant and the variant's fields. -/
def variants (index : α → Nat) (table : List (Variant α))
    (complete : ∀ a, ∃ variant payload, table[index a]? = some variant ∧
      variant.view a = some payload)
    (indexed : IndexedFrom index 0 table) (few : table.length < 2 ^ 32) : Codec α where
  encode a := pushVarint 5 (index a) ++ encodePayload table (index a) a
  decode bytes := do
    let (i, rest) ← takeVarint 15 5 bytes
    decodePayload table i rest
  varints bytes := varintSpelling bytes ::
    match takeVarint 15 5 bytes with
    | none => []
    | some (i, rest) => varintsOfPayload table i rest
  decode_encode a rest short := by
    obtain ⟨variant, payload, found, viewed⟩ := complete a
    have below : index a < table.length := (List.getElem?_eq_some_iff.mp found).1
    have counted : index a < varintBound 15 5 := below.trans few
    simp only [encodePayload, found, viewed, List.length_append] at short ⊢
    rw [List.append_assoc, takeVarint_pushVarint _ (by decide) counted (by decide)]
    simp only [Option.bind_eq_bind, Option.bind_some, decodePayload, found]
    rw [variant.codec.decode_encode _ _ (by omega)]
    simp only [Option.map_some, variant.make_of_view viewed]
  varints_encode a rest short := by
    obtain ⟨variant, payload, found, viewed⟩ := complete a
    have below : index a < table.length := (List.getElem?_eq_some_iff.mp found).1
    have counted : index a < varintBound 15 5 := below.trans few
    have fits : index a < 128 ^ 5 := counted.trans (by decide)
    simp only [encodePayload, found, viewed, List.length_append] at short ⊢
    rw [List.append_assoc, takeVarint_pushVarint _ (by decide) counted (by decide),
      varintSpelling_pushVarint fits (by decide)]
    simp only [varintsOfPayload, found]
    intro spelling member
    rcases List.mem_cons.mp member with rfl | inPayload
    · exact not_padded_pushVarint fits
    · exact variant.codec.varints_encode _ _ (by omega) spelling inPayload
  encode_of_decode := by
    intro bytes a rest decoded tight
    obtain ⟨⟨i, between⟩, counted, decoded⟩ := Option.bind_eq_some_iff.mp decoded
    rw [counted] at tight
    simp only [decodePayload, varintsOfPayload] at decoded tight
    cases found : table[i]? with
    | none => simp [found] at decoded
    | some variant =>
        simp only [found] at decoded tight
        obtain ⟨⟨payload, after⟩, read, same⟩ := Option.map_eq_some_iff.mp decoded
        cases same
        have isIndex : index (variant.make payload) = i := by
          rw [indexed.index_make found payload, Nat.zero_add]
        simp only [isIndex, encodePayload, found, variant.view_make]
        rw [List.append_assoc,
          variant.codec.encode_of_decode read fun s member => tight s (List.mem_cons_of_mem _ member)]
        exact pushVarint_of_takeVarint counted (tight _ List.mem_cons_self)
  decode_append := by
    intro bytes a rest decoded more
    obtain ⟨⟨i, between⟩, counted, decoded⟩ := Option.bind_eq_some_iff.mp decoded
    rw [takeVarint_append counted more]
    simp only [Option.bind_eq_bind, Option.bind_some, decodePayload] at decoded ⊢
    cases found : table[i]? with
    | none => simp [found] at decoded
    | some variant =>
        simp only [found] at decoded ⊢
        obtain ⟨⟨payload, after⟩, read, same⟩ := Option.map_eq_some_iff.mp decoded
        cases same
        rw [variant.codec.decode_append read more]
        rfl

end Codec

end Lumepeer.Lib
