import Lumepeer.Lib.Bits
import Lumepeer.Media.Encode.H264Sps.Proofs.Writer
import Mathlib.Tactic.Ring

/-!
# What the reader takes from the bits ahead of it

`Reads m word a` says that `m` takes `word` off the bits ahead and returns `a`,
whatever follows. Every step of `read_sps` is `Steady`: where it succeeds it reads
some word in that sense, so it does the same on other data with the same word
ahead.
-/

namespace Lumepeer.Media.H264Sps
open Lumepeer.Lib

variable {α β : Type}

namespace BitReader

/-- The bits not read yet. -/
def ahead (r : BitReader) : List Bool := (bytesToBits r.data).drop r.position

/-- The reader `count` bits further on. -/
def skip (r : BitReader) (count : Nat) : BitReader := { r with position := r.position + count }

@[simp] theorem skip_zero (r : BitReader) : r.skip 0 = r := rfl

@[simp] theorem skip_skip (r : BitReader) (m n : Nat) : (r.skip m).skip n = r.skip (m + n) := by
  rw [skip, skip, skip, Nat.add_assoc]

@[simp] theorem position_skip (r : BitReader) (n : Nat) : (r.skip n).position = r.position + n :=
  rfl

@[simp] theorem ahead_new (data : List UInt8) : (new data).ahead = bytesToBits data := rfl

theorem ahead_skip {r : BitReader} {word rest : List Bool} (isAhead : r.ahead = word ++ rest) :
    (r.skip word.length).ahead = rest := by
  have dropped : (r.skip word.length).ahead = r.ahead.drop word.length := by
    rw [ahead, ahead, List.drop_drop]
    rfl
  rw [dropped, isAhead, List.drop_left' rfl]

theorem flag_eq (r : BitReader) : flag r = r.ahead.head?.map fun bit => (bit, r.skip 1) := by
  rw [ahead, List.head?_drop, getElem?_bytesToBits, flag]
  cases r.data[r.position / 8]? with
  | none => rfl
  | some byte =>
      have bit := shiftRight_and_one byte (by omega : 7 - r.position % 8 < 8)
      simp only [Option.map_some, ← bit]
      rfl

theorem flag_eq_some {r r' : BitReader} {bit : Bool} (run : flag r = some (bit, r')) :
    ∃ rest, r.ahead = [bit] ++ rest ∧ r' = r.skip 1 := by
  rw [flag_eq] at run
  cases isAhead : r.ahead with
  | nil =>
      rw [isAhead] at run
      cases run
  | cons next rest =>
      rw [isAhead] at run
      cases run
      exact ⟨rest, rfl, rfl⟩

end BitReader

open BitReader

/-- `m` takes `word` off the bits ahead and returns `a`. -/
def Reads (m : Read α) (word : List Bool) (a : α) : Prop :=
  ∀ (r : BitReader) (rest : List Bool), r.ahead = word ++ rest → m r = some (a, r.skip word.length)

/-- Where `m` succeeds, the word it took decided all of it. -/
def Steady (m : Read α) : Prop :=
  ∀ (r : BitReader) (a : α) (r' : BitReader), m r = some (a, r') →
    ∃ word rest, r.ahead = word ++ rest ∧ r' = r.skip word.length ∧ Reads m word a

/-! ## Words -/

theorem reads_pure (a : α) : Reads (pure a) [] a := fun _ _ _ => rfl

theorem Reads.bind {m : Read α} {f : α → Read β} {word word' : List Bool} {a : α} {b : β}
    (first : Reads m word a) (next : Reads (f a) word' b) :
    Reads (m >>= f) (word ++ word') b := by
  intro r rest isAhead
  rw [List.append_assoc] at isAhead
  have taken := next (r.skip word.length) rest (ahead_skip isAhead)
  rw [skip_skip, ← List.length_append] at taken
  change (m r).bind (fun result => f result.1 result.2) = _
  rw [first r _ isAhead]
  exact taken

theorem reads_flag (bit : Bool) : Reads flag [bit] bit := by
  intro r rest isAhead
  rw [flag_eq, isAhead]
  rfl

theorem reads_lift {x : Option α} {a : α} (isSome : x = some a) : Reads (liftM x) [] a := by
  intro r rest _
  rw [isSome]
  rfl

theorem Reads.discard {m : Read α} {word : List Bool} {a : α} (reads : Reads m word a) :
    Reads (discard m) word () := by
  have both : Reads (m >>= fun _ => pure ()) (word ++ []) () := reads.bind (reads_pure ())
  rwa [List.append_nil] at both

/-! ## Numbers -/

theorem toNat_shift_in (value : UInt32) (bit : Bool) :
    ((value <<< 1) ||| bit.toUInt32).toNat = (2 * value.toNat + bit.toNat) % 2 ^ 32 := by
  have low : bit.toUInt32.toNat = bit.toNat := by cases bit <;> rfl
  have small : bit.toNat < 2 ^ 1 := Bool.toNat_lt bit
  have high : (value <<< 1).toNat = (value.toNat % 2 ^ 31) <<< 1 := by
    rw [UInt32.toNat_shiftLeft, Nat.shiftLeft_eq, Nat.shiftLeft_eq]
    change value.toNat * 2 ^ 1 % 2 ^ 32 = _
    omega
  rw [UInt32.toNat_or, high, low, ← Nat.shiftLeft_add_eq_or_of_lt small, Nat.shiftLeft_eq]
  omega

theorem reads_bitsFrom (value : UInt32) (word : List Bool) :
    Reads (bitsFrom value word.length) word
      (UInt32.ofNat (2 ^ word.length * value.toNat + ofBits word)) := by
  induction word generalizing value with
  | nil =>
      have same : UInt32.ofNat (2 ^ 0 * value.toNat + ofBits []) = value := by
        rw [pow_zero, Nat.one_mul, ofBits, Nat.add_zero, UInt32.ofNat_toNat]
      rw [List.length_nil, same]
      exact reads_pure value
  | cons bit word ih =>
      have sum : UInt32.ofNat (2 ^ word.length * ((value <<< 1) ||| bit.toUInt32).toNat +
          ofBits word) =
          UInt32.ofNat (2 ^ (bit :: word).length * value.toNat + ofBits (bit :: word)) := by
        rw [toNat_shift_in, ofBits, UInt32.ofNat_add, UInt32.ofNat_mul, UInt32.ofNat_mod_size,
          ← UInt32.ofNat_mul, ← UInt32.ofNat_add, List.length_cons]
        congr 1
        ring
      rw [← sum]
      exact (reads_flag bit).bind (ih _)

theorem reads_bits (word : List Bool) :
    Reads (bits word.length) word (UInt32.ofNat (ofBits word)) := by
  have read := reads_bitsFrom 0 word
  rwa [UInt32.toNat_zero, Nat.mul_zero, Nat.zero_add] at read

theorem reads_zerosFrom {z left : Nat} (enough : z ≤ left) (zeros : Nat) :
    Reads (zerosFrom zeros left) (List.replicate z false ++ [true]) (zeros + z) := by
  induction z generalizing left zeros with
  | zero =>
      cases left with
      | zero => exact (reads_flag true).bind (reads_pure zeros)
      | succ left => exact (reads_flag true).bind (reads_pure zeros)
  | succ z ih =>
      cases left with
      | zero => omega
      | succ left =>
          have rest := ih (Nat.le_of_succ_le_succ enough) (zeros + 1)
          rw [Nat.add_assoc, Nat.add_comm 1] at rest
          exact (reads_flag false).bind rest

theorem checkedSub32_one_shift {z : Nat} (small : z < 32) :
    checkedSub32 ((1 : UInt32) <<< UInt32.ofNat z) 1 = some (UInt32.ofNat (2 ^ z - 1)) := by
  have power : ((1 : UInt32) <<< UInt32.ofNat z).toNat = 2 ^ z := by
    have fits : 2 ^ z < 2 ^ 32 := Nat.pow_lt_pow_right (by omega) small
    rw [UInt32.toNat_shiftLeft, UInt32.toNat_ofNat_of_lt' (lt_trans small (by decide)),
      Nat.mod_eq_of_lt small, UInt32.toNat_one, Nat.shiftLeft_eq, Nat.one_mul,
      Nat.mod_eq_of_lt fits]
  have one : 1 ≤ (1 : UInt32) <<< UInt32.ofNat z := by
    rw [UInt32.le_iff_toNat_le, power]
    exact Nat.one_le_two_pow
  rw [checkedSub32, if_pos one]
  congr 1
  rw [← UInt32.ofNat_toNat (x := _ - 1), UInt32.toNat_sub_of_le _ _ one, power]
  rfl

theorem reads_ue {value : UInt32} (small : value.toNat + 1 < 2 ^ 32) :
    Reads ue (expGolomb value.toNat) value := by
  have sum := ofBits_expGolomb value.toNat
  rw [expGolomb_eq]
  have few : (value.toNat + 1).log2 < 32 := (Nat.log2_lt (Nat.succ_ne_zero _)).mpr small
  generalize (value.toNat + 1).log2 = z at sum few ⊢
  have zeros := reads_zerosFrom (Nat.le_of_lt_succ few : z ≤ 31) 0
  have rest := reads_bits (toBits z (value.toNat + 1))
  rw [Nat.zero_add] at zeros
  rw [length_toBits] at rest
  have positive : 0 < 2 ^ z := Nat.two_pow_pos z
  have total : checkedAdd32 (UInt32.ofNat (2 ^ z - 1))
      (UInt32.ofNat (ofBits (toBits z (value.toNat + 1)))) = some value := by
    have base : 2 ^ z - 1 < 2 ^ 32 := by omega
    have tail : ofBits (toBits z (value.toNat + 1)) < 2 ^ 32 := by omega
    have exact : 2 ^ z - 1 + ofBits (toBits z (value.toNat + 1)) = value.toNat := by omega
    rw [checkedAdd32, UInt32.toNat_ofNat_of_lt' base, UInt32.toNat_ofNat_of_lt' tail, exact,
      tryFrom32, if_pos (by omega), UInt32.ofNat_toNat]
  have read : Reads ue (List.replicate z false ++ [true] ++
      (toBits z (value.toNat + 1) ++ ([] ++ []))) value :=
    zeros.bind (rest.bind ((reads_lift (checkedSub32_one_shift few)).bind (reads_lift total)))
  rwa [List.append_nil, List.append_nil] at read

/-! ## Steady steps -/

theorem steady_pure (a : α) : Steady (pure a) := by
  intro r b r' run
  cases run
  exact ⟨[], r.ahead, rfl, rfl, reads_pure a⟩

theorem steady_failure : Steady (failure : Read α) := by
  intro r a r' run
  cases run

theorem steady_lift (x : Option α) : Steady (liftM x : Read α) := by
  cases x with
  | none => exact steady_failure
  | some a => exact steady_pure a

theorem steady_flag : Steady flag := by
  intro r bit r' run
  obtain ⟨rest, isAhead, rfl⟩ := flag_eq_some run
  exact ⟨[bit], rest, isAhead, rfl, reads_flag bit⟩

theorem Steady.bind {m : Read α} {f : α → Read β} (first : Steady m) (next : ∀ a, Steady (f a)) :
    Steady (m >>= f) := by
  intro r b r' run
  change (m r).bind (fun result => f result.1 result.2) = _ at run
  obtain ⟨⟨a, between⟩, ran, run'⟩ := Option.bind_eq_some_iff.mp run
  obtain ⟨word, rest, isAhead, rfl, reads⟩ := first r a between ran
  obtain ⟨word', rest', isAhead', rfl, reads'⟩ := next a _ b r' run'
  rw [ahead_skip isAhead] at isAhead'
  refine ⟨word ++ word', rest', ?_, ?_, reads.bind reads'⟩
  · rw [isAhead, isAhead', List.append_assoc]
  · rw [skip_skip, List.length_append]

theorem Steady.discard {m : Read α} (steady : Steady m) : Steady (discard m) :=
  steady.bind fun _ => steady_pure ()

theorem Steady.ite {c : Prop} [Decidable c] {m m' : Read α} (yes : Steady m) (no : Steady m') :
    Steady (if c then m else m') := by
  split
  · exact yes
  · exact no

theorem Steady.onlyIf {m : Read Unit} (steady : Steady m) (condition : Bool) :
    Steady (onlyIf condition m) :=
  steady.ite (steady_pure ())

theorem Steady.whenFlag {m : Read Unit} (steady : Steady m) : Steady (whenFlag m) :=
  steady_flag.bind fun bit => steady.onlyIf bit

theorem Steady.times {m : Read Unit} (steady : Steady m) (count : Nat) :
    Steady (times m count) := by
  induction count with
  | zero => exact steady_pure ()
  | succ count ih => exact steady.bind fun _ => ih

theorem steady_forM {f : β → Read Unit} (steady : ∀ b, Steady (f b)) (bs : List β) :
    Steady (bs.forM f) := by
  induction bs with
  | nil => exact steady_pure ()
  | cons b bs ih => exact (steady b).bind fun _ => ih

theorem steady_bitsFrom (value : UInt32) (count : Nat) : Steady (bitsFrom value count) := by
  induction count generalizing value with
  | zero => exact steady_pure value
  | succ count ih => exact steady_flag.bind fun bit => ih _

theorem steady_bits (count : Nat) : Steady (bits count) := steady_bitsFrom 0 count

theorem steady_zerosFrom (zeros left : Nat) : Steady (zerosFrom zeros left) := by
  induction left generalizing zeros with
  | zero => exact steady_flag.bind fun bit => (steady_pure zeros).ite steady_failure
  | succ left ih => exact steady_flag.bind fun bit => (steady_pure zeros).ite (ih _)

theorem steady_ue : Steady ue := by
  apply (steady_zerosFrom 0 31).bind
  intro zeros
  apply (steady_bits zeros).bind
  intro rest
  exact (steady_lift _).bind fun base => steady_lift _

theorem steady_se : Steady se := by
  apply steady_ue.bind
  intro code
  exact (steady_pure _).ite steady_failure

theorem steady_scalingListFrom (last next : Int) (left : Nat) :
    Steady (scalingListFrom last next left) := by
  induction left generalizing last next with
  | zero => exact steady_pure ()
  | succ left ih =>
      rw [scalingListFrom]
      have entry : Steady ((fun offset => (last + offset + 256).tmod 256) <$> se) := by
        rw [map_eq_pure_bind]
        exact steady_se.bind fun offset => steady_pure _
      apply Steady.ite
      · exact entry.bind fun next => ih _ next
      · exact (steady_pure next).bind fun next => ih _ next

theorem steady_skipHrd : Steady skipHrd := by
  have cpb : Steady skipCpb :=
    steady_ue.bind fun _ => steady_ue.bind fun _ => steady_flag.bind fun _ => steady_pure ()
  apply steady_ue.bind
  intro count
  apply (steady_lift _).bind
  intro count
  apply (steady_bits 8).bind
  intro _
  apply (cpb.times _).bind
  intro _
  exact (steady_bits 20).bind fun _ => steady_pure ()

theorem steady_readHighProfile : Steady readHighProfile := by
  have scaling (chromaFormatIdc : UInt32) : Steady (readScalingLists chromaFormatIdc) :=
    steady_forM (fun list => (steady_scalingListFrom 8 8 _).whenFlag) _
  apply steady_ue.bind
  intro chromaFormatIdc
  apply (steady_flag.discard.onlyIf _).bind
  intro _
  apply steady_ue.bind
  intro _
  apply steady_ue.bind
  intro _
  apply steady_flag.bind
  intro _
  exact (scaling chromaFormatIdc).whenFlag

theorem steady_readPicOrderCnt : Steady readPicOrderCnt := by
  have cycle : Steady readPicOrderCycle :=
    steady_flag.bind fun _ => steady_se.bind fun _ => steady_se.bind fun _ =>
      steady_ue.bind fun count => steady_se.discard.times _
  apply steady_ue.bind
  intro picOrderCntType
  exact steady_ue.discard.ite (cycle.onlyIf _)

theorem steady_readBeforeVui : Steady readBeforeVui := by
  apply (steady_bits 8).bind
  intro profileIdc
  apply (steady_bits 16).bind
  intro _
  apply steady_ue.bind
  intro _
  apply (steady_readHighProfile.onlyIf _).bind
  intro _
  apply steady_ue.bind
  intro _
  apply steady_readPicOrderCnt.bind
  intro _
  apply steady_ue.bind
  intro maxNumRefFrames
  apply steady_flag.bind
  intro _
  apply steady_ue.bind
  intro _
  apply steady_ue.bind
  intro _
  apply steady_flag.bind
  intro frameMbsOnly
  apply (steady_flag.discard.onlyIf _).bind
  intro _
  apply steady_flag.bind
  intro _
  exact (steady_ue.discard.times 4).whenFlag.bind fun _ => steady_pure maxNumRefFrames

theorem steady_readBeforeRestriction : Steady readBeforeRestriction := by
  have aspectRatio : Steady readAspectRatio :=
    (steady_bits 8).bind fun _ => (steady_bits 32).discard.onlyIf _
  have videoSignalType : Steady readVideoSignalType :=
    (steady_bits 4).bind fun _ => (steady_bits 24).discard.whenFlag
  have chromaLoc : Steady readChromaLoc :=
    steady_ue.bind fun _ => steady_ue.bind fun _ => steady_pure ()
  have timing : Steady readTiming :=
    (steady_bits 32).bind fun _ => (steady_bits 32).bind fun _ => steady_flag.bind fun _ =>
      steady_pure ()
  apply aspectRatio.whenFlag.bind
  intro _
  apply steady_flag.discard.whenFlag.bind
  intro _
  apply videoSignalType.whenFlag.bind
  intro _
  apply chromaLoc.whenFlag.bind
  intro _
  apply timing.whenFlag.bind
  intro _
  apply steady_flag.bind
  intro nalHrd
  apply (steady_skipHrd.onlyIf nalHrd).bind
  intro _
  apply steady_flag.bind
  intro vclHrd
  apply (steady_skipHrd.onlyIf vclHrd).bind
  intro _
  apply (steady_flag.discard.onlyIf _).bind
  intro _
  exact steady_flag.bind fun _ => steady_pure ()

/-! ## What a number can be -/

/-- Whatever `m` returns satisfies `P`. -/
def Yields (m : Read α) (P : α → Prop) : Prop :=
  ∀ (r : BitReader) (a : α) (r' : BitReader), m r = some (a, r') → P a

theorem yields_pure {P : α → Prop} {a : α} (holds : P a) : Yields (pure a) P := by
  intro r b r' run
  cases run
  exact holds

theorem yields_lift {P : α → Prop} {x : Option α} (holds : ∀ a, x = some a → P a) :
    Yields (liftM x) P := by
  intro r a r' run
  cases x with
  | none => cases run
  | some b =>
      cases run
      exact holds _ rfl

theorem Yields.bind {P : α → Prop} {Q : β → Prop} {m : Read α} {f : α → Read β}
    (first : Yields m P) (next : ∀ a, P a → Yields (f a) Q) : Yields (m >>= f) Q := by
  intro r b r' run
  change (m r).bind (fun result => f result.1 result.2) = _ at run
  obtain ⟨⟨a, between⟩, ran, run'⟩ := Option.bind_eq_some_iff.mp run
  exact next a (first r a between ran) between b r' run'

/-- What came before does not matter. -/
theorem yields_after {Q : β → Prop} {m : Read α} {f : α → Read β} (next : ∀ a, Yields (f a) Q) :
    Yields (m >>= f) Q := by
  have anything : Yields m fun _ => True := fun _ _ _ _ => trivial
  exact anything.bind fun a _ => next a

theorem yields_bitsFrom (value : UInt32) (count : Nat) :
    Yields (bitsFrom value count) fun result => result.toNat < 2 ^ count * (value.toNat + 1) := by
  induction count generalizing value with
  | zero =>
      apply yields_pure
      omega
  | succ count ih =>
      apply yields_after
      intro bit r result r' run
      have below := ih _ r result r' run
      have doubled : ((value <<< 1) ||| bit.toUInt32).toNat + 1 ≤ 2 * (value.toNat + 1) := by
        have small := Bool.toNat_le bit
        rw [toNat_shift_in]
        omega
      calc result.toNat
          < 2 ^ count * (((value <<< 1) ||| bit.toUInt32).toNat + 1) := below
        _ ≤ 2 ^ count * (2 * (value.toNat + 1)) := Nat.mul_le_mul_left _ doubled
        _ = 2 ^ (count + 1) * (value.toNat + 1) := by ring

theorem yields_zerosFrom (zeros left : Nat) :
    Yields (zerosFrom zeros left) fun result => result ≤ zeros + left := by
  induction left generalizing zeros with
  | zero =>
      apply yields_after
      intro bit r result r' run
      cases bit with
      | false => cases run
      | true =>
          cases run
          exact Nat.le_add_right _ _
  | succ left ih =>
      apply yields_after
      intro bit r result r' run
      cases bit with
      | false =>
          have further := ih (zeros + 1) r result r' run
          omega
      | true =>
          cases run
          exact Nat.le_add_right _ _

/-- A number of 31 zeros and as many bits is the largest. -/
theorem yields_ue : Yields ue fun value => value.toNat + 1 < 2 ^ 32 := by
  unfold ue
  refine (yields_zerosFrom 0 31).bind fun zeros few => ?_
  refine (yields_bitsFrom 0 zeros).bind fun rest small => ?_
  have power : 2 ^ zeros ≤ 2 ^ 31 := Nat.pow_le_pow_right (by omega) (by omega)
  rw [UInt32.toNat_zero, Nat.zero_add, Nat.mul_one] at small
  have base : 2 ^ zeros - 1 < 2 ^ 32 := by omega
  rw [checkedSub32_one_shift (by omega)]
  refine (yields_lift fun first isFirst => Option.some.inj isFirst).bind fun first isFirst => ?_
  refine yields_lift fun value total => ?_
  have fits : 2 ^ zeros - 1 + rest.toNat < 2 ^ 32 := by omega
  rw [← isFirst, checkedAdd32, UInt32.toNat_ofNat_of_lt' base, tryFrom32, if_pos fits] at total
  rw [← Option.some.inj total, UInt32.toNat_ofNat_of_lt' fits]
  omega

theorem yields_readBeforeVui :
    Yields readBeforeVui fun maxNumRefFrames => maxNumRefFrames.toNat + 1 < 2 ^ 32 := by
  unfold readBeforeVui
  refine yields_after fun profileIdc => yields_after fun _ => yields_after fun _ =>
    yields_after fun _ => yields_after fun _ => yields_after fun _ => ?_
  refine yields_ue.bind fun maxNumRefFrames small => ?_
  refine yields_after fun _ => yields_after fun _ => yields_after fun _ => yields_after fun _ =>
    yields_after fun _ => yields_after fun _ => yields_after fun _ => ?_
  exact yields_pure small

/-!
## Codes

`ue` reads a code of at most 31 zeros, and nothing else.
-/

theorem zerosFrom_eq_some {zeros left n : Nat} {r r' : BitReader}
    (run : zerosFrom zeros left r = some (n, r')) :
    ∃ z rest, z ≤ left ∧ n = zeros + z ∧ r.ahead = List.replicate z false ++ [true] ++ rest ∧
      r' = r.skip (z + 1) := by
  induction left generalizing zeros r with
  | zero =>
      obtain ⟨⟨bit, next⟩, isFlag, run⟩ := Option.bind_eq_some_iff.mp run
      obtain ⟨rest, isAhead, rfl⟩ := flag_eq_some isFlag
      cases bit with
      | false => cases run
      | true =>
          cases run
          exact ⟨0, rest, Nat.le_refl _, rfl, isAhead, rfl⟩
  | succ left ih =>
      obtain ⟨⟨bit, next⟩, isFlag, run⟩ := Option.bind_eq_some_iff.mp run
      obtain ⟨rest, isAhead, rfl⟩ := flag_eq_some isFlag
      cases bit with
      | false =>
          obtain ⟨z, more, few, rfl, isMore, rfl⟩ := ih run
          have isRest : rest = List.replicate z false ++ [true] ++ more := by
            rw [← isMore]
            exact (ahead_skip isAhead).symm
          refine ⟨z + 1, more, Nat.succ_le_succ few, by omega, ?_, ?_⟩
          · rw [isAhead, isRest]
            rfl
          · rw [skip_skip, Nat.add_comm 1]
      | true =>
          cases run
          exact ⟨0, rest, Nat.zero_le _, rfl, isAhead, rfl⟩

theorem bitsFrom_eq_some {value result : UInt32} {count : Nat} {r r' : BitReader}
    (run : bitsFrom value count r = some (result, r')) :
    ∃ word rest, word.length = count ∧ r.ahead = word ++ rest := by
  induction count generalizing value r with
  | zero => exact ⟨[], r.ahead, rfl, rfl⟩
  | succ count ih =>
      obtain ⟨⟨bit, next⟩, isFlag, run⟩ := Option.bind_eq_some_iff.mp run
      obtain ⟨rest, isAhead, rfl⟩ := flag_eq_some isFlag
      obtain ⟨word, more, length, isMore⟩ := ih run
      have isRest := (ahead_skip isAhead).symm.trans isMore
      exact ⟨bit :: word, more, by rw [List.length_cons, length], by rw [isAhead, isRest]; rfl⟩

/-- The number that a code of at most 31 zeros stands for. -/
theorem ue_of_word {r : BitReader} {word rest : List Bool} (few : word.length ≤ 31)
    (isAhead : r.ahead = List.replicate word.length false ++ [true] ++ word ++ rest) :
    ∃ value : UInt32, value.toNat = 2 ^ word.length - 1 + ofBits word ∧
      r.ahead = expGolomb value.toNat ++ rest ∧
      ue r = some (value, r.skip (expGolomb value.toNat).length) := by
  have positive : 0 < 2 ^ word.length := Nat.two_pow_pos word.length
  have power : 2 ^ word.length ≤ 2 ^ 31 := Nat.pow_le_pow_right (by omega) few
  have below := ofBits_lt word
  have isValue : (UInt32.ofNat (2 ^ word.length + ofBits word - 1)).toNat =
      2 ^ word.length + ofBits word - 1 :=
    UInt32.toNat_ofNat_of_lt' (show _ < 2 ^ 32 by omega)
  have isCode : r.ahead =
      expGolomb (UInt32.ofNat (2 ^ word.length + ofBits word - 1)).toNat ++ rest := by
    rw [isValue, expGolomb_of_word, isAhead]
  exact ⟨_, by omega, isCode, reads_ue (by omega) r rest isCode⟩

/-- What `ue` returns, it took the code of. -/
theorem ue_eq_some {r r' : BitReader} {value : UInt32} (run : ue r = some (value, r')) :
    value.toNat + 1 < 2 ^ 32 ∧ (∃ rest, r.ahead = expGolomb value.toNat ++ rest) ∧
      r' = r.skip (expGolomb value.toNat).length := by
  obtain ⟨⟨zeros, next⟩, isZeros, after⟩ := Option.bind_eq_some_iff.mp run
  obtain ⟨z, behind, few, rfl, isAhead, rfl⟩ := zerosFrom_eq_some isZeros
  obtain ⟨⟨bits, last⟩, isBits, -⟩ := Option.bind_eq_some_iff.mp after
  obtain ⟨word, rest, length, isWord⟩ := bitsFrom_eq_some isBits
  have isBehind : behind = word ++ rest := by
    have isRest := ahead_skip isAhead
    rw [List.length_append, List.length_replicate, List.length_singleton] at isRest
    exact isRest.symm.trans isWord
  rw [Nat.zero_add] at length
  have isCode : r.ahead = List.replicate word.length false ++ [true] ++ word ++ rest := by
    rw [isAhead, isBehind, length]
    simp only [List.append_assoc]
  obtain ⟨read, -, isRead, reads⟩ := ue_of_word (length.trans_le few) isCode
  rw [run] at reads
  cases reads
  exact ⟨yields_ue r value _ run, ⟨rest, isRead⟩, rfl⟩

/-- A code of more than 31 zeros is none. -/
theorem ue_of_zeros {r : BitReader} {zeros : Nat} {rest : List Bool} (many : 31 < zeros)
    (isAhead : r.ahead = List.replicate zeros false ++ rest) : ue r = none := by
  cases run : ue r with
  | none => rfl
  | some result =>
      obtain ⟨small, ⟨more, isCode⟩, -⟩ := ue_eq_some run
      have few : (result.1.toNat + 1).log2 < 32 := (Nat.log2_lt (Nat.succ_ne_zero _)).mpr small
      rw [expGolomb_eq] at isCode
      -- The bit that is set stands where a zero is.
      have same := congrArg (fun bits => bits[(result.1.toNat + 1).log2]?)
        (isAhead.symm.trans isCode)
      simp only [List.append_assoc] at same
      rw [List.getElem?_append_left (by rw [List.length_replicate]; omega),
        List.getElem?_replicate_of_lt (by omega),
        List.getElem?_append_right (by rw [List.length_replicate]), List.length_replicate,
        Nat.sub_self] at same
      cases same

/-! ## What was written is read -/

/-- The fields of a parameter set that `BitWriter` writes. -/
inductive Element where
  | ue (value : UInt32)
  | flag (bit : Bool)
  deriving DecidableEq

/-- The kind of a field, which is all that a reader knows of it. -/
inductive Kind where
  | ue
  | flag
  deriving DecidableEq

namespace Element

def kind : Element → Kind
  | ue _ => .ue
  | flag _ => .flag

/-- The bits that are written of a field. -/
def bits : Element → List Bool
  | ue value => expGolomb value.toNat
  | flag bit => [bit]

def write (w : BitWriter) : Element → BitWriter
  | ue value => w.ue value
  | flag bit => w.flag bit

end Element

/-- Reads a field of one kind. -/
def Kind.read : Kind → Read Element
  | ue => do
      let value ← BitReader.ue
      pure (.ue value)
  | flag => do
      let bit ← BitReader.flag
      pure (.flag bit)

/-- Reads fields of known kinds. -/
def readAll : List Kind → Read (List Element)
  | [] => pure []
  | kind :: kinds => do
      let element ← kind.read
      let elements ← readAll kinds
      pure (element :: elements)

/-- Writes fields. -/
def writeAll (elements : List Element) : BitWriter := elements.foldl Element.write {}

theorem Wrote.writeAll {w : BitWriter} {bits : List Bool} (wrote : Wrote w bits)
    (elements : List Element) :
    Wrote (elements.foldl Element.write w) (bits ++ elements.flatMap Element.bits) := by
  induction elements generalizing w bits with
  | nil =>
      rw [List.flatMap_nil, List.append_nil]
      exact wrote
  | cons element elements ih =>
      have next : Wrote (element.write w) (bits ++ element.bits) := by
        cases element with
        | ue value => exact wrote.ue value
        | flag bit => exact wrote.flag bit
      have rest := ih next
      rwa [List.append_assoc, ← List.flatMap_cons] at rest

theorem reads_element {element : Element}
    (small : ∀ value, element = .ue value → value.toNat < 2 ^ 32 - 1) :
    Reads element.kind.read element.bits element := by
  cases element with
  | ue value =>
      have below := small value rfl
      have read : Reads (Kind.read .ue) (expGolomb value.toNat ++ []) (.ue value) :=
        (reads_ue (by omega)).bind (reads_pure _)
      rwa [List.append_nil] at read
  | flag bit => exact (reads_flag bit).bind (reads_pure _)

theorem reads_readAll {elements : List Element}
    (small : ∀ value, .ue value ∈ elements → value.toNat < 2 ^ 32 - 1) :
    Reads (readAll (elements.map Element.kind)) (elements.flatMap Element.bits) elements := by
  induction elements with
  | nil => exact reads_pure []
  | cons element elements ih =>
      have first : Reads element.kind.read element.bits element := by
        apply reads_element
        rintro value rfl
        exact small value List.mem_cons_self
      have rest := ih fun value member => small value (List.mem_cons_of_mem _ member)
      have both : Reads (readAll ((element :: elements).map Element.kind))
          (element.bits ++ (elements.flatMap Element.bits ++ [])) (element :: elements) :=
        first.bind (rest.bind (reads_pure _))
      rwa [List.append_nil] at both

/-- Fields that were written and closed are read back, up to the stop bit, and only zeros follow it
in its byte. -/
theorem readAll_finish {elements : List Element}
    (small : ∀ value, .ue value ∈ elements → value.toNat < 2 ^ 32 - 1) :
    ∃ r free, readAll (elements.map Element.kind) (BitReader.new (writeAll elements).finish) =
        some (elements, r) ∧
      r.data = (writeAll elements).finish ∧ r.position = (writeAll elements).used ∧ free < 8 ∧
      r.ahead = true :: List.replicate free false := by
  have wrote : Wrote (writeAll elements) (elements.flatMap Element.bits) :=
    wrote_nothing.writeAll elements
  obtain ⟨free, few, isBits⟩ := wrote.finish
  refine ⟨_, free, reads_readAll small (BitReader.new _) _ isBits, rfl, ?_, few, ahead_skip isBits⟩
  rw [position_skip, wrote.used]
  exact Nat.zero_add _

/-- Emulation prevention and the exponential Golomb code, each with its inverse. What `escape` makes
of any bytes holds no start code and `unescape` takes it back; fields that a `BitWriter` wrote and
closed are read back up to the stop bit; and `ue` reads exactly the codes of at most 31 zeros, each
as the number it stands for, without an overflow. -/
theorem emulation_and_golomb_are_inverse :
    (∀ bytes, unescape (escape bytes) = bytes ∧
      ∀ low : UInt8, low ≤ 2 → ¬ [0, 0, low] <:+: escape bytes) ∧
    (∀ elements : List Element,
      (∀ value, .ue value ∈ elements → value.toNat < 2 ^ 32 - 1) →
      ∃ r free, readAll (elements.map Element.kind) (BitReader.new (writeAll elements).finish) =
          some (elements, r) ∧
        r.data = (writeAll elements).finish ∧ r.position = (writeAll elements).used ∧ free < 8 ∧
        r.ahead = true :: List.replicate free false) ∧
    (∀ (r : BitReader) (word rest : List Bool), word.length ≤ 31 →
      r.ahead = List.replicate word.length false ++ [true] ++ word ++ rest →
      ∃ value : UInt32, value.toNat = 2 ^ word.length - 1 + ofBits word ∧
        ue r = some (value, r.skip (2 * word.length + 1))) ∧
    (∀ (r : BitReader) (zeros : Nat) (rest : List Bool), 31 < zeros →
      r.ahead = List.replicate zeros false ++ rest → ue r = none) ∧
    ∀ (r r' : BitReader) (value : UInt32), ue r = some (value, r') →
      value.toNat + 1 < 2 ^ 32 ∧ r.ahead = expGolomb value.toNat ++ r'.ahead ∧
        r'.data = r.data ∧ r'.position = r.position + (expGolomb value.toNat).length ∧
        r'.position ≤ 8 * r.data.length := by
  refine ⟨fun bytes => ⟨unescape_escape bytes, ?_⟩, fun _ => readAll_finish, ?_,
    fun _ _ _ => ue_of_zeros, ?_⟩
  · intro low isLow
    have below : low < 3 := by
      rw [UInt8.le_iff_toNat_le] at isLow
      rw [UInt8.lt_iff_toNat_lt]
      exact Nat.lt_succ_of_le isLow
    exact guarded_escapeFrom .none below bytes
  · intro r word rest few isAhead
    obtain ⟨value, isValue, isCode, reads⟩ := ue_of_word few isAhead
    refine ⟨value, isValue, ?_⟩
    have length := congrArg List.length (isCode.symm.trans isAhead)
    simp only [List.length_append, List.length_replicate, List.length_singleton] at length
    rw [reads, show (expGolomb value.toNat).length = 2 * word.length + 1 by omega]
  · intro r r' value run
    obtain ⟨small, ⟨rest, isAhead⟩, rfl⟩ := ue_eq_some run
    refine ⟨small, by rw [ahead_skip isAhead, isAhead], rfl, rfl, ?_⟩
    have length := congrArg List.length isAhead
    have some : 0 < (expGolomb value.toNat).length := by
      rw [expGolomb, List.length_append, length_toBits]
      omega
    rw [ahead, List.length_drop, length_bytesToBits, List.length_append] at length
    rw [position_skip]
    omega

end Lumepeer.Media.H264Sps
