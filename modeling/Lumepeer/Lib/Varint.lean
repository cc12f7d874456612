import Mathlib.Algebra.Order.Ring.Nat
import Mathlib.Data.Nat.Log
import Mathlib.Tactic.Ring

/-!
# Variable-length integers

A varint spells a number in groups of seven bits, least significant first, with
the high bit set on every byte but the last. `pushVarint` writes at most `left`
groups, `takeVarint` reads at most `left` and bounds the last one, so that the
number fits its word. The reader also accepts spellings that are longer than
they need to be: `Padded` says when one ends in a group of zeroes.
-/

namespace Lumepeer.Lib

/-- Spells `value` in at most `left` groups. -/
def pushVarint : Nat → Nat → List UInt8
  | 0, _ => []
  | left + 1, value =>
      if value < 128 then [UInt8.ofNat value]
      else UInt8.ofNat (value % 128 + 128) :: pushVarint left (value / 128)

/-- Reads a number of at most `left` groups; the group that uses up the last of them is at most
`last`. -/
def takeVarint (last : Nat) : Nat → List UInt8 → Option (Nat × List UInt8)
  | 0, _ => none
  | _ + 1, [] => none
  | left + 1, b :: bytes =>
      if b.toNat < 128 then
        if left = 0 ∧ last < b.toNat then none else some (b.toNat, bytes)
      else (takeVarint last left bytes).map fun (high, rest) => (b.toNat % 128 + 128 * high, rest)

/-- The bytes of the varint at the front of a byte string. -/
def varintSpelling : List UInt8 → List UInt8
  | [] => []
  | b :: bytes => if b.toNat < 128 then [b] else b :: varintSpelling bytes

/-- The spelling ends in a group of zeroes it could do without. -/
def Padded (spelling : List UInt8) : Prop := 2 ≤ spelling.length ∧ spelling.getLast? = some 0

instance (spelling : List UInt8) : Decidable (Padded spelling) :=
  inferInstanceAs (Decidable (_ ∧ _))

/-- The numbers `left` groups spell when the last of them is at most `last`. -/
def varintBound (last left : Nat) : Nat := (last + 1) * 128 ^ (left - 1)

/-- How many groups `value` takes. -/
def varintLen (value : Nat) : Nat := Nat.log 128 value + 1

theorem varintBound_succ (last left : Nat) :
    varintBound last (left + 2) = 128 * varintBound last (left + 1) := by
  simp only [varintBound, Nat.succ_sub_one]
  rw [pow_succ]
  ring

theorem toNat_low {value : Nat} (small : value < 128) : (UInt8.ofNat value).toNat = value := by
  rw [UInt8.toNat_ofNat']
  omega

theorem toNat_group (value : Nat) : (UInt8.ofNat (value % 128 + 128)).toNat = value % 128 + 128 := by
  rw [UInt8.toNat_ofNat']
  omega

theorem pushVarint_ne_nil (left value : Nat) : pushVarint (left + 1) value ≠ [] := by
  unfold pushVarint
  split <;> simp

/-- The reader takes off what the writer put there. -/
theorem length_pushVarint_le (left value : Nat) : (pushVarint left value).length ≤ left := by
  induction left generalizing value with
  | zero => simp [pushVarint]
  | succ left ih =>
      simp only [pushVarint]
      split
      · simp
      · exact Nat.succ_le_succ (ih _)

theorem length_pushVarint {left value : Nat} (fits : value < 128 ^ left) (groups : 0 < left) :
    (pushVarint left value).length = varintLen value := by
  induction left generalizing value with
  | zero => omega
  | succ left ih =>
      simp only [pushVarint]
      split
      · rename_i small
        simp [varintLen, Nat.log_of_lt small]
      · rename_i large
        have more : 0 < left := by
          rcases Nat.eq_zero_or_pos left with rfl | more
          · rw [zero_add, pow_one] at fits
            omega
          · exact more
        have less : value / 128 < 128 ^ left := by
          rw [pow_succ] at fits
          exact Nat.div_lt_of_lt_mul (by rwa [Nat.mul_comm])
        rw [List.length_cons, ih less more, varintLen, varintLen,
          ← Nat.log_of_one_lt_of_le (by decide) (Nat.not_lt.mp large)]

theorem takeVarint_pushVarint {last left value : Nat} (rest : List UInt8) (small : last < 128)
    (fits : value < varintBound last left) (groups : 0 < left) :
    takeVarint last left (pushVarint left value ++ rest) = some (value, rest) := by
  induction left generalizing value with
  | zero => omega
  | succ left ih =>
      unfold pushVarint
      by_cases low : value < 128
      · have inside : ¬ (left = 0 ∧ last < value) := by
          rintro ⟨rfl, above⟩
          simp [varintBound] at fits
          omega
        simp only [if_pos low, List.singleton_append, takeVarint, toNat_low low, if_neg inside]
      · cases left with
        | zero =>
            simp [varintBound] at fits
            omega
        | succ left =>
            have high : value / 128 < varintBound last (left + 1) := by
              rw [varintBound_succ] at fits
              omega
            simp only [if_neg low, List.cons_append, takeVarint, toNat_group]
            rw [if_neg (by omega), ih high (by omega)]
            simp only [Option.map_some, Option.some.injEq, Prod.mk.injEq, and_true]
            omega

/-- A number read off fits the groups it was read from. -/
theorem takeVarint_lt {last left value : Nat} {bytes rest : List UInt8} (small : last < 128)
    (taken : takeVarint last left bytes = some (value, rest)) :
    value < varintBound last left := by
  induction left generalizing bytes value with
  | zero => simp [takeVarint] at taken
  | succ left ih =>
      cases bytes with
      | nil => simp [takeVarint] at taken
      | cons b bytes =>
          simp only [takeVarint] at taken
          split at taken
          · rename_i low
            split at taken
            · cases taken
            · rename_i inside
              cases taken
              cases left with
              | zero => simp [varintBound]; omega
              | succ left =>
                  rw [varintBound_succ]
                  have positive : 0 < varintBound last (left + 1) :=
                    Nat.mul_pos (by omega) (Nat.pow_pos (by decide))
                  omega
          · obtain ⟨⟨high, after⟩, read, same⟩ := Option.map_eq_some_iff.mp taken
            cases same
            cases left with
            | zero => simp [takeVarint] at read
            | succ left =>
                have below := ih read
                rw [varintBound_succ]
                omega

/-- What follows a number does not change how it is read. -/
theorem takeVarint_append {last left value : Nat} {bytes rest : List UInt8}
    (taken : takeVarint last left bytes = some (value, rest)) (more : List UInt8) :
    takeVarint last left (bytes ++ more) = some (value, rest ++ more) := by
  induction left generalizing bytes value with
  | zero => simp [takeVarint] at taken
  | succ left ih =>
      cases bytes with
      | nil => simp [takeVarint] at taken
      | cons b bytes =>
          simp only [takeVarint, List.cons_append] at taken ⊢
          split at taken
          · rename_i low
            rw [if_pos low]
            split at taken
            · cases taken
            · rename_i inside
              cases taken
              rw [if_neg inside]
          · rename_i low
            rw [if_neg low]
            obtain ⟨⟨high, after⟩, read, same⟩ := Option.map_eq_some_iff.mp taken
            cases same
            rw [ih read]
            rfl

theorem varintSpelling_pushVarint {left value : Nat} (fits : value < 128 ^ left) (groups : 0 < left)
    (rest : List UInt8) : varintSpelling (pushVarint left value ++ rest) = pushVarint left value := by
  induction left generalizing value with
  | zero => omega
  | succ left ih =>
      unfold pushVarint
      by_cases low : value < 128
      · simp [low, varintSpelling, toNat_low low]
      · have high : value / 128 < 128 ^ left := by
          rw [pow_succ] at fits
          omega
        have more : 0 < left := by
          by_contra none
          obtain rfl : left = 0 := by omega
          simp at fits
          omega
        simp only [if_neg low, List.cons_append, varintSpelling, toNat_group]
        rw [if_neg (by omega), ih high more]

theorem getLast?_pushVarint_ne_zero {left value : Nat} (fits : value < 128 ^ left)
    (positive : value ≠ 0) : (pushVarint left value).getLast? ≠ some 0 := by
  induction left generalizing value with
  | zero => simp [pushVarint]
  | succ left ih =>
      unfold pushVarint
      by_cases low : value < 128
      · rw [if_pos low]
        intro zero
        rw [List.getLast?_singleton] at zero
        have same := congrArg UInt8.toNat (Option.some.inj zero)
        rw [toNat_low low] at same
        exact positive same
      · have high : value / 128 < 128 ^ left := by
          rw [pow_succ] at fits
          omega
        cases left with
        | zero =>
            simp at high
            omega
        | succ left =>
            rw [if_neg low, List.getLast?_cons_of_ne_nil (pushVarint_ne_nil left _)]
            exact ih high (by omega)

/-- The writer never pads. -/
theorem not_padded_pushVarint {left value : Nat} (fits : value < 128 ^ left) :
    ¬ Padded (pushVarint left value) := by
  rintro ⟨long, zero⟩
  by_cases positive : value = 0
  · subst positive
    cases left with
    | zero => simp [pushVarint] at long
    | succ left => simp [pushVarint] at long
  · exact getLast?_pushVarint_ne_zero fits positive zero

theorem getLast?_cons_of_some {b last : UInt8} {bytes : List UInt8}
    (ends : bytes.getLast? = some last) : (b :: bytes).getLast? = some last := by
  rw [List.getLast?_cons_of_ne_nil (List.ne_nil_of_mem (List.mem_of_getLast? ends)), ends]

/-- A spelling of zero ends in a zero byte. -/
theorem getLast?_of_takeVarint_zero {last left : Nat} {bytes rest : List UInt8}
    (taken : takeVarint last left bytes = some (0, rest)) :
    (varintSpelling bytes).getLast? = some 0 := by
  induction left generalizing bytes rest with
  | zero => simp [takeVarint] at taken
  | succ left ih =>
      cases bytes with
      | nil => simp [takeVarint] at taken
      | cons b bytes =>
          simp only [takeVarint] at taken
          unfold varintSpelling
          split at taken
          · rename_i low
            split at taken
            · cases taken
            · rw [if_pos low]
              have zero : b = 0 := by
                apply UInt8.toNat_inj.mp
                exact (Prod.ext_iff.mp (Option.some.inj taken)).1
              simp [zero]
          · rename_i low
            rw [if_neg low]
            obtain ⟨⟨high, after⟩, read, same⟩ := Option.map_eq_some_iff.mp taken
            have zero : high = 0 := by
              have sum := (Prod.ext_iff.mp same).1
              simp only at sum
              omega
            subst zero
            exact getLast?_cons_of_some (ih read)

/-- A number read from a spelling without padding is written back the same. -/
theorem pushVarint_of_takeVarint {last left value : Nat} {bytes rest : List UInt8}
    (taken : takeVarint last left bytes = some (value, rest))
    (tight : ¬ Padded (varintSpelling bytes)) : pushVarint left value ++ rest = bytes := by
  induction left generalizing bytes value with
  | zero => simp [takeVarint] at taken
  | succ left ih =>
      cases bytes with
      | nil => simp [takeVarint] at taken
      | cons b bytes =>
          simp only [takeVarint] at taken
          unfold varintSpelling at tight
          unfold pushVarint
          split at taken
          · rename_i low
            split at taken
            · cases taken
            · cases taken
              simp [low]
          · rename_i low
            rw [if_neg low] at tight
            obtain ⟨⟨high, after⟩, read, same⟩ := Option.map_eq_some_iff.mp taken
            cases same
            have shorter : ¬ Padded (varintSpelling bytes) := by
              rintro ⟨long, zero⟩
              exact tight ⟨by simp; omega, getLast?_cons_of_some zero⟩
            have positive : high ≠ 0 := by
              rintro rfl
              have zero := getLast?_of_takeVarint_zero read
              refine tight ⟨?_, getLast?_cons_of_some zero⟩
              have long := List.length_pos_of_mem (List.mem_of_getLast? zero)
              simp
              omega
            have group : UInt8.ofNat ((b.toNat % 128 + 128 * high) % 128 + 128) = b := by
              apply UInt8.toNat_inj.mp
              have below := b.toNat_lt
              rw [UInt8.toNat_ofNat']
              omega
            have shift : (b.toNat % 128 + 128 * high) / 128 = high := by omega
            rw [if_neg (by omega), shift, group, List.cons_append, ih read shorter]

end Lumepeer.Lib
