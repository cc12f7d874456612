import Mathlib.Data.List.Chain
import Mathlib.Data.List.Induction

/-!
# Byte streams cut at start codes

A stream of units, each behind the start code `00 00 01`. Zero bytes between a
unit and the next start code belong to neither. Every byte string is such a
stream behind some bytes without a start code (`exists_layout`): a start code
does not overlap itself, so bytes without one stay so beside one.
-/

namespace Lumepeer.Lib.AnnexB

/-- What stands before each unit. -/
abbrev startCode : List UInt8 := [0, 0, 1]

/-- Bytes that hold no start code. -/
def Plain (bytes : List UInt8) : Prop := ¬ startCode <:+: bytes

/-- A unit and the number of zero bytes behind it. -/
structure Nal where
  body : List UInt8
  zeros : Nat

/-- The bytes of a unit with its start code. -/
def Nal.bytes (unit : Nal) : List UInt8 := startCode ++ unit.body ++ List.replicate unit.zeros 0

/-- The bytes of units in a row. -/
def render (units : List Nal) : List UInt8 := units.flatMap Nal.bytes

/-- The units a stream is cut into: none holds a start code, and one that another
follows does not end in a zero byte. What ends the stream belongs to its last unit. -/
def Sound : List Nal → Prop
  | [] => True
  | [unit] => Plain unit.body ∧ unit.zeros = 0
  | unit :: next :: more =>
      Plain unit.body ∧ unit.body.getLast? ≠ some 0 ∧ Sound (next :: more)

theorem length_bytes (unit : Nal) : unit.bytes.length = 3 + (unit.body.length + unit.zeros) := by
  rw [Nal.bytes, List.append_assoc, List.length_append, List.length_append, List.length_replicate]
  rfl

@[simp] theorem render_nil : render [] = [] := rfl

@[simp] theorem render_cons (unit : Nal) (more : List Nal) :
    render (unit :: more) =
      startCode ++ (unit.body ++ List.replicate unit.zeros 0 ++ render more) := by
  simp [render, Nal.bytes]

theorem plain_nil : Plain [] := by
  intro code
  have long := code.length_le
  simp at long

/-- A byte in front makes a start code only with the bytes behind it. -/
theorem plain_cons {b : UInt8} {bytes : List UInt8} :
    Plain (b :: bytes) ↔ ¬ startCode <+: b :: bytes ∧ Plain bytes := by
  simp only [Plain, List.infix_cons_iff, not_or]

theorem plain_append_zeros {bytes : List UInt8} (plain : Plain bytes) (k : Nat) :
    Plain (bytes ++ List.replicate k 0) := by
  induction k with
  | zero => simpa using plain
  | succ k ih =>
      rw [List.replicate_succ', ← List.append_assoc]
      intro code
      rcases List.infix_concat_iff.mp code with atEnd | before
      · rcases List.suffix_concat_iff.mp atEnd with empty | ⟨front, isCode, _⟩
        · cases empty
        · have last := congrArg List.getLast? isCode
          simp at last
      · exact ih before

/-- The first start code behind plain bytes is the one that follows them. -/
theorem not_startCode_prefix {b : UInt8} {bytes : List UInt8} (plain : Plain (b :: bytes))
    (rest : List UInt8) : ¬ startCode <+: b :: (bytes ++ startCode ++ rest) := by
  intro code
  have noPrefix := (plain_cons.mp plain).1
  match bytes with
  | [] => simp at code
  | [c] => simp at code
  | c :: d :: bytes => exact noPrefix (by simpa using code)

theorem Sound.plain {units : List Nal} (sound : Sound units) : ∀ unit ∈ units, Plain unit.body := by
  fun_induction Sound units with
  | case1 => simp
  | case2 unit => simpa using sound.1
  | case3 unit next more ih =>
      obtain ⟨plain, _, rest⟩ := sound
      intro member isMember
      rcases List.mem_cons.mp isMember with rfl | inRest
      · exact plain
      · exact ih rest member inRest

theorem Sound.tail {unit : Nal} {more : List Nal} (sound : Sound (unit :: more)) : Sound more := by
  cases more with
  | nil => exact trivial
  | cons => exact sound.2.2

/-- A unit in front of others. -/
theorem Sound.cons {unit : Nal} {more : List Nal} (plain : Plain unit.body)
    (ends : more ≠ [] → unit.body.getLast? ≠ some 0) (zeros : more = [] → unit.zeros = 0)
    (sound : Sound more) : Sound (unit :: more) := by
  cases more with
  | nil => exact ⟨plain, zeros rfl⟩
  | cons next more => exact ⟨plain, ends (List.cons_ne_nil _ _), sound⟩

/-- Each unit rewritten where it stands. -/
def mapBodies (f : List UInt8 → List UInt8) (units : List Nal) : List Nal :=
  units.map fun unit => { unit with body := f unit.body }

theorem Sound.mapBodies {f : List UInt8 → List UInt8} {units : List Nal} (sound : Sound units)
    (plain : ∀ body, Plain body → Plain (f body))
    (ends : ∀ body, body.getLast? ≠ some 0 → (f body).getLast? ≠ some 0) :
    Sound (AnnexB.mapBodies f units) := by
  fun_induction Sound units with
  | case1 => exact trivial
  | case2 unit => exact ⟨plain _ sound.1, sound.2⟩
  | case3 unit next more ih =>
      obtain ⟨isPlain, notZero, rest⟩ := sound
      exact ⟨plain _ isPlain, ends _ notZero, ih rest⟩

/-- The zero bytes at the end of a byte string. -/
theorem exists_trimmed (bytes : List UInt8) :
    ∃ body zeros, bytes = body ++ List.replicate zeros 0 ∧ body.getLast? ≠ some 0 := by
  induction bytes using List.reverseRecOn with
  | nil => exact ⟨[], 0, rfl, by simp⟩
  | append_singleton bytes b ih =>
      by_cases zero : b = 0
      · obtain ⟨body, zeros, rfl, ends⟩ := ih
        refine ⟨body, zeros + 1, ?_, ends⟩
        rw [zero, List.replicate_succ', List.append_assoc]
      · exact ⟨bytes ++ [b], 0, by simp, by simpa using zero⟩

/-- Bytes behind a start code and the units after them. -/
theorem exists_layout_behind {lead : List UInt8} {units : List Nal} (plain : Plain lead)
    (sound : Sound units) :
    ∃ more, startCode ++ (lead ++ render units) = render more ∧ Sound more := by
  by_cases last : units = []
  · refine ⟨[⟨lead, 0⟩], ?_, plain, rfl⟩
    simp [last]
  · obtain ⟨body, zeros, rfl, ends⟩ := exists_trimmed lead
    have plainBody : Plain body := fun code => plain (code.trans (List.infix_append [] body _))
    refine ⟨⟨body, zeros⟩ :: units, ?_, .cons plainBody (fun _ => ends) (fun none => ?_) sound⟩
    · rw [render_cons]
    · exact absurd none last

/-- Every byte string is plain bytes and then units. -/
theorem exists_layout (stream : List UInt8) :
    ∃ lead units, stream = lead ++ render units ∧ Plain lead ∧ Sound units := by
  induction size : stream.length using Nat.strong_induction_on generalizing stream with
  | _ n ih =>
      match stream with
      | [] => exact ⟨[], [], rfl, plain_nil, trivial⟩
      | b :: bytes =>
          by_cases code : startCode <+: b :: bytes
          · obtain ⟨rest, isRest⟩ := code
            have shorter : rest.length < n := by
              rw [← size, ← isRest, List.length_append, List.length_cons]
              omega
            obtain ⟨lead, units, rfl, plain, sound⟩ := ih rest.length shorter rest rfl
            obtain ⟨more, isMore, soundMore⟩ := exists_layout_behind plain sound
            exact ⟨[], more, by rw [← isRest, isMore, List.nil_append], plain_nil, soundMore⟩
          · obtain ⟨lead, units, rfl, plain, sound⟩ := ih bytes.length (by simp [← size]) bytes rfl
            refine ⟨b :: lead, units, rfl, plain_cons.mpr ⟨fun isCode => code ?_, plain⟩, sound⟩
            exact isCode.trans (List.prefix_append (b :: lead) (render units))

end Lumepeer.Lib.AnnexB
