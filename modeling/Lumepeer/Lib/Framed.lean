import Mathlib.Data.List.TakeWhile

/-!
# Messages on a stream

`read` takes a message off the front of a stream of symbols or refuses.
`ReadsFrames` says that it accepts a stream exactly when the frame of a valid
message lies at its front, leaving what follows the frame, and that no frame
which is sent whole begins as one of these does. A concatenation of frames is
then read back up to the first message that is not valid, and a frame cut short
is refused.
-/

namespace Lumepeer.Lib

universe u v
variable {B : Type u} {M : Type v} {read : List B → Option M × List B} {frame : M → List B}
  {Whole Valid : M → Prop} {message : M}

/-- `read` accepts the frames of the valid messages, and nothing else. -/
structure ReadsFrames (read : List B → Option M × List B) (frame : M → List B)
    (Whole Valid : M → Prop) : Prop where
  read_iff : ∀ stream message rest,
    read stream = (some message, rest) ↔ Valid message ∧ stream = frame message ++ rest
  apart : ∀ {message valid : M} {rest rest' : List B}, Whole message → Valid valid →
    frame message ++ rest = frame valid ++ rest' → message = valid ∧ rest = rest'
  ends : (read []).1 = none

/-- Reads until a read refuses, at most `calls` messages: what was read. -/
def readAll (read : List B → Option M × List B) : Nat → List B → List M
  | 0, _ => []
  | calls + 1, stream =>
      match read stream with
      | (none, _) => []
      | (some message, rest) => message :: readAll read calls rest

theorem readAll_of_none {stream : List B} (stop : (read stream).1 = none) (calls : Nat) :
    readAll read calls stream = [] := by
  cases calls with
  | zero => rfl
  | succ calls =>
      rw [readAll]
      split
      · rfl
      · rename_i answer
        rw [answer] at stop
        cases stop

namespace ReadsFrames

theorem read_append (reads : ReadsFrames read frame Whole Valid) (valid : Valid message)
    (rest : List B) : read (frame message ++ rest) = (some message, rest) :=
  (reads.read_iff _ _ _).mpr ⟨valid, rfl⟩

theorem read_frame (reads : ReadsFrames read frame Whole Valid) (valid : Valid message) :
    read (frame message) = (some message, []) :=
  (reads.read_iff _ _ _).mpr ⟨valid, (List.append_nil _).symm⟩

/-- The frame of a message that is not valid is refused, whatever follows it. -/
theorem read_append_of_not_valid (reads : ReadsFrames read frame Whole Valid)
    (whole : Whole message) (bad : ¬ Valid message) (rest : List B) :
    (read (frame message ++ rest)).1 = none := by
  cases outcome : read (frame message ++ rest) with
  | mk answer left =>
      cases answer with
      | none => rfl
      | some other =>
          obtain ⟨valid, same⟩ := (reads.read_iff _ _ _).mp outcome
          obtain ⟨rfl, -⟩ := reads.apart whole valid same
          exact absurd valid bad

/-- A frame cut short is refused. -/
theorem read_of_cut (reads : ReadsFrames read frame Whole Valid) (whole : Whole message)
    {part missing : List B} (parts : part ++ missing = frame message) (cut : missing ≠ []) :
    (read part).1 = none := by
  cases outcome : read part with
  | mk answer rest =>
      cases answer with
      | none => rfl
      | some other =>
          obtain ⟨valid, isFrame⟩ := (reads.read_iff _ _ _).mp outcome
          have same : frame message ++ [] = frame other ++ (rest ++ missing) := by
            rw [List.append_nil, ← parts, isFrame, List.append_assoc]
          have nothing := (reads.apart whole valid same).2
          exact absurd (List.append_eq_nil_iff.mp nothing.symm).2 cut

/-- A message is read exactly when it is valid and its frame is there to the end. -/
theorem read_take [DecidablePred Valid] (reads : ReadsFrames read frame Whole Valid)
    (whole : Whole message) (room : Nat) :
    (read ((frame message).take room)).1 =
      if (frame message).length ≤ room ∧ Valid message then some message else none := by
  by_cases fits : (frame message).length ≤ room
  · have all := reads.read_append_of_not_valid whole
    rw [List.take_of_length_le fits, ← List.append_nil (frame message)]
    by_cases valid : Valid message
    · rw [reads.read_append valid, if_pos ⟨by simpa using fits, valid⟩]
    · rw [all valid, if_neg (fun both => valid both.2)]
  · have cut : (frame message).drop room ≠ [] := by
      rw [ne_eq, List.drop_eq_nil_iff]
      exact fits
    rw [reads.read_of_cut whole (List.take_append_drop room _) cut,
      if_neg (fun both => fits both.1)]

/-- Messages are read back up to the first that is not valid. -/
theorem readAll_flatMap [DecidablePred Valid] (reads : ReadsFrames read frame Whole Valid)
    {messages : List M} {calls : Nat} (whole : ∀ message ∈ messages, Whole message)
    (enough : messages.length < calls) :
    readAll read calls (messages.flatMap frame) =
      messages.takeWhile fun message => decide (Valid message) := by
  induction messages generalizing calls with
  | nil => exact readAll_of_none reads.ends calls
  | cons message later ih =>
      obtain ⟨fewer, rfl⟩ : ∃ fewer, calls = fewer + 1 := ⟨calls - 1, by omega⟩
      rw [List.length_cons] at enough
      rw [List.flatMap_cons]
      by_cases valid : Valid message
      · rw [readAll, reads.read_append valid, List.takeWhile_cons_of_pos (by simpa using valid)]
        simp only
        rw [ih (fun m member => whole m (List.mem_cons_of_mem _ member)) (by omega)]
      · rw [List.takeWhile_cons_of_neg (by simpa using valid)]
        exact readAll_of_none
          (reads.read_append_of_not_valid (whole message List.mem_cons_self) valid _) _

end ReadsFrames

end Lumepeer.Lib
