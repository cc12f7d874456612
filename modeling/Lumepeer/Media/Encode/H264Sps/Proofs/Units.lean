import Lumepeer.Lib.AnnexB
import Lumepeer.Media.Encode.H264Sps

/-!
# The units of a stream

`nalUnits` finds the units of a stream laid out as `AnnexB.render` says, and the
loop of `withoutReordering` rewrites each of them where it stands: what it has
written, with what it has not copied yet, is the rewritten stream up to there.
No index of either leaves the stream.
-/

namespace Lumepeer.Media.H264Sps
open Lumepeer.Lib AnnexB

/-! ## Start codes -/

theorem startCodeAt_eq {stream before tail : List UInt8} (isStream : stream = before ++ tail)
    (long : 3 ≤ tail.length) :
    startCodeAt stream before.length = some (decide (startCode <+: tail)) := by
  match tail, long with
  | a :: b :: c :: tail, _ =>
      have first : stream[before.length]? = some a := by simp [isStream]
      have second : stream[before.length + 1]? = some b := by simp [isStream]
      have third : stream[before.length + 2]? = some c := by simp [isStream]
      unfold startCodeAt
      rw [first, second, third]
      by_cases zero : a = 0
      · by_cases zero' : b = 0
        · rw [zero, zero']
          by_cases one : c = 1
          · simp [one]
          · simp [one, Ne.symm one]
        · simp [zero, zero', Ne.symm zero']
      · simp [zero, Ne.symm zero]

/-- The scan passes bytes without a start code. -/
theorem startCodes_skip {stream before gap rest : List UInt8}
    (isStream : stream = before ++ (gap ++ (startCode ++ rest))) (plain : Plain gap) :
    startCodes stream before.length = startCodes stream (before.length + gap.length) := by
  induction gap generalizing before with
  | nil => rfl
  | cons b gap ih =>
      have turn : startCodes stream before.length = startCodes stream (before.length + 1) := by
        rw [startCodes, if_pos (by simp [isStream]; omega),
          startCodeAt_eq isStream (by simp; omega)]
        have noCode := not_startCode_prefix plain rest
        rw [List.append_assoc, ← List.cons_append] at noCode
        rw [decide_eq_false noCode]
        rfl
      have passed : stream = before ++ [b] ++ (gap ++ (startCode ++ rest)) := by simp [isStream]
      have next := ih passed (plain_cons.mp plain).2
      rw [List.length_append, List.length_singleton] at next
      rw [turn, next, List.length_cons]
      congr 1
      omega

/-- The scan ends without a start code. -/
theorem startCodes_end {stream before gap : List UInt8} (isStream : stream = before ++ gap)
    (plain : Plain gap) : startCodes stream before.length = some [] := by
  induction gap generalizing before with
  | nil => rw [startCodes, if_neg (by simp [isStream])]
  | cons b gap ih =>
      rw [startCodes]
      split
      · rename_i inside
        rw [isStream, List.length_append] at inside
        have noCode := (plain_cons.mp plain).1
        have passed : stream = before ++ [b] ++ gap := by simp [isStream]
        have next := ih passed (plain_cons.mp plain).2
        rw [List.length_append, List.length_singleton] at next
        rw [startCodeAt_eq isStream (by omega), decide_eq_false noCode]
        exact next
      · rfl

/-- The scan takes a start code. -/
theorem startCodes_code {stream before rest : List UInt8}
    (isStream : stream = before ++ (startCode ++ rest)) :
    startCodes stream before.length =
      (startCodes stream (before.length + 3)).map ((before.length, before.length + 3) :: ·) := by
  rw [startCodes, if_pos (by simp [isStream]), startCodeAt_eq isStream (by simp)]
  cases startCodes stream (before.length + 3) <;> simp

/-- Where the start codes of units in a row lie, the first of them at `index`. -/
def codes : Nat → List Nal → List (Nat × Nat)
  | _, [] => []
  | index, unit :: more =>
      (index, index + 3) :: codes (index + 3 + (unit.body.length + unit.zeros)) more

theorem startCodes_eq {stream before gap : List UInt8} {units : List Nal}
    (isStream : stream = before ++ (gap ++ render units)) (plain : Plain gap)
    (plains : ∀ unit ∈ units, Plain unit.body) :
    startCodes stream before.length = some (codes (before.length + gap.length) units) := by
  induction units generalizing before gap with
  | nil => exact startCodes_end (by simpa using isStream) plain
  | cons unit more ih =>
      rw [render_cons] at isStream
      rw [← List.append_assoc before] at isStream
      have behind : (before ++ gap ++ startCode).length = (before ++ gap).length + 3 :=
        List.length_append
      have width : (unit.body ++ List.replicate unit.zeros 0).length =
          unit.body.length + unit.zeros := by simp
      have passed : stream = before ++ gap ++ startCode ++
          (unit.body ++ List.replicate unit.zeros 0 ++ render more) := by
        rw [isStream, List.append_assoc (before ++ gap)]
      have next := ih passed (plain_append_zeros (plains unit (List.mem_cons_self ..)) unit.zeros)
        (fun other member => plains other (List.mem_cons_of_mem _ member))
      rw [behind, width] at next
      rw [startCodes_skip (by rw [isStream, List.append_assoc]) plain, ← List.length_append,
        startCodes_code isStream, next, Option.map_some, codes]

/-! ## The ranges of the units -/

theorem trimZeros_last {stream : List UInt8} {payload last : Nat} (ordered : payload ≤ last)
    (inside : last ≤ stream.length) : trimZeros stream payload false last = some last := by
  cases last with
  | zero => rfl
  | succ last =>
      rw [trimZeros, List.getElem?_eq_getElem inside]
      simp

theorem trimZeros_eq {stream before body rest : List UInt8} {zeros : Nat}
    (isStream : stream = before ++ (body ++ (List.replicate zeros 0 ++ rest)))
    (ends : body.getLast? ≠ some 0) :
    trimZeros stream before.length true (before.length + (body.length + zeros)) =
      some (before.length + body.length) := by
  induction zeros generalizing rest with
  | zero =>
      rcases List.eq_nil_or_concat' body with rfl | ⟨front, b, rfl⟩
      · cases size : before.length with
        | zero => rfl
        | succ n => simp [trimZeros]
      · have isLast : stream[before.length + front.length]? = some b := by simp [isStream]
        have notZero : b ≠ 0 := by simpa using ends
        have index : before.length + ((front ++ [b]).length + 0) =
            before.length + front.length + 1 := by simp; omega
        rw [index, trimZeros, if_pos (by omega), isLast]
        simp [notZero]
        omega
  | succ zeros ih =>
      have moved : stream = before ++ (body ++ (List.replicate zeros 0 ++ 0 :: rest)) := by
        rw [isStream, List.replicate_succ', List.append_assoc (List.replicate zeros 0)]
        rfl
      have shifted := ih moved
      have isZero : stream[before.length + (body.length + zeros)]? = some 0 := by
        simp [isStream, List.getElem?_append_right, List.getElem?_append_left]
      rw [← Nat.add_assoc, ← Nat.add_assoc, trimZeros, if_pos (by omega), Nat.add_assoc, isZero]
      simpa using shifted

/-- The ranges of units in a row, the first of them behind the start code at `index`. -/
def ranges : Nat → List Nal → List (Nat × Nat)
  | _, [] => []
  | index, unit :: more =>
      (index + 3, index + 3 + unit.body.length) ::
        ranges (index + 3 + (unit.body.length + unit.zeros)) more

/-- The turn of the second loop of `nal_units` for the unit that starts at `before`. -/
theorem nalUnit_eq {stream before : List UInt8} {unit : Nal} {more : List Nal}
    {front starts : List (Nat × Nat)} (isStream : stream = before ++ render (unit :: more))
    (sound : Sound (unit :: more))
    (isStarts : starts = front ++ codes before.length (unit :: more)) :
    nalUnit stream starts ((before.length, before.length + 3), front.length) =
      some (before.length + 3, before.length + 3 + unit.body.length) := by
  rw [render_cons] at isStream
  cases more with
  | nil =>
      have size : stream.length = before.length + 3 + unit.body.length := by
        have noZeros : unit.zeros = 0 := sound.2
        simp [isStream, noZeros]
        omega
      have none : starts[front.length + 1]? = none := by simp [isStarts, codes]
      have isLast : ¬ front.length + 1 < starts.length := by simp [isStarts, codes]
      have whole : trimZeros stream (before.length + 3) false stream.length = some stream.length :=
        trimZeros_last (by omega) le_rfl
      rw [nalUnit, none, decide_eq_false isLast, Option.elim_none, whole, ← size]
      rfl
  | cons next more =>
      have passed : stream = before ++ startCode ++ (unit.body ++
          (List.replicate unit.zeros 0 ++ render (next :: more))) := by simp [isStream]
      have code : starts[front.length + 1]? =
          some (before.length + 3 + (unit.body.length + unit.zeros),
            before.length + 3 + (unit.body.length + unit.zeros) + 3) := by
        rw [isStarts, List.getElem?_append_right (by omega), Nat.add_sub_cancel_left]
        rfl
      have follows : front.length + 1 < starts.length := by simp [isStarts, codes]
      have trimmed := trimZeros_eq passed sound.2.1
      have inFront : (before ++ startCode).length = before.length + 3 := List.length_append
      rw [inFront] at trimmed
      rw [nalUnit, code, decide_eq_true follows, Option.elim_some, trimmed]
      rfl

/-- The second loop of `nal_units`, over the start codes from some unit on. -/
theorem mapM_nalUnit {stream before : List UInt8} {units : List Nal}
    {front starts : List (Nat × Nat)} (isStream : stream = before ++ render units)
    (sound : Sound units) (isStarts : starts = front ++ codes before.length units) :
    ((codes before.length units).zipIdx front.length).mapM (nalUnit stream starts) =
      some (ranges before.length units) := by
  induction units generalizing before front with
  | nil => rfl
  | cons unit more ih =>
      have first := nalUnit_eq isStream sound isStarts
      have passed : stream = before ++ unit.bytes ++ render more := by
        rw [isStream, List.append_assoc]
        rfl
      have behind : (before ++ unit.bytes).length =
          before.length + 3 + (unit.body.length + unit.zeros) := by
        rw [List.length_append, length_bytes, Nat.add_assoc]
      have isRest : starts = front ++ [(before.length, before.length + 3)] ++
          codes (before ++ unit.bytes).length more := by
        rw [isStarts, behind, List.append_assoc]
        rfl
      have rest := ih passed sound.tail isRest
      rw [behind, List.length_append, List.length_singleton] at rest
      rw [codes, List.zipIdx_cons, List.mapM_cons, first, rest]
      rfl

/-- What `nal_units` finds in a stream. -/
theorem nalUnits_eq {lead : List UInt8} {units : List Nal} (plain : Plain lead)
    (sound : Sound units) :
    nalUnits (lead ++ render units) = some (ranges lead.length units) := by
  have starts : startCodes (lead ++ render units) 0 = some (codes lead.length units) := by
    have scanned := startCodes_eq (List.nil_append (lead ++ render units)).symm plain sound.plain
    rwa [List.length_nil, Nat.zero_add] at scanned
  have loop := mapM_nalUnit rfl sound (List.nil_append (codes lead.length units)).symm
  rw [nalUnits, starts]
  exact loop

/-- The bytes of the units that `nal_units` finds. -/
def nalContents (stream : List UInt8) : Option (List (List UInt8)) := do
  let units ← nalUnits stream
  units.mapM fun range => getRange stream range.1 range.2

theorem mapM_getRange {stream before rest : List UInt8} {units : List Nal}
    (isStream : stream = before ++ render units ++ rest) :
    ((ranges before.length units).mapM fun range => getRange stream range.1 range.2) =
      some (units.map Nal.body) := by
  induction units generalizing before with
  | nil => rfl
  | cons unit more ih =>
      have behind : (before ++ unit.bytes).length =
          before.length + 3 + (unit.body.length + unit.zeros) := by
        rw [List.length_append, length_bytes, Nat.add_assoc]
      have passed : stream = before ++ unit.bytes ++ render more ++ rest := by
        simp [isStream, Nal.bytes]
      have inFront : (before ++ startCode).length = before.length + 3 := List.length_append
      have isUnit : stream = before ++ startCode ++ unit.body ++
          (List.replicate unit.zeros 0 ++ render more ++ rest) := by simp [isStream]
      have first : getRange stream (before.length + 3) (before.length + 3 + unit.body.length) =
          some unit.body := by
        rw [isUnit, ← inFront, getRange_append]
      have others := ih passed
      rw [behind] at others
      rw [ranges, List.mapM_cons, first, others]
      rfl

theorem nalContents_eq {lead : List UInt8} {units : List Nal} (plain : Plain lead)
    (sound : Sound units) : nalContents (lead ++ render units) = some (units.map Nal.body) := by
  rw [nalContents, nalUnits_eq plain sound]
  exact mapM_getRange (List.append_nil _).symm

/-! ## The rewriting loop -/

/-- A unit as `without_reordering` leaves it. -/
def rewritten (nal : List UInt8) : List UInt8 := (rewriteUnit nal).getD nal

/-- After the bytes `done` of a stream, which have become `text`: `text` is what is
written and then what is not copied yet. -/
structure Progress (state : Rewriting) (done text : List UInt8) : Prop where
  inside : state.copied ≤ done.length
  written : text = state.out ++ done.drop state.copied

theorem progress_start : Progress {} [] [] := ⟨le_rfl, rfl⟩

/-- Bytes the loop passes over stay as they are. -/
theorem Progress.pass {state : Rewriting} {done text : List UInt8}
    (progress : Progress state done text) (bytes : List UInt8) :
    Progress state (done ++ bytes) (text ++ bytes) := by
  obtain ⟨inside, rfl⟩ := progress
  refine ⟨?_, ?_⟩
  · rw [List.length_append]
    omega
  · rw [List.drop_append_of_le_length inside, List.append_assoc]

/-- One unit. -/
theorem Progress.turn {stream done body rest text : List UInt8} {state : Rewriting}
    (progress : Progress state done text) (isStream : stream = done ++ body ++ rest) :
    ∃ state', state.turn stream (done.length, done.length + body.length) = some state' ∧
      Progress state' (done ++ body) (text ++ rewritten body) ∧
      state'.changed = (state.changed || (rewriteUnit body).isSome) := by
  have nal : getRange stream done.length (done.length + body.length) = some body := by
    rw [isStream, getRange_append]
  cases rewrites : rewriteUnit body with
  | none =>
      refine ⟨state, ?_, ?_, (Bool.or_false _).symm⟩
      · simp [Rewriting.turn, nal, rewrites]
      · rw [rewritten, rewrites]
        exact progress.pass body
  | some unit =>
      obtain ⟨inside, rfl⟩ := progress
      have between : getRange stream state.copied done.length = some (done.drop state.copied) := by
        rw [isStream, getRange_of_le inside (by simp), List.append_assoc,
          List.drop_append_of_le_length inside, List.take_left' (List.length_drop ..)]
      refine ⟨⟨state.out ++ done.drop state.copied ++ unit, true, done.length + body.length⟩,
        ?_, ⟨?_, ?_⟩, (Bool.or_true _).symm⟩
      · simp [Rewriting.turn, nal, rewrites, between]
      · rw [List.length_append]
      · rw [rewritten, rewrites, Option.getD_some, ← List.length_append, List.drop_length,
          List.append_nil]

/-- The units from some place of the stream on. -/
theorem Progress.loop {stream done rest text : List UInt8} {state : Rewriting} {units : List Nal}
    (progress : Progress state done text) (isStream : stream = done ++ render units ++ rest) :
    ∃ state', (ranges done.length units).foldlM (Rewriting.turn stream) state = some state' ∧
      Progress state' (done ++ render units) (text ++ render (mapBodies rewritten units)) ∧
      state'.changed =
        (state.changed || units.any fun unit => (rewriteUnit unit.body).isSome) := by
  induction units generalizing done text state with
  | nil =>
      refine ⟨state, rfl, ?_, by simp⟩
      simpa [mapBodies] using progress
  | cons unit more ih =>
      have inFront : (done ++ startCode).length = done.length + 3 := List.length_append
      have atUnit : stream = done ++ startCode ++ unit.body ++
          (List.replicate unit.zeros 0 ++ render more ++ rest) := by simp [isStream]
      obtain ⟨next, turn, afterUnit, changed⟩ := (progress.pass startCode).turn atUnit
      have behind : (done ++ startCode ++ unit.body ++ List.replicate unit.zeros 0).length =
          done.length + 3 + (unit.body.length + unit.zeros) := by
        rw [List.length_append, List.length_append, inFront, List.length_replicate]
        omega
      have passed : stream = done ++ startCode ++ unit.body ++ List.replicate unit.zeros 0 ++
          render more ++ rest := by simp [isStream]
      obtain ⟨last, run, atEnd, changed'⟩ :=
        ih (afterUnit.pass (List.replicate unit.zeros 0)) passed
      rw [inFront] at turn
      rw [behind] at run
      refine ⟨last, ?_, ?_, ?_⟩
      · rw [ranges, List.foldlM_cons, turn]
        exact run
      · simpa [mapBodies] using atEnd
      · rw [changed', changed, List.any_cons, Bool.or_assoc]

/-- What `without_reordering` makes of a stream: no index leaves it, and each unit
that is to change is rewritten where it stands. -/
theorem withoutReordering_eq {lead : List UInt8} {units : List Nal} (plain : Plain lead)
    (sound : Sound units) :
    withoutReordering (lead ++ render units) =
      some (if units.any fun unit => (rewriteUnit unit.body).isSome then
        some (lead ++ render (mapBodies rewritten units)) else none) := by
  have whole : lead ++ render units = [] ++ lead ++ render units ++ [] := by simp
  obtain ⟨state, run, ⟨inside, written⟩, changed⟩ := (progress_start.pass lead).loop whole
  rw [List.nil_append] at run inside written
  have rest : getRange (lead ++ render units) state.copied (lead ++ render units).length =
      some ((lead ++ render units).drop state.copied) := by
    rw [getRange_of_le inside le_rfl, List.take_of_length_le (by simp)]
  rw [withoutReordering, nalUnits_eq plain sound]
  simp only [Option.bind_eq_bind, Option.bind_some, run, changed, Bool.false_or]
  cases units.any fun unit => (rewriteUnit unit.body).isSome
  · rfl
  · simp only [rest, Option.bind_some, ← written]
    simp

end Lumepeer.Media.H264Sps
