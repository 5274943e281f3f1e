import Mathlib.Logic.Relation
import SubmissionGate.Archive.Inflate
import SubmissionGate.Proofs.Archive.Readers

/-!
# Decompression step by step

A decompressor stops where its room or the fetched data ends, often in the middle of a copy. Taken
apart into steps that write at most one byte it stops between two steps, and its state says all
there is about how it goes on: what is decoded does not depend on where the pauses were. A step that
is possible with a part of the data is the same step with more of it, so the steps of all pieces
together are steps over the whole.
-/

namespace SubmissionGate.Archive.Inflater

open Inflate

inductive Step (source : Source) : Inflater → Inflater → Prop
  | close {position : Nat} {output : ByteArray} :
    Step source ⟨position, true, .header, output⟩ ⟨alignedUp position, true, .finished, output⟩
  | enterStored {position after length : Nat} {last : Bool} {output : ByteArray}
    (hHeader : readHeader source position = .got ⟨last, .stored length⟩ after) :
    Step source ⟨position, false, .header, output⟩ ⟨after, last, .stored length, output⟩
  | enterCoded {position after : Nat} {last : Bool} {codes : Codes} {output : ByteArray}
    (hHeader : readHeader source position = .got ⟨last, .coded codes⟩ after) :
    Step source ⟨position, false, .header, output⟩ ⟨after, last, .coded codes, output⟩
  | storedByte {position length : Nat} {last : Bool} {output : ByteArray}
    (hFetched : position / 8 < source.stop) :
    Step source ⟨position, last, .stored (length + 1), output⟩
      ⟨position + 8, last, .stored length,
        output ++ source.bytes.extract (position / 8) (position / 8 + 1)⟩
  | endStored {position : Nat} {last : Bool} {output : ByteArray} :
    Step source ⟨position, last, .stored 0, output⟩ ⟨position, last, .header, output⟩
  | readLiteral {position after : Nat} {last : Bool} {codes : Codes} {byte : UInt8}
    {output : ByteArray} (hSymbol : codes.read source position = .got (.literal byte) after) :
    Step source ⟨position, last, .coded codes, output⟩ ⟨after, last, .literal codes byte, output⟩
  | readCopy {position after length distance : Nat} {last : Bool} {codes : Codes}
    {output : ByteArray}
    (hSymbol : codes.read source position = .got (.copy length distance) after) :
    Step source ⟨position, last, .coded codes, output⟩
      ⟨after, last, .copy codes length distance, output⟩
  | endCoded {position after : Nat} {last : Bool} {codes : Codes} {output : ByteArray}
    (hSymbol : codes.read source position = .got .endOfBlock after) :
    Step source ⟨position, last, .coded codes, output⟩ ⟨after, last, .header, output⟩
  | writeLiteral {position : Nat} {last : Bool} {codes : Codes} {byte : UInt8}
    {output : ByteArray} :
    Step source ⟨position, last, .literal codes byte, output⟩
      ⟨position, last, .coded codes, output.push byte⟩
  | copyByte {position length distance : Nat} {last : Bool} {codes : Codes} {output : ByteArray}
    (hWritten : distance ≤ output.size) :
    Step source ⟨position, last, .copy codes (length + 1) distance, output⟩
      ⟨position, last, .copy codes length distance,
        output.push (byteAt output (output.size - distance)).toUInt8⟩
  | endCopy {position distance : Nat} {last : Bool} {codes : Codes} {output : ByteArray}
    (hWritten : distance ≤ output.size) :
    Step source ⟨position, last, .copy codes 0 distance, output⟩
      ⟨position, last, .coded codes, output⟩

def Stuck (source : Source) (inflater : Inflater) : Prop := ∀ after, ¬Step source inflater after

abbrev Steps (source : Source) : Inflater → Inflater → Prop :=
  Relation.ReflTransGen (Step source)

variable {source : Source} {inflater middle after : Inflater}

theorem Step.unique {other : Inflater} (h : Step source inflater after)
    (hOther : Step source inflater other) : after = other := by
  cases h <;> cases hOther <;> simp_all

theorem Steps.unique {other : Inflater} (h : Steps source inflater after)
    (hOther : Steps source inflater other) (hStuck : Stuck source after)
    (hOtherStuck : Stuck source other) : after = other := by
  induction h using Relation.ReflTransGen.head_induction_on with
  | refl =>
    rcases hOther.cases_head with hSame | ⟨next, hStep, -⟩
    · exact hSame
    · exact absurd hStep (hStuck next)
  | head hStep _ ih =>
    rcases hOther.cases_head with hSame | ⟨next, hNext, hRest⟩
    · rw [← hSame] at hOtherStuck
      exact absurd hStep (hOtherStuck _)
    · rw [← Step.unique hStep hNext] at hRest
      exact ih hRest

theorem Steps.of_stuck (h : Steps source inflater after) (hStuck : Stuck source inflater) :
    after = inflater := by
  rcases h.cases_head with hSame | ⟨next, hStep, -⟩
  · exact hSame.symm
  · exact absurd hStep (hStuck next)

theorem stuck_finished (h : inflater.phase = .finished) : Stuck source inflater := by
  intro after hStep
  cases hStep <;> cases h

/-! ## More data -/

theorem Step.continues {longer : Source} (hMore : longer.Continues source)
    (h : Step source inflater after) : Step longer inflater after := by
  cases h with
  | close => exact .close
  | enterStored hHeader =>
    refine .enterStored (((readHeader_steady _).keeps hMore ?_).trans hHeader)
    simp [hHeader]
  | enterCoded hHeader =>
    refine .enterCoded (((readHeader_steady _).keeps hMore ?_).trans hHeader)
    simp [hHeader]
  | storedByte hFetched =>
    rw [← hMore.bytes]
    exact .storedByte (Nat.lt_of_lt_of_le hFetched hMore.stop)
  | endStored => exact .endStored
  | readLiteral hSymbol =>
    refine .readLiteral (((symbol_steady _ _).keeps hMore ?_).trans hSymbol)
    simp [hSymbol]
  | readCopy hSymbol =>
    refine .readCopy (((symbol_steady _ _).keeps hMore ?_).trans hSymbol)
    simp [hSymbol]
  | endCoded hSymbol =>
    refine .endCoded (((symbol_steady _ _).keeps hMore ?_).trans hSymbol)
    simp [hSymbol]
  | writeLiteral => exact .writeLiteral
  | copyByte hWritten => exact .copyByte hWritten
  | endCopy hWritten => exact .endCopy hWritten

theorem Steps.continues {longer : Source} (hMore : longer.Continues source)
    (h : Steps source inflater after) : Steps longer inflater after :=
  Relation.ReflTransGen.mono (fun _ _ hStep => hStep.continues hMore) _ _ h

/-! ## What is written -/

theorem push_eq_append (output : ByteArray) (byte : UInt8) :
    output.push byte = output ++ [byte].toByteArray :=
  ByteArray.append_toByteArray_singleton.symm

theorem Step.output (h : Step source inflater after) :
    ∃ written, after.output = inflater.output ++ written := by
  cases h with
  | storedByte => exact ⟨_, rfl⟩
  | writeLiteral => exact ⟨_, push_eq_append _ _⟩
  | copyByte => exact ⟨_, push_eq_append _ _⟩
  | _ => exact ⟨ByteArray.empty, ByteArray.append_empty.symm⟩

theorem Steps.output (h : Steps source inflater after) :
    ∃ written, after.output = inflater.output ++ written := by
  induction h with
  | refl => exact ⟨ByteArray.empty, ByteArray.append_empty.symm⟩
  | tail _ hStep ih =>
    obtain ⟨first, hFirst⟩ := ih
    obtain ⟨second, hSecond⟩ := hStep.output
    exact ⟨first ++ second, by rw [hSecond, hFirst, ByteArray.append_assoc]⟩

/-- How many bytes a phase may still write before anything else is read. -/
def owed : Phase → Nat
  | .literal _ _ => 1
  | .copy _ length _ => length
  | _ => 0

/-- At most 258 bytes for each bit that has not been read. -/
def promise (source : Source) (inflater : Inflater) : Nat :=
  258 * source.ahead inflater.position + owed inflater.phase

theorem Step.promise_le (h : Step source inflater after) :
    after.output.size + promise source after ≤
      inflater.output.size + promise source inflater := by
  cases h with
  | @close position output =>
    have hAligned := le_alignedUp position
    simp only [promise, owed, Source.ahead]
    omega
  | enterStored hHeader =>
    have hAhead := readHeader_ahead hHeader
    simp only [promise, owed, Source.ahead]
    omega
  | enterCoded hHeader =>
    have hAhead := readHeader_ahead hHeader
    simp only [promise, owed, Source.ahead]
    omega
  | storedByte hFetched =>
    simp only [promise, owed, Source.ahead, ByteArray.size_append, ByteArray.size_extract]
    omega
  | endStored => exact Nat.le_refl _
  | readLiteral hSymbol =>
    have hAhead := symbol_ahead hSymbol
    simp only [promise, owed, Source.ahead]
    omega
  | readCopy hSymbol =>
    have hAhead := symbol_ahead hSymbol
    have hLength := symbol_copy_le hSymbol
    simp only [promise, owed, Source.ahead]
    omega
  | endCoded hSymbol =>
    have hAhead := symbol_ahead hSymbol
    simp only [promise, owed, Source.ahead]
    omega
  | writeLiteral =>
    simp only [promise, owed, ByteArray.size_push]
    omega
  | copyByte =>
    simp only [promise, owed, ByteArray.size_push]
    omega
  | endCopy => exact Nat.le_refl _

theorem Steps.promise_le (h : Steps source inflater after) :
    after.output.size + promise source after ≤
      inflater.output.size + promise source inflater := by
  induction h with
  | refl => exact Nat.le_refl _
  | tail _ hStep ih => exact Nat.le_trans hStep.promise_le ih

theorem Step.owed_le (h : Step source inflater after) (hOwed : owed inflater.phase ≤ 258) :
    owed after.phase ≤ 258 := by
  cases h with
  | readCopy hSymbol => exact symbol_copy_le hSymbol
  | copyByte => exact Nat.le_of_succ_le hOwed
  | _ => simp [owed]

theorem Steps.owed_le (h : Steps source inflater after) (hOwed : owed inflater.phase ≤ 258) :
    owed after.phase ≤ 258 := by
  induction h with
  | refl => exact hOwed
  | tail _ hStep ih => exact hStep.owed_le ih

/-! ## Runs -/

/-- How a run ends: its room is used up, or there is no step to take. -/
structure Paused (source : Source) (inflater : Inflater) (room : Nat) (run : Inflater × Pause) :
    Prop where
  steps : Steps source inflater run.1
  full : run.2 = .full → run.1.output.size = inflater.output.size + room
  stuck : run.2 ≠ .full → Stuck source run.1
  finished : run.2 = .finished → run.1.phase = .finished

theorem Paused.of_steps {room spent : Nat} {run : Inflater × Pause}
    (hSteps : Steps source inflater middle)
    (hSize : middle.output.size = inflater.output.size + spent) (hRoom : spent ≤ room)
    (h : Paused source middle (room - spent) run) : Paused source inflater room run where
  steps := hSteps.trans h.steps
  full := fun hFull => by
    rw [h.full hFull, hSize]
    omega
  stuck := h.stuck
  finished := h.finished

theorem Paused.of_step {room : Nat} {run : Inflater × Pause} (hStep : Step source inflater middle)
    (hOutput : middle.output = inflater.output) (h : Paused source middle room run) :
    Paused source inflater room run :=
  .of_steps (.single hStep) (by rw [hOutput, Nat.add_zero]) (Nat.zero_le _) h

theorem Paused.halt {room : Nat} {pause : Pause} (hStuck : Stuck source inflater)
    (hFull : pause ≠ .full) (hFinished : pause = .finished → inflater.phase = .finished) :
    Paused source inflater room (inflater, pause) :=
  ⟨.refl, fun h => absurd h hFull, fun _ => hStuck, hFinished⟩

theorem Paused.filled {room : Nat} (hSteps : Steps source inflater after)
    (hSize : after.output.size = inflater.output.size + room) :
    Paused source inflater room (after, .full) :=
  ⟨hSteps, fun _ => hSize, fun h => absurd rfl h, fun h => by cases h⟩

theorem steps_stored (source : Source) {position length count : Nat} {last : Bool}
    {output : ByteArray} (hCount : count ≤ length) (hFetched : position / 8 + count ≤ source.stop) :
    Steps source ⟨position, last, .stored length, output⟩
      ⟨position + 8 * count, last, .stored (length - count),
        output ++ source.bytes.extract (position / 8) (position / 8 + count)⟩ := by
  induction count with
  | zero =>
    simp only [Nat.mul_zero, Nat.add_zero, Nat.sub_zero, ByteArray.extract_same,
      ByteArray.append_empty]
    exact .refl
  | succ count ih =>
    refine (ih (by omega) (by omega)).tail ?_
    obtain ⟨rest, hRest⟩ : ∃ rest, length - count = rest + 1 := ⟨length - count - 1, by omega⟩
    have hPosition : position + 8 * (count + 1) = position + 8 * count + 8 := by omega
    have hOffset : (position + 8 * count) / 8 = position / 8 + count := by omega
    have hBytes : source.bytes.extract (position / 8) (position / 8 + (count + 1)) =
        source.bytes.extract (position / 8) (position / 8 + count) ++
          source.bytes.extract (position / 8 + count) (position / 8 + count + 1) :=
      ByteArray.extract_eq_extract_append_extract _ (by omega) (by omega)
    rw [hRest, hPosition, hBytes, ← ByteArray.append_assoc, ← hOffset,
      show length - (count + 1) = rest by omega]
    exact .storedByte (by omega)

theorem writeCopy_size (output : ByteArray) (distance count : Nat) :
    (writeCopy output distance count).size = output.size + count := by
  induction count generalizing output with
  | zero => rfl
  | succ count ih =>
    rw [writeCopy, ih, ByteArray.size_push]
    omega

theorem steps_copy (source : Source) {position length distance count : Nat} {last : Bool}
    {codes : Codes} {output : ByteArray} (hCount : count ≤ length)
    (hWritten : distance ≤ output.size) :
    Steps source ⟨position, last, .copy codes length distance, output⟩
      ⟨position, last, .copy codes (length - count) distance,
        writeCopy output distance count⟩ := by
  induction count generalizing length output with
  | zero => exact .refl
  | succ count ih =>
    obtain ⟨rest, rfl⟩ : ∃ rest, length = rest + 1 := ⟨length - 1, by omega⟩
    have hStill : distance ≤
        (output.push (byteAt output (output.size - distance)).toUInt8).size := by
      rw [ByteArray.size_push]
      omega
    rw [writeCopy, Nat.add_sub_add_right]
    exact .head (.copyByte hWritten) (ih (by omega) hStill)

/-- The phases by how many steps they may take without a bit read or a byte written. -/
def rank : Phase → Nat
  | .finished => 0
  | .header | .coded _ => 1
  | _ => 2

/-- More steps than this are never taken. -/
def effort (source : Source) (inflater : Inflater) (room : Nat) : Nat :=
  2 * source.ahead inflater.position + 2 * room + rank inflater.phase

def Suffices (source : Source) (steps : Nat) : Prop :=
  ∀ {inflater : Inflater} {room : Nat}, effort source inflater room < steps →
    Paused source inflater room (run source inflater room steps)

section

variable {steps position room : Nat} {last : Bool} {output : ByteArray}

theorem Suffices.header (ih : Suffices source steps)
    (h : effort source ⟨position, last, .header, output⟩ room < steps + 1) :
    Paused source ⟨position, last, .header, output⟩ room
      (run source ⟨position, last, .header, output⟩ room (steps + 1)) := by
  rw [run]
  cases last with
  | true =>
    have hAligned := le_alignedUp position
    refine .of_step .close rfl (ih ?_)
    simp only [effort, rank, Source.ahead] at h ⊢
    omega
  | false =>
    simp only [Bool.false_eq_true, if_false]
    cases hHeader : readHeader source position with
    | starved =>
      refine .halt (fun after hStep => ?_) (by simp) (by simp)
      cases hStep <;> simp_all
    | corrupt =>
      refine .halt (fun after hStep => ?_) (by simp) (by simp)
      cases hStep <;> simp_all
    | got header after =>
      have hAhead := readHeader_ahead hHeader
      obtain ⟨last, kind⟩ := header
      cases kind with
      | stored length =>
        refine .of_step (.enterStored hHeader) rfl (ih ?_)
        simp only [effort, rank, Source.ahead] at h ⊢
        omega
      | coded codes =>
        refine .of_step (.enterCoded hHeader) rfl (ih ?_)
        simp only [effort, rank, Source.ahead] at h ⊢
        omega

theorem Suffices.stored (ih : Suffices source steps)
    (hFetched : source.stop ≤ source.bytes.size) {length : Nat}
    (h : effort source ⟨position, last, .stored length, output⟩ room < steps + 1) :
    Paused source ⟨position, last, .stored length, output⟩ room
      (run source ⟨position, last, .stored length, output⟩ room (steps + 1)) := by
  rw [run]
  split
  · next hNone =>
    subst hNone
    refine .of_step .endStored rfl (ih ?_)
    simp only [effort, rank] at h ⊢
    omega
  · next hSome =>
    split
    · next hRoom =>
      rw [hRoom]
      exact .filled .refl rfl
    · next hRoom =>
      simp only
      split
      · next hNone =>
        refine .halt (fun after hStep => ?_) (by simp) (by simp)
        cases hStep with
        | storedByte hByte => omega
        | endStored => exact hSome rfl
      · next hCount =>
        refine .of_steps (steps_stored source (by omega) (by omega)) ?_ (by omega) (ih ?_)
        · simp only [ByteArray.size_append, ByteArray.size_extract]
          omega
        · simp only [effort, rank, Source.ahead] at h ⊢
          omega

theorem Suffices.coded (ih : Suffices source steps) {codes : Codes}
    (h : effort source ⟨position, last, .coded codes, output⟩ room < steps + 1) :
    Paused source ⟨position, last, .coded codes, output⟩ room
      (run source ⟨position, last, .coded codes, output⟩ room (steps + 1)) := by
  rw [run]
  cases hSymbol : codes.read source position with
  | starved =>
    refine .halt (fun after hStep => ?_) (by simp) (by simp)
    cases hStep <;> simp_all
  | corrupt =>
    refine .halt (fun after hStep => ?_) (by simp) (by simp)
    cases hStep <;> simp_all
  | got symbol after =>
    have hAhead := symbol_ahead hSymbol
    cases symbol with
    | literal byte =>
      refine .of_step (.readLiteral hSymbol) rfl (ih ?_)
      simp only [effort, rank, Source.ahead] at h ⊢
      omega
    | copy length distance =>
      refine .of_step (.readCopy hSymbol) rfl (ih ?_)
      simp only [effort, rank, Source.ahead] at h ⊢
      omega
    | endOfBlock =>
      refine .of_step (.endCoded hSymbol) rfl (ih ?_)
      simp only [effort, rank, Source.ahead] at h ⊢
      omega

theorem Suffices.literal (ih : Suffices source steps) {codes : Codes} {byte : UInt8}
    (h : effort source ⟨position, last, .literal codes byte, output⟩ room < steps + 1) :
    Paused source ⟨position, last, .literal codes byte, output⟩ room
      (run source ⟨position, last, .literal codes byte, output⟩ room (steps + 1)) := by
  rw [run]
  split
  · next hRoom =>
    rw [hRoom]
    exact .filled .refl rfl
  · next hRoom =>
    refine .of_steps (.single .writeLiteral) ByteArray.size_push (by omega) (ih ?_)
    simp only [effort, rank] at h ⊢
    omega

theorem Suffices.copy (ih : Suffices source steps) {codes : Codes} {length distance : Nat}
    (h : effort source ⟨position, last, .copy codes length distance, output⟩ room < steps + 1) :
    Paused source ⟨position, last, .copy codes length distance, output⟩ room
      (run source ⟨position, last, .copy codes length distance, output⟩ room (steps + 1)) := by
  rw [run]
  split
  · next hRoom =>
    rw [hRoom]
    exact .filled .refl rfl
  · next hRoom =>
    split
    · next hShort =>
      refine .halt (fun after hStep => ?_) (by simp) (by simp)
      cases hStep with
      | copyByte hWritten => omega
      | endCopy hWritten => omega
    · next hWritten =>
      simp only
      have hCopied : Steps source ⟨position, last, .copy codes length distance, output⟩
          ⟨position, last, .copy codes (length - min length room) distance,
            writeCopy output distance (min length room)⟩ :=
        steps_copy source (Nat.min_le_left length room) (Nat.not_lt.mp hWritten)
      split
      · next hCut =>
        refine .filled hCopied ?_
        simp only [writeCopy_size]
        omega
      · next hWhole =>
        have hAll : length - min length room = 0 := by omega
        rw [hAll] at hCopied
        refine .of_steps (hCopied.tail (.endCopy ?_)) (writeCopy_size _ _ _)
          (Nat.min_le_right _ _) (ih ?_)
        · rw [writeCopy_size]
          omega
        · simp only [effort, rank] at h ⊢
          omega

end

theorem run_paused (hFetched : source.stop ≤ source.bytes.size) (steps : Nat) :
    Suffices source steps := by
  induction steps with
  | zero => exact fun h => absurd h (Nat.not_lt_zero _)
  | succ steps ih =>
    intro inflater room h
    obtain ⟨position, last, phase, output⟩ := inflater
    cases phase with
    | finished => exact .halt (stuck_finished rfl) (by simp) fun _ => rfl
    | header => exact ih.header h
    | stored length => exact ih.stored hFetched h
    | coded codes => exact ih.coded h
    | literal codes byte => exact ih.literal h
    | copy codes length distance => exact ih.copy h

theorem rank_le (phase : Phase) : rank phase ≤ 2 := by
  cases phase <;> simp [rank]

theorem advance_paused (hFetched : source.stop ≤ source.bytes.size) (inflater : Inflater)
    (room : Nat) : Paused source inflater room (inflater.advance source room) := by
  have hRank := rank_le inflater.phase
  exact run_paused hFetched _ (by simp only [effort]; omega)

/-- With room for all that can still be written only the data can end a run. -/
theorem advance_stuck (hFetched : source.stop ≤ source.bytes.size) {inflater : Inflater}
    {room : Nat} (hRoom : promise source inflater < room) :
    Steps source inflater (inflater.advance source room).1 ∧
      Stuck source (inflater.advance source room).1 := by
  have hPaused := advance_paused hFetched inflater room
  refine ⟨hPaused.steps, hPaused.stuck fun hFull => ?_⟩
  have hSize := hPaused.full hFull
  have hPromise := hPaused.steps.promise_le
  omega

/-- All that is decoded from an offset on, to the end of the data or up to the first flaw. -/
def expansion (source : Source) (offset : Nat) : ByteArray :=
  ((start offset).advance source (promise source (start offset) + 1)).1.output

theorem expansion_eq (hFetched : source.stop ≤ source.bytes.size) {offset : Nat}
    (hSteps : Steps source (start offset) after) (hStuck : Stuck source after) :
    expansion source offset = after.output := by
  obtain ⟨hReached, hOver⟩ :=
    advance_stuck hFetched (Nat.lt_succ_self (promise source (start offset)))
  rw [expansion, hReached.unique hSteps hOver hStuck]

/-- What was decoded at any time is the beginning of the expansion. -/
theorem expansion_begins (hFetched : source.stop ≤ source.bytes.size) {offset : Nat}
    (hSteps : Steps source (start offset) inflater) :
    ∃ rest, expansion source offset = inflater.output ++ rest := by
  obtain ⟨hReached, hOver⟩ := advance_stuck hFetched (Nat.lt_succ_self (promise source inflater))
  rw [expansion_eq hFetched (hSteps.trans hReached) hOver]
  exact hReached.output

end SubmissionGate.Archive.Inflater
