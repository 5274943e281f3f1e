import Mathlib.Algebra.Group.Nat.Defs
import SubmissionGate.Archive.Inflate.Block

/-!
# Readers of compressed data

What the readers of bits, code words and block headers have in common: they never go back, and an
answer that was found in a part of the data stands when more of it is there. Only starving can turn
into something else. Every reader is put together from shorter ones, and so is the proof about it.
-/

namespace SubmissionGate.Archive.Inflate

/-- The same data with at least as much of it fetched. -/
structure Source.Continues (longer shorter : Source) : Prop where
  bytes : longer.bytes = shorter.bytes
  stop : shorter.stop ≤ longer.stop

namespace Read

variable {α β : Type}

theorem next_eq_got {read : Read α} {use : α → Nat → Read β} {value : β} {position : Nat}
    (h : read.next use = .got value position) :
    ∃ first middle, read = .got first middle ∧ use first middle = .got value position := by
  cases read with
  | got first middle => exact ⟨first, middle, rfl, h⟩
  | starved => cases h
  | corrupt => cases h

end Read

/-- A reader that begins at a position. -/
structure Steady {α : Type} (position : Nat) (reader : Source → Read α) : Prop where
  forward : ∀ {source : Source} {value : α} {after : Nat},
    reader source = .got value after → position ≤ after
  keeps : ∀ {shorter longer : Source}, longer.Continues shorter → reader shorter ≠ .starved →
    reader longer = reader shorter

namespace Steady

variable {α β : Type} {position after : Nat}

theorem got (value : α) (h : position ≤ after) : Steady position fun _ => .got value after where
  forward := fun hGot => by
    cases hGot
    exact h
  keeps := fun _ _ => rfl

theorem corrupt (position : Nat) : Steady position fun _ => (.corrupt : Read α) where
  forward := fun hGot => by cases hGot
  keeps := fun _ _ => rfl

theorem next {reader : Source → Read α} {use : Source → α → Nat → Read β}
    (h : Steady position reader)
    (hUse : ∀ value middle, Steady middle fun source => use source value middle) :
    Steady position fun source => (reader source).next (use source) where
  forward := fun hGot => by
    obtain ⟨value, middle, hFirst, hRest⟩ := Read.next_eq_got hGot
    exact Nat.le_trans (h.forward hFirst) ((hUse value middle).forward hRest)
  keeps := fun {shorter longer} hMore hFed => by
    have hFirst : reader shorter ≠ .starved := fun hStarved => hFed (by rw [hStarved]; rfl)
    rw [h.keeps hMore hFirst]
    cases hRead : reader shorter with
    | got value middle =>
      rw [hRead] at hFed
      exact (hUse value middle).keeps hMore hFed
    | starved => exact absurd hRead hFirst
    | corrupt => rfl

end Steady

/-! ## Bits -/

def Source.bit (source : Source) (position : Nat) : Read Nat :=
  match source.bit? position with
  | none => .starved
  | some bit => .got bit (position + 1)

theorem bit?_continues {shorter longer : Source} (h : longer.Continues shorter) {position : Nat}
    (hBit : shorter.bit? position ≠ none) : longer.bit? position = shorter.bit? position := by
  unfold Source.bit? at hBit ⊢
  have hStop := h.stop
  split at hBit
  · next hFetched => rw [if_pos hFetched, if_pos (by omega), h.bytes]
  · exact absurd rfl hBit

theorem bit_steady (position : Nat) : Steady position fun source => source.bit position where
  forward := fun {source value after} hGot => by
    simp only [Source.bit] at hGot
    split at hGot
    · cases hGot
    · cases hGot
      omega
  keeps := fun {shorter longer} hMore hFed => by
    simp only [Source.bit] at hFed ⊢
    rw [bit?_continues hMore fun hNone => hFed (by rw [hNone])]

theorem bit_got {source : Source} {position bit after : Nat}
    (h : source.bit position = .got bit after) :
    bit < 2 ∧ position < 8 * source.stop ∧ after = position + 1 := by
  unfold Source.bit Source.bit? at h
  split at h
  · cases h
  · next hBit =>
    split at hBit
    · cases hBit
      cases h
      exact ⟨Nat.mod_lt _ (by omega), by omega, rfl⟩
    · cases hBit

theorem bits_succ (source : Source) (position width : Nat) :
    source.bits position (width + 1) = (source.bit position).next fun low position =>
      (source.bits position width).next fun high position => .got (low + 2 * high) position := by
  rw [Source.bits, Source.bit]
  cases source.bit? position with
  | none => rfl
  | some low =>
    simp only [Read.next]
    cases source.bits (position + 1) width <;> rfl

theorem bits_steady (position width : Nat) :
    Steady position fun source => source.bits position width := by
  induction width generalizing position with
  | zero => exact .got 0 (Nat.le_refl _)
  | succ width ih =>
    simp only [bits_succ]
    exact (bit_steady position).next fun _ middle =>
      (ih middle).next fun _ _ => .got _ (Nat.le_refl _)

theorem bits_lt {source : Source} {position width value after : Nat}
    (h : source.bits position width = .got value after) : value < 2 ^ width := by
  induction width generalizing position value after with
  | zero =>
    cases h
    exact Nat.one_pos
  | succ width ih =>
    rw [bits_succ] at h
    obtain ⟨low, middle, hLow, h⟩ := Read.next_eq_got h
    obtain ⟨high, last, hHigh, h⟩ := Read.next_eq_got h
    cases h
    have hRest := ih hHigh
    have hFirst := (bit_got hLow).1
    rw [Nat.pow_succ]
    omega

theorem bits_ahead {source : Source} {position width value after : Nat}
    (h : source.bits position (width + 1) = .got value after) :
    position < 8 * source.stop ∧ position < after := by
  rw [bits_succ] at h
  obtain ⟨low, middle, hLow, h⟩ := Read.next_eq_got h
  obtain ⟨high, last, hHigh, h⟩ := Read.next_eq_got h
  cases h
  obtain ⟨-, hFetched, hMiddle⟩ := bit_got hLow
  have hForward := (bits_steady middle width).forward hHigh
  exact ⟨hFetched, by omega⟩

/-! ## Code words -/

theorem lookup_cons (code : PrefixCode) (source : Source) (position word first index count : Nat)
    (counts : List Nat) :
    code.lookup source position word first index (count :: counts) =
      (source.bit position).next fun bit position =>
        if word + bit < first + count then
          .got code.symbols[index + (word + bit - first)]? position
        else
          code.lookup source position (2 * (word + bit)) (2 * (first + count)) (index + count)
            counts := by
  rw [PrefixCode.lookup, Source.bit]
  cases source.bit? position <;> rfl

theorem lookup_steady (code : PrefixCode) (position word first index : Nat) (counts : List Nat) :
    Steady position fun source => code.lookup source position word first index counts := by
  induction counts generalizing position word first index with
  | nil => exact .got none (Nat.le_refl _)
  | cons count counts ih =>
    simp only [lookup_cons]
    refine (bit_steady position).next fun bit middle => ?_
    split
    · exact .got _ (Nat.le_refl _)
    · exact ih _ _ _ _

theorem code_steady (code : PrefixCode) (position : Nat) :
    Steady position fun source => code.read source position :=
  lookup_steady code position 0 0 0 code.counts

theorem code_ahead {code : PrefixCode} {source : Source} {position symbol after : Nat}
    (h : code.read source position = .got (some symbol) after) :
    position < 8 * source.stop ∧ position < after := by
  unfold PrefixCode.read at h
  cases hCounts : code.counts with
  | nil =>
    rw [hCounts, PrefixCode.lookup] at h
    cases h
  | cons count counts =>
    rw [hCounts, lookup_cons] at h
    obtain ⟨bit, middle, hBit, h⟩ := Read.next_eq_got h
    obtain ⟨-, hFetched, hMiddle⟩ := bit_got hBit
    refine ⟨hFetched, ?_⟩
    split at h
    · simp only [Read.got.injEq] at h
      omega
    · have hForward := (lookup_steady code _ _ _ _ _).forward h
      omega

/-! ## Symbols -/

theorem extended_steady (symbols : Array (Nat × Nat)) (symbol : Option Nat) (position : Nat) :
    Steady position fun source => extended symbols source symbol position := by
  unfold extended
  cases symbol.bind fun symbol => symbols[symbol]? with
  | none => exact .corrupt position
  | some range =>
    exact (bits_steady position range.2).next fun _ _ => .got _ (Nat.le_refl _)

def Codes.follow (codes : Codes) (source : Source) (word : Option Nat) (position : Nat) :
    Read Symbol :=
  match word with
  | none => .corrupt
  | some symbol =>
    if symbol < 256 then .got (.literal symbol.toUInt8) position
    else if symbol = 256 then .got .endOfBlock position
    else
      (extended lengthSymbols source (some (symbol - 257)) position).next fun length position =>
        (codes.distances.read source position).next fun symbol position =>
          (extended distanceSymbols source symbol position).next fun distance position =>
            .got (.copy length distance) position

theorem symbol_eq (codes : Codes) (source : Source) (position : Nat) :
    codes.read source position =
      (codes.literals.read source position).next (codes.follow source) := rfl

theorem follow_steady (codes : Codes) (word : Option Nat) (position : Nat) :
    Steady position fun source => codes.follow source word position := by
  unfold Codes.follow
  cases word with
  | none => exact .corrupt position
  | some symbol =>
    simp only
    split
    · exact .got _ (Nat.le_refl _)
    · split
      · exact .got _ (Nat.le_refl _)
      · exact (extended_steady _ _ position).next fun _ middle =>
          (code_steady codes.distances middle).next fun _ middle =>
            (extended_steady _ _ middle).next fun _ _ => .got _ (Nat.le_refl _)

theorem symbol_steady (codes : Codes) (position : Nat) :
    Steady position fun source => codes.read source position :=
  (code_steady codes.literals position).next fun word middle => follow_steady codes word middle

theorem symbol_ahead {codes : Codes} {source : Source} {position after : Nat} {symbol : Symbol}
    (h : codes.read source position = .got symbol after) :
    position < 8 * source.stop ∧ position < after := by
  rw [symbol_eq] at h
  obtain ⟨word, middle, hWord, hFollow⟩ := Read.next_eq_got h
  cases word with
  | none => cases hFollow
  | some word =>
    obtain ⟨hFetched, hMiddle⟩ := code_ahead hWord
    exact ⟨hFetched, Nat.lt_of_lt_of_le hMiddle ((follow_steady codes _ _).forward hFollow)⟩

theorem extended_length_le {source : Source} {symbol : Option Nat} {position length after : Nat}
    (h : extended lengthSymbols source symbol position = .got length after) : length ≤ 258 := by
  unfold extended at h
  split at h
  · cases h
  · next base width hRange =>
    obtain ⟨symbol, -, hEntry⟩ := Option.bind_eq_some_iff.mp hRange
    have hTable : ∀ range ∈ lengthSymbols, range.1 + 2 ^ range.2 ≤ 259 := by decide
    have hBound := hTable _ (Array.mem_of_getElem? hEntry)
    obtain ⟨extra, middle, hExtra, h⟩ := Read.next_eq_got h
    cases h
    have hLess := bits_lt hExtra
    simp only at hBound
    omega

theorem symbol_copy_le {codes : Codes} {source : Source} {position length distance after : Nat}
    (h : codes.read source position = .got (.copy length distance) after) : length ≤ 258 := by
  rw [symbol_eq] at h
  obtain ⟨word, middle, -, h⟩ := Read.next_eq_got h
  unfold Codes.follow at h
  split at h
  · cases h
  · split at h
    · cases h
    · split at h
      · cases h
      · obtain ⟨other, middle, hLength, h⟩ := Read.next_eq_got h
        obtain ⟨_, middle, -, h⟩ := Read.next_eq_got h
        obtain ⟨_, middle, -, h⟩ := Read.next_eq_got h
        cases h
        exact extended_length_le hLength

/-! ## Block headers -/

theorem readLengthCode_steady (lengths : Array Nat) (position : Nat) (symbols : List Nat) :
    Steady position fun source => readLengthCode source lengths position symbols := by
  induction symbols generalizing lengths position with
  | nil => exact .got lengths (Nat.le_refl _)
  | cons symbol symbols ih => exact (bits_steady position 3).next fun _ middle => ih _ middle

theorem appendRun_steady (total : Nat) (lengths : Array Nat) (length count position : Nat) :
    Steady position fun _ => appendRun total lengths length count position := by
  unfold appendRun
  split
  · exact .corrupt position
  · exact .got _ (Nat.le_refl _)

theorem readLengthItem_steady (code : PrefixCode) (total : Nat) (lengths : Array Nat)
    (position : Nat) :
    Steady position fun source => readLengthItem code source total lengths position := by
  unfold readLengthItem
  refine (code_steady code position).next fun symbol middle => ?_
  split
  · refine (bits_steady middle 2).next fun _ middle => ?_
    cases lengths.back? with
    | none => exact .corrupt middle
    | some length => exact appendRun_steady total lengths length _ middle
  · exact (bits_steady middle 3).next fun _ middle => appendRun_steady total lengths 0 _ middle
  · exact (bits_steady middle 7).next fun _ middle => appendRun_steady total lengths 0 _ middle
  · exact .got _ (Nat.le_refl _)

theorem readLengths_steady (code : PrefixCode) (total : Nat) (lengths : Array Nat)
    (position items : Nat) :
    Steady position fun source => readLengths code source total lengths position items := by
  induction items generalizing lengths position with
  | zero => exact .got lengths (Nat.le_refl _)
  | succ items ih =>
    unfold readLengths
    split
    · exact .got lengths (Nat.le_refl _)
    · exact (readLengthItem_steady code total lengths position).next fun lengths middle =>
        ih lengths middle

theorem readCodes_steady (position : Nat) :
    Steady position fun source => readCodes source position := by
  unfold readCodes
  refine (bits_steady position 14).next fun counts middle => ?_
  simp only
  split
  · exact .corrupt middle
  · refine (readLengthCode_steady _ middle _).next fun lengths middle => ?_
    split
    · exact .corrupt middle
    · refine (readLengths_steady _ _ _ middle _).next fun lengths middle => ?_
      split
      · exact .corrupt middle
      · exact .got _ (Nat.le_refl _)

theorem le_alignedUp (position : Nat) : position ≤ alignedUp position := by
  unfold alignedUp
  omega

theorem readStoredLength_steady (position : Nat) :
    Steady position fun source => readStoredLength source position := by
  have hAligned : Steady (alignedUp position) fun source => readStoredLength source position := by
    unfold readStoredLength
    refine (bits_steady (alignedUp position) 32).next fun lengths middle => ?_
    simp only
    split
    · exact .got _ (Nat.le_refl _)
    · exact .corrupt middle
  exact ⟨fun hGot => Nat.le_trans (le_alignedUp position) (hAligned.forward hGot), hAligned.keeps⟩

/-- What follows the three bits that every block begins with. -/
def blockKind (source : Source) (bits position : Nat) : Read BlockHeader :=
  match bits / 2 with
  | 0 => (readStoredLength source position).next fun length position =>
      .got ⟨bits % 2 == 1, .stored length⟩ position
  | 1 => .got ⟨bits % 2 == 1, .coded fixedCodes⟩ position
  | 2 => (readCodes source position).next fun codes position =>
      .got ⟨bits % 2 == 1, .coded codes⟩ position
  | _ => .corrupt

theorem readHeader_eq (source : Source) (position : Nat) :
    readHeader source position = (source.bits position 3).next (blockKind source) := rfl

theorem blockKind_steady (bits position : Nat) :
    Steady position fun source => blockKind source bits position := by
  unfold blockKind
  split
  · exact (readStoredLength_steady position).next fun _ _ => .got _ (Nat.le_refl _)
  · exact .got _ (Nat.le_refl _)
  · exact (readCodes_steady position).next fun _ _ => .got _ (Nat.le_refl _)
  · exact .corrupt position

theorem readHeader_steady (position : Nat) :
    Steady position fun source => readHeader source position :=
  (bits_steady position 3).next fun bits middle => blockKind_steady bits middle

theorem readHeader_ahead {source : Source} {position after : Nat} {header : BlockHeader}
    (h : readHeader source position = .got header after) :
    position < 8 * source.stop ∧ position < after := by
  rw [readHeader_eq] at h
  obtain ⟨bits, middle, hBits, hKind⟩ := Read.next_eq_got h
  obtain ⟨hFetched, hMiddle⟩ := bits_ahead hBits
  exact ⟨hFetched, Nat.lt_of_lt_of_le hMiddle ((blockKind_steady bits middle).forward hKind)⟩

end SubmissionGate.Archive.Inflate
