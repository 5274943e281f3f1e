import Mathlib.Data.List.TakeWhile
import SubmissionGate.Json.Document

/-!
# Integers that are too long

The reader takes characters off the front of a text only, so what it stops at stands in the text. It
gives up on an integer of more digits than the limit, and all of these digits stand there in a row.
-/

namespace SubmissionGate.Json

def HasDigits (text : List Char) (count : Nat) : Prop :=
  ∃ digits, digits <:+: text ∧ digits.length = count ∧ ∀ c ∈ digits, c.isDigit = true

/-- A reader stays in a text: it leaves an end of it, and an integer that it gives up on stands
there. -/
def Stays {α : Type} (text : List Char) : Except Fault (α × Cursor) → Prop
  | .ok (_, cursor) => cursor.chars <:+ text
  | .error (.tooManyDigits count) => Numeral.digitLimit < count ∧ HasDigits text count
  | .error _ => True

theorem Stays.mono {α : Type} {text whole : List Char} (hSuffix : text <:+ whole) :
    ∀ {result : Except Fault (α × Cursor)}, Stays text result → Stays whole result
  | .ok _, h => h.trans hSuffix
  | .error (.tooManyDigits _), ⟨hLimit, digits, hDigits, hCount, hAll⟩ =>
    ⟨hLimit, digits, hDigits.trans hSuffix.isInfix, hCount, hAll⟩
  | .error (.malformed _ _), _ => trivial
  | .error (.tooDeep _), _ => trivial

theorem Stays.of_error {α β : Type} {text : List Char} {result : Except Fault (α × Cursor)}
    {fault : Fault} (h : Stays text result) (hFault : result = .error fault) :
    Stays (α := β) text (.error fault) := by
  subst hFault
  cases fault with
  | tooManyDigits count => exact h
  | malformed problem position => trivial
  | tooDeep container => trivial

theorem Stays.of_ok {α : Type} {text : List Char} {result : Except Fault (α × Cursor)} {value : α}
    {cursor : Cursor} (h : Stays text result) (hOk : result = .ok (value, cursor)) :
    cursor.chars <:+ text := by
  subst hOk
  exact h

theorem stays_fail {α : Type} (text : List Char) (cursor : Cursor) (problem : Problem) :
    Stays text (cursor.fail problem : Except Fault (α × Cursor)) := trivial

theorem advance_suffix (cursor : Cursor) (count : Nat) :
    (cursor.advance count).chars <:+ cursor.chars := List.drop_suffix _ _

theorem skipBlanks_suffix (cursor : Cursor) : cursor.skipBlanks.chars <:+ cursor.chars :=
  advance_suffix cursor _

/-! ## Strings -/

theorem codeEscape_error {position : Nat} {digits : List Char} {fault : Fault}
    (h : codeEscape position digits = .error fault) :
    ∃ problem place, fault = .malformed problem place := by
  unfold codeEscape at h
  repeat' split at h
  all_goals first
    | cases h; exact ⟨_, _, rfl⟩
    | cases h

theorem readString_stays (start position : Nat) (chars read : List Char) :
    Stays chars (readString start position chars read) := by
  fun_induction readString start position chars read with
  | case1 => trivial
  | case2 position read rest => exact List.suffix_cons _ _
  | case3 => trivial
  | case4 position read c rest hUnit fault hFault =>
    obtain ⟨problem, place, rfl⟩ := codeEscape_error hFault
    trivial
  | case5 position read c rest hUnit unit size hEscape ih =>
    exact ih.mono ((List.drop_suffix _ _).trans ((List.suffix_cons _ _).trans
      (List.suffix_cons _ _)))
  | case6 => trivial
  | case7 position read c rest _ escaped hEscape ih =>
    exact ih.mono ((List.suffix_cons _ _).trans (List.suffix_cons _ _))
  | case8 => trivial
  | case9 position read c rest _ _ _ hPlain ih => exact ih.mono (List.suffix_cons _ _)

/-! ## Numbers -/

theorem splitSign_digits {text : List Char} (h : ∀ c ∈ text, c.isDigit = true) :
    Numeral.splitSign text = (false, text) := by
  unfold Numeral.splitSign
  split
  · exact absurd (h '-' List.mem_cons_self) (by decide)
  · exact absurd (h '+' List.mem_cons_self) (by decide)
  · rfl

/-- The digits at the head of a text, of which a leading zero is the only one. -/
def wholeSize (text : List Char) : Nat :=
  match text with
  | '0' :: _ => 1
  | _ => (text.takeWhile Char.isDigit).length

theorem take_wholeSize (text : List Char) :
    ∀ c ∈ text.take (wholeSize text), c.isDigit = true := by
  unfold wholeSize
  split
  · intro c hMem
    obtain rfl : c = '0' := by simpa using hMem
    rfl
  · intro c hMem
    rw [← List.prefix_iff_eq_take.mp (List.takeWhile_prefix _)] at hMem
    exact List.mem_takeWhile_imp hMem

theorem numberShape?_some {text : List Char} {size : Nat} {integral : Bool}
    (h : numberShape? text = some (size, integral)) :
    ∃ fraction exponent, size = (if text.head? == some '-' then 1 else 0) +
        wholeSize (text.drop (if text.head? == some '-' then 1 else 0)) + fraction + exponent ∧
      integral = (fraction == 0 && exponent == 0) := by
  unfold numberShape? at h
  rcases ite_eq_iff.mp h with ⟨-, hNone⟩ | ⟨-, hSome⟩
  · cases hNone
  · cases hSome
    exact ⟨_, _, rfl, rfl⟩

theorem integer_digits {text : List Char} {size : Nat}
    (h : numberShape? text = some (size, true)) :
    (Numeral.splitSign (text.take size)).2 <:+: text ∧
      ∀ c ∈ (Numeral.splitSign (text.take size)).2, c.isDigit = true := by
  obtain ⟨fraction, exponent, rfl, hIntegral⟩ := numberShape?_some h
  obtain ⟨rfl, rfl⟩ : fraction = 0 ∧ exponent = 0 := by simpa using hIntegral.symm
  by_cases hSign : (text.head? == some '-') = true
  · obtain ⟨rest, rfl⟩ : ∃ rest, text = '-' :: rest := by
      cases text with
      | nil => cases hSign
      | cons c rest =>
        obtain rfl : c = '-' := by simpa using hSign
        exact ⟨rest, rfl⟩
    have hTaken : (Numeral.splitSign (('-' :: rest).take (1 + wholeSize rest))).2 =
        rest.take (wholeSize rest) := by
      rw [Nat.add_comm, List.take_succ_cons, Numeral.splitSign]
    simp only [hSign, if_true, List.drop_one, List.tail_cons, Nat.add_zero, hTaken]
    exact ⟨(List.take_prefix _ _).isInfix.trans (List.suffix_cons _ _).isInfix,
      take_wholeSize rest⟩
  · simp only [hSign, Bool.false_eq_true, if_false, List.drop_zero, Nat.zero_add, Nat.add_zero]
    rw [splitSign_digits (take_wholeSize text)]
    exact ⟨(List.take_prefix _ _).isInfix, take_wholeSize text⟩

theorem readNumber_stays (cursor : Cursor) : Stays cursor.chars (readNumber cursor) := by
  unfold readNumber
  split
  · exact stays_fail _ _ _
  · next size integral hShape =>
    simp only
    split
    · next hIntegral =>
      obtain rfl : integral = true := hIntegral
      split
      · next hLong =>
        obtain ⟨hInfix, hDigits⟩ := integer_digits hShape
        exact ⟨hLong, _, hInfix, rfl, hDigits⟩
      · exact advance_suffix _ _
    · split
      · exact advance_suffix _ _
      · exact stays_fail _ _ _

theorem readPlain_stays (cursor : Cursor) : Stays cursor.chars (readPlain cursor) := by
  unfold readPlain
  split
  · exact advance_suffix _ _
  · exact readNumber_stays cursor

theorem readKey_stays (cursor : Cursor) : Stays cursor.chars (readKey cursor) := by
  unfold readKey
  split
  · next rest hChars =>
    have hString := (readString_stays cursor.position (cursor.position + 1) rest []).mono
      (List.suffix_cons '"' rest)
    rw [hChars]
    split
    · next fault hFault => exact hString.of_error hFault
    · next key behind hKey =>
      simp only
      split
      · exact (skipBlanks_suffix _).trans ((advance_suffix _ _).trans
          ((skipBlanks_suffix _).trans (hString.of_ok hKey)))
      · exact stays_fail _ _ _
  · exact stays_fail _ _ _

/-! ## Documents -/

theorem run_stays {text : List Char} (nesting : Nat) (stack : List Frame) (cursor : Cursor)
    (task : Task) (fuel : Nat) (h : cursor.chars <:+ text) :
    Stays text (run nesting stack cursor task fuel) := by
  have hString : ∀ {cursor : Cursor} {rest : List Char}, cursor.chars = '"' :: rest →
      cursor.chars <:+ text →
      Stays text (readString cursor.position (cursor.position + 1) rest []) := by
    intro cursor rest hChars hSuffix
    refine (readString_stays _ _ rest []).mono ((List.suffix_cons '"' rest).trans ?_)
    rwa [← hChars]
  have hInner : ∀ {cursor : Cursor}, cursor.chars <:+ text →
      (cursor.advance 1).skipBlanks.chars <:+ text := fun hSuffix =>
    (skipBlanks_suffix _).trans ((advance_suffix _ _).trans hSuffix)
  have hBlanks : ∀ {cursor : Cursor}, cursor.chars <:+ text → cursor.skipBlanks.chars <:+ text :=
    fun hSuffix => (skipBlanks_suffix _).trans hSuffix
  have hNext : ∀ {cursor : Cursor}, cursor.chars <:+ text → (cursor.advance 1).chars <:+ text :=
    fun hSuffix => (advance_suffix _ _).trans hSuffix
  fun_induction run nesting stack cursor task fuel with
  | case1 | case16 | case20 => exact stays_fail _ _ _
  | case4 | case7 => trivial
  | case2 _ cursor fuel rest hChars fault hFault => exact (hString hChars h).of_error hFault
  | case3 _ cursor fuel rest hChars s behind hRead ih =>
    exact ih ((hString hChars h).of_ok hRead)
  | case5 _ _ _ _ _ _ _ _ ih => exact ih (hNext (hInner h))
  | case6 _ _ _ _ _ _ _ _ ih => exact ih (hInner h)
  | case8 _ _ _ _ _ _ _ _ ih => exact ih (hNext (hInner h))
  | case9 _ _ _ _ _ _ inner _ fault hFault =>
    exact ((readKey_stays inner).mono (hInner h)).of_error hFault
  | case10 _ _ _ _ _ _ inner _ key behind hKey ih =>
    exact ih (((readKey_stays inner).mono (hInner h)).of_ok hKey)
  | case11 _ cursor _ fault hFault => exact ((readPlain_stays cursor).mono h).of_error hFault
  | case12 _ cursor _ value behind hPlain _ _ _ ih =>
    exact ih (((readPlain_stays cursor).mono h).of_ok hPlain)
  | case13 => exact h
  | case14 _ _ _ _ _ _ _ _ ih => exact ih (hNext (hBlanks h))
  | case15 _ _ _ _ _ _ _ _ ih => exact ih (hInner (hBlanks h))
  | case17 _ _ _ _ _ _ _ _ _ _ ih => exact ih (hNext (hBlanks h))
  | case18 _ _ _ _ _ _ inner _ _ fault hFault =>
    exact ((readKey_stays _).mono (hInner (hBlanks h))).of_error hFault
  | case19 _ _ _ _ _ _ inner _ _ _ key behind hKey ih =>
    exact ih (((readKey_stays _).mono (hInner (hBlanks h))).of_ok hKey)

/-- A text with an integer that is too long has its digits in a row. -/
theorem read_tooManyDigits {nesting : Nat} {text : List Char} {count : Nat}
    (h : read nesting text = .error (.tooManyDigits count)) :
    Numeral.digitLimit < count ∧ HasDigits text count := by
  unfold read at h
  simp only at h
  split at h
  · cases h
  · have hRun : Stays text
        (run nesting [] (Cursor.skipBlanks ⟨0, text⟩) .value (2 * text.length + 2)) :=
      run_stays nesting [] _ .value _ (skipBlanks_suffix ⟨0, text⟩)
    split at h
    · next fault hFault =>
      cases h
      rw [hFault] at hRun
      exact hRun
    · split at h <;> cases h

theorem read_ones (nesting : Nat) {rest : List Char} (hDigits : ∀ c ∈ rest, c.isDigit = true)
    (hLong : Numeral.digitLimit < ('1' :: rest).length) :
    read nesting ('1' :: rest) = .error (.tooManyDigits ('1' :: rest).length) := by
  have hAll : ∀ c ∈ '1' :: rest, c.isDigit = true := List.forall_mem_cons.mpr ⟨rfl, hDigits⟩
  have hTaken : ('1' :: rest).takeWhile Char.isDigit = '1' :: rest :=
    List.takeWhile_eq_self_iff.mpr hAll
  have hShape : numberShape? ('1' :: rest) = some (('1' :: rest).length, true) := by
    simp [numberShape?, hTaken]
  have hNumber : readNumber ⟨0, '1' :: rest⟩ = .error (.tooManyDigits ('1' :: rest).length) := by
    simp only [readNumber, hShape, List.take_length, splitSign_digits hAll, if_true, gt_iff_lt,
      if_pos hLong]
  have hPlain : readPlain ⟨0, '1' :: rest⟩ = .error (.tooManyDigits ('1' :: rest).length) := by
    have hNone : valueWords.find? (fun word => word.1.toList.isPrefixOf ('1' :: rest)) = none := by
      rw [List.find?_eq_none]
      intro word hWord
      simp only [valueWords, List.mem_cons, List.not_mem_nil, or_false] at hWord
      rcases hWord with rfl | rfl | rfl | rfl | rfl | rfl <;> simp [List.isPrefixOf]
    rw [readPlain, hNone]
    exact hNumber
  have hStart : Cursor.skipBlanks ⟨0, '1' :: rest⟩ = ⟨0, '1' :: rest⟩ := rfl
  simp [read, hStart, run, hPlain]

end SubmissionGate.Json
