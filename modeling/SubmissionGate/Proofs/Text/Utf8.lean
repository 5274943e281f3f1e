import Mathlib.Tactic.SplitIfs
import SubmissionGate.Text.Utf8

/-!
# Well-formed byte strings

A byte string is well-formed if it spells a text in UTF-8. The decoder gives this text back, and it
stops in front of the first bytes that spell no character otherwise. Both directions hold for one
character, hence they hold for every byte string.
-/

namespace SubmissionGate.Utf8

def spelled (text : List Char) : List UInt8 := text.flatMap String.utf8EncodeChar

@[simp] theorem spelled_nil : spelled [] = [] := rfl

@[simp] theorem spelled_cons (c : Char) (text : List Char) :
    spelled (c :: text) = String.utf8EncodeChar c ++ spelled text := List.flatMap_cons

@[simp] theorem spelled_append (first second : List Char) :
    spelled (first ++ second) = spelled first ++ spelled second := List.flatMap_append

/-- Where the first ill-formed sequence of a byte string starts: behind the spelling of a text, and
in front of bytes that start with no character. -/
structure FaultAt (bytes : List UInt8) (offset : Nat) : Prop where
  inside : offset < bytes.length
  before : ∃ text, bytes.take offset = spelled text
  broken : ∀ c, ¬ String.utf8EncodeChar c <+: bytes.drop offset

/-! ## One character -/

theorem isContinuation_iff {byte : UInt8} :
    isContinuation byte = true ↔ 128 ≤ byte.toNat ∧ byte.toNat < 192 := by
  simp [isContinuation, UInt8.le_iff_toNat_le, UInt8.lt_iff_toNat_lt]

theorem isSecond_iff {lead byte : UInt8} :
    isSecond lead byte = true ↔ (128 ≤ byte.toNat ∧ byte.toNat < 192) ∧
      (lead.toNat = 224 → 160 ≤ byte.toNat) ∧ (lead.toNat = 237 → byte.toNat < 160) ∧
      (lead.toNat = 240 → 144 ≤ byte.toNat) ∧ (lead.toNat = 244 → byte.toNat < 144) := by
  have hSame : ∀ n : UInt8, (lead == n) = decide (lead.toNat = n.toNat) := by
    intro n
    rw [Bool.eq_iff_iff, beq_iff_eq, decide_eq_true_iff, UInt8.toNat_inj]
  simp only [isSecond, Bool.and_eq_true, isContinuation_iff, hSame, UInt8.le_iff_toNat_le,
    UInt8.lt_iff_toNat_lt]
  refine and_congr_right fun hByte => ?_
  split_ifs <;> simp_all

theorem toNat_lt (c : Char) : c.toNat < 0x110000 := by
  have hValid := c.valid
  simp only [UInt32.isValidChar, Nat.isValidChar, Char.toNat_val] at hValid
  omega

theorem toNat_ofNat_of_scalar (point : Nat)
    (h : point < 0xD800 ∨ 0xDFFF < point ∧ point < 0x110000) :
    (Char.ofNat point).toNat = point := by
  rw [Char.ofNat, dif_pos h]
  rfl

/-- The bytes that spell a character, by their number. -/
inductive Spells (c : Char) : List UInt8 → Prop
  | one {a : UInt8} (hHigh : c.toNat < 0x80) (ha : a.toNat = c.toNat) : Spells c [a]
  | two {a b : UInt8} (hLow : 0x80 ≤ c.toNat) (hHigh : c.toNat < 0x800)
      (ha : a.toNat = c.toNat / 64 + 192) (hb : b.toNat = c.toNat % 64 + 128) : Spells c [a, b]
  | three {a b d : UInt8} (hLow : 0x800 ≤ c.toNat) (hHigh : c.toNat < 0x10000)
      (ha : a.toNat = c.toNat / 4096 + 224) (hb : b.toNat = c.toNat / 64 % 64 + 128)
      (hd : d.toNat = c.toNat % 64 + 128) : Spells c [a, b, d]
  | four {a b d e : UInt8} (hLow : 0x10000 ≤ c.toNat) (ha : a.toNat = c.toNat / 262144 + 240)
      (hb : b.toNat = c.toNat / 4096 % 64 + 128) (hd : d.toNat = c.toNat / 64 % 64 + 128)
      (he : e.toNat = c.toNat % 64 + 128) : Spells c [a, b, d, e]

theorem spells_utf8EncodeChar (c : Char) : Spells c (String.utf8EncodeChar c) := by
  have hLast := toNat_lt c
  unfold String.utf8EncodeChar
  simp only [Char.toNat_val]
  split
  · next hOne =>
    refine .one (by omega) ?_
    rw [UInt8.toNat_ofNat']
    omega
  · split
    · refine .two (by omega) (by omega) ?_ ?_
      all_goals rw [UInt8.toNat_ofNat']
      all_goals omega
    · split
      · refine .three (by omega) (by omega) ?_ ?_ ?_
        all_goals rw [UInt8.toNat_ofNat']
        all_goals omega
      · refine .four (by omega) ?_ ?_ ?_ ?_
        all_goals rw [UInt8.toNat_ofNat']
        all_goals omega

theorem Spells.eq_utf8EncodeChar {c : Char} {bytes : List UInt8} (h : Spells c bytes) :
    bytes = String.utf8EncodeChar c := by
  have hSame := spells_utf8EncodeChar c
  generalize String.utf8EncodeChar c = other at hSame
  cases h <;> cases hSame
  all_goals first
    | omega
    | simp only [List.cons.injEq, and_true, ← UInt8.toNat_inj]; omega

theorem readChar_ok {lead : UInt8} {rest left : List UInt8} {c : Char}
    (h : readChar lead rest = .ok (c, left)) :
    lead :: rest = String.utf8EncodeChar c ++ left := by
  have hTaken : ∀ {point : Nat} {bytes : List UInt8}, Spells (Char.ofNat point) bytes →
      bytes ++ left = String.utf8EncodeChar (Char.ofNat point) ++ left := fun hSpells => by
    rw [hSpells.eq_utf8EncodeChar]
  unfold readChar at h
  simp only [UInt8.lt_iff_toNat_lt, UInt8.reduceToNat, tailBits, Bool.not_eq_true', isSecond_iff,
    isContinuation_iff, ← Bool.not_eq_true] at h
  repeat' split at h
  all_goals cases h
  · next hOne =>
    have hPoint := toNat_ofNat_of_scalar lead.toNat (by omega)
    exact hTaken (.one (by omega) hPoint.symm)
  · next second hSecond =>
    have hPoint := toNat_ofNat_of_scalar
      (lead.toNat % 32 * 64 + second.toNat % 64) (by omega)
    refine hTaken (.two (a := lead) (b := second) ?_ ?_ ?_ ?_)
    all_goals omega
  · next second hSecond _ third hThird =>
    have hPoint := toNat_ofNat_of_scalar
      ((lead.toNat % 16 * 64 + second.toNat % 64) * 64 + third.toNat % 64) (by omega)
    refine hTaken (.three (a := lead) (b := second) (d := third) ?_ ?_ ?_ ?_ ?_)
    all_goals omega
  · next second hSecond _ third hThird _ fourth hFourth =>
    have hPoint := toNat_ofNat_of_scalar
      (((lead.toNat % 8 * 64 + second.toNat % 64) * 64 + third.toNat % 64) * 64 +
        fourth.toNat % 64) (by omega)
    refine hTaken (.four (a := lead) (b := second) (d := third) (e := fourth) ?_ ?_ ?_ ?_ ?_)
    all_goals omega

theorem readChar_spelled (c : Char) (left : List UInt8) : ∃ lead rest,
    String.utf8EncodeChar c ++ left = lead :: rest ∧ readChar lead rest = .ok (c, left) := by
  have hSpells := spells_utf8EncodeChar c
  generalize String.utf8EncodeChar c = bytes at hSpells
  have hValid := c.valid
  simp only [UInt32.isValidChar, Nat.isValidChar, Char.toNat_val] at hValid
  have hSame : ∀ point : Nat, point = c.toNat → Char.ofNat point = c := by
    rintro point rfl
    exact Char.ofNat_toNat c
  cases hSpells with
  | @one a hHigh ha =>
    refine ⟨a, left, rfl, ?_⟩
    unfold readChar
    rw [if_pos (UInt8.lt_iff_toNat_lt.mpr (by simp; omega)), hSame _ ha]
  | @two a b hLow hHigh ha hb =>
    refine ⟨a, b :: left, rfl, ?_⟩
    have hSecond : isSecond a b = true := isSecond_iff.mpr (by omega)
    have hPoint := hSame (a.toNat % 32 * 64 + b.toNat % 64) (by omega)
    unfold readChar
    simp only [UInt8.lt_iff_toNat_lt, UInt8.reduceToNat, tailBits]
    rw [if_neg (by omega), if_neg (by omega), if_pos (by omega), if_pos hSecond, hPoint]
  | @three a b d hLow hHigh ha hb hd =>
    refine ⟨a, b :: d :: left, rfl, ?_⟩
    have hSecond : isSecond a b = true := isSecond_iff.mpr (by omega)
    have hThird : isContinuation d = true := isContinuation_iff.mpr (by omega)
    have hPoint := hSame ((a.toNat % 16 * 64 + b.toNat % 64) * 64 + d.toNat % 64)
      (by omega)
    unfold readChar
    simp only [UInt8.lt_iff_toNat_lt, UInt8.reduceToNat, tailBits, hSecond, hThird, hPoint]
    rw [if_neg (by omega), if_neg (by omega), if_neg (by omega), if_pos (by omega)]
    rfl
  | @four a b d e hLow ha hb hd he =>
    refine ⟨a, b :: d :: e :: left, rfl, ?_⟩
    have hSecond : isSecond a b = true := isSecond_iff.mpr (by omega)
    have hThird : isContinuation d = true := isContinuation_iff.mpr (by omega)
    have hFourth : isContinuation e = true := isContinuation_iff.mpr (by omega)
    have hPoint := hSame (((a.toNat % 8 * 64 + b.toNat % 64) * 64 + d.toNat % 64) * 64 +
      e.toNat % 64) (by omega)
    unfold readChar
    simp only [UInt8.lt_iff_toNat_lt, UInt8.reduceToNat, tailBits, hSecond, hThird, hFourth, hPoint]
    rw [if_neg (by omega), if_neg (by omega), if_neg (by omega), if_neg (by omega),
      if_pos (by omega)]
    rfl

theorem readChar_error_iff {lead : UInt8} {rest : List UInt8} :
    (∃ fault, readChar lead rest = .error fault) ↔
      ∀ c, ¬ String.utf8EncodeChar c <+: lead :: rest := by
  constructor
  · rintro ⟨fault, hFault⟩ c ⟨left, hStarts⟩
    obtain ⟨first, behind, hSpelled, hRead⟩ := readChar_spelled c left
    rw [hStarts] at hSpelled
    cases hSpelled
    rw [hRead] at hFault
    cases hFault
  · intro hNone
    cases hRead : readChar lead rest with
    | error fault => exact ⟨fault, rfl⟩
    | ok found =>
      obtain ⟨c, left⟩ := found
      exact absurd ⟨left, (readChar_ok hRead).symm⟩ (hNone c)

/-! ## Byte strings -/

theorem decodeFrom_spelled (offset : Nat) (text : List Char) (left : List UInt8)
    (read : List Char) :
    decodeFrom offset (spelled text ++ left) read =
      decodeFrom (offset + (spelled text).length) left (text.reverse ++ read) := by
  induction text generalizing offset read with
  | nil => rfl
  | cons c text ih =>
    obtain ⟨lead, rest, hSpelled, hRead⟩ := readChar_spelled c (spelled text ++ left)
    rw [spelled_cons, List.append_assoc, hSpelled, decodeFrom]
    split
    · next hFault =>
      rw [hRead] at hFault
      cases hFault
    · next hFound =>
      rw [hRead] at hFound
      cases hFound
      simp [ih, Nat.add_assoc]

/-- What decoding comes to: the text that the bytes spell, or a fault where they start with no
character. -/
theorem decodeFrom_cases (offset : Nat) (bytes : List UInt8) (read : List Char) :
    (∃ text, bytes = spelled text ∧
      decodeFrom offset bytes read = .ok (read.reverse ++ text)) ∨
    ∃ text left fault, bytes = spelled text ++ left ∧ left ≠ [] ∧
      (∀ c, ¬ String.utf8EncodeChar c <+: left) ∧ decodeFrom offset bytes read = .error fault ∧
      fault.offset = offset + (spelled text).length := by
  fun_induction decodeFrom offset bytes read with
  | case1 offset read => exact .inl ⟨[], rfl, by simp⟩
  | case2 offset read lead rest length flaw hFault =>
    exact .inr ⟨[], lead :: rest, _, rfl, by simp, readChar_error_iff.mp ⟨_, hFault⟩, rfl, rfl⟩
  | case3 offset read lead rest c left hFound _ ih =>
    rw [readChar_ok hFound]
    rcases ih with ⟨text, rfl, hText⟩ |
      ⟨text, behind, fault, rfl, hNonempty, hNone, hFault, hOffset⟩
    · exact .inl ⟨c :: text, rfl, by simp [hText]⟩
    · refine .inr ⟨c :: text, behind, fault, by simp, hNonempty, hNone, hFault, ?_⟩
      simp [hOffset, Nat.add_assoc]

theorem decode_ok_iff {bytes : List UInt8} {text : List Char} :
    decode bytes = .ok text ↔ bytes = spelled text := by
  constructor
  · intro h
    rcases decodeFrom_cases 0 bytes [] with ⟨other, rfl, hText⟩ | ⟨_, _, _, -, -, -, hFault, -⟩
    · cases hText.symm.trans h
      rfl
    · cases hFault.symm.trans h
  · rintro rfl
    have hDecoded := decodeFrom_spelled 0 text [] []
    rw [List.append_nil, List.append_nil, decodeFrom, List.reverse_reverse] at hDecoded
    exact hDecoded

/-- Decoding stops at the first ill-formed sequence, and nowhere else. -/
theorem decode_error_iff {bytes : List UInt8} {offset : Nat} :
    (∃ fault, decode bytes = .error fault ∧ fault.offset = offset) ↔ FaultAt bytes offset := by
  constructor
  · rintro ⟨fault, hFault, rfl⟩
    rcases decodeFrom_cases 0 bytes [] with ⟨_, -, hText⟩ |
      ⟨text, left, other, rfl, hNonempty, hNone, hOther, hOffset⟩
    · cases hText.symm.trans hFault
    · cases hOther.symm.trans hFault
      rw [Nat.zero_add] at hOffset
      have hLeft := List.length_pos_iff.mpr hNonempty
      exact ⟨by simp [hOffset, hLeft], ⟨text, by simp [hOffset]⟩, by simpa [hOffset] using hNone⟩
  · rintro ⟨hInside, ⟨text, hText⟩, hBroken⟩
    have hLength : (spelled text).length = offset := by
      rw [← hText, List.length_take, Nat.min_eq_left (Nat.le_of_lt hInside)]
    cases hDrop : bytes.drop offset with
    | nil => exact absurd (List.drop_eq_nil_iff.mp hDrop) (Nat.not_le.mpr hInside)
    | cons lead rest =>
      rw [hDrop] at hBroken
      obtain ⟨⟨length, flaw⟩, hFault⟩ := readChar_error_iff.mpr hBroken
      have hWhole : bytes = spelled text ++ lead :: rest := by
        rw [← hText, ← hDrop, List.take_append_drop]
      refine ⟨⟨offset, length, lead, flaw⟩, ?_, rfl⟩
      rw [decode, hWhole, decodeFrom_spelled, decodeFrom, hLength, Nat.zero_add]
      split
      · next hSame =>
        rw [hFault] at hSame
        cases hSame
        rfl
      · next hFound =>
        rw [hFault] at hFound
        cases hFound

end SubmissionGate.Utf8
