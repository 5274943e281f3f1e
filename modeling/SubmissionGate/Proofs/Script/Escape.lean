import SubmissionGate.Script.Segment

/-!
# Escaped characters

A backslash takes the next character with it, another backslash too. So a character is escaped
where an odd number of backslashes stands right in front of it, which can be read off the text
without reading it from its start. A class of a regular expression is open behind a bracket that is
not escaped and that no bracket closes.
-/

namespace SubmissionGate.Script

def trailingBackslashes (text : List Char) : Nat :=
  (text.reverse.takeWhile (· == '\\')).length

/-- Whether what follows these characters is escaped. -/
def Escapes (before : List Char) : Prop := trailingBackslashes before % 2 = 1

instance (before : List Char) : Decidable (Escapes before) :=
  inferInstanceAs (Decidable (_ = _))

theorem not_escapes_nil : ¬Escapes [] := by decide

theorem escapes_backslash : Escapes ['\\'] := by decide

theorem trailingBackslashes_le (text : List Char) : trailingBackslashes text ≤ text.length := by
  rw [← List.length_reverse]
  exact (List.takeWhile_sublist _).length_le

theorem trailingBackslashes_cons (c : Char) (text : List Char) :
    trailingBackslashes (c :: text) =
      if trailingBackslashes text = text.length ∧ c = '\\' then text.length + 1
      else trailingBackslashes text := by
  unfold trailingBackslashes
  rw [List.reverse_cons, List.takeWhile_append, List.length_reverse]
  by_cases hAll : (text.reverse.takeWhile (· == '\\')).length = text.length
  · by_cases hBackslash : c = '\\'
    · simp [hAll, hBackslash]
    · simp [hAll, hBackslash]
  · simp [hAll]

theorem escapes_cons {c : Char} (hPlain : c ≠ '\\') (before : List Char) :
    Escapes (c :: before) ↔ Escapes before := by
  unfold Escapes
  rw [trailingBackslashes_cons, if_neg fun h => hPlain h.2]

theorem escapes_pair (c : Char) (before : List Char) :
    Escapes ('\\' :: c :: before) ↔ Escapes before := by
  unfold Escapes
  rw [trailingBackslashes_cons, trailingBackslashes_cons, List.length_cons]
  by_cases hAll : trailingBackslashes before = before.length
  · by_cases hBackslash : c = '\\'
    · simp only [hAll, hBackslash, and_self, if_true]
      omega
    · simp [hAll, hBackslash]
  · have hFewer : trailingBackslashes before ≠ before.length + 1 := by
      have := trailingBackslashes_le before
      omega
    simp [hAll, hFewer]

theorem not_escapes_concat {c : Char} (hPlain : c ≠ '\\') (before : List Char) :
    ¬Escapes (before ++ [c]) := by
  simp [Escapes, trailingBackslashes, hPlain]

/-- What stands behind an escaped pair and is not escaped does not start inside the pair. -/
theorem append_eq_pair {c : Char} {text before after : List Char}
    (h : '\\' :: c :: text = before ++ after) (hAfter : after.head? ≠ some '\\')
    (hPlain : ¬Escapes before) :
    ∃ between, before = '\\' :: c :: between ∧ text = between ++ after ∧ ¬Escapes between := by
  cases before with
  | nil =>
    obtain rfl : after = '\\' :: c :: text := h.symm
    exact absurd rfl hAfter
  | cons b before =>
    obtain ⟨rfl, hTail⟩ := List.cons.inj h
    cases before with
    | nil => exact absurd escapes_backslash hPlain
    | cons d between =>
      obtain ⟨rfl, rfl⟩ := List.cons.inj hTail
      exact ⟨between, rfl, rfl, mt (escapes_pair c between).mpr hPlain⟩

/-! Marks in a text -/

def StandsIn (mark text : List Char) : Prop :=
  ∃ before after, text = before ++ mark ++ after ∧ ¬Escapes before

def Lacks (marks : List (List Char)) (text : List Char) : Prop :=
  ∀ mark ∈ marks, ¬StandsIn mark text

theorem standsIn_pair {first : Char} (hFirst : first ≠ '\\') (mark : List Char) (c : Char)
    (text : List Char) :
    StandsIn (first :: mark) ('\\' :: c :: text) ↔ StandsIn (first :: mark) text := by
  constructor
  · rintro ⟨before, after, hText, hPlain⟩
    rw [List.append_assoc] at hText
    obtain ⟨between, -, rfl, hBetween⟩ := append_eq_pair hText (by simpa using hFirst) hPlain
    exact ⟨between, after, (List.append_assoc _ _ _).symm, hBetween⟩
  · rintro ⟨before, after, rfl, hPlain⟩
    exact ⟨'\\' :: c :: before, after, by simp, mt (escapes_pair c before).mp hPlain⟩

theorem standsIn_cons {c : Char} (hPlain : c ≠ '\\') (mark text : List Char) :
    StandsIn mark (c :: text) ↔ mark <+: c :: text ∨ StandsIn mark text := by
  constructor
  · rintro ⟨before, after, hText, hBefore⟩
    cases before with
    | nil => exact .inl ⟨after, hText.symm⟩
    | cons b before =>
      simp only [List.cons_append, List.cons.injEq] at hText
      obtain ⟨rfl, rfl⟩ := hText
      exact .inr ⟨before, after, rfl, mt (escapes_cons hPlain before).mpr hBefore⟩
  · rintro (⟨after, hText⟩ | ⟨before, after, rfl, hBefore⟩)
    · exact ⟨[], after, hText.symm, not_escapes_nil⟩
    · exact ⟨c :: before, after, by simp, mt (escapes_cons hPlain before).mp hBefore⟩

theorem not_standsIn_nil (first : Char) (mark : List Char) : ¬StandsIn (first :: mark) [] := by
  rintro ⟨before, after, hText, _⟩
  simp at hText

/-! What a text lacks, read from its start -/

namespace Lacks

variable {marks : List (List Char)} {text : List Char}

theorem nil (hMarks : [] ∉ marks) : Lacks marks [] := by
  rintro (_ | ⟨first, mark⟩) hMark
  · exact absurd hMark hMarks
  · exact not_standsIn_nil first mark

theorem pair (hMarks : ∀ mark ∈ marks, ∃ first rest, mark = first :: rest ∧ first ≠ '\\')
    (c : Char) (h : Lacks marks text) : Lacks marks ('\\' :: c :: text) := by
  intro mark hMark
  obtain ⟨first, rest, rfl, hFirst⟩ := hMarks mark hMark
  rw [standsIn_pair hFirst]
  exact h _ hMark

theorem cons {c : Char} (hEscape : c = '\\' → text = [])
    (hHead : ∀ mark ∈ marks, ¬mark <+: c :: text) (h : Lacks marks text) :
    Lacks marks (c :: text) := by
  intro mark hMark
  by_cases hBackslash : c = '\\'
  · obtain rfl := hEscape hBackslash
    rintro ⟨before, after, hText, hPlain⟩
    cases before with
    | nil => exact hHead mark hMark ⟨after, hText.symm⟩
    | cons b before =>
      simp only [List.cons_append, List.cons.injEq] at hText
      exact h mark hMark ⟨[], [], by simp_all, not_escapes_nil⟩
  · rw [standsIn_cons hBackslash]
    exact not_or.mpr ⟨hHead mark hMark, h mark hMark⟩

end Lacks

/-! Classes of a regular expression -/

/-- Whether what follows these characters belongs to a class. -/
def InClass (before : List Char) : Prop :=
  ∃ outside inside, before = outside ++ '[' :: inside ∧ ¬Escapes outside ∧ ¬StandsIn [']'] inside

/-- The same behind characters that belong to a class, or that do not. -/
def InClassFrom (inClass : Bool) (before : List Char) : Prop :=
  InClass before ∨ inClass = true ∧ ¬StandsIn [']'] before

theorem inClass_cons {c : Char} (hPlain : c ≠ '\\') (before : List Char) :
    InClass (c :: before) ↔ c = '[' ∧ ¬StandsIn [']'] before ∨ InClass before := by
  constructor
  · rintro ⟨outside, inside, hBefore, hOutside, hInside⟩
    cases outside with
    | nil =>
      obtain ⟨rfl, rfl⟩ := List.cons.inj hBefore
      exact .inl ⟨rfl, hInside⟩
    | cons b outside =>
      obtain ⟨rfl, rfl⟩ := List.cons.inj hBefore
      exact .inr ⟨outside, inside, rfl, mt (escapes_cons hPlain outside).mpr hOutside, hInside⟩
  · rintro (⟨rfl, hInside⟩ | ⟨outside, inside, rfl, hOutside, hInside⟩)
    · exact ⟨[], before, rfl, not_escapes_nil, hInside⟩
    · exact ⟨c :: outside, inside, rfl, mt (escapes_cons hPlain outside).mp hOutside, hInside⟩

theorem inClass_pair (c : Char) (before : List Char) :
    InClass ('\\' :: c :: before) ↔ InClass before := by
  constructor
  · rintro ⟨outside, inside, hBefore, hOutside, hInside⟩
    obtain ⟨between, -, rfl, hBetween⟩ := append_eq_pair hBefore (by simp) hOutside
    exact ⟨between, inside, rfl, hBetween, hInside⟩
  · rintro ⟨outside, inside, rfl, hOutside, hInside⟩
    exact ⟨'\\' :: c :: outside, inside, rfl, mt (escapes_pair c outside).mp hOutside, hInside⟩

theorem inClassFrom_nil (inClass : Bool) : InClassFrom inClass [] ↔ inClass = true := by
  have hNone : ¬InClass [] := by
    rintro ⟨outside, inside, hBefore, _⟩
    simp at hBefore
  simp [InClassFrom, hNone, not_standsIn_nil]

theorem inClassFrom_pair (inClass : Bool) (c : Char) (before : List Char) :
    InClassFrom inClass ('\\' :: c :: before) ↔ InClassFrom inClass before := by
  rw [InClassFrom, inClass_pair, standsIn_pair (by decide), InClassFrom]

theorem inClassFrom_cons {c : Char} (hPlain : c ≠ '\\') (inClass : Bool) (before : List Char) :
    InClassFrom inClass (c :: before) ↔
      InClassFrom (if c == '[' then true else if c == ']' then false else inClass) before := by
  unfold InClassFrom
  rw [inClass_cons hPlain, standsIn_cons hPlain]
  by_cases hOpens : c = '['
  · subst hOpens
    simp [List.cons_prefix_cons, or_comm]
    exact fun _ h => .inr h
  · by_cases hCloses : c = ']'
    · subst hCloses
      simp [List.cons_prefix_cons]
    · simp [List.cons_prefix_cons, hOpens, hCloses, Ne.symm hCloses]

theorem inClassFrom_outside (before : List Char) : InClassFrom false before ↔ InClass before := by
  simp [InClassFrom]

end SubmissionGate.Script
