import Mathlib.Tactic.ByContra
import Mathlib.Tactic.Tauto
import SubmissionGate.Markup.Tag
import SubmissionGate.Proofs.Text.Spans

/-!
# Attributes as they are written

An attribute of a tag as the HTML standard has it written: a gap of blanks, a name, and perhaps a
value, bare or in quotes. The reader takes more characters for blanks than the standard does; of an
attribute that holds none of the others it finds the name and the value that were written.
-/

namespace SubmissionGate.Markup

open SubmissionGate.Text

/-! ## Written attributes -/

def isBlank (c : Char) : Bool := c == ' ' || c == '\t' || c == '\n' || c == '\x0c' || c == '\r'

theorem isSpace_of_isBlank {c : Char} (h : isBlank c = true) : isSpace c = true := by
  simp only [isBlank, Bool.or_eq_true, beq_iff_eq] at h
  rcases h with (((rfl | rfl) | rfl) | rfl) | rfl <;> decide

def Blanks (text : List Char) : Prop := ∀ c ∈ text, isBlank c = true

/-- The value of an attribute as it is written, with the blanks around the equals sign. -/
inductive WrittenValue where
  | absent
  | bare (before behind value : List Char)
  | quoted (before behind : List Char) (quote : Char) (value : List Char)

namespace WrittenValue

def text : WrittenValue → List Char
  | absent => []
  | bare before behind value => before ++ '=' :: (behind ++ value)
  | quoted before behind quote value => before ++ '=' :: (behind ++ quote :: (value ++ [quote]))

def content? : WrittenValue → Option (List Char)
  | absent => none
  | bare _ _ value => some value
  | quoted _ _ _ value => some value

def isBare : WrittenValue → Bool
  | bare _ _ _ => true
  | _ => false

def endsBare (c : Char) : Bool :=
  isBlank c || c == '"' || c == '\'' || c == '=' || c == '<' || c == '>' || c == '`'

def WellFormed : WrittenValue → Prop
  | absent => True
  | bare before behind value => Blanks before ∧ Blanks behind ∧ value ≠ [] ∧
      ∀ c ∈ value, endsBare c = false
  | quoted before behind quote value => Blanks before ∧ Blanks behind ∧
      (quote = '"' ∨ quote = '\'') ∧ quote ∉ value

end WrittenValue

structure WrittenAttribute where
  gap : List Char
  name : List Char
  value : WrittenValue

namespace WrittenAttribute

def endsName (c : Char) : Bool :=
  isBlank c || c == '"' || c == '\'' || c == '>' || c == '/' || c == '='

structure WellFormed (written : WrittenAttribute) : Prop where
  gap : written.gap ≠ [] ∧ Blanks written.gap
  name : written.name ≠ [] ∧ ∀ c ∈ written.name, endsName c = false
  value : written.value.WellFormed

def open_ (written : WrittenAttribute) : List Char :=
  written.name ++ if written.value.isBare then written.value.content?.getD [] else []

/-- The reader takes no other character of the attribute for a blank. -/
def Plain (written : WrittenAttribute) : Prop := ∀ c ∈ written.open_, isSpace c = false

def text (written : WrittenAttribute) : List Char :=
  written.gap ++ (written.name ++ written.value.text)

def raw (written : WrittenAttribute) (behind : List Char) : RawAttribute :=
  ⟨written.name, written.value.content?,
    written.name.length + written.value.text.length + behind.length⟩

end WrittenAttribute

/-! ## Reading one attribute -/

/-- A text at which the reader does not take the first character for a separator or an equals
sign: a name, or the end of a tag. -/
def Begins (text : List Char) : Prop :=
  ∃ c rest, text = c :: rest ∧ isSpace c = false ∧ c ≠ '=' ∧ (c = '/' → rest.head? = some '>')

theorem separatorSize_blanks {blanks text : List Char} (hBlanks : Blanks blanks)
    (hBegins : Begins text) (size : Nat) :
    separatorSize size (blanks ++ text) = size + blanks.length := by
  induction blanks generalizing size with
  | nil =>
    obtain ⟨c, rest, rfl, hSpace, -, hSlash⟩ := hBegins
    rw [List.nil_append, separatorSize, hSpace]
    by_cases hIsSlash : c = '/'
    · simp [hSlash hIsSlash]
    · simp [hIsSlash]
  | cons c rest ih =>
    rw [List.cons_append, separatorSize, isSpace_of_isBlank (hBlanks c List.mem_cons_self)]
    simp only [Bool.true_or, if_true]
    rw [ih fun d hMem => hBlanks d (List.mem_cons_of_mem _ hMem), List.length_cons]
    omega

theorem mem_head?_blanks {blanks text : List Char} {c : Char} (hBlanks : Blanks blanks)
    (h : c ∈ (blanks ++ text).head?) : isBlank c = true ∨ blanks = [] ∧ c ∈ text.head? := by
  cases blanks with
  | nil => exact .inr ⟨rfl, h⟩
  | cons d more =>
    obtain rfl : d = c := by simpa using h
    exact .inl (hBlanks d List.mem_cons_self)

theorem takeWhile_blanks {blanks text : List Char} (hBlanks : Blanks blanks)
    (hText : ∀ c ∈ text.head?, isSpace c = false) :
    (blanks ++ text).takeWhile isSpace = blanks :=
  takeWhile_exact (fun c hMem => isSpace_of_isBlank (hBlanks c hMem)) hText

theorem attributeValue?_absent {blanks text : List Char} (hBlanks : Blanks blanks)
    (hBegins : Begins text) : attributeValue? (blanks ++ text) = none := by
  obtain ⟨c, rest, rfl, hSpace, hEquals, -⟩ := hBegins
  have hTake : (blanks ++ c :: rest).takeWhile isSpace = blanks :=
    takeWhile_blanks hBlanks (by simpa using hSpace)
  simp [attributeValue?, hTake, hEquals]

theorem attributeValue?_written {before behind rest : List Char} (hBefore : Blanks before)
    (hBehind : Blanks behind) (hRest : ∀ c ∈ rest.head?, c ≠ '=') :
    attributeValue? (before ++ '=' :: (behind ++ rest)) =
      (valueAfter 1 (behind ++ rest)).map fun (value, size) =>
        (value, before.length + 1 + size) := by
  have hTake : (before ++ '=' :: (behind ++ rest)).takeWhile isSpace = before :=
    takeWhile_blanks hBefore (by simp; decide)
  have hNext : ∀ c ∈ (behind ++ rest).head?, (c == '=') = false := by
    intro c hMem
    rcases mem_head?_blanks hBehind hMem with hBlank | ⟨-, hHead⟩
    · by_contra hEquals
      obtain rfl : c = '=' := by simpa using hEquals
      cases hBlank
    · simpa using hRest c hHead
  have hOne : ('=' :: (behind ++ rest)).takeWhile (· == '=') = ['='] :=
    @takeWhile_exact _ ['='] _ (by simp) hNext
  have hDrop : (before ++ '=' :: (behind ++ rest)).drop (before.length + 1) = behind ++ rest := by
    rw [← List.drop_drop, List.drop_left]
    rfl
  simp only [attributeValue?, hTake, List.drop_left, hOne, List.length_singleton, hDrop]
  rfl

theorem valueAfter_bare {behind value rest : List Char} (hBehind : Blanks behind)
    (hSome : value ≠ []) (hValue : ∀ c ∈ value, WrittenValue.endsBare c = false)
    (hPlain : ∀ c ∈ value, isSpace c = false)
    (hRest : ∀ c ∈ rest.head?, isSpace c = true ∨ c = '>') :
    valueAfter 1 (behind ++ (value ++ rest)) = some (value, behind.length + value.length) := by
  have hBody : (value ++ rest).takeWhile (fun c => c != '>' && !isSpace c) = value := by
    refine takeWhile_exact (fun c hMem => ?_) fun c hMem => ?_
    · have hGreater : c ≠ '>' := by
        rintro rfl
        exact absurd (hValue _ hMem) (by decide)
      simp [hGreater, hPlain c hMem]
    · rcases hRest c hMem with hSpace | rfl
      · simp [hSpace]
      · rfl
  obtain ⟨c, more, rfl⟩ := List.exists_cons_of_ne_nil hSome
  have hTake : (behind ++ (c :: more ++ rest)).takeWhile isSpace = behind :=
    takeWhile_blanks hBehind (by simpa using hPlain c List.mem_cons_self)
  have hQuote : c ≠ '"' ∧ c ≠ '\'' := by
    have hFirst := hValue c List.mem_cons_self
    simp only [WrittenValue.endsBare, Bool.or_eq_false_iff, beq_eq_false_iff_ne] at hFirst
    tauto
  have hOpen : ((c :: more ++ rest).head? == some '"' || (c :: more ++ rest).head? == some '\'') =
      false := by simp [hQuote]
  have hBare : bareValue (c :: more ++ rest) = c :: more := hBody
  simp only [valueAfter, hTake, List.drop_left, hOpen, hBare, Bool.not_false, if_true]

theorem valueAfter_quoted {behind value rest : List Char} {quote : Char} (hBehind : Blanks behind)
    (hQuote : quote = '"' ∨ quote = '\'') (hValue : quote ∉ value) :
    valueAfter 1 (behind ++ quote :: (value ++ quote :: rest)) =
      some (value, behind.length + value.length + 2) := by
  have hBody : (value ++ quote :: rest).takeWhile (· != quote) = value :=
    takeWhile_exact (fun c hMem => by simpa using fun hSame : c = quote => hValue (hSame ▸ hMem))
      (by simp)
  have hTake : (behind ++ quote :: (value ++ quote :: rest)).takeWhile isSpace = behind :=
    takeWhile_blanks hBehind (by rcases hQuote with rfl | rfl <;> simp <;> decide)
  have hFound : quotedValue? quote (value ++ quote :: rest) = some value := by
    simp [quotedValue?, hBody]
  have hOpen : (quote == '"' || quote == '\'') = true := by
    rcases hQuote with rfl | rfl <;> rfl
  have hOpen : ((quote :: (value ++ quote :: rest)).head? == some '"' ||
      (quote :: (value ++ quote :: rest)).head? == some '\'') = true := by
    simpa using hOpen
  simp only [valueAfter, hTake, List.drop_left, hOpen, Bool.not_true, Bool.false_eq_true, if_false,
    List.headD_cons, List.drop_succ_cons, List.drop_zero, hFound]

/-- What may follow an attribute: blanks and more of the tag, or at once the end of the tag. A slash
at once behind a bare value would belong to it. -/
structure Follows (written : WrittenAttribute) (blanks text : List Char) : Prop where
  blank : Blanks blanks
  begins : Begins text
  atOnce : blanks = [] → ∃ c rest, text = c :: rest ∧
    (c = '>' ∨ c = '/' ∧ written.value.isBare = false)

/-- The value of an attribute and the size of its text are read as they are written. -/
theorem attributeValue?_follows {written : WrittenAttribute} {blanks text : List Char}
    (hFormed : written.value.WellFormed) (hPlain : written.Plain)
    (hFollows : Follows written blanks text) :
    attributeValue? (written.value.text ++ (blanks ++ text)) =
      written.value.content?.map fun value => (value, written.value.text.length) := by
  have hOpen := hPlain
  obtain ⟨gap, name, value⟩ := written
  cases value with
  | absent =>
    have hNone := attributeValue?_absent hFollows.blank hFollows.begins
    exact hNone
  | bare before behind value =>
    obtain ⟨hBefore, hBehind, hSome, hValue⟩ := hFormed
    have hSpaces : ∀ c ∈ value, isSpace c = false := fun c hMem =>
      hPlain c (List.mem_append_right _ hMem)
    have hRest : ∀ c ∈ (blanks ++ text).head?, isSpace c = true ∨ c = '>' := by
      intro c hMem
      rcases mem_head?_blanks hFollows.blank hMem with hBlank | ⟨hNone, hHead⟩
      · exact .inl (isSpace_of_isBlank hBlank)
      · obtain ⟨d, rest, rfl, rfl | ⟨-, hBare⟩⟩ := hFollows.atOnce hNone
        · exact .inr (by simpa using hHead.symm)
        · cases hBare
    have hEquals : ∀ c ∈ (value ++ (blanks ++ text)).head?, c ≠ '=' := by
      obtain ⟨d, more, rfl⟩ := List.exists_cons_of_ne_nil hSome
      intro c hMem
      obtain rfl : d = c := by simpa using hMem
      rintro rfl
      exact absurd (hValue _ List.mem_cons_self) (by decide)
    have hText : (WrittenValue.bare before behind value).text ++ (blanks ++ text) =
        before ++ '=' :: (behind ++ (value ++ (blanks ++ text))) := by
      simp [WrittenValue.text]
    rw [hText, attributeValue?_written hBefore hBehind hEquals,
      valueAfter_bare hBehind hSome hValue hSpaces hRest]
    simp [WrittenValue.content?, WrittenValue.text]
    omega
  | quoted before behind quote value =>
    obtain ⟨hBefore, hBehind, hQuote, hValue⟩ := hFormed
    have hEquals : ∀ c ∈ (quote :: (value ++ quote :: (blanks ++ text))).head?, c ≠ '=' := by
      rcases hQuote with rfl | rfl <;> simp
    have hText : (WrittenValue.quoted before behind quote value).text ++ (blanks ++ text) =
        before ++ '=' :: (behind ++ quote :: (value ++ quote :: (blanks ++ text))) := by
      simp [WrittenValue.text]
    rw [hText, attributeValue?_written hBefore hBehind hEquals,
      valueAfter_quoted hBehind hQuote hValue]
    simp [WrittenValue.content?, WrittenValue.text]
    omega

theorem nextChar_follows {written : WrittenAttribute} {blanks text : List Char} {c : Char}
    (hFormed : written.value.WellFormed) (hFollows : Follows written blanks text)
    (hNext : c ∈ (written.value.text ++ (blanks ++ text)).head?) :
    isSpace c = true ∨ c = '=' ∨ c = '/' ∨ c = '>' := by
  have hEquals : ∀ {spaces rest : List Char}, Blanks spaces →
      c ∈ (spaces ++ '=' :: rest).head? → isSpace c = true ∨ c = '=' := by
    intro spaces rest hSpaces hHead
    rcases mem_head?_blanks hSpaces hHead with hBlank | ⟨-, hHead⟩
    · exact .inl (isSpace_of_isBlank hBlank)
    · exact .inr (by simpa using hHead.symm)
  obtain ⟨gap, name, value⟩ := written
  cases value with
  | absent =>
    rcases mem_head?_blanks hFollows.blank hNext with hBlank | ⟨hNone, hHead⟩
    · exact .inl (isSpace_of_isBlank hBlank)
    · obtain ⟨d, rest, rfl, hEnd⟩ := hFollows.atOnce hNone
      obtain rfl : d = c := by simpa using hHead
      tauto
  | bare before behind value =>
    simp only [WrittenValue.text, List.append_assoc, List.cons_append] at hNext
    have hFirst := hEquals hFormed.1 hNext
    tauto
  | quoted before behind quote value =>
    simp only [WrittenValue.text, List.append_assoc, List.cons_append] at hNext
    have hFirst := hEquals hFormed.1 hNext
    tauto

theorem attribute?_follows {written : WrittenAttribute} {blanks text : List Char} {before : Char}
    (hBefore : admitsAttribute before = true) (hFormed : written.WellFormed)
    (hPlain : written.Plain) (hFollows : Follows written blanks text) :
    attribute? before (written.name ++ (written.value.text ++ (blanks ++ text))) =
      some (written.raw blanks) := by
  obtain ⟨hSome, hName⟩ := hFormed.name
  have hSpaces : ∀ c ∈ written.name, isSpace c = false := fun c hMem =>
    hPlain c (List.mem_append_left _ hMem)
  have hMarks : ∀ c ∈ written.name, c ≠ '/' ∧ c ≠ '>' ∧ c ≠ '=' := by
    intro c hMem
    have hEnds := hName c hMem
    simp only [WrittenAttribute.endsName, Bool.or_eq_false_iff, beq_eq_false_iff_ne] at hEnds
    tauto
  have hNext : ∀ c ∈ (written.value.text ++ (blanks ++ text)).head?,
      (!(isSpace c || c == '/' || c == '=' || c == '>')) = false := by
    intro c hMem
    rcases nextChar_follows hFormed.value hFollows hMem with hSpace | rfl | rfl | rfl
    · simp [hSpace]
    all_goals rfl
  have hUsed : written.name.length +
      ((written.value.content?.map fun value => (value, written.value.text.length)).map
        (·.2)).getD 0 = (written.name ++ written.value.text).length := by
    cases written.value <;> simp [WrittenValue.content?, WrittenValue.text]
  have hDrop : (written.name ++ (written.value.text ++ (blanks ++ text))).drop
      (written.name ++ written.value.text).length = blanks ++ text := by
    rw [← List.append_assoc, List.drop_left]
  have hValue := attributeValue?_follows hFormed.value hPlain hFollows
  have hSeparators := separatorSize_blanks hFollows.blank hFollows.begins 0
  obtain ⟨c, more, hCons⟩ := List.exists_cons_of_ne_nil hSome
  have hFirst : c ∈ written.name := hCons ▸ List.mem_cons_self
  have hTake : c :: (more ++ (written.value.text ++ (blanks ++ text))).takeWhile
      (fun c => !(isSpace c || c == '/' || c == '=' || c == '>')) = written.name := by
    rw [takeWhile_exact (fun d hMem => ?_) hNext, hCons]
    have hIn : d ∈ written.name := hCons ▸ List.mem_cons_of_mem _ hMem
    simp [hSpaces d hIn, hMarks d hIn]
  have hStarts : (!admitsAttribute before || isSpace c || c == '/' || c == '>') = false := by
    simp [hBefore, hSpaces c hFirst, hMarks c hFirst]
  have hText : written.name ++ (written.value.text ++ (blanks ++ text)) =
      c :: (more ++ (written.value.text ++ (blanks ++ text))) := by
    rw [hCons]
    rfl
  rw [hText] at hDrop ⊢
  have hRest : (c :: (more ++ (written.value.text ++ (blanks ++ text)))).drop
      written.name.length = written.value.text ++ (blanks ++ text) := by
    rw [← hText, List.drop_left]
  simp only [attribute?, hStarts, Bool.false_eq_true, if_false, hTake, hRest, hValue, hUsed, hDrop,
    hSeparators]
  simp [WrittenAttribute.raw, Function.comp_def]

end SubmissionGate.Markup
