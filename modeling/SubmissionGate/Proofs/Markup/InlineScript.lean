import Mathlib.Data.List.Infix
import Mathlib.Data.List.TakeWhile
import SubmissionGate.Proofs.Markup.Elements
import SubmissionGate.Proofs.Markup.WrittenTag
import SubmissionGate.Proofs.Text.LetterCase

/-!
# Inline scripts

The body of a script element in a document is one of its inline scripts, whatever attributes its tag
holds, as long as none of them gives a source. Three forms that a browser takes for a script with
that body escape the reader: a tag that ends with a slash, an end tag with blanks in front of its
name, and a name or bare value that holds a blank of Unicode.
-/

namespace SubmissionGate.Markup

open SubmissionGate.Text

/-! ## Raw text -/

/-- A text closes an element with an end tag that only this reader knows: it has blanks in front of
its name. -/
def ClosesLoosely (name body : List Char) : Prop :=
  ∃ before blanks word more behind, body = before ++ '<' :: '/' :: (blanks ++ (word ++ (more ++
    '>' :: behind))) ∧ blanks ≠ [] ∧ (∀ c ∈ blanks ++ more, isSpace c = true) ∧
    word.map Char.toLower = name

/-- Whether an end tag of the element starts somewhere in a text, as the HTML standard reads it. -/
def opensEndTag (name body : List Char) : Bool :=
  body.tails.any fun tail => (tail.take (2 + name.length)).map Char.toLower == '<' :: '/' :: name

theorem split_blanks (text : List Char) :
    text = text.takeWhile isSpace ++ text.drop (text.takeWhile isSpace).length ∧
      ∀ c ∈ text.takeWhile isSpace, isSpace c = true := by
  refine ⟨?_, fun c hMem => List.mem_takeWhile_imp hMem⟩
  rw [drop_length_takeWhile, List.takeWhile_append_dropWhile]

theorem blanksThen_some {c : Char} {text : List Char} {size : Nat}
    (h : blanksThen c text = some size) :
    ∃ blanks behind, text = blanks ++ c :: behind ∧ ∀ d ∈ blanks, isSpace d = true := by
  obtain ⟨hText, hBlanks⟩ := split_blanks text
  unfold blanksThen at h
  simp only at h
  split at h
  · next hHead =>
    cases hBehind : text.drop (text.takeWhile isSpace).length with
    | nil => simp [hBehind] at hHead
    | cons d behind =>
      obtain rfl : d = c := by simpa [hBehind] using hHead
      exact ⟨_, behind, hBehind ▸ hText, hBlanks⟩
  · cases h

theorem endTagSize?_some {name text : List Char} {size : Nat}
    (h : endTagSize? name text = some size) :
    ∃ blanks word more behind, text = '<' :: '/' :: (blanks ++ (word ++ (more ++ '>' :: behind))) ∧
      (∀ c ∈ blanks ++ more, isSpace c = true) ∧ word.map Char.toLower = name := by
  unfold endTagSize? at h
  split at h
  · next rest =>
    obtain ⟨hText, hBlanks⟩ := split_blanks rest
    simp only at h
    split at h
    · next hWord =>
      obtain ⟨found, hFound, -⟩ := Option.map_eq_some_iff.mp h
      obtain ⟨more, behind, hBehind, hMore⟩ := blanksThen_some hFound
      refine ⟨rest.takeWhile isSpace, _, more, behind, ?_, ?_, beq_iff_eq.mp hWord⟩
      · rw [← hBehind, List.take_append_drop, ← hText]
      · intro c hMem
        rcases List.mem_append.mp hMem with hIn | hIn
        · exact hBlanks c hIn
        · exact hMore c hIn
    · cases h
  · cases h

theorem not_mem_endTag {name blanks word more : List Char} (hName : '<' ∉ name)
    (hSpaces : ∀ c ∈ blanks ++ more, isSpace c = true) (hWord : word.map Char.toLower = name) :
    '<' ∉ '/' :: (blanks ++ (word ++ (more ++ ['>']))) := by
  have hBlank : ∀ part, part ⊆ blanks ++ more → '<' ∉ part := fun part hPart hMem =>
    absurd (hSpaces _ (hPart hMem)) (by decide)
  have hInWord : '<' ∉ word := fun hMem =>
    hName (hWord ▸ List.mem_map.mpr ⟨'<', hMem, rfl⟩)
  simp [hBlank blanks (List.subset_append_left _ _), hBlank more (List.subset_append_right _ _),
    hInWord]

/-- Where an end tag starts in a text in front of another one, it also ends there. -/
theorem endTag_inside {name body rest blanks word more behind : List Char}
    (hName : '<' ∉ name) (hSpaces : ∀ c ∈ blanks ++ more, isSpace c = true)
    (hWord : word.map Char.toLower = name)
    (h : body ++ '<' :: rest = '/' :: (blanks ++ (word ++ (more ++ '>' :: behind)))) :
    ∃ left, body = '/' :: (blanks ++ (word ++ (more ++ '>' :: left))) := by
  have hNone := not_mem_endTag hName hSpaces hWord
  have hText : body ++ '<' :: rest = '/' :: (blanks ++ (word ++ (more ++ ['>']))) ++ behind := by
    rw [h]
    simp
  rcases List.append_eq_append_iff.mp hText with ⟨left, hBody, hRest⟩ | ⟨left, hBody, -⟩
  · cases left with
    | nil => exact ⟨[], by simpa using hBody.symm⟩
    | cons c left =>
      obtain ⟨rfl, -⟩ := List.cons.inj hRest
      exact absurd (hBody ▸ List.mem_append_right _ List.mem_cons_self) hNone
  · exact ⟨left, by simpa using hBody⟩

theorem rawTextFrom_body {name body rest : List Char} {size : Nat} (before : List Char)
    (hClosed : opensEndTag name body = false) (hLoose : ¬ ClosesLoosely name body)
    (hName : '<' ∉ name) (hEnd : endTagSize? name rest = some size) :
    rawTextFrom name before (body ++ rest) = (before.reverse ++ body, rest.drop size) := by
  obtain ⟨_, _, _, _, hRest, _⟩ := endTagSize?_some hEnd
  induction body generalizing before with
  | nil =>
    rw [List.nil_append, hRest, rawTextFrom, ← hRest, hEnd]
    simp
  | cons c body ih =>
    have hNone : endTagSize? name (c :: (body ++ rest)) = none := by
      cases hFound : endTagSize? name (c :: (body ++ rest)) with
      | none => rfl
      | some found =>
        obtain ⟨blanks, word, more, behind, hText, hSpaces, hWord⟩ := endTagSize?_some hFound
        obtain ⟨rfl, hTail⟩ := List.cons.inj hText
        rw [hRest] at hTail
        obtain ⟨left, rfl⟩ := endTag_inside hName hSpaces hWord hTail
        by_cases hBlanks : blanks = []
        · subst hBlanks
          have hLength : word.length = name.length := by rw [← hWord, List.length_map]
          have hTake : ('<' :: '/' :: (word ++ (more ++ '>' :: left))).take (2 + name.length) =
              '<' :: '/' :: word := by
            rw [← hLength, Nat.add_comm]
            simp
          rw [opensEndTag, List.tails_cons, List.any_cons, Bool.or_eq_false_iff] at hClosed
          have hHead := hClosed.1
          rw [List.nil_append, hTake, List.map_cons, List.map_cons, hWord] at hHead
          exact absurd hHead (by simp)
        · exact absurd ⟨[], blanks, word, more, left, rfl, hBlanks, hSpaces, hWord⟩ hLoose
    have hClosedRest : opensEndTag name body = false := by
      simp only [opensEndTag, List.tails_cons, List.any_cons, Bool.or_eq_false_iff] at hClosed
      exact hClosed.2
    have hLooseRest : ¬ ClosesLoosely name body := by
      rintro ⟨first, blanks, word, more, behind, rfl, hRest⟩
      exact hLoose ⟨c :: first, blanks, word, more, behind, rfl, hRest⟩
    rw [List.cons_append, rawTextFrom, hNone]
    simp only
    rw [ih _ hClosedRest hLooseRest]
    simp

/-! ## Script elements -/

def scriptName : List Char := "script".toList

def scriptEnd : List Char := "</script>".toList

structure WrittenScript where
  attributes : List WrittenAttribute
  trailing : List Char
  slash : Bool
  body : List Char

namespace WrittenScript

def text (script : WrittenScript) (behind : List Char) : List Char :=
  '<' :: (scriptName ++ (script.attributes.flatMap WrittenAttribute.text ++
    (script.trailing ++ tagEnd script.slash (script.body ++ (scriptEnd ++ behind)))))

/-- A script element without a source whose body holds no end tag, as the HTML standard has it. -/
structure WellFormed (script : WrittenScript) : Prop where
  attributes : ∀ written ∈ script.attributes, written.WellFormed
  inline : ∀ written ∈ script.attributes, written.name.map Char.toLower ≠ "src".toList
  trailing : Blanks script.trailing
  slash : script.slash = true → script.trailing = [] →
    ∀ written ∈ script.attributes.getLast?, written.value.isBare = false
  body : opensEndTag scriptName script.body = false

/-- The reader takes the element for what it is: no blank of Unicode splits a name or value, no
slash closes the element in front of its body, and no end tag that only the reader knows closes it
inside. -/
structure Kept (script : WrittenScript) : Prop where
  plain : ∀ written ∈ script.attributes, written.Plain
  slash : script.slash = true → script.body = []
  ends : ¬ ClosesLoosely scriptName script.body

def ReadableValues (script : WrittenScript) : Prop :=
  ∀ written ∈ script.attributes, Readable (written.value.content?.getD [])

end WrittenScript

theorem WrittenScript.legible {script : WrittenScript} (hFormed : script.WellFormed)
    (hKept : script.Kept) (rest : List Char) :
    Legible script.attributes script.trailing (tagEnd script.slash rest) where
  formed := hFormed.attributes
  plain := hKept.plain
  blank := hFormed.trailing
  ended := by
    cases script.slash with
    | true => exact ⟨rest, .inr rfl⟩
    | false => exact ⟨rest, .inl rfl⟩
  last := fun written hLast hBare hNone => by
    cases hSlash : script.slash with
    | true =>
      rw [hFormed.slash hSlash hNone written hLast] at hBare
      cases hBare
    | false => rfl

theorem endTagSize?_scriptEnd (behind : List Char) :
    endTagSize? scriptName (scriptEnd ++ behind) = some 9 := rfl

theorem elements_scriptEnd (behind : List Char) :
    elements (scriptEnd ++ behind) = elements behind := by
  have hTaken : takeConstruct ("/script>".toList ++ behind) = .ok (none, behind) := rfl
  have hElements := @elements_append [] ("/script>".toList ++ behind) (by simp)
  have hText : scriptEnd ++ behind = [] ++ '<' :: ("/script>".toList ++ behind) := rfl
  have hEmpty : checkText [] = .ok () := by simp [checkText, resolveReferences]
  rw [hText, hElements, hTaken, hEmpty]
  simp only [Except.bind]
  cases elements behind <;> rfl

theorem lookup_src {script : WrittenScript} (hFormed : script.WellFormed)
    {found : List (String × List Char)}
    (hFound : resolveAttributes [] (raws script.trailing script.attributes) = .ok found) :
    List.lookup "src" found = none := by
  refine List.lookup_eq_none_iff.mpr fun entry hEntry => ?_
  rcases resolveAttributes_names hFound hEntry with hNone | ⟨raw, hRaw, hName⟩
  · cases hNone
  · obtain ⟨written, hWritten, hSame, -⟩ := mem_raws hRaw
    by_contra hSource
    have hSource : "src" = entry.1 := by simpa using hSource
    have hLower : lower written.name = "src".toList := by
      rw [← hSame, ← String.toList_ofList (l := lower raw.name), ← hName, ← hSource]
    refine hFormed.inline written hWritten (map_toLower_of_lower hLower fun d hMem => ?_)
    have hLetters : ("src".toList.all fun d => decide (d.toNat < 128 ∧ d ∉ ['k', 'i', '\x00'])) =
        true := by decide
    simpa using List.all_eq_true.mp hLetters d hMem

/-- The element of a script tag takes the body and leaves what stands behind the end tag. -/
theorem takeElement_script {script : WrittenScript} (hFormed : script.WellFormed)
    (hKept : script.Kept) (found : List (String × List Char)) (behind : List Char) :
    ∃ left, takeElement ⟨"script", found, script.slash⟩ (script.body ++ (scriptEnd ++ behind)) =
        (⟨⟨"script", found, script.slash⟩, some script.body⟩, left) ∧
      elements left = elements behind := by
  cases hSlash : script.slash with
  | true =>
    refine ⟨scriptEnd ++ behind, ?_, elements_scriptEnd behind⟩
    rw [hKept.slash hSlash]
    rfl
  | false =>
    refine ⟨behind, ?_, rfl⟩
    have hBody := rawTextFrom_body [] hFormed.body hKept.ends (by decide)
      (endTagSize?_scriptEnd behind)
    have hName : "script".toList = scriptName := rfl
    have hRaw : holdsRawText "script" = true := rfl
    simp only [takeElement, hRaw, Bool.not_true, Bool.false_eq_true, if_false, hName, hBody]
    rfl

theorem takeConstruct_script {script : WrittenScript} (hFormed : script.WellFormed)
    (hKept : script.Kept) (behind : List Char) :
    ((∃ taken, takeConstruct (script.text behind).tail = .ok taken) ↔ script.ReadableValues) ∧
      ∀ element left, takeConstruct (script.text behind).tail = .ok (element, left) →
        elements left = elements behind ∧
        ∃ tag, element = some ⟨tag, some script.body⟩ ∧ tag.name = "script" ∧
          tag.attribute? "src" = none := by
  have hLetters : scriptName.all continuesTagName = true := by decide
  obtain ⟨size, hRead, hDrop⟩ := readStartTag_written (List.all_eq_true.mp hLetters)
    (WrittenScript.legible hFormed hKept (script.body ++ (scriptEnd ++ behind)))
  have hFirst : ((script.text behind).tail).head?.any isLetter = true := rfl
  have hName : String.ofList (lower scriptName) = "script" := by decide +kernel
  rw [hName] at hRead
  have hValues := (resolveAttributes_ok_iff [] (raws script.trailing script.attributes)).trans
    (raws_readable_iff script.trailing script.attributes)
  change readStartTag (script.text behind).tail = _ at hRead
  change ((script.text behind).tail).drop size = _ at hDrop
  rw [takeConstruct, hFirst, hRead, WrittenScript.ReadableValues, ← hValues]
  simp only [if_true]
  cases hFound : resolveAttributes [] (raws script.trailing script.attributes) with
  | error count =>
    constructor
    · simp
    · rintro element left hTaken
      cases hTaken
  | ok found =>
    obtain ⟨left, hTaken, hLeft⟩ := takeElement_script hFormed hKept found behind
    simp only [hDrop, hTaken]
    constructor
    · simp
    · rintro element other hSame
      cases hSame
      exact ⟨hLeft, _, rfl, rfl, lookup_src hFormed hFound⟩

/-! ## Documents -/

theorem ofText_ok_iff (text : List Char) :
    (∃ document, Document.ofText text = .ok document) ↔ ∃ found, elements text = .ok found := by
  unfold Document.ofText
  cases elements text with
  | error fault => simp [Except.map]
  | ok found => simp [Except.map]

theorem checkText_ok_iff (text : List Char) : checkText text = .ok () ↔ Readable text := by
  unfold checkText Readable
  cases resolveReferences text with
  | error count => simp
  | ok resolved => simp

/-- A document with a script element behind plain text is read if its parts are, and the body of the
script is one of its inline scripts and units of code. -/
theorem inlineScript_kept {pre post : List Char} {script : WrittenScript} (hPre : '<' ∉ pre)
    (hFormed : script.WellFormed) (hKept : script.Kept) :
    ((∃ document, Document.ofText (pre ++ script.text post) = .ok document) ↔
      Readable pre ∧ script.ReadableValues ∧ ∃ document, Document.ofText post = .ok document) ∧
    ∀ document, Document.ofText (pre ++ script.text post) = .ok document →
      script.body ∈ document.inlineScripts ∧ script.body ∈ document.codeUnits := by
  obtain ⟨hTaken, hElement⟩ := takeConstruct_script hFormed hKept post
  have hText := @elements_append pre (script.text post).tail hPre
  change elements (pre ++ script.text post) = _ at hText
  rw [ofText_ok_iff, ofText_ok_iff, hText, ← hTaken, ← checkText_ok_iff]
  constructor
  · cases checkText pre with
    | error fault => simp [Except.bind]
    | ok _ =>
      cases hScript : takeConstruct (script.text post).tail with
      | error fault => simp [Except.bind]
      | ok taken =>
        obtain ⟨hLeft, -⟩ := hElement taken.1 taken.2 hScript
        simp only [Except.bind, hLeft]
        cases elements post <;> simp [Except.map]
  · intro document hDocument
    unfold Document.ofText at hDocument
    rw [hText] at hDocument
    cases hCheck : checkText pre with
    | error fault =>
      rw [hCheck] at hDocument
      cases hDocument
    | ok _ =>
      cases hScript : takeConstruct (script.text post).tail with
      | error fault =>
        rw [hCheck, hScript] at hDocument
        cases hDocument
      | ok taken =>
        obtain ⟨element, left⟩ := taken
        obtain ⟨hLeft, tag, rfl, hName, hInline⟩ := hElement element left hScript
        rw [hCheck, hScript] at hDocument
        simp only [Except.bind, hLeft] at hDocument
        cases hPost : elements post with
        | error fault =>
          rw [hPost] at hDocument
          cases hDocument
        | ok later =>
          rw [hPost] at hDocument
          cases hDocument
          have hListed : script.body ∈ Document.inlineScripts
              ⟨⟨tag, some script.body⟩ :: later⟩ := by
            refine List.mem_filterMap.mpr ⟨_, List.mem_cons_self, ?_⟩
            simp [Element.inlineScript?, hName, hInline]
          exact ⟨hListed, List.mem_append_left _ hListed⟩

def moduleScript : WrittenScript :=
  ⟨[⟨[' '], "type".toList, .quoted [] [] '"' "module".toList⟩], [], false, "go()".toList⟩

theorem moduleScript_wellFormed : moduleScript.WellFormed where
  attributes := by
    intro written hMem
    obtain rfl := List.mem_singleton.mp hMem
    exact ⟨⟨by simp, by simp [Blanks, isBlank]⟩,
      ⟨by simp, by simp [WrittenAttribute.endsName, isBlank]⟩,
      ⟨by simp [Blanks], by simp [Blanks], .inl rfl, by simp⟩⟩
  inline := by
    intro written hMem
    obtain rfl := List.mem_singleton.mp hMem
    decide
  trailing := by simp [Blanks, moduleScript]
  slash := by simp [moduleScript]
  body := by decide +kernel

theorem moduleScript_kept : moduleScript.Kept where
  plain := by
    intro written hMem
    obtain rfl := List.mem_singleton.mp hMem
    have hSpaces : "type".toList.all fun c => !isSpace c := by decide
    simpa [WrittenAttribute.Plain, WrittenAttribute.open_, WrittenValue.isBare] using hSpaces
  slash := by simp [moduleScript]
  ends := by
    rintro ⟨before, blanks, word, more, behind, hBody, -⟩
    have hLess : '<' ∈ moduleScript.body := hBody ▸ by simp
    exact absurd hLess (by decide)

/-- The body of that script is listed, whatever plain text stands in front of it. -/
theorem inlineScript_kept_module :
    '<' ∉ "Play".toList ∧ moduleScript.WellFormed ∧ moduleScript.Kept ∧
      ∃ document, Document.ofText ("Play".toList ++ moduleScript.text []) = .ok document ∧
        moduleScript.body ∈ document.inlineScripts := by
  have hPlain : '<' ∉ "Play".toList := by decide
  obtain ⟨hRead, hListed⟩ :=
    @inlineScript_kept "Play".toList [] _ hPlain moduleScript_wellFormed moduleScript_kept
  have hReadable : moduleScript.ReadableValues := by
    intro written hMem
    obtain rfl := List.mem_singleton.mp hMem
    exact readable_of_not_mem (by decide)
  obtain ⟨document, hDocument⟩ := hRead.mpr
    ⟨readable_of_not_mem (by decide), hReadable, ⟨[]⟩, rfl⟩
  exact ⟨hPlain, moduleScript_wellFormed, moduleScript_kept, document, hDocument,
    (hListed document hDocument).1⟩

/-! ## Scripts that escape -/

/-- The body of a script that a browser runs is not among the units of code. -/
def WrittenScript.Escapes (script : WrittenScript) : Prop :=
  script.WellFormed ∧ ∃ document, Document.ofText (script.text []) = .ok document ∧
    script.body ∉ document.codeUnits

def unitsOf? (text : List Char) : Option (List (List Char)) :=
  (Document.ofText text).toOption.map Document.codeUnits

theorem WrittenScript.WellFormed.escapes {script : WrittenScript} (hFormed : script.WellFormed)
    {units : List (List Char)} (hUnits : unitsOf? (script.text []) = some units)
    (hLost : script.body ∉ units) : script.Escapes := by
  refine ⟨hFormed, ?_⟩
  unfold unitsOf? at hUnits
  cases hDocument : Document.ofText (script.text []) with
  | error fault => simp [hDocument, Except.toOption] at hUnits
  | ok document =>
    refine ⟨document, rfl, ?_⟩
    obtain rfl : document.codeUnits = units := by
      simpa [hDocument, Except.toOption] using hUnits
    exact hLost

theorem bareScript_wellFormed {slash : Bool} {body : List Char}
    (hBody : opensEndTag scriptName body = false) :
    WrittenScript.WellFormed ⟨[], [], slash, body⟩ where
  attributes := by simp
  inline := by simp
  trailing := by simp [Blanks]
  slash := by simp
  body := hBody

def slashScript : WrittenScript := ⟨[], [], true, "eval(1)".toList⟩

/-- A script with a text in it that only the reader takes for an end tag. -/
def looseScript : WrittenScript := ⟨[], [], false, "a</ script>eval(1)".toList⟩

/-- A script with one attribute in whose name the reader finds a source. -/
def spacedScript : WrittenScript :=
  ⟨[⟨[' '], "a\u00a0src".toList, .bare [] [] "x".toList⟩], [], false, "eval(1)".toList⟩

theorem spacedScript_wellFormed : spacedScript.WellFormed where
  attributes := by
    intro written hMem
    obtain rfl := List.mem_singleton.mp hMem
    exact ⟨⟨by simp, by simp [Blanks, isBlank]⟩,
      ⟨by simp, by simp [WrittenAttribute.endsName, isBlank]⟩,
      ⟨by simp [Blanks], by simp [Blanks], by simp, by simp [WrittenValue.endsBare, isBlank]⟩⟩
  inline := by
    intro written hMem
    obtain rfl := List.mem_singleton.mp hMem
    decide
  trailing := by simp [Blanks, spacedScript]
  slash := by simp [spacedScript]
  body := by decide +kernel

theorem inlineScript_lost :
    slashScript.Escapes ∧ looseScript.Escapes ∧ spacedScript.Escapes := by
  have hSlash : slashScript.WellFormed := bareScript_wellFormed (by decide +kernel)
  have hLoose : looseScript.WellFormed := bareScript_wellFormed (by decide +kernel)
  have hSlashUnits : unitsOf? (slashScript.text []) = some [[]] := by decide +kernel
  have hLooseUnits : unitsOf? (looseScript.text []) = some [['a']] := by decide +kernel
  have hSpacedUnits : unitsOf? (spacedScript.text []) = some [] := by decide +kernel
  exact ⟨hSlash.escapes hSlashUnits (by decide), hLoose.escapes hLooseUnits (by decide),
    spacedScript_wellFormed.escapes hSpacedUnits (by simp)⟩

end SubmissionGate.Markup
