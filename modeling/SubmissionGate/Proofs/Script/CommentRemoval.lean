import SubmissionGate.Proofs.Script.Stripping
import SubmissionGate.Proofs.Script.Unplaced

/-!
# Removing comments from a script

As long as no attempt at a regular expression fails, one pass over a script finds every comment, and
what it leaves is the same script to everything that reads scripts. A failed attempt is what can
hide a comment from the first pass.
-/

namespace SubmissionGate.Script

open SubmissionGate.Text

theorem stripPass_of_no_comment {source : List Char}
    (h : ∀ segment ∈ scan source, segment.isComment = false) : stripPass source = source := by
  have hText : (scan source).flatMap Segment.kept = (scan source).flatMap (·.text) := by
    rw [List.flatMap_def, List.flatMap_def]
    congr 1
    apply List.map_congr_left
    intro segment hSegment
    exact Segment.kept_of_not_comment (h segment hSegment)
  rw [stripPass, hText]
  exact segmentsFrom_spell .start source

theorem stripPass_of_no_slash {source : List Char} (h : '/' ∉ source) :
    stripPass source = source := by
  apply stripPass_of_no_comment
  intro segment hSegment
  cases hComment : segment.isComment with
  | false => rfl
  | true =>
    refine absurd ?_ h
    rw [← segmentsFrom_spell .start source]
    exact List.mem_flatMap.mpr ⟨segment, hSegment, slash_mem_comment hSegment hComment⟩

theorem stripComments_of_stable {source : List Char}
    (h : stripPass (stripPass source) = stripPass source) :
    stripComments source = stripPass source := by
  unfold stripComments
  split
  · rw [passLimit, stripWithin, stripWithin]
    simp only [h, BEq.rfl, if_true]
    split
    · next hSame => rw [beq_iff_eq.mp hSame]
    · rfl
  · next hSlash => rw [stripPass_of_no_slash (by simpa using hSlash)]

theorem collapse_comment {segment : Segment} (h : segment.isComment = true) :
    collapse segment.kept = [] := by
  apply List.filter_eq_nil_iff.mpr
  intro c hKept
  simp [isSpace_of_separates (Segment.separates_kept h hKept)]

/-- Apart from blanks a pass leaves exactly the text outside comments. -/
theorem collapse_stripPass (source : List Char) :
    collapse (stripPass source) =
      ((scan source).filter fun segment => !segment.isComment).flatMap
        fun segment => collapse segment.text := by
  unfold stripPass
  induction scan source with
  | nil => rfl
  | cons segment rest ih =>
    rw [List.flatMap_cons, collapse, List.filter_append]
    change collapse segment.kept ++ collapse (rest.flatMap Segment.kept) = _
    cases hComment : segment.isComment with
    | true =>
      rw [collapse_comment hComment, List.nil_append, ih,
        List.filter_cons_of_neg (by simp [hComment])]
    | false =>
      rw [Segment.kept_of_not_comment hComment, ih, List.filter_cons_of_pos (by simp [hComment]),
        List.flatMap_cons]

/-- Two scripts that say the same, the second one without comments. -/
structure SameScript (source stripped : List Char) : Prop where
  noComment : ∀ segment ∈ scan stripped, segment.isComment = false
  literals : (scan stripped).filter Segment.isLiteral = (scan source).filter Segment.isLiteral
  lexemes : (tokenize stripped).map Token.lexeme = (tokenize source).map Token.lexeme
  gameObject : ∀ globalName objectName,
    (Outline.ofSource stripped).gameObject? globalName objectName =
      (Outline.ofSource source).gameObject? globalName objectName
  methods : ∀ object specs,
    (Outline.ofSource stripped).methods object specs =
      (Outline.ofSource source).methods object specs
  collapsed : collapse stripped =
    ((scan source).filter fun segment => !segment.isComment).flatMap
      fun segment => collapse segment.text

theorem sameScript_stripPass {source : List Char} (h : neverFails .start source = true) :
    SameScript source (stripPass source) := by
  have hMerges : Merges [] false (scan source) (scan (stripPass source)) :=
    mergesKept h rfl [] true (by simp) rfl fun _ _ _ => .inl rfl
  have hLexemes : (tokenize (stripPass source)).map Token.lexeme =
      (tokenize source).map Token.lexeme := by
    rw [tokenize_lexemes, tokenize_lexemes, hMerges.lexemes,
      Segment.lexemes_code_blank (by simp), List.nil_append]
  exact {
    noComment := hMerges.isComment
    literals := hMerges.literals
    lexemes := hLexemes
    gameObject := gameObject?_of_lexemes hLexemes
    methods := methods_of_lexemes hLexemes
    collapsed := collapse_stripPass source }

/-- Where no attempt at a regular expression fails, one pass removes every comment and changes
nothing else: the literals and the tokens are the same, and so are the game object, its methods and
the text without blanks. -/
theorem stripComments_sameScript {source : List Char} (h : neverFails .start source = true) :
    stripComments source = stripPass source ∧ SameScript source (stripComments source) := by
  have hSame := sameScript_stripPass h
  have hStrip : stripComments source = stripPass source :=
    stripComments_of_stable (stripPass_of_no_comment hSame.noComment)
  refine ⟨hStrip, ?_⟩
  rw [hStrip]
  exact hSame

def markedScript : List Char :=
  "a/* x */b = '/*' / 2; // c\nreturn /[/*]/.test(`//$\x7bd/**/\x7d`)".toList

theorem stripComments_sameScript_marked :
    neverFails .start markedScript = true ∧
      stripComments markedScript =
        "a b = '/*' / 2; \nreturn /[/*]/.test(`//$\x7bd \x7d`)".toList ∧
      stripComments markedScript = stripPass markedScript ∧
      SameScript markedScript (stripComments markedScript) := by
  have hNever : neverFails .start markedScript = true := by decide +kernel
  exact ⟨hNever, by decide +kernel, stripComments_sameScript hNever⟩

end SubmissionGate.Script
