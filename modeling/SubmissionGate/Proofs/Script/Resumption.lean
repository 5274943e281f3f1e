import SubmissionGate.Proofs.Script.Scan

/-!
# What follows a mark

A string, a template or a regular expression ends at a character of its own, at the end of its line
or at the end of the script. So the same mark is found again when what follows it is replaced,
provided the replacement starts as the script did: only behind a mark that ends by itself may a
comment have started.
-/

namespace SubmissionGate.Script

/-- A text that may stand for what a script goes on with: only a comment may start otherwise. -/
def Replaces (left other : List Char) : Prop := left.head? ≠ some '/' → other.head? = left.head?

theorem Replaces.eq_nil {other : List Char} (h : Replaces [] other) : other = [] :=
  List.head?_eq_none_iff.mp (h (by simp))

theorem Replaces.cons {c : Char} {left other : List Char} (h : Replaces (c :: left) other)
    (hSlash : c ≠ '/') : ∃ tail, other = c :: tail := by
  have hHead := h (by simpa using hSlash)
  exact List.head?_eq_some_iff.mp hHead

theorem stringTail_cons {c : Char} (hEscape : c ≠ '\\') (quote : Char) (rest taken : List Char) :
    stringTail quote (c :: rest) taken =
      if c == quote then ((c :: taken).reverse, rest)
      else if c == '\n' then (taken.reverse, c :: rest)
      else stringTail quote rest (c :: taken) := by
  rw [stringTail]
  intro second inner h
  exact absurd h hEscape

theorem stringTail_resumes {quote : Char} (hQuote : quote ≠ '\\') (source taken : List Char) :
    ∃ body, (stringTail quote source taken).1 = taken.reverse ++ body ∧
      ∀ other, Replaces (stringTail quote source taken).2 other →
        stringTail quote (body ++ other) taken =
          ((stringTail quote source taken).1, other) := by
  fun_induction stringTail quote source taken with
  | case1 taken =>
    refine ⟨[], by simp, ?_⟩
    intro other hOther
    rw [hOther.eq_nil]
    rfl
  | case2 c rest taken ih =>
    obtain ⟨body, hText, hResumes⟩ := ih
    refine ⟨'\\' :: c :: body, by simp [hText], ?_⟩
    intro other hOther
    exact hResumes other hOther
  | case3 c rest taken hEscape hCloses =>
    obtain rfl : c = quote := by simpa using hCloses
    refine ⟨[c], by simp, ?_⟩
    intro other _
    rw [List.singleton_append, stringTail_cons hQuote, if_pos hCloses]
  | case4 c rest taken hEscape hCloses hBreak =>
    obtain rfl : c = '\n' := by simpa using hBreak
    refine ⟨[], by simp, ?_⟩
    intro other hOther
    obtain ⟨tail, rfl⟩ := hOther.cons (by decide)
    rw [List.nil_append, stringTail_cons (by decide), if_neg hCloses, if_pos hBreak]
  | case5 c rest taken hEscape hCloses hBreak ih =>
    obtain ⟨body, hText, hResumes⟩ := ih
    by_cases hBackslash : c = '\\'
    · -- A backslash at the end of the script escapes nothing.
      obtain rfl : rest = [] := by
        cases rest with
        | nil => rfl
        | cons second inner => exact absurd rfl (hEscape second inner hBackslash)
      refine ⟨[c], by simp [stringTail], ?_⟩
      intro other hOther
      rw [Replaces.eq_nil hOther, List.append_nil, hBackslash]
      simp [stringTail, Ne.symm hQuote]
    · refine ⟨c :: body, by simp [hText], ?_⟩
      intro other hOther
      rw [List.cons_append, stringTail_cons hBackslash, if_neg hCloses, if_neg hBreak]
      exact hResumes other hOther

theorem templateTail_cons {c : Char} {rest : List Char} (hEscape : c ≠ '\\')
    (hOpens : c = '$' → rest.head? ≠ some '\x7b') (taken : List Char) :
    templateTail (c :: rest) taken =
      if c == '`' then ((c :: taken).reverse, rest, false) else templateTail rest (c :: taken) := by
  rw [templateTail]
  · intro second inner h
    exact absurd h hEscape
  · intro inner h hRest
    exact hOpens h (by rw [hRest]; rfl)

theorem templateTail_resumes (source taken : List Char) :
    ∃ body, (templateTail source taken).1 = taken.reverse ++ body ∧
      ∀ other, Replaces (templateTail source taken).2.1 other →
        (body ++ other).head? = source.head? ∧
          templateTail (body ++ other) taken =
            ((templateTail source taken).1, other, (templateTail source taken).2.2) := by
  fun_induction templateTail source taken with
  | case1 taken =>
    refine ⟨[], by simp, ?_⟩
    intro other hOther
    rw [hOther.eq_nil]
    exact ⟨rfl, rfl⟩
  | case2 c rest taken ih =>
    obtain ⟨body, hText, hResumes⟩ := ih
    refine ⟨'\\' :: c :: body, by simp [hText], ?_⟩
    intro other hOther
    exact ⟨rfl, (hResumes other hOther).2⟩
  | case3 rest taken =>
    refine ⟨['$', '\x7b'], by simp, ?_⟩
    intro other _
    exact ⟨rfl, rfl⟩
  | case4 c rest taken hEscape hOpens hCloses =>
    obtain rfl : c = '`' := by simpa using hCloses
    refine ⟨['`'], by simp, ?_⟩
    intro other _
    rw [List.singleton_append, templateTail_cons (by decide) (by simp), if_pos hCloses]
    exact ⟨rfl, rfl⟩
  | case5 c rest taken hEscape hOpens hCloses ih =>
    obtain ⟨body, hText, hResumes⟩ := ih
    by_cases hBackslash : c = '\\'
    · obtain rfl : rest = [] := by
        cases rest with
        | nil => rfl
        | cons second inner => exact absurd rfl (hEscape second inner hBackslash)
      refine ⟨[c], by simp [templateTail], ?_⟩
      intro other hOther
      rw [Replaces.eq_nil hOther, List.append_nil, hBackslash]
      exact ⟨rfl, rfl⟩
    · refine ⟨c :: body, by simp [hText], ?_⟩
      intro other hOther
      obtain ⟨hHead, hTail⟩ := hResumes other hOther
      have hPlain : c = '$' → (body ++ other).head? ≠ some '\x7b' := by
        intro hDollar hBrace
        rw [hHead] at hBrace
        obtain ⟨inner, rfl⟩ := List.head?_eq_some_iff.mp hBrace
        exact hOpens inner hDollar rfl
      rw [List.cons_append, templateTail_cons hBackslash hPlain, if_neg hCloses]
      exact ⟨rfl, hTail⟩

theorem regexTail_cons {c : Char} (hEscape : c ≠ '\\') (inClass : Bool) (rest taken : List Char) :
    regexTail inClass (c :: rest) taken =
      if c == '\n' || c == '\r' then none
      else if c == '/' && !inClass then some ((c :: taken).reverse, rest)
      else regexTail (if c == '[' then true else if c == ']' then false else inClass) rest
        (c :: taken) := by
  rw [regexTail]
  intro second inner h
  exact absurd h hEscape

theorem regexTail_resumes {inClass : Bool} {source taken text left : List Char}
    (h : regexTail inClass source taken = some (text, left)) :
    ∃ body, text = taken.reverse ++ body ∧
      ∀ other, (body ++ other).head? = source.head? ∧
        regexTail inClass (body ++ other) taken = some (text, other) := by
  fun_induction regexTail inClass source taken with
  | case1 => cases h
  | case2 inClass c rest taken ih =>
    obtain ⟨body, hText, hResumes⟩ := ih h
    refine ⟨'\\' :: c :: body, by simp [hText], ?_⟩
    intro other
    exact ⟨rfl, (hResumes other).2⟩
  | case3 => cases h
  | case4 inClass c rest taken hEscape hLine hCloses =>
    obtain ⟨rfl, rfl⟩ := Prod.mk.inj (Option.some.inj h)
    have hBackslash : c ≠ '\\' := by
      rintro rfl
      cases hCloses
    refine ⟨[c], by simp, ?_⟩
    intro other
    rw [List.singleton_append, regexTail_cons hBackslash, if_neg hLine, if_pos hCloses]
    exact ⟨rfl, rfl⟩
  | case5 inClass c rest taken hEscape hLine hCloses inner ih =>
    obtain ⟨body, hText, hResumes⟩ := ih h
    have hBackslash : c ≠ '\\' := by
      intro hBackslash
      cases rest with
      | nil => cases h
      | cons second tail => exact hEscape second tail hBackslash rfl
    refine ⟨c :: body, by simp [hText], ?_⟩
    intro other
    rw [List.cons_append, regexTail_cons hBackslash, if_neg hLine, if_neg hCloses]
    exact ⟨rfl, (hResumes other).2⟩

theorem opensComment_congr {c : Char} {first second : List Char}
    (h : first.head? = second.head?) : opensComment c first = opensComment c second := by
  rw [opensComment, opensComment, h]

namespace ScanState

/-- A step finds the same segment and ends in the same state in front of a replacement. -/
def Resumes (step : List Char → Step) (c : Char) (rest : List Char) : Prop :=
  ∀ other, Replaces (step rest).rest other →
    ∃ tail, (step rest).segment.text ++ other = c :: tail ∧
      step tail = { step rest with rest := other }

theorem Resumes.congr {step other : List Char → Step} {c : Char} {rest : List Char}
    (h : Resumes step c rest) (hSame : ∀ source, other source = step source) :
    Resumes other c rest := by
  obtain rfl : other = step := funext hSame
  exact h

variable (state : ScanState)

theorem stringStep_resumes {quote : Char} (hQuote : quote ≠ '\\') (rest : List Char) :
    Resumes (state.stringStep quote) quote rest := by
  intro other hOther
  obtain ⟨body, hText, hResumes⟩ := stringTail_resumes hQuote rest [quote]
  refine ⟨body ++ other, ?_, ?_⟩
  · change (stringTail quote rest [quote]).1 ++ other = quote :: (body ++ other)
    rw [hText]
    simp
  · unfold stringStep
    rw [hResumes other hOther]

theorem templateStep_resumes (c : Char) (rest : List Char) :
    Resumes (state.templateStep c) c rest := by
  intro other hOther
  obtain ⟨body, hText, hResumes⟩ := templateTail_resumes rest [c]
  refine ⟨body ++ other, ?_, ?_⟩
  · change (templateTail rest [c]).1 ++ other = c :: (body ++ other)
    rw [hText]
    simp
  · unfold templateStep
    rw [(hResumes other hOther).2]

theorem singleStep_resumes (c : Char) (rest : List Char) :
    Resumes (state.singleStep c) c rest := by
  intro other _
  exact ⟨other, rfl, rfl⟩

theorem slashStep_resumes {rest : List Char} (hOpens : opensComment '/' rest = false)
    (hBarred : state.regexBarred = false)
    (hFound : state.regexAllowed = true → (regexTail false rest ['/']).isSome = true) :
    Resumes (state.construct '/') '/' rest := by
  intro other hOther
  rw [construct_slash state hOpens] at hOther ⊢
  cases hAllowed : state.regexAllowed with
  | true =>
    obtain ⟨⟨text, left⟩, hTail⟩ := Option.isSome_iff_exists.mp (hFound hAllowed)
    obtain ⟨body, hText, hResumes⟩ := regexTail_resumes hTail
    obtain ⟨hHead, hAgain⟩ := hResumes other
    refine ⟨body ++ other, ?_, ?_⟩
    · simp [slashStep, hAllowed, hBarred, hTail, hText]
    · rw [construct_slash state ((opensComment_congr hHead).trans hOpens)]
      simp [slashStep, hAllowed, hBarred, hTail, hAgain]
  | false =>
    have hStep : ∀ source, state.slashStep source = state.singleStep '/' source := by
      intro source
      simp [slashStep, hAllowed]
    rw [hStep] at hOther ⊢
    have hHead : other.head? = rest.head? := by
      apply hOther
      intro hSlash
      change rest.head? = some '/' at hSlash
      simp [opensComment, hSlash] at hOpens
    refine ⟨other, rfl, ?_⟩
    rw [construct_slash state ((opensComment_congr hHead).trans hOpens), hStep]
    rfl

/-- Every mark is found again in front of a replacement. -/
theorem construct_resumes {c : Char} {rest : List Char} (hMark : isBreak c = true)
    (hOpens : opensComment c rest = false) (hBarred : state.regexBarred = false)
    (hFails : state.failsAt c rest = false) : Resumes (state.construct c) c rest := by
  by_cases hQuote : (c == '"' || c == '\'') = true
  · have hEscape : c ≠ '\\' := by
      rintro rfl
      cases hQuote
    apply (stringStep_resumes state hEscape rest).congr
    intro source
    simp [construct, hQuote]
  by_cases hTick : (c == '`') = true
  · apply (templateStep_resumes state c rest).congr
    intro source
    simp [construct, hQuote, hTick]
  by_cases hClose : (c == '\x7d') = true
  · cases hHoles : state.holes with
    | nil =>
      apply (singleStep_resumes { state with depth := state.depth - 1 } c rest).congr
      intro source
      simp [construct, hQuote, hTick, hClose, hHoles]
    | cons hole outer =>
      by_cases hDepth : (hole == state.depth) = true
      · apply (templateStep_resumes { state with holes := outer } c rest).congr
        intro source
        simp [construct, hQuote, hTick, hClose, hHoles, hDepth]
      · apply (singleStep_resumes { state with depth := state.depth - 1 } c rest).congr
        intro source
        simp [construct, hQuote, hTick, hClose, hHoles, hDepth]
  by_cases hOpen : (c == '\x7b') = true
  · apply (singleStep_resumes { state with depth := state.depth + 1 } c rest).congr
    intro source
    simp [construct, hQuote, hTick, hClose, hOpen]
  obtain rfl : c = '/' := by
    unfold isBreak at hMark
    simp_all
  apply slashStep_resumes state hOpens hBarred
  intro hAllowed
  simpa [failsAt, hOpens, hAllowed, hBarred] using hFails

end ScanState

end SubmissionGate.Script
