import SubmissionGate.Proofs.Script.Partition
import SubmissionGate.Proofs.Script.Place
import SubmissionGate.Proofs.Script.Resumption
import SubmissionGate.Script.ApiUse

/-!
# Attempts that are not made

Behind a failed attempt at a regular expression the scan makes no other one until the line ends.
Beside it stands the scan that makes an attempt at every slash where a regular expression may start.
An attempt can fail because of a class that it opens or a carriage return that it meets, which
another one further on does not, so the two scans differ where such an attempt would succeed. In a
script with neither, what a failed attempt has seen holds for the later ones too.
-/

namespace SubmissionGate.Script

/-- Whether a regular expression that starts behind a slash comes to its end. -/
def closesRegex (rest : List Char) : Bool := (regexTail false rest ['/']).isSome

namespace ScanState

def unbarred (state : ScanState) : ScanState := { state with regexBarred := false }

/-- Only the bar keeps a regular expression from starting at a character. -/
structure PassesOver (state : ScanState) (c : Char) (rest : List Char) : Prop where
  slash : c = '/'
  opens : opensComment '/' rest = false
  allowed : state.regexAllowed = true
  barred : state.regexBarred = true
  closes : closesRegex rest = true

end ScanState

/-- The segments from a state on where no attempt at a regular expression is left out. -/
def eagerFrom (state : ScanState) (source : List Char) : List Segment :=
  match source with
  | [] => []
  | c :: rest =>
    have := state.unbarred.next_length c rest
    (state.unbarred.next c rest).segment ::
      eagerFrom (state.unbarred.next c rest).state (state.unbarred.next c rest).rest
termination_by source.length

def eagerScan (source : List Char) : List Segment := eagerFrom .start source

/-! Where the two scans part -/

namespace ScanState

variable (state : ScanState)

theorem afterText_unbarred (text : List Char) : (state.afterText text).unbarred = state.unbarred := by
  unfold afterText
  split
  · rfl
  · rfl

theorem construct_unbarred {c : Char} {rest : List Char} (h : ¬state.PassesOver c rest) :
    (state.unbarred.construct c rest).segment = (state.construct c rest).segment ∧
      (state.unbarred.construct c rest).rest = (state.construct c rest).rest ∧
      (state.unbarred.construct c rest).state.unbarred =
        (state.construct c rest).state.unbarred := by
  by_cases hSlash : c = '/'
  · subst hSlash
    cases hOpens : opensComment '/' rest with
    | true =>
      obtain ⟨-, hNext⟩ := (Bool.and_eq_true _ _).mp hOpens
      cases rest with
      | nil => cases hNext
      | cons second inner =>
        obtain rfl | rfl : second = '/' ∨ second = '*' := by simpa using hNext
        · exact ⟨rfl, rfl, rfl⟩
        · exact ⟨rfl, rfl, rfl⟩
    | false =>
      rw [construct_slash _ hOpens, construct_slash _ hOpens]
      cases hAllowed : state.regexAllowed with
      | false => simp [slashStep, unbarred, singleStep, nested, hAllowed]
      | true =>
        cases hBarred : state.regexBarred with
        | false =>
          have hSame : state.unbarred = state := by rw [unbarred, ← hBarred]
          rw [hSame]
          exact ⟨rfl, rfl, rfl⟩
        | true =>
          have hTail : regexTail false rest ['/'] = none := by
            simpa [closesRegex] using fun hCloses => h ⟨rfl, hOpens, hAllowed, hBarred, hCloses⟩
          simp [slashStep, unbarred, singleStep, nested, hAllowed, hBarred, hTail]
  · obtain ⟨depth, holes, allowed, barred⟩ := state
    unfold construct unbarred
    cases holes with
    | nil =>
      simp only [beq_iff_eq, hSlash, if_false]
      repeat' split
      all_goals exact ⟨rfl, rfl, rfl⟩
    | cons hole outer =>
      simp only [beq_iff_eq, hSlash, if_false]
      repeat' split
      all_goals exact ⟨rfl, rfl, rfl⟩

theorem next_unbarred {c : Char} {rest : List Char} (h : ¬state.PassesOver c rest) :
    (state.unbarred.next c rest).segment = (state.next c rest).segment ∧
      (state.unbarred.next c rest).rest = (state.next c rest).rest ∧
      (state.unbarred.next c rest).state.unbarred = (state.next c rest).state.unbarred := by
  obtain ⟨hSegment, hRest, hState⟩ := state.construct_unbarred h
  refine ⟨hSegment, hRest, ?_⟩
  unfold next
  rw [afterText_unbarred, afterText_unbarred, hState]

theorem PassesOver.kinds {state : ScanState} {c : Char} {rest : List Char}
    (h : state.PassesOver c rest) :
    (state.next c rest).segment.kind = .code ∧
      (state.unbarred.next c rest).segment.kind = .regex := by
  obtain ⟨rfl, hOpens, hAllowed, hBarred, hCloses⟩ := h
  obtain ⟨found, hTail⟩ := Option.isSome_iff_exists.mp hCloses
  rw [next_segment, next_segment, construct_slash _ hOpens, construct_slash _ hOpens]
  simp [slashStep, unbarred, singleStep, hAllowed, hBarred, hTail]

end ScanState

theorem eagerFrom_unbarred (state : ScanState) (source : List Char) :
    eagerFrom state.unbarred source = eagerFrom state source := by
  cases source with
  | nil => simp [eagerFrom]
  | cons c rest =>
    rw [eagerFrom, eagerFrom]
    rfl

/-- The two scans from a state find the same segments exactly if nothing is passed over. -/
theorem segmentsFrom_eq_eagerFrom_iff (state : ScanState) (source : List Char) :
    segmentsFrom state source = eagerFrom state source ↔
      ∀ before place c rest, ComesTo state source before place (c :: rest) →
        ¬place.PassesOver c rest := by
  fun_induction scanFrom state source [] with
  | case1 state found =>
    refine iff_of_true (by simp [segmentsFrom_nil, eagerFrom]) ?_
    intro before place c rest hPlace
    have hSpell := hPlace.spell
    simp at hSpell
  | case2 state found c rest step _ ih =>
    rw [segmentsFrom_cons, eagerFrom]
    by_cases hPasses : state.PassesOver c rest
    · obtain ⟨hCode, hRegex⟩ := hPasses.kinds
      refine iff_of_false ?_ fun h => h [] state c rest .here hPasses
      intro hSame
      rw [(List.cons.inj hSame).1, hRegex] at hCode
      cases hCode
    · obtain ⟨hSegment, hRest, hState⟩ := state.next_unbarred hPasses
      rw [hSegment, hRest, ← eagerFrom_unbarred (state.unbarred.next c rest).state, hState,
        eagerFrom_unbarred, List.cons_inj_right, ih]
      constructor
      · intro h before place d tail hPlace
        obtain ⟨-, rfl, hLeft⟩ | ⟨later, -, hLater⟩ := hPlace.first
        · obtain ⟨rfl, rfl⟩ := List.cons.inj hLeft
          exact hPasses
        · exact h later place d tail hLater
      · intro h before place d tail hPlace
        exact h _ place d tail hPlace.behind

/-! What a failed attempt has seen -/

theorem regexTail_isSome (inClass : Bool) (source taken other : List Char) :
    (regexTail inClass source taken).isSome = (regexTail inClass source other).isSome := by
  fun_induction regexTail inClass source taken generalizing other with
  | case1 => rfl
  | case2 inClass c rest taken ih => exact ih _
  | case3 inClass c rest taken hEscape hLine =>
    rw [regexTail, if_pos hLine]
    exact hEscape
  | case4 inClass c rest taken hEscape hLine hCloses =>
    rw [regexTail, if_neg hLine, if_pos hCloses]
    · rfl
    · exact hEscape
  | case5 inClass c rest taken hEscape hLine hCloses inner ih =>
    rw [regexTail, if_neg hLine, if_neg hCloses]
    · exact ih _
    · exact hEscape

theorem closesRegex_pair (c : Char) (rest : List Char) :
    closesRegex ('\\' :: c :: rest) = closesRegex rest := by
  rw [closesRegex, regexTail]
  exact regexTail_isSome false rest _ _

theorem closesRegex_slash (rest : List Char) : closesRegex ('/' :: rest) = true := by
  simp [closesRegex, regexTail]

/-- A character that says nothing about where a regular expression ends. -/
def IsNeutral (c : Char) : Prop := c ≠ '\\' ∧ c ≠ '/' ∧ c ≠ '[' ∧ c ≠ '\n' ∧ c ≠ '\r'

theorem closesRegex_cons {c : Char} (h : IsNeutral c) (rest : List Char) :
    closesRegex (c :: rest) = closesRegex rest := by
  obtain ⟨hEscape, hSlash, hOpens, hFeed, hReturn⟩ := h
  rw [closesRegex, regexTail_cons hEscape, if_neg (by simp [hFeed, hReturn]),
    if_neg (by simp [hSlash]), if_neg (by simp [hOpens]), ite_self]
  exact regexTail_isSome false rest _ _

/-- A text without classes and line breaks. -/
def Smooth (text : List Char) : Prop := ∀ c ∈ text, c ≠ '[' ∧ c ≠ '\n' ∧ c ≠ '\r'

theorem closesRegex_append {text left : List Char} (hSmooth : Smooth text)
    (h : closesRegex (text ++ left) = false) :
    closesRegex (if Escapes text then left.tail else left) = false := by
  match text with
  | [] => exact h
  | c :: text =>
    by_cases hBackslash : c = '\\'
    · subst hBackslash
      match text with
      | [] =>
        rw [if_pos escapes_backslash]
        cases left with
        | nil => rfl
        | cons d rest => rwa [List.singleton_append, closesRegex_pair] at h
      | d :: text =>
        rw [List.cons_append, List.cons_append, closesRegex_pair] at h
        simp only [escapes_pair]
        refine closesRegex_append ?_ h
        intro e he
        exact hSmooth e (List.mem_cons_of_mem _ (List.mem_cons_of_mem _ he))
    · have hSlash : c ≠ '/' := by
        rintro rfl
        rw [List.cons_append, closesRegex_slash] at h
        cases h
      obtain ⟨hOpens, hFeed, hReturn⟩ := hSmooth c List.mem_cons_self
      rw [List.cons_append, closesRegex_cons ⟨hBackslash, hSlash, hOpens, hFeed, hReturn⟩] at h
      simp only [escapes_cons hBackslash]
      refine closesRegex_append ?_ h
      intro e he
      exact hSmooth e (List.mem_cons_of_mem _ he)

/-- No slash closes a regular expression that starts where a scan stands, or behind the mark that it
reads there. -/
def NothingCloses (left : List Char) : Prop :=
  ∀ c rest, left = c :: rest → closesRegex (if isBreak c then rest else left) = false

namespace NothingCloses

variable {c : Char} {rest left : List Char}

theorem nil : NothingCloses [] := by
  intro c rest h
  cases h

theorem mark (hMark : isBreak c = true) (h : closesRegex rest = false) :
    NothingCloses (c :: rest) := by
  intro d other hSame
  obtain ⟨rfl, rfl⟩ := List.cons.inj hSame
  rwa [if_pos hMark]

theorem run (hRun : isBreak c = false) (h : closesRegex (c :: rest) = false) :
    NothingCloses (c :: rest) := by
  intro d other hSame
  obtain ⟨rfl, rfl⟩ := List.cons.inj hSame
  rwa [if_neg (by simp [hRun])]

theorem of_closesRegex (h : closesRegex left = false) : NothingCloses left := by
  cases left with
  | nil => exact nil
  | cons c rest =>
    cases hMark : isBreak c with
    | false => exact run hMark h
    | true =>
      apply mark hMark
      simp only [isBreak, Bool.or_eq_true, beq_iff_eq] at hMark
      obtain ((((rfl | rfl) | rfl) | rfl) | rfl) | rfl := hMark
      · rwa [closesRegex_cons (by simp [IsNeutral])] at h
      · rwa [closesRegex_cons (by simp [IsNeutral])] at h
      · rwa [closesRegex_cons (by simp [IsNeutral])] at h
      · rw [closesRegex_slash] at h
        cases h
      · rwa [closesRegex_cons (by simp [IsNeutral])] at h
      · rwa [closesRegex_cons (by simp [IsNeutral])] at h

theorem of_feed (h : left.head? = some '\n') : NothingCloses left := by
  obtain ⟨rest, rfl⟩ := List.head?_eq_some_iff.mp h
  exact of_closesRegex rfl

end NothingCloses

theorem Shaped.aligned {kind : SegmentKind} {c : Char} {tail left : List Char}
    (h : Shaped kind (c :: tail) left) (hMark : isBreak c = true) :
    left = [] ∨ left.head? = some '\n' ∨ ¬Escapes tail := by
  generalize hText : c :: tail = text at h
  cases h with
  | run hRun =>
    subst hText
    rw [hRun c List.mem_cons_self] at hMark
    cases hMark
  | single =>
    obtain rfl := (List.cons.inj hText).2
    exact .inr (.inr not_escapes_nil)
  | closedString hQuote =>
    obtain rfl := (List.cons.inj hText).2
    refine .inr (.inr (not_escapes_concat ?_ _))
    obtain rfl | rfl := hQuote
    · decide
    · decide
  | brokenString => exact .inr (.inl rfl)
  | openString => exact .inl rfl
  | @closedTemplate _ inner _ _ _ _ _ hCloser =>
    obtain rfl := (List.cons.inj hText).2
    obtain rfl | rfl := hCloser
    · exact .inr (.inr (not_escapes_concat (by decide) _))
    · have hTwo : inner ++ ['$', '\x7b'] = (inner ++ ['$']) ++ ['\x7b'] := by simp
      change _ ∨ _ ∨ ¬Escapes (inner ++ ['$', '\x7b'])
      rw [hTwo]
      exact .inr (.inr (not_escapes_concat (by decide) _))
  | openTemplate => exact .inl rfl
  | regex =>
    obtain rfl := (List.cons.inj hText).2
    exact .inr (.inr (not_escapes_concat (by decide) _))
  | lineComment _ hEnd =>
    cases left with
    | nil => exact .inl rfl
    | cons d rest => exact .inr (.inl (congrArg some (hEnd d rfl)))
  | @closedBlock inner =>
    obtain rfl := (List.cons.inj hText).2
    have hTwo : '*' :: (inner ++ ['*', '/']) = ('*' :: (inner ++ ['*'])) ++ ['/'] := by simp
    change _ ∨ _ ∨ ¬Escapes ('*' :: (inner ++ ['*', '/']))
    rw [hTwo]
    exact .inr (.inr (not_escapes_concat (by decide) _))
  | openBlock => exact .inl rfl

namespace NothingCloses

variable {state : ScanState} {c : Char} {rest : List Char}

theorem step (h : NothingCloses (c :: rest)) (hSmooth : Smooth (state.next c rest).segment.text) :
    NothingCloses (state.next c rest).rest := by
  obtain ⟨tail, hText⟩ := state.construct_text c rest
  have hAppend := state.next_append c rest
  rw [state.next_segment, hText] at hSmooth
  rw [state.next_segment, hText, List.cons_append] at hAppend
  obtain ⟨-, hRest⟩ := List.cons.inj hAppend
  have hCloses := h c rest rfl
  cases hMark : isBreak c with
  | true =>
    rw [if_pos hMark, ← hRest] at hCloses
    have hLeft := closesRegex_append (fun d hd => hSmooth d (List.mem_cons_of_mem _ hd)) hCloses
    have hShaped := state.construct_shaped c rest
    rw [hText] at hShaped
    obtain hNone | hFeed | hPlain := hShaped.aligned hMark
    · change NothingCloses (state.construct c rest).rest
      rw [hNone]
      exact nil
    · exact of_feed hFeed
    · rw [if_neg hPlain] at hLeft
      exact of_closesRegex hLeft
  | false =>
    rw [if_neg (by simp [hMark]), ← hRest, ← List.cons_append] at hCloses
    have hLeft := closesRegex_append hSmooth hCloses
    split at hLeft
    · -- An escaped character ends the run, so it is the next mark.
      have hRun : (state.next c rest).rest = (c :: rest).dropWhile fun d => !isBreak d :=
        congrArg Step.rest (state.construct_run hMark rest)
      have hStop := List.head?_dropWhile_not (fun d => !isBreak d) (c :: rest)
      rw [← hRun] at hStop
      cases hNext : (state.next c rest).rest with
      | nil => exact nil
      | cons d left =>
        rw [hNext] at hStop hLeft
        exact mark (by simpa using hStop) hLeft
    · exact of_closesRegex hLeft

end NothingCloses

theorem ComesTo.subset {source left : List Char} {before : List Segment} {state : ScanState}
    (h : ComesTo .start source before state left) {c : Char} (hAbsent : c ∉ source) : c ∉ left := by
  intro hMem
  rw [← h.spell] at hAbsent
  exact hAbsent (List.mem_append_right _ hMem)

/-- Behind a failed attempt on its line a script without class brackets and carriage returns has
nothing that closes a regular expression. -/
theorem ComesTo.nothingCloses {source left : List Char} {before : List Segment} {state : ScanState}
    (hOpens : '[' ∉ source) (hReturn : '\r' ∉ source) (h : ComesTo .start source before state left)
    (hBarred : state.regexBarred = true) : NothingCloses left := by
  induction h with
  | here => cases hBarred
  | @next before state c rest h ih =>
    obtain ⟨hCause, hFeed⟩ := (state.next_regexBarred c rest).mp hBarred
    have hHere : NothingCloses (c :: rest) := by
      obtain hBarred | hFails := hCause
      · exact ih hBarred
      · obtain rfl := state.slash_of_failsAt hFails
        apply NothingCloses.mark rfl
        simp only [ScanState.failsAt, Bool.and_eq_true, Option.isNone_iff_eq_none] at hFails
        simp [closesRegex, hFails.2]
    apply hHere.step
    intro d hd
    have hMem : d ∈ c :: rest := by
      rw [← state.next_append c rest]
      exact List.mem_append_left _ hd
    refine ⟨?_, ?_, ?_⟩
    · rintro rfl
      exact h.subset hOpens hMem
    · rintro rfl
      exact hFeed hd
    · rintro rfl
      exact h.subset hReturn hMem

/-- The scan is the one that leaves no attempt out exactly if no slash where a regular expression may
start, behind a failed attempt on its line, starts one that closes. In a script without class
brackets and carriage returns none does. -/
theorem scan_eq_eagerScan_iff (source : List Char) :
    (scan source = eagerScan source ↔
      ∀ before state rest, ComesTo .start source before state ('/' :: rest) →
        opensComment '/' rest = false → state.regexAllowed = true →
        BehindFailure .start source before → closesRegex rest = false) ∧
    ('[' ∉ source → '\r' ∉ source → scan source = eagerScan source) := by
  have hIff := segmentsFrom_eq_eagerFrom_iff .start source
  refine ⟨hIff.trans ⟨?_, ?_⟩, ?_⟩
  · intro h before state rest hPlace hOpens hAllowed hBehind
    have hBarred := (hPlace.regexBarred_iff rfl).mpr hBehind
    exact Bool.eq_false_iff.mpr fun hCloses =>
      h before state '/' rest hPlace ⟨rfl, hOpens, hAllowed, hBarred, hCloses⟩
  · rintro h before state c rest hPlace ⟨rfl, hOpens, hAllowed, hBarred, hCloses⟩
    have hBehind := (hPlace.regexBarred_iff rfl).mp hBarred
    rw [h before state rest hPlace hOpens hAllowed hBehind] at hCloses
    cases hCloses
  · intro hClass hReturn
    apply hIff.mpr
    rintro before state c rest hPlace ⟨rfl, -, -, hBarred, hCloses⟩
    have hNone : closesRegex rest = false :=
      hPlace.nothingCloses hClass hReturn hBarred '/' rest rfl
    rw [hCloses] at hNone
    cases hNone

def classScript : List Char := "/[/a/".toList

/-- The first attempt ends at the carriage return, and the second one stands behind it. -/
def returnScript : List Char := "/\r/a/".toList

/-- Behind a division, which is taken for a failed attempt, the scan leaves a regular expression
out, and its quote turns a string into a comment. -/
def mutedScript : List Char := "x={}/a[b];y=[/'/,'/*'];eval(1)".toList

/-- A regular expression is left out in each of these scripts; in the last one the scan hides a call
with it. -/
theorem scan_leaves_attempts_out :
    scan classScript ≠ eagerScan classScript ∧ scan returnScript ≠ eagerScan returnScript ∧
      scan mutedScript ≠ eagerScan mutedScript ∧
      forbiddenUses (Text.collapse (stripComments mutedScript)) Rules.forbiddenTokens = [] ∧
      (eagerScan mutedScript).flatMap Segment.kept = mutedScript ∧
      forbiddenUses (Text.collapse mutedScript) Rules.forbiddenTokens =
        [⟨"eval(", "dynamic_code"⟩] := by
  refine ⟨?_, ?_, ?_, ?_, ?_, ?_⟩ <;> decide +kernel

end SubmissionGate.Script
