import SubmissionGate.Proofs.Gate.Expiry
import SubmissionGate.Proofs.Gate.Findings

/-!
# The shape of a verdict

The issues of a course are those of the stages that ran, in their order. So the errors of a verdict
fall into parts by their codes, and at most one error closes them; the warnings are a note on a
manifest and the advice on the text, which does not depend on what the deciding stages found.
-/

namespace SubmissionGate

def Context.decoding (context : Context) (text : List Char) : Context :=
  match context.resolved.kind with
  | .html =>
    match Markup.Document.ofText text with
    | .ok document =>
      { context with
        text := some text
        document := some document
        units := document.codeUnits.map CodeUnit.mk }
    | .error _ => { context with text := some text }
  | _ => context.withScript text

namespace Gate

open Run SubmissionGate.Bundle

/-! ## Courses -/

/-- The course of a context through stages: the issues that were found and the context at the
end. -/
inductive Passes [Platform] : Context → List Stage → List Issue → Context → Prop
  | done (context : Context) : Passes context [] [] context
  | skipped {context after : Context} {stage : Stage} {stages : List Stage} {issues : List Issue}
      (hSkip : stage.appliesTo context = false) (hRest : Passes context stages issues after) :
      Passes context (stage :: stages) issues after
  | stopped {context : Context} {stage : Stage} {stages : List Stage} {report : Report}
      (hApplies : stage.appliesTo context = true)
      (hRun : (stage.run context).finish = .ok report) (hStops : report.stops = true) :
      Passes context (stage :: stages) report.issues report.context
  | passed {context after : Context} {stage : Stage} {stages : List Stage} {report : Report}
      {issues : List Issue} (hApplies : stage.appliesTo context = true)
      (hRun : (stage.run context).finish = .ok report) (hGoesOn : report.stops = false)
      (hRest : Passes report.context stages issues after) :
      Passes context (stage :: stages) (report.issues ++ issues) after

/-- The deciding stages that come to a verdict took a course, and the verdict has its issues. -/
theorem passes_of_runGating [Platform] {context after : Context} {verdict outcome : Verdict}
    {stages : List Stage} (h : (runGating context verdict stages).finish = .ok (after, outcome)) :
    ∃ issues, Passes context stages issues after ∧ outcome = verdict.extend issues := by
  induction stages generalizing context verdict with
  | nil =>
    cases h
    exact ⟨[], .done _, rfl⟩
  | cons stage rest ih =>
    rw [finish_runGating_cons] at h
    split at h
    · next hApplies =>
      obtain ⟨report, hRun, h⟩ := Except.bind_eq_ok h
      split at h
      · next hStops =>
        cases h
        exact ⟨_, .stopped hApplies hRun hStops, rfl⟩
      · next hGoesOn =>
        obtain ⟨issues, hPasses, hOutcome⟩ := ih h
        refine ⟨_, .passed hApplies hRun (by simpa using hGoesOn) hPasses, ?_⟩
        rw [hOutcome, Verdict.extend_extend]
    · next hSkip =>
      obtain ⟨issues, hPasses, hOutcome⟩ := ih h
      exact ⟨issues, .skipped (by simpa using hSkip) hPasses, hOutcome⟩

/-- The errors of a course, stage by stage, up to one that closes them. -/
inductive Arranged (rules : RuleTables) : List Stage → List Issue → Prop
  | done : Arranged rules [] []
  | part {stage : Stage} {stages : List Stage} {found errors : List Issue}
      (hFound : Ordinary rules stage found) (hRest : Arranged rules stages errors) :
      Arranged rules (stage :: stages) (found ++ errors)
  | closed {stage : Stage} {stages : List Stage} {errors : List Issue}
      (hClosing : Closing stage errors) : Arranged rules (stage :: stages) errors

theorem ordinary_nil (rules : RuleTables) (stage : Stage) : Ordinary rules stage [] := by
  cases stage with
  | canvas => exact ⟨allErrors_nil _, by simp⟩
  | methods => exact ⟨[], List.nil_sublist _, rfl⟩
  | forbiddenApis => exact ⟨[], List.nil_sublist _, List.nodup_nil, rfl⟩
  | assetBundle => exact allErrors_nil _
  | requiredTags => exact allErrors_nil _
  | externalScripts => exact allErrors_nil _
  | libraries => exact allErrors_nil _
  | _ => rfl

theorem Passes.arranged [Platform] {context after : Context} {stages : List Stage}
    {issues : List Issue}
    (h : Passes context stages issues after) (hGating : ∀ stage ∈ stages, stage ∈ Stage.gating) :
    Arranged context.rules stages (errorsOf issues) := by
  induction h with
  | done context => exact .done
  | skipped hSkip hRest ih =>
    exact .part (ordinary_nil _ _) (ih fun stage h => hGating stage (List.mem_cons_of_mem _ h))
  | stopped hApplies hRun hStops =>
    exact .closed ((gating_tells (hGating _ List.mem_cons_self) hRun).closing hStops)
  | passed hApplies hRun hGoesOn hRest ih =>
    have hTells := gating_tells (hGating _ List.mem_cons_self) hRun
    have hLater := ih fun stage h => hGating stage (List.mem_cons_of_mem _ h)
    rw [hTells.rules] at hLater
    rw [errorsOf_append]
    exact .part (hTells.ordinary hGoesOn) hLater

theorem Passes.noted [Platform] {context after : Context} {stages : List Stage}
    {issues : List Issue}
    (h : Passes context stages issues after) (hGating : ∀ stage ∈ stages, stage ∈ Stage.gating) :
    (warningsOf issues).length ≤ stages.count .assetBundle ∧
      ∀ issue ∈ warningsOf issues, issue.code = .manifestIgnored := by
  have hReport : ∀ {context : Context} {stage : Stage} {stages : List Stage} {report : Report},
      (∀ other ∈ stage :: stages, other ∈ Stage.gating) → (stage.run context).finish = .ok report →
      (warningsOf report.issues).length ≤ [stage].count .assetBundle ∧
        ∀ issue ∈ warningsOf report.issues, issue.code = .manifestIgnored := by
    intro context stage stages report hGating hRun
    have hNotes := (gating_tells (hGating _ List.mem_cons_self) hRun).notes
    split at hNotes
    · next hBundle =>
      subst hBundle
      exact ⟨hNotes.1, fun issue hIssue => (hNotes.2 issue hIssue).2⟩
    · rw [hNotes]
      exact ⟨Nat.zero_le _, fun issue h => by cases h⟩
  induction h with
  | done context => exact ⟨Nat.zero_le _, fun issue h => by cases h⟩
  | skipped hSkip hRest ih =>
    obtain ⟨hLength, hCodes⟩ := ih fun stage h => hGating stage (List.mem_cons_of_mem _ h)
    exact ⟨hLength.trans (List.count_le_count_cons ..), hCodes⟩
  | @stopped context stage stages report hApplies hRun hStops =>
    obtain ⟨hLength, hCodes⟩ := hReport hGating hRun
    refine ⟨hLength.trans ?_, hCodes⟩
    exact (List.sublist_append_left [stage] stages).count_le _
  | @passed context after stage stages report issues hApplies hRun hGoesOn hRest ih =>
    obtain ⟨hLength, hCodes⟩ := hReport hGating hRun
    obtain ⟨hLengths, hLater⟩ := ih fun stage h => hGating stage (List.mem_cons_of_mem _ h)
    rw [warningsOf_append, List.length_append, ← List.singleton_append, List.count_append]
    refine ⟨Nat.add_le_add hLength hLengths, fun issue hIssue => ?_⟩
    rcases List.mem_append.mp hIssue with hMem | hMem
    · exact hCodes issue hMem
    · exact hLater issue hMem

/-! ## Parts of the errors -/

/-- The errors of a verdict by their codes, in the order in which they stand. -/
structure ErrorParts where
  bundle : List Issue
  markup : List Issue
  canvas : List Issue
  scripts : List Issue
  methods : List Rules.RequiredMethod
  tokens : List Rules.ForbiddenToken
  closing : List Issue

namespace ErrorParts

def none : ErrorParts := ⟨[], [], [], [], [], [], []⟩

def all (parts : ErrorParts) (rules : RuleTables) : List Issue :=
  parts.bundle ++ parts.markup ++ parts.canvas ++ parts.scripts ++
    parts.methods.map (missingMethod rules) ++ parts.tokens.map forbiddenUse ++ parts.closing

structure Fits (parts : ErrorParts) : Prop where
  bundle : AllErrors .invalidAssetBundle parts.bundle
  markup : AllErrors .invalidHtml parts.markup
  canvas : AllErrors .missingCanvas parts.canvas ∧ parts.canvas.length ≤ 1
  scripts : AllErrors .invalidExternalScript parts.scripts
  methods : parts.methods.Sublist Rules.requiredMethods ∧ (parts.methods.map (·.name)).Nodup
  tokens : parts.tokens.Sublist Rules.forbiddenTokens ∧ (parts.tokens.map (·.token)).Nodup
  closing : parts.closing.length ≤ 1 ∧ ∀ issue ∈ parts.closing,
    issue.code ∈ [IssueCode.fileTooLarge, .invalidGameFile, .missingGameObject]
  last : parts.closing ≠ [] → parts.methods = [] ∧ parts.tokens = []

theorem none_fits : none.Fits where
  bundle := allErrors_nil _
  markup := allErrors_nil _
  canvas := ⟨allErrors_nil _, Nat.zero_le _⟩
  scripts := allErrors_nil _
  methods := ⟨List.nil_sublist _, List.nodup_nil⟩
  tokens := ⟨List.nil_sublist _, List.nodup_nil⟩
  closing := ⟨Nat.zero_le _, fun issue h => by cases h⟩
  last := fun h => absurd rfl h

theorem closed_fits (issue : Issue)
    (hCode : issue.code ∈ [IssueCode.fileTooLarge, .invalidGameFile, .missingGameObject]) :
    ({ none with closing := [issue] } : ErrorParts).Fits :=
  { none_fits with
    closing := ⟨Nat.le_refl 1, fun other hOther => by
      rwa [List.mem_singleton.mp hOther]⟩
    last := fun _ => ⟨rfl, rfl⟩ }

end ErrorParts

theorem Arranged.uncons {rules : RuleTables} {stage : Stage} {stages : List Stage}
    {errors : List Issue} (h : Arranged rules (stage :: stages) errors) :
    Closing stage errors ∨ ∃ found rest, Ordinary rules stage found ∧
      Arranged rules stages rest ∧ errors = found ++ rest := by
  cases h with
  | part hFound hRest => exact .inr ⟨_, _, hFound, hRest, rfl⟩
  | closed hClosing => exact .inl hClosing

theorem requiredMethods_nodup : (Rules.requiredMethods.map (·.name)).Nodup := by decide

theorem tokens_nodup {tokens : List Rules.ForbiddenToken} (h : (tokens.map (·.needle)).Nodup) :
    (tokens.map (·.token)).Nodup := by
  have hNeedles : tokens.map (·.needle) =
      (tokens.map (·.token)).map fun token => Text.collapse token.toList := by
    rw [List.map_map]
    rfl
  rw [hNeedles] at h
  exact h.of_map _

theorem Arranged.scriptParts {rules : RuleTables}
    (hMethods : rules.requiredMethods = Rules.requiredMethods)
    (hTokens : rules.forbiddenRules = Rules.forbiddenTokens) {errors : List Issue}
    (hAll : Arranged rules [.libraries, .gameObject, .methods, .forbiddenApis] errors) :
    ∃ parts : ErrorParts, parts.Fits ∧ errors = parts.all rules ∧ parts.bundle = [] ∧
      parts.markup = [] ∧ parts.canvas = [] := by
  rcases hAll.uncons with hNone | ⟨libraries, _, hLibraries, hGame, rfl⟩
  · exact hNone.elim
  rcases hGame.uncons with ⟨issue, rfl, hCode⟩ | ⟨_, _, rfl, hMethod, rfl⟩
  · refine ⟨{ ErrorParts.none with scripts := libraries, closing := [issue] },
      { ErrorParts.closed_fits issue (by rw [hCode]; decide) with
        scripts := hLibraries }, ?_, rfl, rfl, rfl⟩
    simp [ErrorParts.all, ErrorParts.none]
  rcases hMethod.uncons with hNone | ⟨_, _, ⟨specs, hSpecs, rfl⟩, hToken, rfl⟩
  · exact hNone.elim
  rcases hToken.uncons with hNone | ⟨_, _, ⟨tokens, hListed, hNodup, rfl⟩, hEnd, rfl⟩
  · exact hNone.elim
  cases hEnd
  rw [hMethods] at hSpecs
  rw [hTokens] at hListed
  refine ⟨{ ErrorParts.none with scripts := libraries, methods := specs, tokens := tokens },
    { ErrorParts.none_fits with
      scripts := hLibraries
      methods := ⟨hSpecs, requiredMethods_nodup.sublist (hSpecs.map _)⟩
      tokens := ⟨hListed, tokens_nodup hNodup⟩
      last := fun h => absurd rfl h }, ?_, rfl, rfl, rfl⟩
  simp [ErrorParts.all, ErrorParts.none]

/-- The errors of a course through all deciding stages fall into parts. -/
theorem Arranged.parts {rules : RuleTables}
    (hMethods : rules.requiredMethods = Rules.requiredMethods)
    (hTokens : rules.forbiddenRules = Rules.forbiddenTokens) {errors : List Issue}
    (hAll : Arranged rules Stage.gating errors) :
    ∃ parts : ErrorParts, parts.Fits ∧ errors = parts.all rules := by
  rcases hAll.uncons with ⟨issue, rfl, hCode⟩ | ⟨_, _, rfl, hDecode, rfl⟩
  · exact ⟨_, ErrorParts.closed_fits issue (by rw [hCode]; decide), rfl⟩
  rcases hDecode.uncons with ⟨issue, rfl, hSeverity, hCode | hCode⟩ | ⟨_, _, rfl, hBundle, rfl⟩
  · exact ⟨_, ErrorParts.closed_fits issue (by rw [hCode]; decide), rfl⟩
  · refine ⟨{ ErrorParts.none with markup := [issue] },
      { ErrorParts.none_fits with markup := fun other hOther => ?_ }, rfl⟩
    rw [List.mem_singleton.mp hOther]
    exact ⟨hSeverity, hCode⟩
  rcases hBundle.uncons with ⟨layout, closing, rfl, hLayout, hLength, hCodes⟩ |
    ⟨layout, _, hLayout, hTags, rfl⟩
  · refine ⟨{ ErrorParts.none with bundle := layout, closing },
      { ErrorParts.none_fits with
        bundle := hLayout
        closing := ⟨hLength, fun issue hIssue => ?_⟩
        last := fun _ => ⟨rfl, rfl⟩ }, ?_⟩
    · rcases hCodes issue hIssue with hCode | hCode <;> rw [hCode] <;> decide
    · simp [ErrorParts.all, ErrorParts.none]
  rcases hTags.uncons with hNone | ⟨markup, _, hMarkup, hFromCanvas, rfl⟩
  · exact hNone.elim
  rcases hFromCanvas.uncons with hNone | ⟨canvas, _, hCanvas, hFromScripts, rfl⟩
  · exact hNone.elim
  rcases hFromScripts.uncons with hNone | ⟨scripts, _, hScripts, hRest, rfl⟩
  · exact hNone.elim
  obtain ⟨parts, hFits, rfl, hNoBundle, hNoMarkup, hNoCanvas⟩ := hRest.scriptParts hMethods hTokens
  refine ⟨{ parts with
      bundle := layout
      markup := markup
      canvas := canvas
      scripts := scripts ++ parts.scripts },
    { hFits with
      bundle := hLayout
      markup := hMarkup
      canvas := hCanvas
      scripts := allErrors_append hScripts hFits.scripts }, ?_⟩
  simp [ErrorParts.all, hNoBundle, hNoMarkup, hNoCanvas]

/-! ## The text and the advice on it -/

/-- The text of a submission is decoded: its payload fits, and it is text or it is a bundle whose
script was handed on. -/
def TextDecoded [Platform] (context : Context) (text : List Char) : Prop :=
  (context.submission.payload.size : Int) ≤ context.resolved.sizeLimit ∧
    if context.resolved.kind = .assetBundle then ScriptRead context text
    else Decodes context.submission.payload text

def advice (context : Context) : List Issue :=
  (if Stage.hasDocument context then viewportIssues context else []) ++ advisoryIssues context

theorem decodeStage_context (context : Context) :
    ((decodeStage context).context = context ∧
        ∀ text, ¬ Decodes context.submission.payload text) ∨
      ∃ text, Decodes context.submission.payload text ∧
        (context.resolved.kind ≠ .assetBundle →
          (decodeStage context).context = context.decoding text) := by
  unfold decodeStage
  split
  · next fault hFault =>
    refine .inl ⟨rfl, fun text hDecodes => ?_⟩
    rw [textOfPayload_ok_iff.mpr hDecodes] at hFault
    cases hFault
  · next text hText =>
    refine .inr ⟨text, textOfPayload_ok_iff.mp hText, fun hKind => ?_⟩
    unfold Context.decoding
    cases hHtml : context.resolved.kind with
    | html =>
      cases hDocument : Markup.Document.ofText text with
      | ok document => simp [hHtml, Report.clean]
      | error fault => simp [hHtml, Report.stopping]
    | script => simp [hHtml, Report.clean, Context.withScript]
    | assetBundle => exact absurd hHtml hKind

theorem run_keeps [Platform] {context : Context} {stage : Stage} {report : Report}
    (hDecode : stage ≠ .decode) (hBundle : stage ≠ .assetBundle)
    (hRun : (stage.run context).finish = .ok report) :
    report.context = { context with game := report.context.game } := by
  cases stage with
  | decode => exact absurd rfl hDecode
  | assetBundle => exact absurd rfl hBundle
  | gameObject =>
    cases hRun
    unfold gameStage
    split <;> rfl
  | _ =>
    cases hRun
    rfl

theorem Passes.uncons [Platform] {context after : Context} {stage : Stage} {stages : List Stage}
    {issues : List Issue} (h : Passes context (stage :: stages) issues after) :
    (stage.appliesTo context = false ∧ Passes context stages issues after) ∨
      (stage.appliesTo context = true ∧ ∃ report, (stage.run context).finish = .ok report ∧
        ((report.stops = true ∧ issues = report.issues ∧ after = report.context) ∨
          ∃ later, report.stops = false ∧ issues = report.issues ++ later ∧
            Passes report.context stages later after)) := by
  cases h with
  | skipped hSkip hRest => exact .inl ⟨hSkip, hRest⟩
  | stopped hApplies hRun hStops => exact .inr ⟨hApplies, _, hRun, .inl ⟨hStops, rfl, rfl⟩⟩
  | passed hApplies hRun hGoesOn hRest =>
    exact .inr ⟨hApplies, _, hRun, .inr ⟨_, hGoesOn, rfl, hRest⟩⟩

theorem Passes.keeps [Platform] {context after : Context} {stages : List Stage}
    {issues : List Issue} (h : Passes context stages issues after) (hDecode : .decode ∉ stages)
    (hBundle : .assetBundle ∈ stages → context.resolved.kind ≠ .assetBundle) :
    after = { context with game := after.game } := by
  induction h with
  | done context => rfl
  | skipped hSkip hRest ih =>
    exact ih (fun hMem => hDecode (List.mem_cons_of_mem _ hMem))
      fun hMem => hBundle (List.mem_cons_of_mem _ hMem)
  | stopped hApplies hRun hStops =>
    refine run_keeps (fun h => hDecode (h ▸ List.mem_cons_self)) (fun h => ?_) hRun
    subst h
    exact hBundle List.mem_cons_self (by simpa [Stage.appliesTo] using hApplies)
  | @passed context after stage stages report issues hApplies hRun hGoesOn hRest ih =>
    have hKept : report.context = { context with game := report.context.game } := by
      refine run_keeps (fun h => hDecode (h ▸ List.mem_cons_self)) (fun h => ?_) hRun
      subst h
      exact hBundle List.mem_cons_self (by simpa [Stage.appliesTo] using hApplies)
    have hResolved : report.context.resolved = context.resolved := by rw [hKept]
    have hAfter := ih (fun hMem => hDecode (List.mem_cons_of_mem _ hMem))
      fun hMem => hResolved ▸ hBundle (List.mem_cons_of_mem _ hMem)
    rw [hAfter, hKept]

theorem payloadIssues_isEmpty_iff {context : Context} : (payloadIssues context).isEmpty = true ↔
    (context.submission.payload.size : Int) ≤ context.resolved.sizeLimit := by
  unfold payloadIssues
  simp only
  split
  · next hFits => simp [hFits]
  · next hOver => simp [hOver]

theorem payloadIssues_over {context : Context}
    (hOver : context.resolved.sizeLimit < context.submission.payload.size) :
    payloadIssues context = [oversized (sizeLabel context.resolved)
      context.submission.payload.size context.resolved.sizeLimit []] := by
  unfold payloadIssues
  exact if_neg (Int.not_le.mpr hOver)

theorem Passes.keeps_report [Platform] {report : Report} {after : Context} {stages : List Stage}
    {issues : List Issue} (hDecode : .decode ∉ stages)
    (hBundle : .assetBundle ∈ stages → report.context.resolved.kind ≠ .assetBundle)
    (h : (report.stops = true ∧ issues = report.issues ∧ after = report.context) ∨
      ∃ later, report.stops = false ∧ issues = report.issues ++ later ∧
        Passes report.context stages later after) :
    after = { report.context with game := after.game } := by
  rcases h with ⟨-, -, rfl⟩ | ⟨later, -, -, hRest⟩
  · rfl
  · exact hRest.keeps hDecode hBundle

theorem decoding_keeps (context : Context) (text : List Char) :
    (context.decoding text).resolved = context.resolved ∧
      (context.decoding text).rules = context.rules ∧ (context.decoding text).text = some text := by
  unfold Context.decoding
  split
  · split <;> exact ⟨rfl, rfl, rfl⟩
  · exact ⟨rfl, rfl, rfl⟩

/-- A course through all deciding stages ends with a payload that is too large, or with the context
that the decoded text gives. -/
theorem Passes.gating [Platform] {context after : Context} {issues : List Issue}
    (h : Passes context Stage.gating issues after) :
    (context.resolved.sizeLimit < context.submission.payload.size ∧
        issues = payloadIssues context ∧ after = context) ∨
      ((context.submission.payload.size : Int) ≤ context.resolved.sizeLimit ∧
        ((after = { context with game := after.game } ∧ ∀ text, ¬ TextDecoded context text) ∨
          ∃ text, TextDecoded context text ∧
            after = { context.decoding text with game := after.game })) := by
  obtain ⟨hNever, -⟩ | ⟨-, report, hSize, h⟩ := h.uncons
  · cases hNever
  obtain rfl : sizeStage context = report := Except.ok.inj hSize
  rcases h with ⟨hStops, rfl, rfl⟩ | ⟨later, hGoesOn, -, h⟩
  · refine .inl ⟨?_, rfl, rfl⟩
    by_contra hFits
    rw [Int.not_lt] at hFits
    simp [sizeStage, payloadIssues_isEmpty_iff.mpr hFits] at hStops
  have hFits : (context.submission.payload.size : Int) ≤ context.resolved.sizeLimit := by
    rw [← payloadIssues_isEmpty_iff]
    simpa [sizeStage] using hGoesOn
  refine .inr ⟨hFits, ?_⟩
  change Passes context _ later after at h
  obtain ⟨hSkip, h⟩ | ⟨hApplies, report, hDecode, h⟩ := h.uncons
  · have hKind : context.resolved.kind = .assetBundle := by simpa [Stage.appliesTo] using hSkip
    obtain ⟨hSkip, -⟩ | ⟨-, report, hBundle, h⟩ := h.uncons
    · simp [Stage.appliesTo, hKind] at hSkip
    have hAfter := Passes.keeps_report (by decide) (fun hMem => absurd hMem (by decide)) h
    simp only [TextDecoded, hFits, hKind, true_and, if_true]
    rcases (bundleStage_spec hBundle).2 with ⟨hKept, hNone⟩ | ⟨text, hRead, hHanded⟩
    · exact .inl ⟨hKept ▸ hAfter, hNone⟩
    · refine .inr ⟨text, hRead, ?_⟩
      have hDecoding : context.decoding text = context.withScript text := by
        simp [Context.decoding, hKind]
      rw [hDecoding, ← hHanded]
      exact hAfter
  · have hKind : context.resolved.kind ≠ .assetBundle := by simpa [Stage.appliesTo] using hApplies
    obtain rfl : decodeStage context = report := Except.ok.inj hDecode
    simp only [TextDecoded, hFits, hKind, true_and, if_false]
    rcases decodeStage_context context with ⟨hKept, hNone⟩ | ⟨text, hText, hDecoded⟩
    · have hAfter := Passes.keeps_report (by decide) (fun _ => hKept.symm ▸ hKind) h
      exact .inl ⟨hKept ▸ hAfter, hNone⟩
    · have hDecoded := hDecoded hKind
      have hAfter := Passes.keeps_report (by decide)
        (fun _ => by rwa [hDecoded, (decoding_keeps context text).1]) h
      exact .inr ⟨text, hText, hDecoded ▸ hAfter⟩

/-! ## Verdicts -/

/-- The advice on a decoded text, or none where no text was decoded. -/
inductive Advises [Platform] (rules : RuleTables) (submission : Submission) : List Issue → Prop
  | silent (hNone : ∀ resolved text, submission.resolve rules = .ok resolved →
      ¬ TextDecoded (.start rules submission resolved) text) : Advises rules submission []
  | heard {resolved : Submission.Resolved} {text : List Char}
      (hResolved : submission.resolve rules = .ok resolved)
      (hText : TextDecoded (.start rules submission resolved) text) :
      Advises rules submission (advice ((Context.start rules submission resolved).decoding text))

structure Shape [Platform] (rules : RuleTables) (submission : Submission) (verdict : Verdict) :
    Prop where
  complete : verdict.incomplete = none
  errors : ∀ issue ∈ verdict.errors, issue.severity = .error
  warnings : ∀ issue ∈ verdict.warnings, issue.severity = .warning
  parts : ∃ parts : ErrorParts, parts.Fits ∧ verdict.errors = parts.all rules
  oversize : ∀ resolved, submission.resolve rules = .ok resolved →
    resolved.sizeLimit < submission.payload.size →
      verdict.errors = [oversized (sizeLabel resolved) submission.payload.size
        resolved.sizeLimit []] ∧ verdict.warnings = []
  advised : ∃ notes advice, verdict.warnings = notes ++ advice ∧ notes.length ≤ 1 ∧
    (∀ note ∈ notes, note.code = .manifestIgnored) ∧ Advises rules submission advice ∧
    ∀ issue ∈ advice, issue.code ∈ [IssueCode.missingViewport, .consoleUsage, .dialogUsage]

theorem finish_runWarning_eq [Platform] (context : Context) (verdict : Verdict)
    (hText : context.text.isSome = true) :
    (runWarning context verdict Stage.warning).finish = .ok (verdict.extend (advice context)) := by
  have hAdvise : Stage.advisories.appliesTo context = true := hText
  rw [advice, ← Verdict.extend_extend]
  cases hView : Stage.viewport.appliesTo context with
  | false =>
    have hHas : Stage.hasDocument context = false := hView
    simp [runWarning, Stage.warning, hView, hAdvise, Stage.run, Run.bind, Report.finding, hHas,
      Verdict.extend]
  | true =>
    have hHas : Stage.hasDocument context = true := hView
    simp [runWarning, Stage.warning, hView, hAdvise, Stage.run, Run.bind, Report.finding, hHas]

theorem extend_empty (issues : List Issue) :
    Verdict.empty.extend issues = ⟨errorsOf issues, warningsOf issues, none⟩ := by
  rw [Verdict.extend_eq]
  simp [Verdict.empty]

theorem severity_of_errorsOf {issues : List Issue} {issue : Issue} (h : issue ∈ errorsOf issues) :
    issue.severity = .error := by
  simpa using (List.mem_filter.mp h).2

theorem severity_of_warningsOf {issues : List Issue} {issue : Issue}
    (h : issue ∈ warningsOf issues) : issue.severity = .warning := by
  simpa using (List.mem_filter.mp h).2

theorem advice_harmless (context : Context) : Harmless (advice context) := by
  rw [advice, harmless_append_iff]
  refine ⟨?_, advisoryIssues_harmless context⟩
  split
  · exact viewportIssues_harmless context
  · exact harmless_nil

theorem viewportIssues_code {context : Context} {issue : Issue}
    (hIssue : issue ∈ viewportIssues context) : issue.code = .missingViewport := by
  unfold viewportIssues at hIssue
  split at hIssue
  · cases hIssue
  · split at hIssue
    · cases hIssue
    · rw [List.mem_singleton.mp hIssue]
      rfl

theorem advice_codes {context : Context}
    (hAdvisory : context.rules.advisoryRules = Rules.advisoryTokens) {issue : Issue}
    (hIssue : issue ∈ advice context) :
    issue.code ∈ [IssueCode.missingViewport, .consoleUsage, .dialogUsage] := by
  rcases List.mem_append.mp hIssue with hView | hUse
  · split at hView
    · rw [viewportIssues_code hView]
      decide
    · cases hView
  · obtain ⟨rule, hRule, hUse⟩ := List.mem_filterMap.mp hUse
    have hCodes : ∀ rule ∈ Rules.advisoryTokens,
        rule.code ∈ [IssueCode.missingViewport, .consoleUsage, .dialogUsage] := by decide
    simp only at hUse
    split at hUse
    · cases hUse
    · cases hUse
      exact hCodes rule (hAdvisory ▸ hRule)

theorem Advises.codes [Platform] {rules : RuleTables} {submission : Submission} {found : List Issue}
    (h : Advises rules submission found)
    (hAdvisory : rules.advisoryRules = Rules.advisoryTokens) :
    ∀ issue ∈ found, issue.code ∈ [IssueCode.missingViewport, .consoleUsage, .dialogUsage] := by
  cases h with
  | silent hNone =>
    intro issue hIssue
    cases hIssue
  | heard hResolved hText =>
    intro issue hIssue
    refine advice_codes ?_ hIssue
    rw [(decoding_keeps _ _).2.1]
    exact hAdvisory

theorem refused_parts (rules : RuleTables) (fault : Submission.Fault) :
    ∃ parts : ErrorParts, parts.Fits ∧ [fault.issue] = parts.all rules := by
  cases hCode : fault.code with
  | invalidAssetBundle =>
    refine ⟨{ ErrorParts.none with bundle := [fault.issue] },
      { ErrorParts.none_fits with bundle := fun other hOther => ?_ }, rfl⟩
    rw [List.mem_singleton.mp hOther]
    exact ⟨rfl, hCode⟩
  | invalidGameFile =>
    refine ⟨_, ErrorParts.closed_fits fault.issue ?_, rfl⟩
    rw [show fault.issue.code = fault.code from rfl, hCode]
    decide
  | _ => cases fault <;> cases hCode

theorem refused_shape [Platform] {rules : RuleTables} {submission : Submission}
    {fault : Submission.Fault} (hRefused : submission.resolve rules = .error (.refused fault)) :
    Shape rules submission (Verdict.empty.add fault.issue) := by
  have hNone : ∀ resolved, submission.resolve rules ≠ .ok resolved := by
    intro resolved hResolved
    rw [hRefused] at hResolved
    cases hResolved
  exact
  { complete := rfl
    errors := fun issue hIssue => by
      rw [List.mem_singleton.mp hIssue]
      rfl
    warnings := fun issue hIssue => by cases hIssue
    parts := refused_parts rules fault
    oversize := fun resolved hResolved => absurd hResolved (hNone resolved)
    advised := ⟨[], [], rfl, Nat.zero_le _, (fun note h => by cases h),
      .silent fun resolved text hResolved => absurd hResolved (hNone resolved),
      fun issue h => by cases h⟩ }

theorem advises_of_gating [Platform] {rules : RuleTables} {submission : Submission}
    {resolved : Submission.Resolved} {after : Context} {issues : List Issue}
    (hResolved : submission.resolve rules = .ok resolved)
    (h : Passes (.start rules submission resolved) Stage.gating issues after) :
    Advises rules submission (if after.text.isSome then advice after else []) := by
  have hSame : ∀ {other}, submission.resolve rules = .ok other → other = resolved := by
    intro other hOther
    rw [hResolved] at hOther
    cases hOther
    rfl
  rcases h.gating with ⟨hOver, -, rfl⟩ | ⟨-, ⟨hKept, hNone⟩ | ⟨text, hText, hDecoded⟩⟩
  · refine .silent fun other text hOther hText => ?_
    rw [hSame hOther] at hText
    have hFits := hText.1
    omega
  · rw [hKept]
    refine .silent fun other text hOther hText => ?_
    rw [hSame hOther] at hText
    exact hNone text hText
  · have hIsText : after.text.isSome = true := by
      rw [hDecoded]
      simp [(decoding_keeps (.start rules submission resolved) text).2.2]
    have hAdvice : advice after =
        advice ((Context.start rules submission resolved).decoding text) := by
      rw [hDecoded]
      rfl
    rw [if_pos hIsText, hAdvice]
    exact .heard hResolved hText

theorem finish_validate_shape [Platform] {rules : RuleTables}
    (hMethods : rules.requiredMethods = Rules.requiredMethods)
    (hTokens : rules.forbiddenRules = Rules.forbiddenTokens)
    (hAdvisory : rules.advisoryRules = Rules.advisoryTokens) {submission : Submission}
    {verdict : Verdict} (h : (validate .standard rules submission).finish = .ok verdict) :
    Shape rules submission verdict := by
  unfold validate at h
  simp only at h
  split at h
  · cases h
  · next fault hRefused =>
    cases h
    exact refused_shape hRefused
  · next resolved hResolved =>
    rw [finish_record, validateResolved, finish_bind_do] at h
    obtain ⟨⟨after, gated⟩, hGated, h⟩ := Except.bind_eq_ok h
    obtain ⟨issues, hPasses, rfl⟩ := passes_of_runGating hGated
    have hAdvised := advises_of_gating hResolved hPasses
    have hVerdict : verdict = Verdict.empty.extend
        (issues ++ if after.text.isSome then advice after else []) := by
      cases hText : after.text.isSome with
      | false =>
        simp only [hText, Bool.false_eq_true, if_false] at h
        cases h
        simp
      | true =>
        simp only [hText, if_true, Plan.standard, finish_bind_do,
          finish_runWarning_eq after _ hText] at h
        cases h
        simp [Verdict.extend_extend]
    have hHarmless : Harmless (if after.text.isSome then advice after else []) := by
      split
      · exact advice_harmless after
      · exact harmless_nil
    rw [extend_empty, errorsOf_append, warningsOf_append, errorsOf_harmless hHarmless,
      warningsOf_harmless hHarmless, List.append_nil] at hVerdict
    subst hVerdict
    have hGating : ∀ stage ∈ Plan.standard.gating, stage ∈ Stage.gating := fun _ => id
    have hNoted := hPasses.noted hGating
    exact
    { complete := rfl
      errors := fun issue hIssue => severity_of_errorsOf hIssue
      warnings := fun issue hIssue => by
        rcases List.mem_append.mp hIssue with hNote | hAdvice
        · exact severity_of_warningsOf hNote
        · exact hHarmless issue hAdvice
      parts := (hPasses.arranged hGating).parts hMethods hTokens
      oversize := fun other hOther hOver => by
        rw [hResolved] at hOther
        cases hOther
        rcases hPasses.gating with ⟨-, rfl, rfl⟩ | ⟨hFits, -⟩
        · rw [payloadIssues_over hOver]
          exact ⟨rfl, rfl⟩
        · exact absurd hOver (Int.not_lt.mpr hFits)
      advised := ⟨_, _, rfl, hNoted.1, hNoted.2, hAdvised, hAdvised.codes hAdvisory⟩ }

/-- Every verdict that a judgement comes to under a configuration has that shape. -/
theorem judge_verdict_shape [Platform] {overrides : List (Value × Value)} {rules : RuleTables}
    (hRules : RuleTables.standard.override overrides = .ok rules) {seconds : Option Number}
    {clock : Nat → Number} {submission : Submission} {verdict : Verdict}
    (hVerdict : (judge ⟨.standard, rules, seconds⟩ clock submission).1 = .verdict verdict) :
    Shape rules submission verdict := by
  obtain ⟨hMethods, hTokens, hAdvisory⟩ := RuleTables.override_lists hRules
  have hFinish := finish_of_judge _ hVerdict
  exact finish_validate_shape hMethods hTokens hAdvisory hFinish

section

attribute [local instance] Platform.bare

/-- The smallest game gets a verdict of that shape under the standard configuration. -/
theorem judge_verdict_shape_minimal :
    RuleTables.standard.override [] = .ok .standard ∧ ∃ verdict,
      (judge plain countingClock minimalSubmission).1 = .verdict verdict ∧
        Shape .standard minimalSubmission verdict := by
  obtain ⟨verdict, hVerdict⟩ := minimalSubmission_verdict
  have hRules : RuleTables.standard.override [] = .ok .standard := rfl
  exact ⟨hRules, verdict, hVerdict countingClock,
    judge_verdict_shape hRules (hVerdict countingClock)⟩

end

end Gate

end SubmissionGate
