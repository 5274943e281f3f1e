import SubmissionGate.Proofs.Gate.Clock

/-!
# The course of a validation

A verdict stays acceptable as long as every stage adds warnings only. `Decides` says of the rest of
a course that it leaves a verdict and on what the verdict hangs; it is built up stage by stage from
the last one to the first, so what a stage hands on has to be known only where it runs.
-/

namespace SubmissionGate

/-- None of the issues keeps a submission from being accepted. -/
def Harmless (issues : List Issue) : Prop := ∀ issue ∈ issues, issue.severity = .warning

theorem harmless_nil : Harmless [] := by
  intro issue hIssue
  cases hIssue

theorem harmless_append_iff {first second : List Issue} :
    Harmless (first ++ second) ↔ Harmless first ∧ Harmless second := by
  simp only [Harmless, List.mem_append]
  constructor
  · intro h
    exact ⟨fun issue hIssue => h issue (.inl hIssue), fun issue hIssue => h issue (.inr hIssue)⟩
  · rintro ⟨hFirst, hSecond⟩ issue (hIssue | hIssue)
    · exact hFirst issue hIssue
    · exact hSecond issue hIssue

theorem harmless_errors_iff {issues : List Issue}
    (hErrors : ∀ issue ∈ issues, issue.severity = .error) : Harmless issues ↔ issues = [] := by
  constructor
  · intro h
    cases issues with
    | nil => rfl
    | cons issue rest =>
      have hWarning := h issue List.mem_cons_self
      rw [hErrors issue List.mem_cons_self] at hWarning
      cases hWarning
  · rintro rfl
    exact harmless_nil

theorem not_harmless_error (issues : List Issue) (code : IssueCode) (message : String)
    (detail : List (String × Value)) : ¬ Harmless (issues ++ [.error code message detail]) := by
  intro h
  have hWarning := h (.error code message detail) (by simp)
  cases hWarning

namespace Verdict

theorem add_ok_iff (verdict : Verdict) (issue : Issue) :
    (verdict.add issue).ok = true ↔ verdict.ok = true ∧ issue.severity = .warning := by
  cases hSeverity : issue.severity with
  | error => simp [add, hSeverity, ok]
  | warning => simp [add, hSeverity, ok]

theorem extend_ok_iff (verdict : Verdict) (issues : List Issue) :
    (verdict.extend issues).ok = true ↔ verdict.ok = true ∧ Harmless issues := by
  induction issues generalizing verdict with
  | nil => simp [extend, Harmless]
  | cons issue rest ih =>
    have hRest := ih (verdict.add issue)
    simp only [extend, List.foldl_cons] at hRest ⊢
    rw [hRest, add_ok_iff]
    simp only [Harmless, List.forall_mem_cons]
    exact and_assoc

end Verdict

namespace Gate

open Run

section

variable [Platform]

theorem finish_runGating_cons (context : Context) (verdict : Verdict) (stage : Stage)
    (stages : List Stage) :
    (runGating context verdict (stage :: stages)).finish =
      if stage.appliesTo context then
        (stage.run context).finish.bind fun report =>
          if report.stops then .ok (report.context, verdict.extend report.issues)
          else (runGating report.context (verdict.extend report.issues) stages).finish
      else (runGating context verdict stages).finish := by
  rw [runGating, finish_check]
  split
  · rw [finish_bind]
    congr 1
    funext report
    by_cases hStops : report.stops = true
    · simp [hStops]
    · by_cases hIssues : report.issues.isEmpty = true
      · simp [hStops, hIssues]
      · simp [hStops, hIssues]
  · rfl

/-- The stages leave a verdict, and it is acceptable exactly if it was so before and the condition
holds. -/
def Decides (context : Context) (stages : List Stage) (condition : Prop) : Prop :=
  ∀ verdict : Verdict, ∃ after outcome,
    (runGating context verdict stages).finish = .ok (after, outcome) ∧
      (outcome.ok = true ↔ verdict.ok = true ∧ condition)

theorem decides_nil (context : Context) : Decides context [] True :=
  fun verdict => ⟨context, verdict, rfl, by simp⟩

theorem Decides.skip {context : Context} (stage : Stage) {stages : List Stage} {condition : Prop}
    (hSkip : stage.appliesTo context = false) (h : Decides context stages condition) :
    Decides context (stage :: stages) condition := by
  intro verdict
  obtain ⟨after, outcome, hFinish, hOk⟩ := h verdict
  refine ⟨after, outcome, ?_, hOk⟩
  rw [finish_runGating_cons, hSkip]
  exact hFinish

theorem Decides.pass {context : Context} (stage : Stage) {stages : List Stage} (report : Report)
    {condition : Prop} (hApplies : stage.appliesTo context = true)
    (hRun : (stage.run context).finish = .ok report) (hGoesOn : report.stops = false)
    (h : Decides report.context stages condition) :
    Decides context (stage :: stages) (Harmless report.issues ∧ condition) := by
  intro verdict
  obtain ⟨after, outcome, hFinish, hOk⟩ := h (verdict.extend report.issues)
  refine ⟨after, outcome, ?_, ?_⟩
  · rw [finish_runGating_cons, hApplies, hRun]
    simpa [Except.bind, hGoesOn] using hFinish
  · rw [hOk, Verdict.extend_ok_iff, and_assoc]

theorem Decides.stop {context : Context} (stage : Stage) {stages : List Stage} (report : Report)
    (hApplies : stage.appliesTo context = true)
    (hRun : (stage.run context).finish = .ok report) (hStops : report.stops = true) :
    Decides context (stage :: stages) (Harmless report.issues) := by
  intro verdict
  refine ⟨report.context, verdict.extend report.issues, ?_, Verdict.extend_ok_iff _ _⟩
  rw [finish_runGating_cons, hApplies, hRun]
  simp [Except.bind, hStops]

theorem Decides.congr {context : Context} {stages : List Stage} {condition other : Prop}
    (h : Decides context stages condition) (hIff : condition ↔ other) :
    Decides context stages other := by
  intro verdict
  obtain ⟨after, outcome, hFinish, hOk⟩ := h verdict
  exact ⟨after, outcome, hFinish, by rw [hOk, hIff]⟩

theorem finish_runGating_broken {context : Context} {verdict : Verdict} {stage : Stage}
    {stages : List Stage} {cause : Breakdown} (hApplies : stage.appliesTo context = true)
    (hRun : (stage.run context).finish = .error cause) :
    (runGating context verdict (stage :: stages)).finish = .error cause := by
  rw [finish_runGating_cons, hApplies, hRun]
  rfl

end

theorem viewportIssues_harmless (context : Context) : Harmless (viewportIssues context) := by
  intro issue hIssue
  unfold viewportIssues at hIssue
  split at hIssue
  · cases hIssue
  · split at hIssue
    · cases hIssue
    · rw [List.mem_singleton.mp hIssue]
      rfl

theorem advisoryIssues_harmless (context : Context) : Harmless (advisoryIssues context) := by
  intro issue hIssue
  obtain ⟨rule, _, hRule⟩ := List.mem_filterMap.mp hIssue
  simp only at hRule
  split at hRule
  · cases hRule
  · cases hRule
    rfl

theorem extend_ok_of_harmless (verdict : Verdict) {issues : List Issue} (h : Harmless issues) :
    (verdict.extend issues).ok = verdict.ok := by
  rw [Bool.eq_iff_iff, Verdict.extend_ok_iff]
  exact and_iff_left h

/-- The stages that only warn neither break down nor spoil a verdict. -/
theorem finish_runWarning [Platform] (context : Context) (verdict : Verdict) :
    ∃ outcome, (runWarning context verdict Stage.warning).finish = .ok outcome ∧
      outcome.ok = verdict.ok := by
  have hViewport := viewportIssues_harmless context
  have hAdvisory := advisoryIssues_harmless context
  cases hView : Stage.viewport.appliesTo context with
  | false =>
    cases hAdvise : Stage.advisories.appliesTo context with
    | false => exact ⟨verdict, by simp [runWarning, Stage.warning, hView, hAdvise], rfl⟩
    | true =>
      exact ⟨verdict.extend (advisoryIssues context),
        by simp [runWarning, Stage.warning, hView, hAdvise, Stage.run, Run.bind, Report.finding],
        extend_ok_of_harmless verdict hAdvisory⟩
  | true =>
    cases hAdvise : Stage.advisories.appliesTo context with
    | false =>
      exact ⟨verdict.extend (viewportIssues context),
        by simp [runWarning, Stage.warning, hView, hAdvise, Stage.run, Run.bind, Report.finding],
        extend_ok_of_harmless verdict hViewport⟩
    | true =>
      refine ⟨(verdict.extend (viewportIssues context)).extend (advisoryIssues context),
        by simp [runWarning, Stage.warning, hView, hAdvise, Stage.run, Run.bind, Report.finding],
        ?_⟩
      rw [extend_ok_of_harmless _ hAdvisory, extend_ok_of_harmless _ hViewport]

end Gate

end SubmissionGate
