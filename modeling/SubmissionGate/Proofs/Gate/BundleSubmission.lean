import SubmissionGate.Proofs.Gate.BundleStage

/-!
# Bundle submissions

The validation of a zip archive from its resolution to its verdict. The payload has to fit the
budget of the tier; then the bundle stage settles whether there is a verdict at all, and the stages
behind it are those of a script.
-/

namespace SubmissionGate.Gate

open Submission

structure Offered (rules : RuleTables) (submission : Submission) (budget : Int) : Prop where
  nonempty : submission.payload.size ≠ 0
  readable : submission.metadata.malformed = []
  dimensions : submission.metadata.dimensions = "2d" ∨ submission.metadata.dimensions = "3d"
  container : Archive.Container.sniff? submission.payload = some .zip
  tier : rules.tierBudgets.get?
    (rules.tierFor submission.metadata.tier submission.metadata.dimensions) = some budget

def resolvedBundle (rules : RuleTables) (submission : Submission) (budget : Int) : Resolved where
  kind := .assetBundle
  dimensions := submission.metadata.dimensions
  sizeLimit := budget
  tier := some (rules.tierFor submission.metadata.tier submission.metadata.dimensions)
  assetLimits := rules.assetLimits

theorem Offered.presentable {rules : RuleTables} {submission : Submission} {budget : Int}
    (h : Offered rules submission budget) : Presentable submission :=
  ⟨h.nonempty, h.readable, h.dimensions⟩

theorem resolve_zip {rules : RuleTables} {submission : Submission}
    (hPresentable : Presentable submission)
    (hZip : Archive.Container.sniff? submission.payload = some .zip) :
    (∃ budget, Offered rules submission budget ∧
      submission.resolve rules = .ok (resolvedBundle rules submission budget)) ∨
    (∃ fault, submission.resolve rules = .error (.refused fault)) ∧
      ∀ budget, ¬ Offered rules submission budget := by
  rw [hPresentable.resolve_bundle rules hZip]
  unfold resolveBundle
  simp only
  split
  · next hTier =>
    refine .inr ⟨⟨_, rfl⟩, fun budget h => ?_⟩
    rw [h.tier] at hTier
    cases hTier
  · next budget hTier =>
    exact .inl ⟨budget, ⟨hPresentable.nonempty, hPresentable.readable, hPresentable.dimensions,
      hZip, hTier⟩, rfl⟩

theorem resolve_archive {rules : RuleTables} {submission : Submission}
    {container : Archive.Container}
    (hArchive : Archive.Container.sniff? submission.payload = some container) :
    (∃ budget, Offered rules submission budget ∧
      submission.resolve rules = .ok (resolvedBundle rules submission budget)) ∨
    (∃ fault, submission.resolve rules = .error (.refused fault)) ∧
      ∀ budget, ¬ Offered rules submission budget := by
  by_cases hPresentable : Presentable submission
  · by_cases hZip : container = .zip
    · subst hZip
      exact resolve_zip hPresentable hArchive
    · refine .inr ⟨⟨_, hPresentable.resolve_container rules hZip hArchive⟩, fun budget h => ?_⟩
      exact hZip (Option.some.inj (hArchive.symm.trans h.container))
  · exact .inr ⟨resolve_of_not_presentable rules hPresentable,
      fun budget h => hPresentable h.presentable⟩

theorem Offered.unique {rules : RuleTables} {submission : Submission} {budget other : Int}
    (h : Offered rules submission budget) (hOther : Offered rules submission other) :
    budget = other := by
  have hSame := h.tier.symm.trans hOther.tier
  cases hSame
  rfl

variable {rules : RuleTables} {submission : Submission} {budget : Int}

def bundleContext (rules : RuleTables) (submission : Submission) (budget : Int) : Context :=
  .start rules submission (resolvedBundle rules submission budget)

theorem assetLimits_bundleContext :
    assetLimits (bundleContext rules submission budget) = rules.assetLimits := by
  simp [assetLimits, bundleContext, Context.start, resolvedBundle]

theorem size_applies :
    Stage.size.appliesTo (bundleContext rules submission budget) = true := rfl

theorem decode_skips :
    Stage.decode.appliesTo (bundleContext rules submission budget) = false := rfl

theorem assetBundle_applies :
    Stage.assetBundle.appliesTo (bundleContext rules submission budget) = true := rfl

variable [Platform]

theorem decides_gating_oversized (hLarge : ¬ (submission.payload.size : Int) ≤ budget) :
    Decides (bundleContext rules submission budget) Stage.gating False := by
  have hHarmful : ¬ Harmless (payloadIssues (bundleContext rules submission budget)) := by
    rw [payloadIssues_harmless_iff]
    exact hLarge
  have hIssues : payloadIssues (bundleContext rules submission budget) ≠ [] := by
    intro hNone
    rw [hNone] at hHarmful
    exact hHarmful harmless_nil
  refine (Decides.stop _ (sizeStage (bundleContext rules submission budget)) rfl rfl
    ?_).congr (iff_of_false hHarmful id)
  simpa [sizeStage] using hIssues

omit [Platform] in
theorem payloadIssues_fitting (hFits : (submission.payload.size : Int) ≤ budget) :
    payloadIssues (bundleContext rules submission budget) = [] := by
  unfold payloadIssues
  exact if_pos hFits

theorem decides_gating_fitting (hFits : (submission.payload.size : Int) ≤ budget)
    {condition : Prop} (h : Decides (bundleContext rules submission budget)
      [.assetBundle, .requiredTags, .canvas, .externalScripts, .libraries, .gameObject, .methods,
        .forbiddenApis] condition) :
    Decides (bundleContext rules submission budget) Stage.gating condition := by
  have hNone : payloadIssues (bundleContext rules submission budget) = [] :=
    payloadIssues_fitting hFits
  refine (Decides.pass _ (sizeStage (bundleContext rules submission budget)) rfl rfl
    (by simp [sizeStage, hNone]) (Decides.skip _ decode_skips h)).congr ?_
  exact and_iff_right (by simp [sizeStage, hNone, harmless_nil])

theorem decides_gating_handed (hFits : (submission.payload.size : Int) ≤ budget)
    {issues : List Issue} {text : List Char}
    (hFinish : (bundleStage (bundleContext rules submission budget)).finish =
      .ok (.finding ((bundleContext rules submission budget).withScript text) issues)) :
    Decides (bundleContext rules submission budget) Stage.gating
      (Harmless issues ∧ LibrariesServed rules submission.metadata.libs ∧
        DefinesGame rules [⟨text⟩] ∧ AvoidsForbidden rules [⟨text⟩]) := by
  have hRest := decides_skippingDocument ((bundleContext rules submission budget).withScript text)
    (by simp [Context.withScript, bundleContext, Context.start, resolvedBundle])
    (decides_scriptStages _ rfl)
  exact decides_gating_fitting hFits (Decides.pass _ _ assetBundle_applies hFinish rfl hRest)

/-- The verdict on a bundle that could be opened. -/
theorem decides_gating_opened (hFits : (submission.payload.size : Int) ≤ budget)
    {report : Report}
    (hFinish : (bundleStage (bundleContext rules submission budget)).finish = .ok report)
    (hReport : BundleReport (bundleContext rules submission budget) report) :
    ∃ condition, Decides (bundleContext rules submission budget) Stage.gating condition ∧
      (condition → ∃ files inventory text,
        BundlePasses (bundleContext rules submission budget) files inventory text ∧
        LibrariesServed rules submission.metadata.libs ∧ DefinesGame rules [⟨text⟩] ∧
        AvoidsForbidden rules [⟨text⟩]) := by
  cases hReport with
  | stopped hStops hIssues =>
    exact ⟨_, decides_gating_fitting hFits (Decides.stop _ _ assetBundle_applies hFinish hStops),
      fun h => absurd h hIssues⟩
  | @handed issues text files inventory hPasses =>
    refine ⟨_, decides_gating_handed hFits hFinish, ?_⟩
    rintro ⟨hIssues, hRest⟩
    exact ⟨files, inventory, text, hPasses hIssues, hRest⟩

theorem finish_validate_of_bundle_broken
    (hResolved : submission.resolve rules = .ok (resolvedBundle rules submission budget))
    (hFits : (submission.payload.size : Int) ≤ budget) {cause : Breakdown}
    (hFinish : (bundleStage (bundleContext rules submission budget)).finish = .error cause) :
    (validate .standard rules submission).finish = .error cause := by
  have hGating : ∀ verdict,
      (runGating (bundleContext rules submission budget) verdict Stage.gating).finish =
        .error cause := by
    intro verdict
    unfold Stage.gating
    rw [finish_runGating_cons, size_applies, if_pos rfl]
    simp only [Stage.run, Run.finish_done, Except.bind, sizeStage, payloadIssues_fitting hFits]
    simp only [List.isEmpty_nil, Bool.not_true, Bool.false_eq_true, if_false]
    rw [finish_runGating_cons, decode_skips, if_neg (by decide)]
    exact finish_runGating_broken assetBundle_applies hFinish
  have hStart := hGating .empty
  unfold bundleContext at hStart
  simp [validate, hResolved, validateResolved, Plan.standard, hStart, Except.bind]

end SubmissionGate.Gate
