import SubmissionGate.Proofs.Bundle.Files
import SubmissionGate.Proofs.Gate.BundleAcceptance

/-!
# A script and a bundle of it

The stages behind the decoding look at the text, at the libraries and at the game that was found,
and at nothing else. So a script and a bundle that holds this script only go the same way from there
on: one stage keeps two contexts alike, hence so does every course, and the verdicts are the same.
-/

namespace SubmissionGate.Gate

open SubmissionGate.Bundle Submission

/-! ## Contexts that later stages cannot tell apart -/

structure Alike (first second : Context) : Prop where
  rules : first.rules = second.rules
  libs : first.submission.metadata.libs = second.submission.metadata.libs
  text : first.text = second.text
  units : first.units = second.units
  game : first.game = second.game
  flat : first.document = none ∧ second.document = none

structure Report.Alike (first second : Report) : Prop where
  context : Gate.Alike first.context second.context
  issues : first.issues = second.issues
  stops : first.stops = second.stops

/-- Whether a stage looks neither at the payload nor at what it was resolved to. -/
def Stage.readsCode : Stage → Bool
  | size | decode | assetBundle => false
  | _ => true

section

variable {first second : Context} (h : Alike first second)

include h

theorem Alike.hasDocument : Stage.hasDocument first = false ∧ Stage.hasDocument second = false := by
  simp [Stage.hasDocument, h.flat.1, h.flat.2]

theorem Alike.appliesTo {stage : Stage} (hStage : stage.readsCode = true) :
    stage.appliesTo first = stage.appliesTo second := by
  cases stage with
  | size => cases hStage
  | decode => cases hStage
  | assetBundle => cases hStage
  | libraries => rfl
  | methods => simp only [Stage.appliesTo, h.game]
  | _ => simp only [Stage.appliesTo, h.hasDocument, h.text, Bool.false_and]

theorem Alike.finding {issues others : List Issue} (hIssues : issues = others) :
    (Report.finding first issues).Alike (.finding second others) :=
  ⟨h, hIssues, rfl⟩

theorem Alike.gameStage : (gameStage first).Alike (gameStage second) := by
  have hSame : findGame second.rules second.units = findGame first.rules first.units := by
    rw [h.rules, h.units]
  unfold Gate.gameStage
  rw [hSame]
  cases findGame first.rules first.units with
  | none => exact ⟨h, by simp only [Report.stopping, h.rules], rfl⟩
  | some game => exact ⟨⟨h.rules, h.libs, h.text, h.units, rfl, h.flat⟩, rfl, rfl⟩

theorem Alike.run [Platform] {stage : Stage} (hStage : stage.readsCode = true) :
    ∃ report other, (stage.run first).finish = .ok report ∧
      (stage.run second).finish = .ok other ∧ report.Alike other := by
  cases stage with
  | size => cases hStage
  | decode => cases hStage
  | assetBundle => cases hStage
  | requiredTags =>
    exact ⟨_, _, rfl, rfl, h.finding (by simp only [requiredTagIssues, h.rules, h.text])⟩
  | canvas => exact ⟨_, _, rfl, rfl, h.finding (by simp only [canvasIssues, h.flat])⟩
  | externalScripts =>
    exact ⟨_, _, rfl, rfl, h.finding (by simp only [externalScriptIssues, h.flat, h.rules])⟩
  | libraries =>
    exact ⟨_, _, rfl, rfl, h.finding (by simp only [libraryIssues, h.rules, h.libs])⟩
  | gameObject => exact ⟨_, _, rfl, rfl, h.gameStage⟩
  | methods => exact ⟨_, _, rfl, rfl, h.finding (by rw [h.rules, h.game])⟩
  | forbiddenApis =>
    exact ⟨_, _, rfl, rfl, h.finding (by simp only [forbiddenIssues, h.rules, h.units])⟩
  | viewport => exact ⟨_, _, rfl, rfl, h.finding (by simp only [viewportIssues, h.flat])⟩
  | advisories =>
    exact ⟨_, _, rfl, rfl, h.finding (by simp only [advisoryIssues, h.rules, h.units])⟩

end

section

variable [Platform]

/-- The deciding stages treat two contexts alike and add the same to two verdicts, so what the same
issues keep of two verdicts is kept. -/
theorem finish_runGating_alike (Same : Verdict → Verdict → Prop)
    (hExtend : ∀ verdict copy issues, Same verdict copy →
      Same (verdict.extend issues) (copy.extend issues)) {stages : List Stage}
    (hStages : ∀ stage ∈ stages, stage.readsCode = true) {first second : Context}
    (h : Alike first second) {verdict copy : Verdict} (hSame : Same verdict copy) :
    ∃ after other outcome result,
      (runGating first verdict stages).finish = .ok (after, outcome) ∧
      (runGating second copy stages).finish = .ok (other, result) ∧ Alike after other ∧
      Same outcome result := by
  induction stages generalizing first second verdict copy with
  | nil => exact ⟨first, second, verdict, copy, rfl, rfl, h, hSame⟩
  | cons stage stages ih =>
    obtain ⟨hStage, hRest⟩ := List.forall_mem_cons.mp hStages
    rw [finish_runGating_cons, finish_runGating_cons, h.appliesTo hStage]
    split
    · obtain ⟨report, other, hFirst, hSecond, hReports⟩ := h.run hStage
      rw [hFirst, hSecond]
      simp only [Except.bind, hReports.stops, hReports.issues]
      have hExtended := hExtend verdict copy other.issues hSame
      split
      · exact ⟨_, _, _, _, rfl, rfl, hReports.context, hExtended⟩
      · exact ih hRest hReports.context hExtended
    · exact ih hRest h hSame

theorem finish_runWarning_cons (context : Context) (verdict : Verdict) (stage : Stage)
    (stages : List Stage) :
    (runWarning context verdict (stage :: stages)).finish =
      if stage.appliesTo context then
        (stage.run context).finish.bind fun report =>
          if report.stops then .error (.stopped (Issue.joinedMessage report.issues))
          else (runWarning report.context (verdict.extend report.issues) stages).finish
      else (runWarning context verdict stages).finish := by
  rw [runWarning, Run.finish_check]
  split
  · rw [Run.finish_bind]
    congr 1
    funext report
    split <;> rfl
  · rfl

theorem finish_runWarning_alike {stages : List Stage}
    (hStages : ∀ stage ∈ stages, stage.readsCode = true) {first second : Context}
    (h : Alike first second) (verdict : Verdict) :
    (runWarning first verdict stages).finish = (runWarning second verdict stages).finish := by
  induction stages generalizing first second verdict with
  | nil => rfl
  | cons stage stages ih =>
    obtain ⟨hStage, hRest⟩ := List.forall_mem_cons.mp hStages
    rw [finish_runWarning_cons, finish_runWarning_cons, h.appliesTo hStage]
    split
    · obtain ⟨report, other, hFirst, hSecond, hReports⟩ := h.run hStage
      rw [hFirst, hSecond]
      simp only [Except.bind, hReports.stops, hReports.issues]
      split
      · rfl
      · exact ih hRest hReports.context _
    · exact ih hRest h verdict

end

/-! ## From the resolution to the decoded text -/

/-- The deciding stages behind the decoding of a script or the opening of a bundle. -/
def codeStages : List Stage :=
  [.requiredTags, .canvas, .externalScripts, .libraries, .gameObject, .methods, .forbiddenApis]

section

variable [Platform]

theorem finish_runGating_skipped {context : Context} {stage : Stage}
    (hSkip : stage.appliesTo context = false) (verdict : Verdict) (stages : List Stage) :
    (runGating context verdict (stage :: stages)).finish =
      (runGating context verdict stages).finish := by
  rw [finish_runGating_cons, hSkip, if_neg Bool.false_ne_true]

theorem finish_runGating_reported {context : Context} {stage : Stage} {report : Report}
    (hApplies : stage.appliesTo context = true) (hRun : (stage.run context).finish = .ok report)
    (verdict : Verdict) (stages : List Stage) :
    (runGating context verdict (stage :: stages)).finish =
      if report.stops then .ok (report.context, verdict.extend report.issues)
      else (runGating report.context (verdict.extend report.issues) stages).finish := by
  rw [finish_runGating_cons, hApplies, if_pos rfl, hRun]
  rfl

theorem finish_runGating_sized {context : Context} (hNone : payloadIssues context = [])
    (verdict : Verdict) :
    (runGating context verdict Stage.gating).finish =
      (runGating context verdict (.decode :: .assetBundle :: codeStages)).finish := by
  have hRun : (Stage.size.run context).finish = .ok (.clean context) := by
    simp only [Stage.run, sizeStage, hNone]
    rfl
  rw [Stage.gating, finish_runGating_reported rfl hRun]
  rfl

theorem finish_validate_resolved {rules : RuleTables} {submission : Submission}
    {resolved : Resolved} (hResolved : submission.resolve rules = .ok resolved) :
    (validate .standard rules submission).finish =
      (runGating (.start rules submission resolved) .empty Stage.gating).finish.bind
        fun (context, verdict) =>
          if context.text.isSome then (runWarning context verdict Stage.warning).finish
          else .ok verdict := by
  simp only [validate, hResolved, validateResolved, Plan.standard, Run.finish_record,
    Run.finish_bind_do, conclude]
  congr 1
  funext reached
  obtain ⟨context, verdict⟩ := reached
  simp only
  split
  · rw [Run.finish_bind_do]
    cases (runWarning context verdict Stage.warning).finish <;> rfl
  · rfl

/-- Two submissions that hand on the same script get the same verdict. -/
theorem finish_validate_alike {rules : RuleTables} {script bundle : Submission}
    {plain packed : Resolved} (hPlain : script.resolve rules = .ok plain)
    (hPacked : bundle.resolve rules = .ok packed) {first second : Context}
    (hFirst : (runGating (.start rules script plain) .empty Stage.gating).finish =
      (runGating first .empty codeStages).finish)
    (hSecond : (runGating (.start rules bundle packed) .empty Stage.gating).finish =
      (runGating second .empty codeStages).finish) (h : Alike first second) :
    ∃ verdict, (validate .standard rules script).finish = .ok verdict ∧
      (validate .standard rules bundle).finish = .ok verdict := by
  have hCode : ∀ stage ∈ codeStages, stage.readsCode = true := by decide
  have hWarning : ∀ stage ∈ Stage.warning, stage.readsCode = true := by decide
  obtain ⟨after, other, outcome, _, hScript, hBundle, hAlike, rfl⟩ :=
    finish_runGating_alike (· = ·) (fun _ _ _ hSame => by rw [hSame]) hCode h
      (Eq.refl Verdict.empty)
  rw [finish_validate_resolved hPlain, finish_validate_resolved hPacked, hFirst, hSecond, hScript,
    hBundle]
  simp only [Except.bind, hAlike.text,
    finish_runWarning_alike hWarning hAlike]
  split
  · obtain ⟨verdict, hVerdict, -⟩ := finish_runWarning other outcome
    exact ⟨verdict, hVerdict, hVerdict⟩
  · exact ⟨outcome, rfl, rfl⟩

end

/-! ## A script and its bundle -/

/-- An archive that is read to a single script, beside this script by itself. -/
structure Wraps [Platform] (rules : RuleTables) (script bundle : Submission) (limit budget : Int)
    (inventory : Inventory) : Prop where
  format : script.metadata.format = some "script"
  libs : script.metadata.libs = bundle.metadata.libs
  malformed : script.metadata.malformed = bundle.metadata.malformed
  dimensions : script.metadata.dimensions = bundle.metadata.dimensions
  nonempty : script.payload.size ≠ 0
  plain : Archive.Container.sniff? script.payload = none
  ceiling : rules.sizeLimits.get? "script" = some limit
  fits : (script.payload.size : Int) ≤ limit
  zip : Archive.Container.sniff? bundle.payload = some .zip
  tier : rules.tierBudgets.get?
    (rules.tierFor bundle.metadata.tier bundle.metadata.dimensions) = some budget
  within : (bundle.payload.size : Int) ≤ budget
  opened : (Bundle.read rules bundle.payload budget).finish = .ok (.ok inventory)
  single : inventory.roles = [(rules.bundleScript, .script)]
  unique : inventory.duplicates = []
  held : inventory.script = some script.payload
  total : (inventory.totalSize : Int) ≤ budget
  named : rules.bundleScript ≠ rules.bundleManifest

theorem nonempty_of_sniff {payload : ByteArray} {container : Archive.Container}
    (h : Archive.Container.sniff? payload = some container) : payload.size ≠ 0 := by
  intro hEmpty
  obtain rfl : payload = ByteArray.empty := ByteArray.size_eq_zero_iff.mp hEmpty
  have hNone : Archive.Container.sniff? ByteArray.empty = none := by decide
  rw [hNone] at h
  cases h

namespace Wraps

variable [Platform] {rules : RuleTables} {script bundle : Submission} {limit budget : Int}
  {inventory : Inventory} (h : Wraps rules script bundle limit budget inventory)

include h

theorem presentable_iff : Presentable script ↔ Presentable bundle := by
  constructor
  · intro hScript
    exact ⟨nonempty_of_sniff h.zip, h.malformed ▸ hScript.readable,
      h.dimensions ▸ hScript.dimensions⟩
  · intro hBundle
    exact ⟨h.nonempty, h.malformed ▸ hBundle.readable, h.dimensions ▸ hBundle.dimensions⟩

theorem resolve_script (hScript : Presentable script) :
    script.resolve rules = .ok (resolvedText script .script limit) := by
  have hFormat : declaredFormat script.metadata = "script" := by
    simp [declaredFormat, h.format]
  have hKind : Kind.ofFormat? "script" = some .script := by decide
  have hLimit : sizeLimit rules Kind.script.name script.metadata.dimensions = .ok limit :=
    sizeLimit_eq (by simp) h.ceiling
  rw [hScript.resolve_text rules h.plain, resolveText]
  simp only [hFormat, hKind, hLimit]
  rfl

theorem resolve_bundle (hBundle : Presentable bundle) :
    bundle.resolve rules = .ok (resolvedBundle rules bundle budget) := by
  rw [hBundle.resolve_bundle rules h.zip, resolveBundle]
  simp only [h.tier]
  rfl

theorem refused (hScript : ¬ Presentable script) :
    ∃ fault, fault.code = .invalidGameFile ∧ script.resolve rules = .error (.refused fault) ∧
      bundle.resolve rules = .error (.refused fault) := by
  have hEmpty : script.payload.isEmpty = false ∧ bundle.payload.isEmpty = false :=
    ⟨by simpa [ByteArray.isEmpty] using h.nonempty,
      by simpa [ByteArray.isEmpty] using nonempty_of_sniff h.zip⟩
  cases hReadable : script.metadata.malformed with
  | cons field fields =>
    refine ⟨.malformedField field, rfl, ?_, ?_⟩
    · simp only [resolve, hEmpty.1, hReadable]
      rfl
    · simp only [resolve, hEmpty.2, ← h.malformed, hReadable]
      rfl
  | nil =>
    have hUnknown : knownDimensions.contains script.metadata.dimensions = false := by
      rw [Bool.eq_false_iff, ne_eq, knownDimensions_iff]
      exact fun hKnown => hScript ⟨h.nonempty, hReadable, hKnown⟩
    refine ⟨.dimensions script.metadata.dimensions, rfl, ?_, ?_⟩
    · simp only [resolve, hEmpty.1, hReadable, hUnknown]
      rfl
    · simp only [resolve, hEmpty.2, ← h.malformed, hReadable, ← h.dimensions, hUnknown]
      rfl

theorem no_assets : inventory.assets = [] := by
  obtain ⟨files, -, hInventory⟩ := finish_read_ok_iff.mp h.opened
  have hRoles := hInventory.roles.1
  have hPaths := hInventory.account.paths
  have hNone : (readingOrder rules files).filter
      (fun entry => roleOf rules entry.name == .asset) = [] := by
    rw [List.filter_eq_nil_iff]
    intro entry hEntry
    have hListed : (entry.name, roleOf rules entry.name) ∈ inventory.roles := by
      rw [hRoles]
      exact List.mem_map_of_mem (mem_readingOrder.mp hEntry)
    rw [h.single, List.mem_singleton] at hListed
    rw [(Prod.mk.inj hListed).2]
    decide
  rw [show (readingOf rules bundle.payload budget files).rules = rules from rfl, hNone] at hPaths
  exact List.map_eq_nil_iff.mp hPaths

theorem scriptSize_eq : inventory.scriptSize = script.payload.size := by
  obtain ⟨files, -, hInventory⟩ := finish_read_ok_iff.mp h.opened
  exact (hInventory.account.script _ h.held).1

theorem placementIssues_eq : placementIssues rules inventory = [] := by
  rw [placementIssues, duplicateIssues, h.unique, h.single]
  simp [sortedOnce, placeIssue?]

theorem manifestNotes_eq : manifestNotes rules inventory = .done [] := by
  have hAbsent : inventory.roles.has rules.bundleManifest = false := by
    rw [h.single]
    simpa [Table.has] using h.named
  simp [manifestNotes, hAbsent]

theorem finish_bundleStage : (bundleStage (bundleContext rules bundle budget)).finish =
    .ok (match textOfPayload rules.bundleScript script.payload with
      | .error fault => .stopping (bundleContext rules bundle budget) [fault.issue]
      | .ok text => .finding ((bundleContext rules bundle budget).withScript text) []) := by
  have hCeilings : ceilingIssues rules.assetLimits inventory.assets = .ok [] := by
    rw [h.no_assets, ceilingIssues_eq]
    simp [sheets, sortedOnce, Except.bind, pure, Except.pure]
  have hBudget : budgetIssues (resolvedBundle rules bundle budget) inventory = [] :=
    if_neg (by simpa [resolvedBundle] using h.total)
  have hThere : inventory.roles.has rules.bundleScript = true := by simp [h.single, Table.has]
  have hFits : ¬ limit < (inventory.scriptSize : Int) := by
    rw [h.scriptSize_eq]
    exact Int.not_lt.mpr h.fits
  have hReport : scriptReport (bundleContext rules bundle budget) inventory [] =
      .ok (match textOfPayload rules.bundleScript script.payload with
        | .error fault => .stopping (bundleContext rules bundle budget) [fault.issue]
        | .ok text => .finding ((bundleContext rules bundle budget).withScript text) []) := by
    simp only [scriptReport, bundleContext, Context.start, hThere, h.ceiling, h.held, hFits]
    simp only [Bool.not_true, Bool.false_eq_true, if_false]
    cases textOfPayload rules.bundleScript script.payload <;> rfl
  have hRead : (Bundle.read (bundleContext rules bundle budget).rules
      (bundleContext rules bundle budget).submission.payload
      (bundleContext rules bundle budget).resolved.sizeLimit).finish = .ok (.ok inventory) :=
    h.opened
  have hNotes : manifestNotes (bundleContext rules bundle budget).rules inventory = .done [] :=
    h.manifestNotes_eq
  have hIssues : placementIssues (bundleContext rules bundle budget).rules inventory ++ [] ++
      budgetIssues (bundleContext rules bundle budget).resolved inventory ++ [] = [] := by
    have hPlaced := h.placementIssues_eq
    simp only [bundleContext, Context.start] at hPlaced ⊢
    rw [hPlaced, hBudget]
    rfl
  rw [finish_bundleStage_eq, hRead]
  simp only [Except.bind, inspect, assetLimits_bundleContext, hCeilings, Run.finish_bind_do,
    hNotes, Run.finish_done, hIssues, hReport, Run.finish_pure]

theorem finish_gating_script :
    let context := Context.start rules script (resolvedText script .script limit)
    (runGating context .empty Stage.gating).finish =
      match textOfPayload "Submission" script.payload with
      | .error fault => .ok (context, Verdict.empty.add fault.issue)
      | .ok text => (runGating (context.withScript text) .empty codeStages).finish := by
  intro context
  have hSize : payloadIssues context = [] := if_pos h.fits
  have hDecode : (Stage.decode.run context).finish =
      .ok (match textOfPayload "Submission" script.payload with
        | .error fault => .stopping context [fault.issue]
        | .ok text => .clean (context.withScript text)) := by
    simp only [Stage.run, Run.finish_done, decodeStage, context, Context.start]
    cases textOfPayload "Submission" script.payload <;> rfl
  rw [finish_runGating_sized hSize, finish_runGating_reported rfl hDecode]
  cases textOfPayload "Submission" script.payload with
  | error fault => rfl
  | ok text => exact finish_runGating_skipped rfl _ _

theorem finish_gating_bundle :
    let context := bundleContext rules bundle budget
    (runGating context .empty Stage.gating).finish =
      match textOfPayload rules.bundleScript script.payload with
      | .error fault => .ok (context, Verdict.empty.add fault.issue)
      | .ok text => (runGating (context.withScript text) .empty codeStages).finish := by
  intro context
  rw [finish_runGating_sized (payloadIssues_fitting h.within),
    finish_runGating_skipped decode_skips,
    finish_runGating_reported assetBundle_applies h.finish_bundleStage]
  cases textOfPayload rules.bundleScript script.payload <;> rfl

theorem finish_decoded (hScript : Presentable script) {text : List Char}
    (hText : Decodes script.payload text) :
    ∃ verdict, (validate .standard rules script).finish = .ok verdict ∧
      (validate .standard rules bundle).finish = .ok verdict := by
  have hFirst := h.finish_gating_script
  have hSecond := h.finish_gating_bundle
  simp only [textOfPayload_ok_iff.mpr hText] at hFirst hSecond
  refine finish_validate_alike (h.resolve_script hScript)
    (h.resolve_bundle (h.presentable_iff.mp hScript)) hFirst hSecond ?_
  exact ⟨rfl, h.libs, rfl, rfl, rfl, rfl, rfl⟩

theorem finish_undecoded (hScript : Presentable script) {fault other : Submission.Fault}
    (hFault : textOfPayload "Submission" script.payload = .error fault)
    (hOther : textOfPayload rules.bundleScript script.payload = .error other) :
    (validate .standard rules script).finish = .ok (Verdict.empty.add fault.issue) ∧
      (validate .standard rules bundle).finish = .ok (Verdict.empty.add other.issue) := by
  have hFirst := h.finish_gating_script
  have hSecond := h.finish_gating_bundle
  simp only [hFault] at hFirst
  simp only [hOther, bundleContext] at hSecond
  rw [finish_validate_resolved (h.resolve_script hScript), hFirst,
    finish_validate_resolved (h.resolve_bundle (h.presentable_iff.mp hScript)), hSecond]
  exact ⟨rfl, rfl⟩

end Wraps

theorem textOfPayload_error (payload : ByteArray) (h : ¬ ∃ text, Decodes payload text) :
    ∃ (offset : Nat) (rest : String), ∀ label, ∃ fault,
      textOfPayload label payload = .error fault ∧
        fault.issue = .error .invalidGameFile (label ++ rest) [("offset", .int offset)] := by
  unfold textOfPayload
  simp only
  cases hNul : nulOffset? payload.data.toList with
  | some offset => exact ⟨offset, " contains binary data", fun label => ⟨_, rfl, rfl⟩⟩
  | none =>
    cases hDecoded : Utf8.decodeMarked payload.data.toList with
    | ok text => exact absurd ⟨text, nulOffset?_eq_none_iff.mp hNul, hDecoded⟩ h
    | error fault => exact ⟨fault.offset, " is not valid UTF-8 text", fun label => ⟨_, rfl, rfl⟩⟩

/-- A script and a bundle that holds nothing else get the same errors and the same warnings. Where
the script does not decode, the one error names it in its own way. -/
theorem judge_script_bundle [Platform] {rules : RuleTables} {script bundle : Submission}
    {limit budget : Int}
    {inventory : Inventory} (h : Wraps rules script bundle limit budget inventory)
    (clock other : Nat → Number) :
    ∃ first second : Verdict,
      (judge ⟨.standard, rules, none⟩ clock script).1 = .verdict first ∧
      (judge ⟨.standard, rules, none⟩ other bundle).1 = .verdict second ∧
      first.warnings = second.warnings ∧
      ((∃ text, Decodes script.payload text) → first.errors = second.errors) ∧
      ((¬ ∃ text, Decodes script.payload text) → ∃ own packed rest detail,
        first.errors = [.error .invalidGameFile (own ++ rest) detail] ∧
        second.errors = [.error .invalidGameFile (packed ++ rest) detail] ∧
        (Presentable script → own = "Submission" ∧ packed = rules.bundleScript ∧
          ∃ offset : Nat, detail = [("offset", .int offset)]) ∧
        (¬ Presentable script → own = packed)) := by
  simp only [judge_untimed]
  by_cases hScript : Presentable script
  · by_cases hText : ∃ text, Decodes script.payload text
    · obtain ⟨text, hDecodes⟩ := hText
      obtain ⟨verdict, hFirst, hSecond⟩ := h.finish_decoded hScript hDecodes
      rw [hFirst, hSecond]
      exact ⟨verdict, verdict, rfl, rfl, rfl, fun _ => rfl,
        fun hNone => absurd ⟨text, hDecodes⟩ hNone⟩
    · obtain ⟨offset, rest, hFaults⟩ := textOfPayload_error script.payload hText
      obtain ⟨fault, hFault, hIssue⟩ := hFaults "Submission"
      obtain ⟨packed, hPacked, hSame⟩ := hFaults rules.bundleScript
      obtain ⟨hFirst, hSecond⟩ := h.finish_undecoded hScript hFault hPacked
      rw [hFirst, hSecond, hIssue, hSame]
      exact ⟨_, _, rfl, rfl, rfl, fun hSome => absurd hSome hText, fun _ =>
        ⟨_, _, rest, _, rfl, rfl, fun _ => ⟨rfl, rfl, offset, rfl⟩,
          fun hNot => absurd hScript hNot⟩⟩
  · obtain ⟨fault, hCode, hFirst, hSecond⟩ := h.refused hScript
    have hVerdict : ∀ submission : Submission,
        submission.resolve rules = .error (.refused fault) →
          (validate .standard rules submission).finish = .ok (Verdict.empty.add fault.issue) := by
      intro submission hRefused
      simp [validate, hRefused, conclude]
    rw [hVerdict script hFirst, hVerdict bundle hSecond]
    refine ⟨_, _, rfl, rfl, rfl, fun _ => rfl, fun _ =>
      ⟨"", "", fault.message, fault.detail, ?_, ?_, fun hNot => absurd hNot hScript, fun _ => rfl⟩⟩
    · simp [Verdict.add, Submission.Fault.issue, Issue.error, Verdict.empty, hCode]
    · simp [Verdict.add, Submission.Fault.issue, Issue.error, Verdict.empty, hCode]

def singleListing : List UInt8 :=
  [80, 75, 1, 2, 20, 0, 20, 0, 0, 0, 0, 0, 0, 0, 0, 0, 118, 69, 12, 173, 92, 0, 0, 0, 92, 0, 0, 0,
   7, 0, 0, 0, 0, 0, 0, 0, 0, 0, 0, 0, 0, 0, 0, 0, 0, 0, 103, 97, 109, 101, 46, 106, 115]

def singlePayload : ByteArray :=
  ⟨([80, 75, 3, 4, 20, 0, 0, 0, 0, 0, 0, 0, 0, 0, 118, 69, 12, 173, 92, 0, 0, 0, 92, 0, 0, 0, 7, 0, 0,
      0, 103, 97, 109, 101, 46, 106, 115] ++
    (String.ofList minimalGame).toUTF8.data.toList ++ singleListing ++
    [80, 75, 5, 6, 0, 0, 0, 0, 1, 0, 1, 0, 53, 0, 0, 0, 129, 0, 0, 0, 0, 0]).toArray⟩

def singleSubmission : Submission := ⟨singlePayload, .default⟩

def singleFiles : List Archive.Entry :=
  [⟨"game.js", "game.js", 0, 0, 2903262582, 92, 92, 0, 129⟩]

theorem singlePayload_entries : Archive.Directory.read singlePayload = .ok singleFiles := by
  have hPlace : (Archive.Directory.place singlePayload).toOption = some ⟨129, 53, 0⟩ := by
    decide +kernel
  have hListed : (Archive.Directory.readEntries ⟨singleListing.toArray⟩ 0 0).toOption =
      some (singleFiles.map fun entry => { entry with bound := 0 }) := by
    decide +kernel
  exact Archive.Directory.read_of_listing hPlace (by decide +kernel) hListed (by decide)
    (by decide +kernel)

theorem singleFiles_lists : Lists .standard singlePayload singleFiles :=
  ⟨⟨singleFiles, singlePayload_entries, by decide, rfl⟩, by decide⟩

section

attribute [local instance] Platform.bare

theorem eq_some_of_bytes {given : Option ByteArray} {data : ByteArray}
    (h : given.map (·.data) = some data.data) : given = some data := by
  obtain ⟨other, hGiven, hBytes⟩ := Option.map_eq_some_iff.mp h
  rw [hGiven, ByteArray.ext hBytes]

theorem singleFiles_inventory :
    ((inventoryOf .standard singlePayload (5 * RuleTables.mebibytes) singleFiles).finish.toOption.any
      fun outcome => outcome.toOption.any fun inventory =>
        inventory.roles == [("game.js", Role.script)] && inventory.duplicates == [] &&
          decide (inventory.script.map (·.data) = some minimalSubmission.payload.data) &&
          decide ((inventory.totalSize : Int) ≤ 5 * RuleTables.mebibytes)) = true := by
  decide +kernel

theorem minimalSubmission_wrapped : ∃ inventory, Wraps .standard minimalSubmission singleSubmission
    (50 * RuleTables.kibibytes) (5 * RuleTables.mebibytes) inventory := by
  obtain ⟨outcome, hOutcome, hRest⟩ := (Option.any_eq_true _ _).mp singleFiles_inventory
  obtain ⟨inventory, hInventory, hChecked⟩ := (Option.any_eq_true _ _).mp hRest
  simp only [Bool.and_eq_true, beq_iff_eq, decide_eq_true_eq, and_assoc] at hChecked
  obtain ⟨hRoles, hUnique, hScript, hTotal⟩ := hChecked
  have hOpened : (Bundle.read .standard singlePayload (5 * RuleTables.mebibytes)).finish =
      .ok (.ok inventory) := by
    rw [finish_read_of_lists singleFiles_lists, Except.eq_ok_of_toOption hOutcome,
      Except.eq_ok_of_toOption hInventory]
  exact ⟨inventory, rfl, rfl, rfl, rfl, by decide +kernel, by decide +kernel, by decide +kernel,
    by decide +kernel, by decide +kernel, by decide +kernel, by decide +kernel, hOpened, hRoles,
    hUnique, eq_some_of_bytes hScript, hTotal, by decide⟩

theorem judge_script_bundle_minimal :
    ∃ inventory, Wraps .standard minimalSubmission singleSubmission (50 * RuleTables.kibibytes)
        (5 * RuleTables.mebibytes) inventory ∧
      ∃ first second : Verdict,
        (judge ⟨.standard, .standard, none⟩ (fun _ => .int 0) minimalSubmission).1 =
          .verdict first ∧
        (judge ⟨.standard, .standard, none⟩ (fun _ => .int 0) singleSubmission).1 =
          .verdict second ∧
        first.errors = second.errors ∧ first.warnings = second.warnings := by
  obtain ⟨inventory, hWraps⟩ := minimalSubmission_wrapped
  obtain ⟨first, second, hFirst, hSecond, hWarnings, hErrors, -⟩ :=
    judge_script_bundle hWraps (fun _ => .int 0) (fun _ => .int 0)
  exact ⟨inventory, hWraps, first, second, hFirst, hSecond,
    hErrors ⟨_, minimalSubmission_decodes⟩, hWarnings⟩

end

end SubmissionGate.Gate
