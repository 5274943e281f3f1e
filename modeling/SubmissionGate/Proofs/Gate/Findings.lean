import Mathlib.Data.List.Nodup
import SubmissionGate.Proofs.Gate.BundleStage

/-!
# What the stages find

A course through stages is made up of the reports of those that apply, up to the first that stops.
Of a report it matters whether it stops: one that does not holds errors of a single kind, fixed by
its stage, and one that does ends with the error that closes the verdict. So the errors of a course
come in the order of its stages; the warnings of the deciding stages are notes on a manifest.
-/

namespace SubmissionGate

def errorsOf (issues : List Issue) : List Issue := issues.filter (·.severity == .error)

def warningsOf (issues : List Issue) : List Issue := issues.filter (·.severity == .warning)

@[simp] theorem errorsOf_append (first second : List Issue) :
    errorsOf (first ++ second) = errorsOf first ++ errorsOf second := List.filter_append ..

@[simp] theorem warningsOf_append (first second : List Issue) :
    warningsOf (first ++ second) = warningsOf first ++ warningsOf second := List.filter_append ..

theorem errorsOf_eq_self {issues : List Issue} (h : ∀ issue ∈ issues, issue.severity = .error) :
    errorsOf issues = issues :=
  List.filter_eq_self.mpr fun issue hIssue => by simp [h issue hIssue]

theorem warningsOf_eq_nil {issues : List Issue} (h : ∀ issue ∈ issues, issue.severity = .error) :
    warningsOf issues = [] :=
  List.filter_eq_nil_iff.mpr fun issue hIssue => by simp [h issue hIssue]

theorem errorsOf_harmless {issues : List Issue} (h : Harmless issues) : errorsOf issues = [] :=
  List.filter_eq_nil_iff.mpr fun issue hIssue => by simp [h issue hIssue]

theorem warningsOf_harmless {issues : List Issue} (h : Harmless issues) :
    warningsOf issues = issues :=
  List.filter_eq_self.mpr fun issue hIssue => by simp [h issue hIssue]

def AllErrors (code : IssueCode) (issues : List Issue) : Prop :=
  ∀ issue ∈ issues, issue.severity = .error ∧ issue.code = code

theorem allErrors_nil (code : IssueCode) : AllErrors code [] := by
  intro issue hIssue
  cases hIssue

theorem allErrors_append {code : IssueCode} {first second : List Issue}
    (hFirst : AllErrors code first) (hSecond : AllErrors code second) :
    AllErrors code (first ++ second) := by
  intro issue hIssue
  rcases List.mem_append.mp hIssue with hMem | hMem
  · exact hFirst issue hMem
  · exact hSecond issue hMem

theorem allErrors_singleton (code : IssueCode) (message : String) (detail : List (String × Value)) :
    AllErrors code [.error code message detail] := by
  intro issue hIssue
  rw [List.mem_singleton.mp hIssue]
  exact ⟨rfl, rfl⟩

theorem allErrors_map {α : Type} {code : IssueCode} {items : List α} {issue : α → Issue}
    (h : ∀ item, (issue item).severity = .error ∧ (issue item).code = code) :
    AllErrors code (items.map issue) := by
  intro found hFound
  obtain ⟨item, -, rfl⟩ := List.mem_map.mp hFound
  exact h item

theorem allErrors_filterMap {α : Type} {code : IssueCode} {items : List α}
    {issue? : α → Option Issue}
    (h : ∀ item issue, issue? item = some issue → issue.severity = .error ∧ issue.code = code) :
    AllErrors code (items.filterMap issue?) := by
  intro found hFound
  obtain ⟨item, -, hItem⟩ := List.mem_filterMap.mp hFound
  exact h item found hItem

theorem AllErrors.errorsOf_eq {code : IssueCode} {issues : List Issue} (h : AllErrors code issues) :
    errorsOf issues = issues :=
  errorsOf_eq_self fun issue hIssue => (h issue hIssue).1

theorem AllErrors.warningsOf_eq {code : IssueCode} {issues : List Issue}
    (h : AllErrors code issues) : warningsOf issues = [] :=
  warningsOf_eq_nil fun issue hIssue => (h issue hIssue).1

namespace Verdict

theorem add_eq (verdict : Verdict) (issue : Issue) :
    verdict.add issue = ⟨verdict.errors ++ errorsOf [issue], verdict.warnings ++ warningsOf [issue],
      verdict.incomplete⟩ := by
  cases hSeverity : issue.severity with
  | error => simp [add, hSeverity, errorsOf, warningsOf]
  | warning => simp [add, hSeverity, errorsOf, warningsOf]

theorem extend_eq (verdict : Verdict) (issues : List Issue) :
    verdict.extend issues = ⟨verdict.errors ++ errorsOf issues,
      verdict.warnings ++ warningsOf issues, verdict.incomplete⟩ := by
  induction issues generalizing verdict with
  | nil => simp [extend, errorsOf, warningsOf]
  | cons issue rest ih =>
    have hErrors : errorsOf (issue :: rest) = errorsOf [issue] ++ errorsOf rest :=
      errorsOf_append [issue] rest
    have hWarnings : warningsOf (issue :: rest) = warningsOf [issue] ++ warningsOf rest :=
      warningsOf_append [issue] rest
    have hRest := ih (verdict.add issue)
    rw [extend] at hRest
    rw [extend, List.foldl_cons, hRest, add_eq, hErrors, hWarnings]
    simp only [List.append_assoc]

theorem extend_extend (verdict : Verdict) (first second : List Issue) :
    (verdict.extend first).extend second = verdict.extend (first ++ second) :=
  (List.foldl_append ..).symm

end Verdict

namespace Bundle

theorem placementIssues_errors (rules : RuleTables) (inventory : Inventory) :
    AllErrors .invalidAssetBundle (placementIssues rules inventory) := by
  refine allErrors_append (allErrors_map fun path => ⟨rfl, rfl⟩) ?_
  refine allErrors_filterMap fun place issue hIssue => ?_
  obtain ⟨path, role⟩ := place
  cases role <;> cases hIssue <;> exact ⟨rfl, rfl⟩

theorem budgetIssues_errors (resolved : Submission.Resolved) (inventory : Inventory) :
    AllErrors .invalidAssetBundle (budgetIssues resolved inventory) := by
  unfold budgetIssues
  simp only
  split
  · exact allErrors_singleton _ _ _
  · exact allErrors_nil _

theorem mapM_origin {α β ε : Type} {f : α → Except ε β} {items : List α} {results : List β}
    (h : items.mapM f = .ok results) {result : β} (hResult : result ∈ results) :
    ∃ item ∈ items, f item = .ok result := by
  induction items generalizing results with
  | nil =>
    cases h
    cases hResult
  | cons first rest ih =>
    rw [List.mapM_cons] at h
    obtain ⟨head, hHead, h⟩ := Except.bind_eq_ok h
    obtain ⟨others, hOthers, h⟩ := Except.bind_eq_ok h
    cases h
    rcases List.mem_cons.mp hResult with rfl | hMem
    · exact ⟨first, List.mem_cons_self, hHead⟩
    · obtain ⟨item, hItem, hFound⟩ := ih hOthers hMem
      exact ⟨item, List.mem_cons_of_mem _ hItem, hFound⟩

theorem ceilingIssues_errors {limits : Table Int} {assets : List Asset} {issues : List Issue}
    (h : ceilingIssues limits assets = .ok issues) : AllErrors .invalidAssetBundle issues := by
  unfold ceilingIssues at h
  obtain ⟨single, hSingle, h⟩ := Except.bind_eq_ok h
  obtain ⟨combined, hCombined, h⟩ := Except.bind_eq_ok h
  cases h
  intro issue hIssue
  obtain ⟨found, hFound, rfl⟩ := List.mem_filterMap.mp hIssue
  rcases List.mem_append.mp hFound with hAsset | hSheet
  · obtain ⟨asset, -, hAsset⟩ := mapM_origin hSingle hAsset
    exact assetIssue?_kind hAsset
  · obtain ⟨sheet, -, hSheet⟩ := mapM_origin hCombined hSheet
    exact sheetIssue?_kind hSheet

/-- At most one note on the manifest. -/
def ManifestNotes (issues : List Issue) : Prop :=
  issues.length ≤ 1 ∧ ∀ issue ∈ issues, issue.severity = .warning ∧ issue.code = .manifestIgnored

theorem manifestNotes_nil : ManifestNotes [] := ⟨by simp, fun _ h => by cases h⟩

theorem manifestNotes_note (message : String) (detail : List (String × Value)) :
    ManifestNotes [manifestNote message detail] := by
  refine ⟨by simp, fun issue hIssue => ?_⟩
  rw [List.mem_singleton.mp hIssue]
  exact ⟨rfl, rfl⟩

theorem contentWarnings_notes (name : String) (paths : List String) (value : Value) :
    ManifestNotes (contentWarnings name paths value) := by
  unfold contentWarnings
  split
  · split
    · exact manifestNotes_note _ _
    · simp only
      split
      · exact manifestNotes_nil
      · exact manifestNotes_note _ _
  · exact manifestNotes_note _ _

theorem manifestNotes_notes [Platform] {rules : RuleTables} {inventory : Inventory}
    {notes : List Issue}
    (h : (manifestNotes rules inventory).finish = .ok notes) : ManifestNotes notes := by
  unfold manifestNotes at h
  simp only at h
  repeat' split at h
  all_goals cases h
  · exact manifestNotes_nil
  · exact manifestNotes_note _ _
  · exact manifestNotes_note _ _
  · exact contentWarnings_notes _ _ _

theorem ManifestNotes.harmless {notes : List Issue} (h : ManifestNotes notes) : Harmless notes :=
  fun issue hIssue => (h.2 issue hIssue).1

end Bundle

namespace Gate

open Run SubmissionGate.Bundle

/-! ## The report of one stage -/

def missingMethod (rules : RuleTables) (spec : Rules.RequiredMethod) : Issue :=
  .error .missingMethod s!"{rules.gameObjectName} is missing required method '{spec.name}'"
    [("method", .text spec.name)]

def forbiddenUse (rule : Rules.ForbiddenToken) : Issue :=
  .error .forbiddenApi s!"Use of '{rule.token}' is not allowed ({rule.category})"
    [("token", .text rule.token), ("category", .text rule.category)]

/-- What a stage reports when it lets the next one run, its notes apart. -/
def Ordinary (rules : RuleTables) (stage : Stage) (errors : List Issue) : Prop :=
  match stage with
  | .assetBundle => AllErrors .invalidAssetBundle errors
  | .requiredTags => AllErrors .invalidHtml errors
  | .canvas => AllErrors .missingCanvas errors ∧ errors.length ≤ 1
  | .externalScripts | .libraries => AllErrors .invalidExternalScript errors
  | .methods => ∃ specs : List Rules.RequiredMethod,
      specs.Sublist rules.requiredMethods ∧ errors = specs.map (missingMethod rules)
  | .forbiddenApis => ∃ tokens : List Rules.ForbiddenToken,
      tokens.Sublist rules.forbiddenRules ∧ (tokens.map (·.needle)).Nodup ∧
      errors = tokens.map forbiddenUse
  | _ => errors = []

/-- What a stage reports when it is the last one to run, its notes apart. -/
def Closing (stage : Stage) (errors : List Issue) : Prop :=
  match stage with
  | .size => ∃ issue, errors = [issue] ∧ issue.code = .fileTooLarge
  | .decode => ∃ issue, errors = [issue] ∧ issue.severity = .error ∧
      (issue.code = .invalidGameFile ∨ issue.code = .invalidHtml)
  | .assetBundle => ∃ layout closing, errors = layout ++ closing ∧
      AllErrors .invalidAssetBundle layout ∧ closing.length ≤ 1 ∧
      ∀ issue ∈ closing, issue.code = .fileTooLarge ∨ issue.code = .invalidGameFile
  | .gameObject => ∃ issue, errors = [issue] ∧ issue.code = .missingGameObject
  | _ => False

structure Report.Tells (report : Report) (context : Context) (stage : Stage) : Prop where
  rules : report.context.rules = context.rules
  ordinary : report.stops = false → Ordinary context.rules stage (errorsOf report.issues)
  closing : report.stops = true → Closing stage (errorsOf report.issues)
  notes : if stage = .assetBundle then ManifestNotes (warningsOf report.issues)
    else warningsOf report.issues = []

theorem tells_finding (code : IssueCode) {context : Context} {stage : Stage} {issues : List Issue}
    (hErrors : AllErrors code issues) (hOrdinary : Ordinary context.rules stage issues)
    (hStage : stage ≠ .assetBundle) : (Report.finding context issues).Tells context stage where
  rules := rfl
  ordinary := fun _ => hErrors.errorsOf_eq.symm ▸ hOrdinary
  closing := fun h => by cases h
  notes := by
    rw [if_neg hStage]
    exact hErrors.warningsOf_eq

theorem tells_stopping {context after : Context} {stage : Stage} {code : IssueCode}
    {message : String} {detail : List (String × Value)} (hRules : after.rules = context.rules)
    (hClosing : Closing stage [.error code message detail]) (hStage : stage ≠ .assetBundle) :
    (Report.stopping after [.error code message detail]).Tells context stage where
  rules := hRules
  ordinary := fun h => by cases h
  closing := fun _ => hClosing
  notes := by
    rw [if_neg hStage]
    exact rfl

theorem sizeStage_tells (context : Context) : (sizeStage context).Tells context .size := by
  unfold sizeStage payloadIssues
  simp only
  split
  · exact tells_finding .fileTooLarge (fun _ h => by cases h) rfl (by decide)
  · exact tells_stopping rfl ⟨_, rfl, rfl⟩ (by decide)

theorem textOfPayload_fault {label : String} {payload : ByteArray} {fault : Submission.Fault}
    (h : Submission.textOfPayload label payload = .error fault) :
    fault.code = .invalidGameFile := by
  unfold Submission.textOfPayload at h
  simp only at h
  repeat' split at h
  all_goals cases h
  all_goals rfl

theorem decodeStage_tells (context : Context) : (decodeStage context).Tells context .decode := by
  have hClean : ∀ after : Context, after.rules = context.rules →
      (Report.clean after).Tells context .decode := fun after hRules =>
    { rules := hRules
      ordinary := fun _ => rfl
      closing := fun h => by cases h
      notes := rfl }
  unfold decodeStage
  split
  · next fault hFault =>
    exact tells_stopping rfl ⟨_, rfl, rfl, .inl (textOfPayload_fault hFault)⟩ (by decide)
  · next text _ =>
    simp only
    split
    · split
      · exact tells_stopping rfl ⟨_, rfl, rfl, .inr rfl⟩ (by decide)
      · exact hClean _ rfl
    · exact hClean _ rfl

theorem gameStage_tells (context : Context) :
    (gameStage context).Tells context .gameObject := by
  unfold gameStage
  split
  · exact
    { rules := rfl
      ordinary := fun _ => rfl
      closing := fun h => by cases h
      notes := rfl }
  · exact tells_stopping rfl ⟨_, rfl, rfl⟩ (by decide)

theorem canvasIssues_tells (context : Context) :
    (Report.finding context (canvasIssues context)).Tells context .canvas := by
  have hCanvas : AllErrors .missingCanvas (canvasIssues context) ∧
      (canvasIssues context).length ≤ 1 := by
    unfold canvasIssues
    simp only
    repeat' split
    · exact ⟨fun _ h => (by cases h), by simp⟩
    · exact ⟨fun _ h => (by cases h), by simp⟩
    · refine ⟨fun issue hIssue => ?_, by simp⟩
      rw [List.mem_singleton.mp hIssue]
      exact ⟨rfl, rfl⟩
  exact tells_finding _ hCanvas.1 hCanvas (by decide)

theorem externalScriptIssues_tells (context : Context) :
    (Report.finding context (externalScriptIssues context)).Tells context .externalScripts := by
  have hErrors : AllErrors .invalidExternalScript (externalScriptIssues context) := by
    refine allErrors_filterMap fun source issue hIssue => ?_
    simp only at hIssue
    split at hIssue
    · cases hIssue
    · cases hIssue
      exact ⟨rfl, rfl⟩
  exact tells_finding _ hErrors hErrors (by decide)

theorem libraryIssues_tells (context : Context) :
    (Report.finding context (libraryIssues context)).Tells context .libraries := by
  have hErrors : AllErrors .invalidExternalScript (libraryIssues context) := by
    refine allErrors_filterMap fun key issue hIssue => ?_
    repeat' split at hIssue
    all_goals cases hIssue
    all_goals exact ⟨rfl, rfl⟩
  exact tells_finding _ hErrors hErrors (by decide)

theorem methodIssues_tells (context : Context) :
    (Report.finding context (methodIssues context.rules context.game)).Tells context .methods := by
  have hMissing : ∃ specs : List Rules.RequiredMethod,
      specs.Sublist context.rules.requiredMethods ∧
        methodIssues context.rules context.game = specs.map (missingMethod context.rules) := by
    unfold methodIssues
    split
    · exact ⟨[], List.nil_sublist _, rfl⟩
    · exact ⟨_, List.filter_sublist, rfl⟩
  obtain ⟨specs, hSublist, hIssues⟩ := hMissing
  refine tells_finding .missingMethod ?_ ⟨specs, hSublist, hIssues⟩ (by decide)
  rw [hIssues]
  exact allErrors_map fun spec => ⟨rfl, rfl⟩

theorem firstOfEach_spec (needles : List (List Char)) (rules : List Rules.ForbiddenToken) :
    (firstOfEach needles rules).Sublist rules ∧
      ((firstOfEach needles rules).map (·.needle)).Nodup := by
  induction rules using List.reverseRecOn with
  | nil => exact ⟨List.nil_sublist [], List.nodup_nil⟩
  | append_singleton rules rule ih =>
    obtain ⟨hSublist, hNodup⟩ := ih
    rw [firstOfEach_concat]
    split
    · next hNew =>
      refine ⟨hSublist.append (List.Sublist.refl _), ?_⟩
      rw [List.map_append, List.nodup_append]
      refine ⟨hNodup, List.nodup_singleton _, ?_⟩
      rintro needle hNeedle other hOther rfl
      obtain ⟨-, earlier, hEarlier, hSame⟩ := mem_firstOfEach.mp hNeedle
      rw [List.map_singleton, List.mem_singleton] at hOther
      exact hNew.2 earlier hEarlier (hSame.trans hOther)
    · rw [List.append_nil]
      exact ⟨hSublist.trans (List.sublist_append_left _ _), hNodup⟩

theorem forbiddenIssues_tells (context : Context) :
    (Report.finding context (forbiddenIssues context)).Tells context .forbiddenApis := by
  obtain ⟨hSublist, hNodup⟩ := firstOfEach_spec (context.units.flatMap fun unit =>
    (Script.forbiddenUses unit.compact context.rules.forbiddenRules).map (·.needle))
    context.rules.forbiddenRules
  exact tells_finding .forbiddenApi (allErrors_map fun rule => ⟨rfl, rfl⟩)
    ⟨_, hSublist, hNodup, rfl⟩ (by decide)

theorem requiredTagIssues_tells (context : Context) :
    (Report.finding context (requiredTagIssues context)).Tells context .requiredTags :=
  have hErrors : AllErrors .invalidHtml (requiredTagIssues context) :=
    allErrors_map fun tag => ⟨rfl, rfl⟩
  tells_finding _ hErrors hErrors (by decide)

theorem scriptReport_spec {context : Context} {inventory : Inventory} {issues : List Issue}
    {report : Report} (h : scriptReport context inventory issues = .ok report) :
    (∃ code message detail,
      code ∈ [IssueCode.invalidAssetBundle, .fileTooLarge, .invalidGameFile] ∧
      report = .stopping context (issues ++ [.error code message detail]) ∧
      ∀ text, ¬ HandsOn context.rules inventory text) ∨
    ∃ text, HandsOn context.rules inventory text ∧
      report = .finding (context.withScript text) issues := by
  unfold scriptReport at h
  simp only at h
  split at h
  · next hAbsent =>
    cases h
    refine .inl ⟨_, _, _, by decide, rfl, fun text hScript => ?_⟩
    simp [hScript.there] at hAbsent
  · next hThere =>
    split at h
    · cases h
    · next limit hLimit =>
      split at h
      · next hMissing =>
        cases h
        refine .inl ⟨_, _, _, by decide, rfl, fun text hScript => ?_⟩
        obtain ⟨data, -, hData, -⟩ := hScript.found
        rw [hMissing] at hData
        cases hData
      · next data hData =>
        split at h
        · next hOver =>
          cases h
          refine .inl ⟨_, _, _, by decide, rfl, fun text hScript => ?_⟩
          obtain ⟨-, other, -, hOther, hFits, -⟩ := hScript.found
          rw [hLimit] at hOther
          cases hOther
          omega
        · next hFits =>
          split at h
          · next fault hFault =>
            cases h
            refine .inl ⟨fault.code, _, _, ?_, rfl, fun text hScript => ?_⟩
            · rw [textOfPayload_fault hFault]
              decide
            · obtain ⟨other, -, hOther, -, -, hDecodes⟩ := hScript.found
              rw [hData] at hOther
              cases hOther
              rw [textOfPayload_ok_iff.mpr hDecodes] at hFault
              cases hFault
          · next text hText =>
            cases h
            exact .inr ⟨text, ⟨by simpa using hThere, data, limit, hData, hLimit, by omega,
              textOfPayload_ok_iff.mp hText⟩, rfl⟩

theorem closing_script (layout : List Issue) {code : IssueCode} {message : String}
    {detail : List (String × Value)} (hLayout : AllErrors .invalidAssetBundle layout)
    (hCode : code ∈ [IssueCode.invalidAssetBundle, .fileTooLarge, .invalidGameFile]) :
    Closing .assetBundle (layout ++ [.error code message detail]) := by
  simp only [List.mem_cons, List.not_mem_nil, or_false] at hCode
  rcases hCode with rfl | hCode
  · exact ⟨_, [], (List.append_nil _).symm, allErrors_append hLayout (allErrors_singleton _ _ _),
      by simp, fun issue h => by cases h⟩
  · refine ⟨layout, _, rfl, hLayout, by simp, fun issue hIssue => ?_⟩
    rw [List.mem_singleton.mp hIssue]
    exact hCode

theorem layout_notes {code : IssueCode} {layout notes : List Issue} (hLayout : AllErrors code layout)
    (hNotes : ManifestNotes notes) :
    errorsOf (layout ++ notes) = layout ∧ warningsOf (layout ++ notes) = notes := by
  constructor
  · rw [errorsOf_append, hLayout.errorsOf_eq, errorsOf_harmless hNotes.harmless, List.append_nil]
  · rw [warningsOf_append, hLayout.warningsOf_eq, warningsOf_harmless hNotes.harmless,
      List.nil_append]

/-- What the bundle stage reports of an inventory: errors of its layout, then at most one note, and
at last the error of a script that is not handed on. -/
theorem inspect_spec [Platform] {context : Context} {inventory : Inventory} {report : Report}
    (h : (inspect context inventory).finish = .ok report) :
    report.Tells context .assetBundle ∧
      ((report.context = context ∧ ∀ text, ¬ HandsOn context.rules inventory text) ∨
        ∃ text, HandsOn context.rules inventory text ∧
          report.context = context.withScript text) := by
  rw [finish_inspect_eq] at h
  obtain ⟨ceilings, hCeilings, h⟩ := Except.bind_eq_ok h
  obtain ⟨notes, hNotes, h⟩ := Except.bind_eq_ok h
  have hNoted := manifestNotes_notes hNotes
  have hLayout := allErrors_append
    (allErrors_append (placementIssues_errors context.rules inventory)
      (ceilingIssues_errors hCeilings)) (budgetIssues_errors context.resolved inventory)
  generalize placementIssues context.rules inventory ++ ceilings ++
    budgetIssues context.resolved inventory = layout at h hLayout
  obtain ⟨hErrors, hWarnings⟩ := layout_notes hLayout hNoted
  rcases scriptReport_spec h with
    ⟨code, message, detail, hCode, rfl, hNone⟩ | ⟨text, hScript, rfl⟩
  · refine ⟨?_, .inl ⟨rfl, hNone⟩⟩
    exact
    { rules := rfl
      ordinary := fun h => by cases h
      closing := fun _ => by
        rw [Report.stopping, errorsOf_append, hErrors]
        exact closing_script _ hLayout hCode
      notes := by
        rw [if_pos rfl, Report.stopping, warningsOf_append, hWarnings]
        exact (List.append_nil notes).symm ▸ hNoted }
  · refine ⟨?_, .inr ⟨text, hScript, rfl⟩⟩
    exact
    { rules := rfl
      ordinary := fun _ => hErrors.symm ▸ hLayout
      closing := fun h => by cases h
      notes := hWarnings.symm ▸ hNoted }

def ScriptRead [Platform] (context : Context) (text : List Char) : Prop :=
  ∃ inventory, (read context.rules context.submission.payload context.resolved.sizeLimit).finish =
    .ok (.ok inventory) ∧ HandsOn context.rules inventory text

theorem bundleStage_spec [Platform] {context : Context} {report : Report}
    (h : (bundleStage context).finish = .ok report) :
    report.Tells context .assetBundle ∧
      ((report.context = context ∧ ∀ text, ¬ ScriptRead context text) ∨
        ∃ text, ScriptRead context text ∧ report.context = context.withScript text) := by
  rw [finish_bundleStage_eq] at h
  obtain ⟨outcome, hRead, h⟩ := Except.bind_eq_ok h
  cases outcome with
  | error fault =>
    cases h
    refine ⟨?_, .inl ⟨rfl, ?_⟩⟩
    · exact
      { rules := rfl
        ordinary := fun h => by cases h
        closing := fun _ => closing_script [] (allErrors_nil _) (by
          cases fault <;> simp [Bundle.Fault.code])
        notes := manifestNotes_nil }
    · rintro text ⟨inventory, hInventory, -⟩
      rw [hRead] at hInventory
      cases hInventory
  | ok inventory =>
    obtain ⟨hTells, hText⟩ := inspect_spec h
    refine ⟨hTells, ?_⟩
    rcases hText with ⟨hKept, hNone⟩ | ⟨text, hScript, hHanded⟩
    · refine .inl ⟨hKept, ?_⟩
      rintro text ⟨other, hOther, hScript⟩
      rw [hRead] at hOther
      cases hOther
      exact hNone text hScript
    · exact .inr ⟨text, ⟨inventory, hRead, hScript⟩, hHanded⟩

/-- What is known of the report of any deciding stage. -/
theorem gating_tells [Platform] {context : Context} {stage : Stage} {report : Report}
    (hStage : stage ∈ Stage.gating) (h : (stage.run context).finish = .ok report) :
    report.Tells context stage := by
  cases stage with
  | size => cases h; exact sizeStage_tells context
  | decode => cases h; exact decodeStage_tells context
  | assetBundle => exact (bundleStage_spec h).1
  | requiredTags => cases h; exact requiredTagIssues_tells context
  | canvas => cases h; exact canvasIssues_tells context
  | externalScripts => cases h; exact externalScriptIssues_tells context
  | libraries => cases h; exact libraryIssues_tells context
  | gameObject => cases h; exact gameStage_tells context
  | methods => cases h; exact methodIssues_tells context
  | forbiddenApis => cases h; exact forbiddenIssues_tells context
  | viewport => exact absurd hStage (by decide)
  | advisories => exact absurd hStage (by decide)

end Gate

end SubmissionGate
