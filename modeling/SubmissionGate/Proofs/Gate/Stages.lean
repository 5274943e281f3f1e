import SubmissionGate.Proofs.Gate.Checks

/-!
# What the stages decide

The condition on which the verdict hangs once a text is decoded, for documents and for scripts. The
stages behind the bundle stage are the same for all kinds of submissions, so their part is stated
for any context that holds a text.
-/

namespace SubmissionGate.Gate

structure Decodes (payload : ByteArray) (text : List Char) : Prop where
  noNul : 0 ∉ payload.data.toList
  decoded : Utf8.decodeMarked payload.data.toList = .ok text

theorem Decodes.unique {payload : ByteArray} {text other : List Char} (h : Decodes payload text)
    (hOther : Decodes payload other) : text = other := by
  have hSame := h.decoded.symm.trans hOther.decoded
  cases hSame
  rfl

theorem nulOffset?_eq_none_iff {bytes : List UInt8} :
    Submission.nulOffset? bytes = none ↔ 0 ∉ bytes := by
  unfold Submission.nulOffset?
  rw [List.findIdx?_eq_none_iff]
  constructor
  · intro h hMem
    simpa using h 0 hMem
  · intro h byte hMem
    cases hZero : byte == 0 with
    | false => rfl
    | true =>
      obtain rfl : byte = 0 := by simpa using hZero
      exact absurd hMem h

theorem textOfPayload_ok_iff {label : String} {payload : ByteArray} {text : List Char} :
    Submission.textOfPayload label payload = .ok text ↔ Decodes payload text := by
  unfold Submission.textOfPayload
  simp only
  cases hNul : Submission.nulOffset? payload.data.toList with
  | some offset =>
    refine iff_of_false (fun h => by cases h) fun h => ?_
    rw [nulOffset?_eq_none_iff.mpr h.noNul] at hNul
    cases hNul
  | none =>
    have hNoNul := nulOffset?_eq_none_iff.mp hNul
    cases hDecoded : Utf8.decodeMarked payload.data.toList with
    | ok decoded =>
      constructor
      · intro h
        cases h
        exact ⟨hNoNul, hDecoded⟩
      · intro h
        have hSame := h.decoded
        rw [hDecoded] at hSame
        cases hSame
        rfl
    | error fault =>
      refine iff_of_false (fun h => by cases h) fun h => ?_
      rw [h.decoded] at hDecoded
      cases hDecoded

variable [Platform]

theorem decides_scriptStages (context : Context) {text : List Char}
    (hText : context.text = some text) :
    Decides context [.libraries, .gameObject, .methods, .forbiddenApis]
      (LibrariesServed context.rules context.submission.metadata.libs ∧
        DefinesGame context.rules context.units ∧
        AvoidsForbidden context.rules context.units) := by
  have hApplies : Stage.gameObject.appliesTo context = true := by
    simp [Stage.appliesTo, hText]
  rw [← libraryIssues_harmless_iff, definesGame_iff]
  refine Decides.pass _ (.finding context (libraryIssues context)) rfl rfl rfl ?_
  cases hGame : findGame context.rules context.units with
  | none =>
    have hRun : (Stage.gameObject.run context).finish =
        .ok (.stopping context [missingGameIssue context.rules]) := by
      simp [Stage.run, gameStage, hGame]
    refine (Decides.stop _ _ hApplies hRun rfl).congr (iff_of_false ?_ ?_)
    · exact not_harmless_error [] _ _ _
    · rintro ⟨⟨game, hSome, _⟩, _⟩
      cases hSome
  | some game =>
    let found : Context := { context with game := some game }
    have hRun : (Stage.gameObject.run context).finish = .ok (.clean found) := by
      simp [Stage.run, gameStage, hGame, found]
    have hForbidden : Decides found [.forbiddenApis] (Harmless (forbiddenIssues found) ∧ True) :=
      Decides.pass _ (.finding found (forbiddenIssues found))
        (by simp [Stage.appliesTo, found, hText]) rfl rfl (decides_nil found)
    have hMethods : Decides found [.methods, .forbiddenApis]
        (Harmless (methodIssues found.rules found.game) ∧ Harmless (forbiddenIssues found) ∧
          True) :=
      Decides.pass _ (.finding found (methodIssues found.rules found.game)) rfl rfl rfl
        hForbidden
    refine (Decides.pass _ (.clean found) hApplies hRun rfl hMethods).congr ?_
    have hHarmless : Harmless (Report.clean found).issues := harmless_nil
    rw [and_iff_right hHarmless, and_true, methodIssues_harmless_iff,
      forbiddenIssues_harmless_iff]
    refine and_congr_left fun _ => ⟨fun h => ⟨game, rfl, h⟩, ?_⟩
    rintro ⟨other, hSame, hDefined⟩
    cases hSame
    exact hDefined

theorem decides_documentStages (context : Context) {text : List Char}
    {document : Markup.Document} (hKind : context.resolved.kind = .html)
    (hText : context.text = some text) (hDocument : context.document = some document) :
    Decides context [.assetBundle, .requiredTags, .canvas, .externalScripts, .libraries,
        .gameObject, .methods, .forbiddenApis]
      (DocumentFits context.rules context.resolved.dimensions text document ∧
        LibrariesServed context.rules context.submission.metadata.libs ∧
        DefinesGame context.rules context.units ∧
        AvoidsForbidden context.rules context.units) := by
  have hHas : Stage.hasDocument context = true := by
    simp [Stage.hasDocument, hKind, hDocument]
  have hSources := Decides.pass .externalScripts (.finding context (externalScriptIssues context))
    (by simp [Stage.appliesTo, hHas]) rfl rfl (decides_scriptStages context hText)
  have hTags : ∀ {stages condition}, Decides context stages condition →
      Decides context (.assetBundle :: .requiredTags :: stages)
        (Harmless (requiredTagIssues context) ∧ condition) := fun h =>
    Decides.skip _ (by simp [Stage.appliesTo, hKind])
      (Decides.pass _ (.finding context (requiredTagIssues context))
        (by simp [Stage.appliesTo, hHas]) rfl rfl h)
  have hTagged := requiredTagIssues_harmless_iff context
  rw [hText] at hTagged
  by_cases hFlat : context.resolved.dimensions = "2d"
  · have hCanvas := Decides.pass .canvas (.finding context (canvasIssues context))
      (by simp [Stage.appliesTo, hHas, hFlat]) rfl rfl hSources
    refine (hTags hCanvas).congr ?_
    simp only [Report.finding, hTagged, canvasIssues_harmless_iff hDocument,
      externalScriptIssues_harmless_iff hDocument, Option.getD_some]
    constructor
    · rintro ⟨hTag, hId, hSource, hRest⟩
      exact ⟨⟨hTag, fun _ => hId, hSource⟩, hRest⟩
    · rintro ⟨⟨hTag, hId, hSource⟩, hRest⟩
      exact ⟨hTag, hId hFlat, hSource, hRest⟩
  · have hCanvas := Decides.skip .canvas (by simp [Stage.appliesTo, hFlat]) hSources
    refine (hTags hCanvas).congr ?_
    simp only [Report.finding, hTagged, externalScriptIssues_harmless_iff hDocument,
      Option.getD_some]
    constructor
    · rintro ⟨hTag, hSource, hRest⟩
      exact ⟨⟨hTag, fun h => absurd h hFlat, hSource⟩, hRest⟩
    · rintro ⟨⟨hTag, -, hSource⟩, hRest⟩
      exact ⟨hTag, hSource, hRest⟩

theorem decides_skippingDocument (context : Context) {condition : Prop}
    (hKind : context.resolved.kind ≠ .html)
    (h : Decides context [.libraries, .gameObject, .methods, .forbiddenApis] condition) :
    Decides context [.requiredTags, .canvas, .externalScripts, .libraries, .gameObject, .methods,
      .forbiddenApis] condition := by
  have hHas : Stage.hasDocument context = false := by simp [Stage.hasDocument, hKind]
  have hSources := Decides.skip .externalScripts (by simp [Stage.appliesTo, hHas]) h
  have hCanvas := Decides.skip .canvas (by simp [Stage.appliesTo, hHas]) hSources
  exact Decides.skip .requiredTags (by simp [Stage.appliesTo, hHas]) hCanvas

/-- The verdict of a whole validation hangs on what its deciding stages decide. -/
theorem finish_validate_of_decides {rules : RuleTables} {submission : Submission}
    {resolved : Submission.Resolved} {condition : Prop}
    (hResolved : submission.resolve rules = .ok resolved)
    (h : Decides (.start rules submission resolved) Stage.gating condition) :
    ∃ verdict, (validate .standard rules submission).finish = .ok verdict ∧
      (verdict.ok = true ↔ condition) := by
  obtain ⟨after, gated, hGating, hGated⟩ := h .empty
  obtain ⟨warned, hWarning, hWarned⟩ := finish_runWarning after gated
  have hEmpty : Verdict.empty.ok = true := rfl
  rw [and_iff_right hEmpty] at hGated
  cases hText : after.text.isSome with
  | false =>
    refine ⟨gated, ?_, hGated⟩
    simp [validate, hResolved, validateResolved, Plan.standard, hGating, Except.bind, hText,
      conclude]
  | true =>
    refine ⟨warned, ?_, by rw [hWarned, hGated]⟩
    simp [validate, hResolved, validateResolved, Plan.standard, hGating, Except.bind, hText,
      conclude, hWarning]

theorem finish_validate_refused (plan : Plan) {rules : RuleTables} {submission : Submission}
    {fault : Submission.Fault}
    (hRefused : submission.resolve rules = .error (.refused fault)) :
    (validate plan rules submission).finish = .ok (Verdict.empty.add fault.issue) := by
  simp [validate, hRefused, conclude]

theorem finish_validate_of_refused (plan : Plan) {rules : RuleTables} {submission : Submission}
    {fault : Submission.Fault}
    (hRefused : submission.resolve rules = .error (.refused fault)) :
    ∃ verdict, (validate plan rules submission).finish = .ok verdict ∧ verdict.ok = false :=
  ⟨_, finish_validate_refused plan hRefused, rfl⟩

end SubmissionGate.Gate
