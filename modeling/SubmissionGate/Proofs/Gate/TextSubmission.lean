import SubmissionGate.Proofs.Gate.Stages
import SubmissionGate.Proofs.RuleTables.Override

/-!
# Text submissions

A submission that is no archive is accepted exactly if it meets every condition of the gate. The
conditions are stated all at once and know no order, so none of them is lost where a stage does not
apply and none is asked twice.
-/

namespace SubmissionGate.Gate

open Submission

/-- The kind that a declared format stands for. A format that is missing or empty is none. -/
def DeclaredAs (metadata : Metadata) : Kind → Prop
  | .html => metadata.format = none ∨ metadata.format = some "" ∨ metadata.format = some "html"
  | .script => metadata.format = some "script"
  | .assetBundle => False

def limitKey (dimensions : String) : Kind → String
  | .html => "html_" ++ dimensions
  | .script => "script"
  | .assetBundle => ""

/-- The pieces of code of a text: those that its document holds, or the whole script. -/
inductive CodeOf (rules : RuleTables) (dimensions : String) (text : List Char) :
    Kind → List CodeUnit → Prop
  | document {document : Markup.Document} (hParsed : Markup.Document.ofText text = .ok document)
      (hFits : DocumentFits rules dimensions text document) :
      CodeOf rules dimensions text .html (document.codeUnits.map CodeUnit.mk)
  | script : CodeOf rules dimensions text .script [⟨text⟩]

/-- The demands that are settled before the payload is looked into. -/
structure Admitted (rules : RuleTables) (submission : Submission) (kind : Kind) (limit : Int) :
    Prop where
  nonempty : submission.payload.size ≠ 0
  readable : submission.metadata.malformed = []
  dimensions : submission.metadata.dimensions = "2d" ∨ submission.metadata.dimensions = "3d"
  declared : DeclaredAs submission.metadata kind
  ceiling : rules.sizeLimits.get? (limitKey submission.metadata.dimensions kind) = some limit

/-- All that is asked of a submission that is no archive. -/
structure Acceptable (rules : RuleTables) (submission : Submission) (kind : Kind) (limit : Int)
    (text : List Char) (units : List CodeUnit) : Prop where
  admitted : Admitted rules submission kind limit
  fits : (submission.payload.size : Int) ≤ limit
  decodes : Decodes submission.payload text
  code : CodeOf rules submission.metadata.dimensions text kind units
  libraries : LibrariesServed rules submission.metadata.libs
  game : DefinesGame rules units
  forbidden : AvoidsForbidden rules units

def HasTextLimits (rules : RuleTables) : Prop :=
  ∀ key ∈ ["html_2d", "html_3d", "script"], rules.sizeLimits.has key = true

theorem hasTextLimits_of_override {rules : RuleTables} {overrides : List (Value × Value)}
    (hRules : RuleTables.standard.override overrides = .ok rules) : HasTextLimits rules := by
  intro key hKey
  refine RuleTables.override_sizeLimits_has hRules ?_
  revert key
  decide

theorem declaredAs_iff {metadata : Metadata} {kind : Kind} :
    DeclaredAs metadata kind ↔ Kind.ofFormat? (declaredFormat metadata) = some kind := by
  unfold declaredFormat Kind.ofFormat? Kind.name
  cases hFormat : metadata.format with
  | none => cases kind <;> simp [DeclaredAs, hFormat]
  | some format =>
    by_cases hEmpty : format = ""
    · subst hEmpty
      cases kind <;> simp [DeclaredAs, hFormat]
    · by_cases hHtml : format = "html"
      · subst hHtml
        cases kind <;> simp [DeclaredAs, hFormat]
      · by_cases hScript : format = "script"
        · subst hScript
          cases kind <;> simp [DeclaredAs, hFormat]
        · cases kind <;> simp [DeclaredAs, hFormat, hEmpty, hHtml, hScript]

theorem Admitted.unique {rules : RuleTables} {submission : Submission} {kind other : Kind}
    {limit bound : Int} (h : Admitted rules submission kind limit)
    (hOther : Admitted rules submission other bound) : kind = other ∧ limit = bound := by
  have hKind : some kind = some other :=
    (declaredAs_iff.mp h.declared).symm.trans (declaredAs_iff.mp hOther.declared)
  cases hKind
  have hLimit := h.ceiling.symm.trans hOther.ceiling
  cases hLimit
  exact ⟨rfl, rfl⟩

def resolvedText (submission : Submission) (kind : Kind) (limit : Int) : Resolved where
  kind
  dimensions := submission.metadata.dimensions
  sizeLimit := limit
  tier := none
  assetLimits := []

theorem sizeLimit_eq {rules : RuleTables} {dimensions : String} {kind : Kind} {limit : Int}
    (hKind : kind ≠ .assetBundle)
    (hLimit : rules.sizeLimits.get? (limitKey dimensions kind) = some limit) :
    sizeLimit rules kind.name dimensions = .ok limit := by
  cases kind with
  | html =>
    have hKey : rules.sizeLimits.get? ("html_" ++ dimensions) = some limit := hLimit
    simp [sizeLimit, Kind.name, hKey]
  | script =>
    have hKey : rules.sizeLimits.get? "script" = some limit := hLimit
    simp [sizeLimit, Kind.name, hKey]
  | assetBundle => exact absurd rfl hKind

theorem limitKey_has {rules : RuleTables} (hLimits : HasTextLimits rules) {dimensions : String}
    (hDimensions : dimensions = "2d" ∨ dimensions = "3d") {kind : Kind}
    (hKind : kind ≠ .assetBundle) : rules.sizeLimits.has (limitKey dimensions kind) = true := by
  apply hLimits
  cases kind with
  | html => rcases hDimensions with rfl | rfl <;> decide
  | script => simp [limitKey]
  | assetBundle => exact absurd rfl hKind

theorem ofFormat?_ne_bundle {format : String} {kind : Kind}
    (h : Kind.ofFormat? format = some kind) : kind ≠ .assetBundle := by
  rintro rfl
  unfold Kind.ofFormat? at h
  repeat' split at h
  all_goals cases h

theorem Admitted.presentable {rules : RuleTables} {submission : Submission} {kind : Kind}
    {limit : Int} (h : Admitted rules submission kind limit) : Presentable submission :=
  ⟨h.nonempty, h.readable, h.dimensions⟩

theorem resolve_text {rules : RuleTables} {submission : Submission}
    (hLimits : HasTextLimits rules)
    (hText : Archive.Container.sniff? submission.payload = none) :
    (∃ kind limit, Admitted rules submission kind limit ∧ kind ≠ .assetBundle ∧
      submission.resolve rules = .ok (resolvedText submission kind limit)) ∨
    (∃ fault, submission.resolve rules = .error (.refused fault)) ∧
      ∀ kind limit, ¬ Admitted rules submission kind limit := by
  by_cases hPresentable : Presentable submission
  · rw [hPresentable.resolve_text rules hText]
    unfold resolveText
    simp only
    split
    · next hFormat =>
      refine .inr ⟨⟨_, rfl⟩, fun kind limit h => ?_⟩
      rw [declaredAs_iff.mp h.declared] at hFormat
      cases hFormat
    · next kind hFormat =>
      have hKind := ofFormat?_ne_bundle hFormat
      obtain ⟨limit, hLimit⟩ :=
        Table.exists_get?_of_has (limitKey_has hLimits hPresentable.dimensions hKind)
      refine .inl ⟨kind, limit, ⟨hPresentable.nonempty, hPresentable.readable,
        hPresentable.dimensions, declaredAs_iff.mpr hFormat, hLimit⟩, hKind, ?_⟩
      rw [sizeLimit_eq hKind hLimit]
      rfl
  · exact .inr ⟨resolve_of_not_presentable rules hPresentable,
      fun kind limit h => hPresentable h.presentable⟩

/-- What the deciding stages ask of an admitted submission. -/
def StagesPass (rules : RuleTables) (submission : Submission) (kind : Kind) : Prop :=
  ∃ text units, Decodes submission.payload text ∧
    CodeOf rules submission.metadata.dimensions text kind units ∧
    LibrariesServed rules submission.metadata.libs ∧ DefinesGame rules units ∧
    AvoidsForbidden rules units

section

variable {rules : RuleTables} {submission : Submission} {kind : Kind} {limit : Int}
  {text : List Char}

theorem stagesPass_decodes (h : StagesPass rules submission kind) :
    ∃ text, textOfPayload "Submission" submission.payload = .ok text := by
  obtain ⟨text, units, hText, -⟩ := h
  exact ⟨text, textOfPayload_ok_iff.mpr hText⟩

theorem stagesPass_script_iff (hText : Decodes submission.payload text) :
    StagesPass rules submission .script ↔
      LibrariesServed rules submission.metadata.libs ∧ DefinesGame rules [⟨text⟩] ∧
        AvoidsForbidden rules [⟨text⟩] := by
  constructor
  · rintro ⟨other, units, hOther, hCode, hRest⟩
    obtain rfl := hText.unique hOther
    cases hCode
    exact hRest
  · rintro ⟨hLibraries, hGame, hForbidden⟩
    exact ⟨text, [⟨text⟩], hText, .script, hLibraries, hGame, hForbidden⟩

theorem stagesPass_html_parses (hText : Decodes submission.payload text)
    (h : StagesPass rules submission .html) :
    ∃ document, Markup.Document.ofText text = .ok document := by
  obtain ⟨other, units, hOther, hCode, -⟩ := h
  obtain rfl := hText.unique hOther
  cases hCode with
  | document hParsed _ => exact ⟨_, hParsed⟩

theorem stagesPass_html_iff {document : Markup.Document} (hText : Decodes submission.payload text)
    (hParsed : Markup.Document.ofText text = .ok document) :
    StagesPass rules submission .html ↔
      DocumentFits rules submission.metadata.dimensions text document ∧
        LibrariesServed rules submission.metadata.libs ∧
        DefinesGame rules (document.codeUnits.map CodeUnit.mk) ∧
        AvoidsForbidden rules (document.codeUnits.map CodeUnit.mk) := by
  constructor
  · rintro ⟨other, units, hOther, hCode, hRest⟩
    obtain rfl := hText.unique hOther
    cases hCode with
    | document hOk hFits =>
      rw [hOk] at hParsed
      cases hParsed
      exact ⟨hFits, hRest⟩
  · rintro ⟨hFits, hLibraries, hGame, hForbidden⟩
    exact ⟨text, _, hText, .document hParsed hFits, hLibraries, hGame, hForbidden⟩

def textStages : List Stage :=
  [.decode, .assetBundle, .requiredTags, .canvas, .externalScripts, .libraries, .gameObject,
    .methods, .forbiddenApis]

theorem decode_applies (hKind : kind ≠ .assetBundle) :
    Stage.decode.appliesTo (.start rules submission (resolvedText submission kind limit)) =
      true := by
  simp [Stage.appliesTo, Context.start, resolvedText, hKind]

theorem decides_undecodable [Platform] {fault : Fault} (hKind : kind ≠ .assetBundle)
    (hFault : textOfPayload "Submission" submission.payload = .error fault) :
    Decides (.start rules submission (resolvedText submission kind limit)) textStages
      (StagesPass rules submission kind) := by
  have hRun : (Stage.decode.run
      (.start rules submission (resolvedText submission kind limit))).finish =
      .ok (.stopping (.start rules submission (resolvedText submission kind limit))
        [fault.issue]) := by
    simp [Stage.run, decodeStage, Context.start, hFault]
  refine (Decides.stop _ _ (decode_applies hKind) hRun rfl).congr (iff_of_false ?_ ?_)
  · exact not_harmless_error [] _ _ _
  · intro hPass
    obtain ⟨text, hText⟩ := stagesPass_decodes hPass
    rw [hText] at hFault
    cases hFault

theorem decides_script [Platform]
    (hDecoded : textOfPayload "Submission" submission.payload = .ok text) :
    Decides (.start rules submission (resolvedText submission .script limit)) textStages
      (StagesPass rules submission .script) := by
  let context := Context.start rules submission (resolvedText submission .script limit)
  let decoded : Context := { context with text := some text, units := [⟨text⟩] }
  have hRun : (Stage.decode.run context).finish = .ok (.clean decoded) := by
    simp [Stage.run, decodeStage, context, decoded, Context.start, hDecoded, resolvedText]
  have hRest : Decides decoded [.requiredTags, .canvas, .externalScripts, .libraries,
      .gameObject, .methods, .forbiddenApis] _ :=
    decides_skippingDocument _ (by simp [decoded, context, Context.start, resolvedText])
      (decides_scriptStages _ rfl)
  refine (Decides.pass _ _ (decode_applies (by simp)) hRun rfl (Decides.skip _ ?_ hRest)).congr ?_
  · simp [Stage.appliesTo, Report.clean, decoded, context, Context.start, resolvedText]
  · rw [and_iff_right (show Harmless (Report.clean decoded).issues from harmless_nil),
      stagesPass_script_iff (textOfPayload_ok_iff.mp hDecoded)]
    rfl

theorem decides_html [Platform]
    (hDecoded : textOfPayload "Submission" submission.payload = .ok text) :
    Decides (.start rules submission (resolvedText submission .html limit)) textStages
      (StagesPass rules submission .html) := by
  let context := Context.start rules submission (resolvedText submission .html limit)
  have hText := textOfPayload_ok_iff.mp hDecoded
  cases hParsed : Markup.Document.ofText text with
  | error fault =>
    have hRun : (Stage.decode.run context).finish = .ok
        (.stopping { context with text := some text } [.error .invalidHtml fault.message []]) := by
      simp [Stage.run, decodeStage, context, Context.start, hDecoded, resolvedText, hParsed]
    refine (Decides.stop _ _ (decode_applies (by simp)) hRun rfl).congr (iff_of_false ?_ ?_)
    · exact not_harmless_error [] _ _ _
    · intro hPass
      obtain ⟨document, hOk⟩ := stagesPass_html_parses hText hPass
      rw [hOk] at hParsed
      cases hParsed
  | ok document =>
    let decoded : Context :=
      { context with
        text := some text
        document := some document
        units := document.codeUnits.map CodeUnit.mk }
    have hRun : (Stage.decode.run context).finish = .ok (.clean decoded) := by
      simp [Stage.run, decodeStage, context, decoded, Context.start, hDecoded, resolvedText,
        hParsed]
    have hRest := decides_documentStages decoded rfl rfl rfl
    refine (Decides.pass _ _ (decode_applies (by simp)) hRun rfl hRest).congr ?_
    rw [and_iff_right (show Harmless (Report.clean decoded).issues from harmless_nil),
      stagesPass_html_iff hText hParsed]
    rfl

theorem decides_textStages [Platform] (hKind : kind ≠ .assetBundle) :
    Decides (.start rules submission (resolvedText submission kind limit)) textStages
      (StagesPass rules submission kind) := by
  cases hDecoded : textOfPayload "Submission" submission.payload with
  | error fault => exact decides_undecodable hKind hDecoded
  | ok text =>
    cases kind with
    | assetBundle => exact absurd rfl hKind
    | script => exact decides_script hDecoded
    | html => exact decides_html hDecoded

end

theorem decides_gating [Platform] {rules : RuleTables} {submission : Submission} {kind : Kind}
    {limit : Int} (hKind : kind ≠ .assetBundle) :
    Decides (.start rules submission (resolvedText submission kind limit)) Stage.gating
      ((submission.payload.size : Int) ≤ limit ∧ StagesPass rules submission kind) := by
  let context := Context.start rules submission (resolvedText submission kind limit)
  have hHarmless : Harmless (payloadIssues context) ↔ (submission.payload.size : Int) ≤ limit :=
    payloadIssues_harmless_iff context
  by_cases hFits : (submission.payload.size : Int) ≤ limit
  · have hNone : payloadIssues context = [] := by
      unfold payloadIssues
      exact if_pos hFits
    refine (Decides.pass _ (sizeStage context) rfl rfl ?_ (decides_textStages hKind)).congr ?_
    · simp [sizeStage, hNone]
    · exact and_congr_left fun _ => hHarmless
  · refine (Decides.stop _ (sizeStage context) rfl rfl ?_).congr ?_
    · have hLarge : ¬ (context.submission.payload.size : Int) ≤ context.resolved.sizeLimit := hFits
      simp [sizeStage, payloadIssues, hLarge]
    · exact iff_of_false (fun h => hFits (hHarmless.mp h)) fun h => hFits h.1

/-- The verdict on a text submission is the conjunction of all demands on it. -/
theorem judge_text_ok_iff [Platform] {rules : RuleTables} {overrides : List (Value × Value)}
    (hRules : RuleTables.standard.override overrides = .ok rules) (clock : Nat → Number)
    {submission : Submission}
    (hText : Archive.Container.sniff? submission.payload = none) :
    ∃ verdict, (judge ⟨.standard, rules, none⟩ clock submission).1 = .verdict verdict ∧
      (verdict.ok = true ↔
        ∃ kind limit text units, Acceptable rules submission kind limit text units) := by
  rw [judge_untimed]
  rcases resolve_text (hasTextLimits_of_override hRules) hText with
    ⟨kind, limit, hAdmitted, hKind, hResolved⟩ | ⟨⟨fault, hRefused⟩, hNone⟩
  · obtain ⟨verdict, hFinish, hOk⟩ :=
      finish_validate_of_decides hResolved (decides_gating hKind)
    refine ⟨verdict, by rw [hFinish]; rfl, ?_⟩
    rw [hOk]
    constructor
    · rintro ⟨hFits, text, units, hDecodes, hCode, hLibraries, hGame, hForbidden⟩
      exact ⟨kind, limit, text, units, hAdmitted, hFits, hDecodes, hCode, hLibraries, hGame,
        hForbidden⟩
    · rintro ⟨other, bound, text, units, h⟩
      obtain ⟨rfl, rfl⟩ := hAdmitted.unique h.admitted
      exact ⟨h.fits, text, units, h.decodes, h.code, h.libraries, h.game, h.forbidden⟩
  · obtain ⟨verdict, hFinish, hOk⟩ := finish_validate_of_refused _ hRefused
    refine ⟨verdict, by rw [hFinish]; rfl, iff_of_false (by simp [hOk]) ?_⟩
    rintro ⟨kind, limit, text, units, h⟩
    exact hNone kind limit h.admitted

def minimalGame : List Char :=
  ("window.ClawmachineGame=\x7binit()\x7b\x7d,start()\x7b\x7d,reset()\x7b\x7d," ++
    "getState()\x7b\x7d,sendInput()\x7b\x7d,getMeta()\x7b\x7d\x7d").toList

def minimalObject : Script.GameObject := ⟨.dot, 0, .literal, [⟨5, 40, .object⟩]⟩

theorem minimalGame_object :
    (CodeUnit.mk minimalGame).outline.gameObject? "window" "ClawmachineGame" =
      some minimalObject := by
  decide +kernel

theorem minimalGame_methods :
    (CodeUnit.mk minimalGame).outline.methods minimalObject Rules.requiredMethods =
      Rules.requiredMethodNames.map fun name => (name, "shorthand") := by
  decide +kernel

theorem minimalGame_definesGame : DefinesGame .standard [⟨minimalGame⟩] := by
  refine ⟨[], ⟨minimalGame⟩, [], minimalObject, rfl, by simp, minimalGame_object, ?_⟩
  intro spec hSpec
  obtain ⟨name, hName, rfl⟩ := List.mem_map.mp hSpec
  have hRequired : RuleTables.standard.requiredMethods = Rules.requiredMethods := rfl
  rw [hRequired, minimalGame_methods]
  exact ⟨"shorthand", List.mem_map.mpr ⟨name, hName, rfl⟩⟩

theorem minimalGame_compact : (CodeUnit.mk minimalGame).compact = minimalGame := by decide +kernel

theorem minimalGame_avoidsForbidden : AvoidsForbidden .standard [⟨minimalGame⟩] := by
  have hNone : (Rules.forbiddenTokens.all fun rule =>
      !Script.occurs rule.needle minimalGame) = true := by
    decide +kernel
  intro unit hUnit rule hRule _ hInfix
  obtain rfl := List.mem_singleton.mp hUnit
  have hAbsent := List.all_eq_true.mp hNone rule hRule
  rw [minimalGame_compact, ← occurs_iff] at hInfix
  rw [hInfix] at hAbsent
  cases hAbsent

def minimalSubmission : Submission where
  payload := (String.ofList minimalGame).toUTF8
  metadata := { Metadata.default with format := some "script" }

theorem minimalSubmission_decodes : Decodes minimalSubmission.payload minimalGame :=
  ⟨by decide +kernel, by decide +kernel⟩

theorem minimalSubmission_acceptable :
    Acceptable .standard minimalSubmission .script (50 * RuleTables.kibibytes) minimalGame
      [⟨minimalGame⟩] where
  admitted := ⟨by decide +kernel, rfl, .inl rfl, rfl, by decide +kernel⟩
  fits := by decide +kernel
  decodes := minimalSubmission_decodes
  code := .script
  libraries := fun _ hKey => by cases hKey
  game := minimalGame_definesGame
  forbidden := minimalGame_avoidsForbidden

section

attribute [local instance] Platform.bare

/-- The smallest game is accepted under the standard rules. -/
theorem judge_text_ok_minimal :
    RuleTables.standard.override [] = .ok .standard ∧
      Archive.Container.sniff? minimalSubmission.payload = none ∧
      ∃ verdict, (judge ⟨.standard, .standard, none⟩ (fun _ => .int 0) minimalSubmission).1 =
        .verdict verdict ∧ verdict.ok = true := by
  have hRules : RuleTables.standard.override [] = .ok .standard := rfl
  have hText : Archive.Container.sniff? minimalSubmission.payload = none := by decide +kernel
  obtain ⟨verdict, hVerdict, hOk⟩ := judge_text_ok_iff hRules (fun _ => .int 0) hText
  exact ⟨hRules, hText, verdict, hVerdict,
    hOk.mpr ⟨_, _, _, _, minimalSubmission_acceptable⟩⟩

end

end SubmissionGate.Gate
