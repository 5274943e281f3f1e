import SubmissionGate.Proofs.Bundle.Counterpart
import SubmissionGate.Proofs.Gate.ScriptBundle
import SubmissionGate.Proofs.Gate.VerdictShape
import SubmissionGate.Proofs.Json.LongInteger
import SubmissionGate.Proofs.Submission.PayloadText

/-!
# Notes on the manifest

A manifest is never held against a bundle: whatever its bytes are, it gives at most one warning, so
bundles that differ in these bytes only are judged alike. One thing breaks this. An integer of more
digits than are converted ends the validation without a verdict.
-/

namespace SubmissionGate

def LongInteger (cause : Breakdown) : Prop :=
  ∃ digits, cause = .longInteger digits ∧ Numeral.digitLimit < digits

/-- Two lists of warnings that are the same behind at most one note on a manifest each. -/
def NotesApart (warnings others : List Issue) : Prop :=
  ∃ notes more rest, Bundle.ManifestNotes notes ∧ Bundle.ManifestNotes more ∧
    warnings = notes ++ rest ∧ others = more ++ rest

/-- Two verdicts that differ at most in a note on the manifest. -/
structure Verdict.SameButNotes (first second : Verdict) : Prop where
  errors : first.errors = second.errors
  incomplete : first.incomplete = second.incomplete
  warnings : NotesApart first.warnings second.warnings

theorem Verdict.SameButNotes.refl (verdict : Verdict) : verdict.SameButNotes verdict :=
  ⟨rfl, rfl, [], [], verdict.warnings, Bundle.manifestNotes_nil, Bundle.manifestNotes_nil, rfl, rfl⟩

theorem Verdict.SameButNotes.extend {first second : Verdict} (h : first.SameButNotes second)
    (issues : List Issue) : (first.extend issues).SameButNotes (second.extend issues) := by
  obtain ⟨notes, more, rest, hNotes, hMore, hFirst, hSecond⟩ := h.warnings
  rw [extend_eq, extend_eq]
  refine ⟨by rw [h.errors], h.incomplete, notes, more, rest ++ warningsOf issues, hNotes, hMore,
    ?_, ?_⟩
  · rw [hFirst, List.append_assoc]
  · rw [hSecond, List.append_assoc]

theorem Verdict.SameButNotes.ok {first second : Verdict} (h : first.SameButNotes second) :
    first.ok = second.ok := by
  rw [Verdict.ok, Verdict.ok, h.errors, h.incomplete]

namespace Bundle

/-- An integer that a manifest breaks off at has too many digits, and they stand there in a row. -/
theorem ManifestBreaks.digits [Platform] {rules : RuleTables} {inventory : Inventory} {digits : Nat}
    (h : ManifestBreaks rules inventory digits) :
    Numeral.digitLimit < digits ∧ ∃ data text, inventory.manifest = some data ∧
      Utf8.decodeMarked data.data.toList = .ok text ∧ Json.HasDigits text digits := by
  obtain ⟨data, text, hData, hText, hRead⟩ := h.found
  obtain ⟨hLimit, hDigits⟩ := Json.read_tooManyDigits hRead
  exact ⟨hLimit, data, text, hData, hText, hDigits⟩

theorem finish_manifestNotes_cases [Platform] {rules : RuleTables}
    (hLimit : rules.assetLimits.has jsonCategory = true) (inventory : Inventory) :
    (∃ digits, (manifestNotes rules inventory).finish = .error (.longInteger digits) ∧
      ManifestBreaks rules inventory digits) ∨
    (∃ notes, (manifestNotes rules inventory).finish = .ok notes ∧ ManifestNotes notes ∧
      ∀ digits, ¬ ManifestBreaks rules inventory digits) := by
  rcases finish_manifestNotes hLimit inventory with hBroken | ⟨notes, hNotes, hNone⟩
  · exact .inl hBroken
  · exact .inr ⟨notes, hNotes, manifestNotes_notes hNotes, hNone⟩

theorem manifestNotes_alongside [Platform] {rules : RuleTables}
    (hLimit : rules.assetLimits.has jsonCategory = true) (inventory other : Inventory) :
    Alongside LongInteger (fun notes others => ManifestNotes notes ∧ ManifestNotes others)
      (manifestNotes rules inventory).finish (manifestNotes rules other).finish := by
  rcases finish_manifestNotes_cases hLimit inventory with
    ⟨digits, hFinish, hBreaks⟩ | ⟨notes, hNotes, hNoted, -⟩
  · rw [hFinish]
    exact .first ⟨digits, rfl, hBreaks.digits.1⟩ _
  · rcases finish_manifestNotes_cases hLimit other with
      ⟨digits, hFinish, hBreaks⟩ | ⟨others, hOthers, hOtherNoted, -⟩
    · rw [hFinish]
      exact .second ⟨digits, rfl, hBreaks.digits.1⟩ _
    · rw [hNotes, hOthers]
      exact .ok ⟨hNoted, hOtherNoted⟩

end Bundle

namespace Gate

open SubmissionGate.Bundle Submission Archive

/-! ## The bundle stage -/

/-- Two lists of issues that differ at most in a note on the manifest. -/
structure SameErrors (issues others : List Issue) : Prop where
  errors : errorsOf issues = errorsOf others
  notes : ManifestNotes (warningsOf issues)
  otherNotes : ManifestNotes (warningsOf others)

theorem SameErrors.verdicts {issues others : List Issue} (h : SameErrors issues others) :
    (Verdict.empty.extend issues).SameButNotes (Verdict.empty.extend others) := by
  rw [extend_empty, extend_empty]
  exact ⟨h.errors, rfl, _, _, [], h.notes, h.otherNotes, (List.append_nil _).symm,
    (List.append_nil _).symm⟩

theorem SameErrors.concat_error {issues others : List Issue} (h : SameErrors issues others)
    (code : IssueCode) (message : String) (detail : List (String × Value)) :
    SameErrors (issues ++ [.error code message detail])
      (others ++ [.error code message detail]) := by
  have hNone : warningsOf [.error code message detail] = [] := rfl
  refine ⟨?_, ?_, ?_⟩
  · rw [errorsOf_append, errorsOf_append, h.errors]
  · rw [warningsOf_append, hNone, List.append_nil]
    exact h.notes
  · rw [warningsOf_append, hNone, List.append_nil]
    exact h.otherNotes

/-- Two reports on a bundle that differ at most in a note on the manifest. -/
structure Report.SameButNotes (report other : Report) : Prop where
  context : Gate.Alike report.context other.context
  issues : SameErrors report.issues other.issues
  stops : report.stops = other.stops

section

variable {first second : Context} {inventory copy : Inventory}

theorem scriptReport_alongside (h : Alike first second) (hSame : SameButManifest inventory copy)
    (issues others : List Issue) (hIssues : SameErrors issues others) :
    Alongside LongInteger Report.SameButNotes (scriptReport first inventory issues)
      (scriptReport second copy others) := by
  obtain ⟨manifest, rfl⟩ := hSame
  have hStops : ∀ code message detail, Alongside LongInteger Report.SameButNotes
      (.ok (.stopping first (issues ++ [.error code message detail])))
      (.ok (.stopping second (others ++ [.error code message detail]))) := fun _ _ _ =>
    .ok ⟨h, hIssues.concat_error _ _ _, rfl⟩
  unfold scriptReport
  simp only [← h.rules]
  split
  · exact hStops _ _ _
  · split
    · exact .stopped _
    · split
      · exact hStops _ _ _
      · split
        · exact hStops _ _ _
        · split
          · exact hStops _ _ _
          · exact .ok ⟨⟨rfl, h.libs, rfl, rfl, h.game, h.flat⟩, hIssues, rfl⟩

theorem sameErrors_of_layout {code : IssueCode} {layout notes others : List Issue}
    (hLayout : AllErrors code layout) (hNotes : ManifestNotes notes)
    (hOthers : ManifestNotes others) : SameErrors (layout ++ notes) (layout ++ others) := by
  obtain ⟨hErrors, hWarnings⟩ := layout_notes hLayout hNotes
  obtain ⟨hOtherErrors, hOtherWarnings⟩ := layout_notes hLayout hOthers
  exact ⟨hErrors.trans hOtherErrors.symm, hWarnings.symm ▸ hNotes, hOtherWarnings.symm ▸ hOthers⟩

theorem Alike.advice_eq (h : Alike first second) : advice second = advice first := by
  simp only [advice, h.hasDocument, advisoryIssues, h.rules, h.units, Bool.false_eq_true, if_false]

theorem inspect_alongside [Platform] (h : Alike first second)
    (hResolved : first.resolved = second.resolved)
    (hLimit : first.rules.assetLimits.has jsonCategory = true)
    (hSame : SameButManifest inventory copy) :
    Alongside LongInteger Report.SameButNotes (inspect first inventory).finish
      (inspect second copy).finish := by
  have hNotes := manifestNotes_alongside hLimit inventory copy
  have hLimits : assetLimits second = assetLimits first := by
    rw [assetLimits, assetLimits, h.rules, hResolved]
  have hScript := scriptReport_alongside h hSame
  obtain ⟨manifest, rfl⟩ := hSame
  rw [finish_inspect_eq, finish_inspect_eq, hLimits, ← h.rules, ← hResolved]
  refine .bind_same _ fun ceilings hCeilings => hNotes.bind fun notes others hNoted => ?_
  have hLayout := allErrors_append
    (allErrors_append (placementIssues_errors first.rules inventory)
      (ceilingIssues_errors hCeilings)) (budgetIssues_errors first.resolved inventory)
  exact hScript _ _ (sameErrors_of_layout hLayout hNoted.1 hNoted.2)

/-! ## Two bundles -/

/-- Two zip archives that are offered in the same way and differ at most in the bytes of their
manifest, which are as many in both. -/
structure Twins [Platform] (rules : RuleTables) (bundle twin : Submission) : Prop where
  metadata : twin.metadata = bundle.metadata
  zip : Container.sniff? bundle.payload = some .zip ∧ Container.sniff? twin.payload = some .zip
  packed : twin.payload.size = bundle.payload.size ∨ ∀ budget, Offered rules bundle budget →
    (bundle.payload.size : Int) ≤ budget ∧ (twin.payload.size : Int) ≤ budget
  entries : ∃ entries others, Directory.read bundle.payload = .ok entries ∧
    Directory.read twin.payload = .ok others ∧
    List.Forall₂ (Counterpart rules bundle.payload twin.payload) entries others

section

variable [Platform] {rules : RuleTables} {bundle twin : Submission} (h : Twins rules bundle twin)

include h

theorem Twins.resolve_eq : twin.resolve rules = bundle.resolve rules := by
  have hBundle : bundle.payload.isEmpty = false := by
    simpa [ByteArray.isEmpty] using nonempty_of_sniff h.zip.1
  have hTwin : twin.payload.isEmpty = false := by
    simpa [ByteArray.isEmpty] using nonempty_of_sniff h.zip.2
  simp only [resolve, hBundle, hTwin, h.zip.1, h.zip.2, h.metadata]

variable {budget : Int}

theorem Twins.resolved_eq :
    resolvedBundle rules twin budget = resolvedBundle rules bundle budget := by
  rw [resolvedBundle, resolvedBundle, h.metadata]

theorem Twins.payloadIssues_eq (hOffered : Offered rules bundle budget) :
    payloadIssues (bundleContext rules twin budget) =
      payloadIssues (bundleContext rules bundle budget) := by
  rcases h.packed with hSize | hFits
  · simp only [payloadIssues, bundleContext, Context.start, hSize, h.resolved_eq]
    rfl
  · obtain ⟨hBundle, hTwin⟩ := hFits budget hOffered
    rw [payloadIssues_fitting hBundle, payloadIssues_fitting hTwin]

theorem Twins.alike :
    Alike (bundleContext rules bundle budget) (bundleContext rules twin budget) :=
  ⟨rfl, congrArg (·.libs) h.metadata.symm, rfl, rfl, rfl, rfl, rfl⟩

theorem Twins.bundleStage (hLimit : rules.assetLimits.has jsonCategory = true) :
    Alongside LongInteger Report.SameButNotes
      (bundleStage (bundleContext rules bundle budget)).finish
      (bundleStage (bundleContext rules twin budget)).finish := by
  obtain ⟨entries, others, hEntries, hOthers, hCounterparts⟩ := h.entries
  have hRead := read_counterparts hCounterparts hEntries hOthers budget
  rw [finish_bundleStage_eq, finish_bundleStage_eq]
  refine (hRead.mono fun _ hNever => hNever.elim).bind fun outcome other hOutcome => ?_
  cases hOutcome with
  | ok hSame => exact inspect_alongside h.alike h.resolved_eq.symm hLimit hSame
  | stopped fault => exact .ok ⟨h.alike, ⟨rfl, manifestNotes_nil, manifestNotes_nil⟩, rfl⟩
  | first hNever _ => exact hNever.elim
  | second hNever _ => exact hNever.elim

/-- The deciding stages leave two verdicts that differ at most in a note on the manifest. -/
theorem Twins.gating (hLimit : rules.assetLimits.has jsonCategory = true)
    (hOffered : Offered rules bundle budget) :
    Alongside LongInteger
      (fun reached other => Alike reached.1 other.1 ∧ reached.2.SameButNotes other.2)
      (runGating (bundleContext rules bundle budget) .empty Stage.gating).finish
      (runGating (bundleContext rules twin budget) .empty Stage.gating).finish := by
  have hPayload := h.payloadIssues_eq hOffered
  cases hIssues : payloadIssues (bundleContext rules bundle budget) with
  | cons issue rest =>
    have hStops : ∀ submission : Submission,
        payloadIssues (bundleContext rules submission budget) = issue :: rest →
          (runGating (bundleContext rules submission budget) .empty Stage.gating).finish =
            .ok (bundleContext rules submission budget, Verdict.empty.extend (issue :: rest)) := by
      intro submission hFound
      rw [Stage.gating, finish_runGating_reported size_applies rfl]
      simp [sizeStage, hFound]
    have hErrors : warningsOf (issue :: rest) = [] :=
      hIssues ▸ (sizeStage_tells (bundleContext rules bundle budget)).notes
    have hNotes : ManifestNotes (warningsOf (issue :: rest)) := hErrors ▸ manifestNotes_nil
    have hSame : SameErrors (issue :: rest) (issue :: rest) := ⟨rfl, hNotes, hNotes⟩
    rw [hStops bundle hIssues, hStops twin (hPayload.trans hIssues)]
    exact .ok ⟨h.alike, hSame.verdicts⟩
  | nil =>
    have hCode : ∀ stage ∈ codeStages, stage.readsCode = true := by decide
    rw [finish_runGating_sized hIssues, finish_runGating_sized (hPayload.trans hIssues),
      finish_runGating_skipped decode_skips, finish_runGating_skipped decode_skips,
      finish_runGating_cons, finish_runGating_cons, assetBundle_applies, assetBundle_applies]
    simp only [if_true]
    refine (h.bundleStage hLimit).bind fun report other hReports => ?_
    rw [hReports.stops]
    have hVerdicts := hReports.issues.verdicts
    split
    · exact .ok ⟨hReports.context, hVerdicts⟩
    · obtain ⟨_, _, _, _, hFirst, hSecond, hAlike, hSame⟩ :=
        finish_runGating_alike _ (fun _ _ issues hSame => hSame.extend issues) hCode
          hReports.context hVerdicts
      rw [hFirst, hSecond]
      exact .ok ⟨hAlike, hSame⟩

theorem Twins.validate (hLimit : rules.assetLimits.has jsonCategory = true) :
    Alongside LongInteger Verdict.SameButNotes (validate .standard rules bundle).finish
      (validate .standard rules twin).finish := by
  have hResolve := h.resolve_eq
  rcases @resolve_archive rules _ _ h.zip.1 with
    ⟨budget, hOffered, hResolved⟩ | ⟨⟨fault, hRefused⟩, -⟩
  · have hTwin : twin.resolve rules = .ok (resolvedBundle rules twin budget) := by
      rw [hResolve, hResolved, h.resolved_eq]
    rw [finish_validate_resolved hResolved, finish_validate_resolved hTwin]
    refine (h.gating hLimit hOffered).bind fun reached other hReached => ?_
    obtain ⟨hAlike, hSame⟩ := hReached
    simp only [← hAlike.text]
    split
    · next hText =>
      rw [finish_runWarning_eq _ _ hText, finish_runWarning_eq _ _ (hAlike.text ▸ hText),
        hAlike.advice_eq]
      exact .ok (hSame.extend _)
    · exact .ok hSame
  · rw [finish_validate_refused _ hRefused, finish_validate_refused _ (hResolve.trans hRefused)]
    exact .ok (.refl _)

end

/-! ## The manifest can only warn -/

/-- The manifest of an inventory gives at most one note, unless an integer in it is too long. Two
bundles that differ in the bytes of their manifest only get the same errors, or break down for the
same reason, unless a manifest with such an integer ends the validation of one of them. -/
theorem manifest_only_warns [Platform] {rules : RuleTables}
    (hLimit : rules.assetLimits.has jsonCategory = true) :
    (∀ inventory,
      (∃ notes, (manifestNotes rules inventory).finish = .ok notes ∧ ManifestNotes notes ∧
        ∀ digits, ¬ ManifestBreaks rules inventory digits) ∨
      ∃ digits, (manifestNotes rules inventory).finish = .error (.longInteger digits) ∧
        ManifestBreaks rules inventory digits ∧ Numeral.digitLimit < digits ∧
        ∃ data text, inventory.manifest = some data ∧
          Utf8.decodeMarked data.data.toList = .ok text ∧ Json.HasDigits text digits) ∧
    ∀ bundle twin, Twins rules bundle twin → ∀ clock other : Nat → Number,
      (∃ first second : Verdict,
        (judge ⟨.standard, rules, none⟩ clock bundle).1 = .verdict first ∧
        (judge ⟨.standard, rules, none⟩ other twin).1 = .verdict second ∧
        first.errors = second.errors ∧ first.ok = second.ok ∧
        NotesApart first.warnings second.warnings) ∨
      (∃ cause, (judge ⟨.standard, rules, none⟩ clock bundle).1 = .breakdown cause ∧
        (judge ⟨.standard, rules, none⟩ other twin).1 = .breakdown cause) ∨
      ∃ digits, Numeral.digitLimit < digits ∧
        ((judge ⟨.standard, rules, none⟩ clock bundle).1 = .breakdown (.longInteger digits) ∨
          (judge ⟨.standard, rules, none⟩ other twin).1 = .breakdown (.longInteger digits)) := by
  refine ⟨fun inventory => ?_, fun bundle twin hTwins clock other => ?_⟩
  · rcases finish_manifestNotes_cases hLimit inventory with ⟨digits, hFinish, hBreaks⟩ | hNotes
    · exact .inr ⟨digits, hFinish, hBreaks, hBreaks.digits⟩
    · exact .inl hNotes
  · simp only [judge_untimed]
    have hValidations := hTwins.validate hLimit
    revert hValidations
    generalize (validate .standard rules bundle).finish = first
    generalize (validate .standard rules twin).finish = second
    rintro (hSame | cause | ⟨⟨digits, rfl, hDigits⟩, _⟩ | ⟨⟨digits, rfl, hDigits⟩, _⟩)
    · exact .inl ⟨_, _, rfl, rfl, hSame.errors, hSame.ok, hSame.warnings⟩
    · exact .inr (.inl ⟨cause, rfl, rfl⟩)
    · exact .inr (.inr ⟨digits, hDigits, .inl rfl⟩)
    · exact .inr (.inr ⟨digits, hDigits, .inr rfl⟩)

end

def manifestName : List UInt8 := [109, 97, 110, 105, 102, 101, 115, 116, 46, 106, 115, 111, 110]

def notedListing (checksum : List UInt8) : List UInt8 :=
  [80, 75, 1, 2, 20, 0, 20, 0, 0, 0, 0, 0, 0, 0, 0, 0, 33, 223, 219, 244, 1, 0, 0, 0, 1, 0, 0, 0, 7,
    0, 0, 0, 0, 0, 0, 0, 0, 0, 0, 0, 0, 0, 0, 0, 0, 0, 103, 97, 109, 101, 46, 106, 115, 80, 75, 1,
    2, 20, 0, 20, 0, 0, 0, 0, 0, 0, 0, 0, 0] ++ checksum ++ [2, 0, 0, 0, 2, 0, 0, 0, 13, 0, 0, 0,
    0, 0, 0, 0, 0, 0, 0, 0, 0, 0, 38, 0, 0, 0] ++ manifestName

def notedPayload (manifest checksum : List UInt8) : ByteArray :=
  ⟨([80, 75, 3, 4, 20, 0, 0, 0, 0, 0, 0, 0, 0, 0, 33, 223, 219, 244, 1, 0, 0, 0, 1, 0, 0, 0, 7, 0,
      0, 0, 103, 97, 109, 101, 46, 106, 115, 48, 80, 75, 3, 4, 20, 0, 0, 0, 0, 0, 0, 0, 0, 0] ++
    checksum ++ [2, 0, 0, 0, 2, 0, 0, 0, 13, 0, 0, 0] ++ manifestName ++ manifest ++
    notedListing checksum ++
    [80, 75, 5, 6, 0, 0, 0, 0, 2, 0, 2, 0, 112, 0, 0, 0, 83, 0, 0, 0, 0, 0]).toArray⟩

def objectBundle : Submission := ⟨notedPayload [123, 125] [67, 191, 166, 163], .default⟩

def listBundle : Submission := ⟨notedPayload [91, 93] [41, 187, 76, 13], .default⟩

def gameEntry : Entry := ⟨"game.js", "game.js", 0, 0, 4108050209, 1, 1, 0, 38⟩

def manifestEntry (checksum : UInt32) : Entry :=
  ⟨"manifest.json", "manifest.json", 0, 0, checksum, 2, 2, 38, 83⟩

theorem objectBundle_entries :
    Directory.read objectBundle.payload = .ok [gameEntry, manifestEntry 2745614147] := by
  have hPlace : (Directory.place objectBundle.payload).toOption = some ⟨83, 112, 0⟩ := by
    decide +kernel
  have hListed : (Directory.readEntries ⟨(notedListing [67, 191, 166, 163]).toArray⟩ 0 0).toOption =
      some ([gameEntry, manifestEntry 2745614147].map fun entry => { entry with bound := 0 }) := by
    decide +kernel
  exact Directory.read_of_listing hPlace (by decide +kernel) hListed (by decide)
    (by decide +kernel)

theorem listBundle_entries :
    Directory.read listBundle.payload = .ok [gameEntry, manifestEntry 223132457] := by
  have hPlace : (Directory.place listBundle.payload).toOption = some ⟨83, 112, 0⟩ := by
    decide +kernel
  have hListed : (Directory.readEntries ⟨(notedListing [41, 187, 76, 13]).toArray⟩ 0 0).toOption =
      some ([gameEntry, manifestEntry 223132457].map fun entry => { entry with bound := 0 }) := by
    decide +kernel
  exact Directory.read_of_listing hPlace (by decide +kernel) hListed (by decide)
    (by decide +kernel)

section

attribute [local instance] Platform.bare

def gives (payload : ByteArray) (entry : Entry) (data : ByteArray) (limit : Int) : Bool :=
  (measure payload entry limit).toOption.any fun content =>
    decide (content.data.map (·.data) = some data.data) && content.size == data.size

theorem measure_of_gives {payload : ByteArray} {entry : Entry} {data : ByteArray} {limit : Int}
    (h : gives payload entry data limit = true) :
    measure payload entry limit = .ok ⟨some data, data.size⟩ := by
  obtain ⟨content, hContent, hData⟩ := (Option.any_eq_true _ _).mp h
  simp only [Bool.and_eq_true, decide_eq_true_eq, beq_iff_eq] at hData
  rw [Except.eq_ok_of_toOption hContent, ← eq_some_of_bytes hData.1, ← hData.2]

theorem entries_given :
    gives objectBundle.payload gameEntry ⟨#[48]⟩ (50 * RuleTables.kibibytes) = true ∧
      gives listBundle.payload gameEntry ⟨#[48]⟩ (50 * RuleTables.kibibytes) = true ∧
      gives objectBundle.payload (manifestEntry 2745614147) ⟨#[123, 125]⟩ RuleTables.mebibytes =
        true ∧
      gives listBundle.payload (manifestEntry 223132457) ⟨#[91, 93]⟩ RuleTables.mebibytes =
        true := by
  decide +kernel

theorem gameEntry_counterpart :
    Counterpart .standard objectBundle.payload listBundle.payload gameEntry gameEntry where
  name := rfl
  size := rfl
  suspicion := rfl
  content := by
    intro limit hLimit
    obtain ⟨hFirst, hSecond, -, -⟩ := entries_given
    have hScript : RuleTables.standard.sizeLimits.get? "script" =
        some (50 * RuleTables.kibibytes) := by decide
    obtain rfl : 50 * RuleTables.kibibytes = limit := Option.some.inj (hScript.symm.trans hLimit)
    exact .inl ((measure_of_gives hSecond).trans (measure_of_gives hFirst).symm)

theorem manifestEntry_counterpart : Counterpart .standard objectBundle.payload listBundle.payload
    (manifestEntry 2745614147) (manifestEntry 223132457) where
  name := rfl
  size := rfl
  suspicion := rfl
  content := by
    intro limit hLimit
    obtain ⟨-, -, hFirst, hSecond⟩ := entries_given
    have hJson : RuleTables.standard.assetLimits.get? jsonCategory = some RuleTables.mebibytes := by
      decide
    obtain rfl : RuleTables.mebibytes = limit := Option.some.inj (hJson.symm.trans hLimit)
    exact .inr ⟨by decide, _, _, measure_of_gives hFirst, measure_of_gives hSecond, rfl⟩

theorem objectBundle_twins : Twins .standard objectBundle listBundle where
  metadata := rfl
  zip := ⟨by decide +kernel, by decide +kernel⟩
  packed := .inl (by decide +kernel)
  entries := ⟨_, _, objectBundle_entries, listBundle_entries,
    .cons gameEntry_counterpart (.cons manifestEntry_counterpart .nil)⟩

theorem judge_of_report {submission : Submission} (budget : Int) {files : List Entry}
    (hOffered : Offered .standard submission budget)
    (hFits : (submission.payload.size : Int) ≤ budget)
    (hFiles : Lists .standard submission.payload files)
    (hReport : ((inventoryOf .standard submission.payload budget files).finish.toOption.any
      fun outcome => outcome.toOption.any fun inventory =>
        (inspect (bundleContext .standard submission budget) inventory).finish.toOption.isSome) =
      true) (clock : Nat → Number) :
    ∃ verdict, (judge ⟨.standard, .standard, none⟩ clock submission).1 = .verdict verdict := by
  obtain ⟨outcome, hOutcome, hRest⟩ := (Option.any_eq_true _ _).mp hReport
  obtain ⟨inventory, hInventory, hInspect⟩ := (Option.any_eq_true _ _).mp hRest
  obtain ⟨report, hInspect⟩ := Option.isSome_iff_exists.mp hInspect
  have hRead : (Bundle.read .standard submission.payload budget).finish = .ok (.ok inventory) := by
    rw [finish_read_of_lists hFiles, Except.eq_ok_of_toOption hOutcome,
      Except.eq_ok_of_toOption hInventory]
  have hFinish : (bundleStage (bundleContext .standard submission budget)).finish = .ok report := by
    rw [finish_bundleStage_eq]
    simp only [bundleContext, Context.start, resolvedBundle] at hInspect ⊢
    rw [hRead]
    exact Except.eq_ok_of_toOption hInspect
  have hVerdict : ∃ verdict, (validate .standard .standard submission).finish = .ok verdict := by
    rcases resolve_archive hOffered.container with
      ⟨same, hSame, hResolved⟩ | ⟨-, hNone⟩
    · obtain rfl := hOffered.unique hSame
      rcases finish_bundleStage (bundleContext .standard submission budget)
        RuleTables.standard_measures assetLimits_bundleContext with
        ⟨cause, hBroken, -⟩ | ⟨other, hOther, hCases, -⟩
      · cases hBroken.symm.trans hFinish
      · obtain ⟨condition, hDecides, -⟩ := decides_gating_opened hFits hOther hCases
        obtain ⟨verdict, hFound, -⟩ := finish_validate_of_decides hResolved hDecides
        exact ⟨verdict, hFound⟩
    · exact absurd hOffered (hNone budget)
  obtain ⟨verdict, hVerdict⟩ := hVerdict
  exact ⟨verdict, by rw [judge_untimed, hVerdict]; rfl⟩

theorem objectBundle_verdict : ∃ verdict,
    (judge ⟨.standard, .standard, none⟩ (fun _ => .int 0) objectBundle).1 = .verdict verdict :=
  judge_of_report (5 * RuleTables.mebibytes)
    ⟨by decide +kernel, rfl, .inl rfl, objectBundle_twins.zip.1, by decide +kernel⟩
    (by decide +kernel) ⟨⟨_, objectBundle_entries, by decide, rfl⟩, by decide⟩ (by decide +kernel) _

theorem listBundle_verdict : ∃ verdict,
    (judge ⟨.standard, .standard, none⟩ (fun _ => .int 0) listBundle).1 = .verdict verdict :=
  judge_of_report (5 * RuleTables.mebibytes)
    ⟨by decide +kernel, rfl, .inl rfl, objectBundle_twins.zip.2, by decide +kernel⟩
    (by decide +kernel) ⟨⟨_, listBundle_entries, by decide, rfl⟩, by decide⟩ (by decide +kernel) _

/-- A manifest that is an object and one that is a list make no difference to the errors. -/
theorem manifest_only_warns_object :
    RuleTables.standard.assetLimits.has jsonCategory = true ∧
      Twins .standard objectBundle listBundle ∧ ∃ first second : Verdict,
        (judge ⟨.standard, .standard, none⟩ (fun _ => .int 0) objectBundle).1 = .verdict first ∧
        (judge ⟨.standard, .standard, none⟩ (fun _ => .int 0) listBundle).1 = .verdict second ∧
        first.errors = second.errors ∧ first.ok = second.ok := by
  have hLimit : RuleTables.standard.assetLimits.has jsonCategory = true := by decide
  refine ⟨hLimit, objectBundle_twins, ?_⟩
  obtain ⟨first, hFirst⟩ := objectBundle_verdict
  obtain ⟨second, hSecond⟩ := listBundle_verdict
  rcases (manifest_only_warns hLimit).2 _ _ objectBundle_twins (fun _ => .int 0) (fun _ => .int 0)
    with ⟨verdict, other, hVerdict, hOther, hErrors, hOk, -⟩ | ⟨cause, hBroken, -⟩ |
      ⟨digits, -, hBroken | hBroken⟩
  · exact ⟨verdict, other, hVerdict, hOther, hErrors, hOk⟩
  · cases hFirst.symm.trans hBroken
  · cases hFirst.symm.trans hBroken
  · cases hSecond.symm.trans hBroken

end

/-! ## A manifest that no verdict is reached on -/

def onesManifest (count : Nat) : ByteArray := ⟨(List.replicate count 49).toArray⟩

theorem spelled_ones (count : Nat) :
    Utf8.spelled (List.replicate count '1') = List.replicate count 49 := by
  induction count with
  | zero => rfl
  | succ count ih =>
    rw [List.replicate_succ, List.replicate_succ, Utf8.spelled_cons, ih]
    rfl

theorem parseManifest_ones [Platform] {count : Nat} (hLong : Numeral.digitLimit < count) :
    parseManifest (onesManifest count) = .error (.broken (.longInteger count)) := by
  obtain ⟨rest, rfl⟩ : ∃ rest, count = rest + 1 := ⟨count - 1, by omega⟩
  have hUnmarked : markSize (List.replicate (rest + 1) 49) = 0 := by
    rw [markSize_eq_zero_iff, List.replicate_succ]
    simp [Utf8.mark]
  have hText : Utf8.decodeMarked (List.replicate (rest + 1) 49) =
      .ok (List.replicate (rest + 1) '1') := by
    rw [decodeMarked_eq, unmarked, hUnmarked, List.drop_zero, Utf8.decode_ok_iff, spelled_ones]
  have hRead : Json.read Platform.nesting (List.replicate (rest + 1) '1') =
      .error (.tooManyDigits (rest + 1)) := by
    have hDigits : ∀ c ∈ List.replicate rest '1', c.isDigit = true := fun c hMem => by
      rw [List.eq_of_mem_replicate hMem]
      rfl
    rw [List.replicate_succ, Json.read_ones Platform.nesting hDigits (by simpa using hLong),
      List.length_cons, List.length_replicate]
  simp only [parseManifest, onesManifest, hText, hRead]

def onesInventory (count : Nat) : Inventory :=
  { Inventory.blank [("game.js", .script), ("manifest.json", .manifest)] [] with
    manifest := some (onesManifest count)
    manifestSize := count }

section

attribute [local instance] Platform.bare

/-- A manifest of 4301 ones gives no warning: the validation ends with it. -/
theorem ones_manifest_breaks :
    (manifestNotes .standard (onesInventory 4301)).finish = .error (.longInteger 4301) ∧
      ¬ ∃ notes, (manifestNotes .standard (onesInventory 4301)).finish = .ok notes := by
  have hBroken : (manifestNotes .standard (onesInventory 4301)).finish =
      .error (.longInteger 4301) := by
    have hThere : (onesInventory 4301).roles.has RuleTables.standard.bundleManifest = true := by
      simp only [onesInventory, Inventory.blank]
      decide
    have hParsed : parseManifest (onesManifest 4301) = .error (.broken (.longInteger 4301)) :=
      parseManifest_ones (by decide)
    have hManifest : (onesInventory 4301).manifest = some (onesManifest 4301) := rfl
    simp only [manifestNotes, hThere, hManifest, hParsed, Bool.not_true, Bool.false_eq_true,
      if_false]
    rfl
  refine ⟨hBroken, ?_⟩
  rintro ⟨notes, hNotes⟩
  cases hBroken.symm.trans hNotes

end

end Gate

end SubmissionGate
