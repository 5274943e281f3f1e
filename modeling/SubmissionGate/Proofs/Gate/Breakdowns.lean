import SubmissionGate.Proofs.Archive.Listing
import SubmissionGate.Proofs.Gate.BundleSubmission
import SubmissionGate.Proofs.Gate.TextSubmission
import SubmissionGate.Proofs.Submission.Declaration

/-!
# Validations that break down

Without a time limit what is handed in gets a verdict unless its metadata cannot be read or a bundle
is overlooked: some flaws of an archive are noticed by no check, and each of them takes the verdict
away. In a batch one such submission takes away the verdicts of all the others as well.
-/

namespace SubmissionGate.Gate

def plain : Settings := ⟨.standard, .standard, none⟩

section

variable [Platform]

def Breaks (submission : Submission) (cause : Breakdown) : Prop :=
  ∃ budget, Offered .standard submission budget ∧ (submission.payload.size : Int) ≤ budget ∧
    Overlooked .standard submission.payload budget cause

theorem finish_validate_offered {submission : Submission} {budget : Int}
    (hOffered : Offered .standard submission budget)
    (hResolved : submission.resolve .standard =
      .ok (resolvedBundle .standard submission budget)) :
    (∃ cause, (validate .standard .standard submission).finish = .error cause ∧
      ∀ other, Breaks submission other ↔ other = cause) ∨
    (∃ verdict, (validate .standard .standard submission).finish = .ok verdict ∧
      ∀ cause, ¬ Breaks submission cause) := by
  have hBreaks : ∀ cause, Breaks submission cause ↔ (submission.payload.size : Int) ≤ budget ∧
      Overlooked .standard submission.payload budget cause := by
    intro cause
    constructor
    · rintro ⟨other, hOther, hRest⟩
      obtain rfl := hOffered.unique hOther
      exact hRest
    · exact fun h => ⟨budget, hOffered, h⟩
  by_cases hFits : (submission.payload.size : Int) ≤ budget
  · simp only [hBreaks, and_iff_right hFits]
    rcases finish_bundleStage (bundleContext .standard submission budget)
      RuleTables.standard_measures assetLimits_bundleContext with
      ⟨cause, hFinish, hCause⟩ | ⟨report, hFinish, hReport, hNone⟩
    · exact .inl ⟨cause, finish_validate_of_bundle_broken hResolved hFits hFinish, hCause⟩
    · obtain ⟨condition, hDecides, -⟩ := decides_gating_opened hFits hFinish hReport
      obtain ⟨verdict, hVerdict, -⟩ := finish_validate_of_decides hResolved hDecides
      exact .inr ⟨verdict, hVerdict, hNone⟩
  · obtain ⟨verdict, hVerdict, -⟩ :=
      finish_validate_of_decides hResolved (decides_gating_oversized hFits)
    exact .inr ⟨verdict, hVerdict, fun cause h => hFits ((hBreaks cause).mp h).1⟩

theorem finish_validate_standard (submission : Submission) :
    (∃ cause, (validate .standard .standard submission).finish = .error cause ∧
      ∀ other, Breaks submission other ↔ other = cause) ∨
    (∃ verdict, (validate .standard .standard submission).finish = .ok verdict ∧
      ∀ cause, ¬ Breaks submission cause) := by
  cases hContainer : Archive.Container.sniff? submission.payload with
  | none =>
    have hNone : ∀ cause, ¬ Breaks submission cause := by
      rintro cause ⟨budget, hOffered, -⟩
      rw [hOffered.container] at hContainer
      cases hContainer
    have hRules : RuleTables.standard.override [] = .ok .standard := rfl
    rcases resolve_text (hasTextLimits_of_override hRules) hContainer with
      ⟨kind, limit, -, hKind, hResolved⟩ | ⟨⟨fault, hRefused⟩, -⟩
    · obtain ⟨verdict, hVerdict, -⟩ := finish_validate_of_decides hResolved (decides_gating hKind)
      exact .inr ⟨verdict, hVerdict, hNone⟩
    · obtain ⟨verdict, hVerdict, -⟩ := finish_validate_of_refused .standard hRefused
      exact .inr ⟨verdict, hVerdict, hNone⟩
  | some container =>
    rcases resolve_archive hContainer with
      ⟨budget, hOffered, hResolved⟩ | ⟨⟨fault, hRefused⟩, hNone⟩
    · exact finish_validate_offered hOffered hResolved
    · obtain ⟨verdict, hVerdict, -⟩ := finish_validate_of_refused .standard hRefused
      exact .inr ⟨verdict, hVerdict, fun cause ⟨budget, h, _⟩ => hNone budget h⟩

/-- What a submission comes to alone does not hang on the clock. -/
theorem judge_plain_cases (submission : Submission) :
    (∃ cause, (∀ clock, (judge plain clock submission).1 = .breakdown cause) ∧
      ∀ other, Breaks submission other ↔ other = cause) ∨
    (∃ verdict, (∀ clock, (judge plain clock submission).1 = .verdict verdict) ∧
      ∀ cause, ¬ Breaks submission cause) := by
  rcases finish_validate_standard submission with
    ⟨cause, hFinish, hCause⟩ | ⟨verdict, hFinish, hNone⟩
  · refine .inl ⟨cause, fun clock => ?_, hCause⟩
    rw [plain, judge_untimed, hFinish]
    rfl
  · refine .inr ⟨verdict, fun clock => ?_, hNone⟩
    rw [plain, judge_untimed, hFinish]
    rfl

/-- What is handed in and gets no verdict: its metadata cannot be read, or it makes a submission
that no verdict is reached on. -/
inductive Fails (intake : Intake) : Breakdown → Prop
  | metadata {fields : List (Value × Value)} {fault : Value.TextFault}
      (hFields : intake.declared = .entries fields)
      (hLacks : Metadata.FirstLacks fields fault Metadata.textFields) :
      Fails intake (.unwritable fault)
  | submission {submission : Submission} {cause : Breakdown}
      (hRead : intake.submission = .ok submission) (hBreaks : Breaks submission cause) :
      Fails intake cause

theorem submission_error_iff {intake : Intake} {cause : Breakdown} :
    intake.submission = .error cause ↔ ∃ fields fault, intake.declared = .entries fields ∧
      Metadata.FirstLacks fields fault Metadata.textFields ∧ cause = .unwritable fault := by
  simp only [← Metadata.ofEntries_error_iff]
  unfold Intake.submission Declared.read
  cases intake.declared with
  | settled metadata => simp [Except.map]
  | entries fields =>
    simp only [Declared.entries.injEq, Except.map, Except.mapError]
    cases hFields : Metadata.ofEntries fields with
    | ok metadata => simp [hFields]
    | error fault => simp [hFields, eq_comm]

theorem exists_submission_iff {intake : Intake} :
    (∃ submission, intake.submission = .ok submission) ↔
      ∀ fields, intake.declared = .entries fields → ∀ field ∈ Metadata.textFields, ∀ value,
        Metadata.Asks fields field value →
          (∃ s, value = .text s) ∨ value.WritableWithin (Platform.room field) := by
  unfold Intake.submission Declared.read
  cases intake.declared with
  | settled metadata => simp [Except.map]
  | entries fields =>
    have hFields : (∃ submission, (((Metadata.ofEntries fields).mapError Breakdown.unwritable).map
        (Submission.mk intake.payload)) = .ok submission) ↔
          ∃ metadata, Metadata.ofEntries fields = .ok metadata := by
      cases Metadata.ofEntries fields <;> simp [Except.map, Except.mapError]
    rw [hFields, Metadata.exists_ofEntries_iff]
    simp

theorem judgeIntake_plain_cases (intake : Intake) :
    (∃ cause, (∀ clock, (judgeIntake plain clock intake).1 = .breakdown cause) ∧
      ∀ other, Fails intake other ↔ other = cause) ∨
    (∃ verdict, (∀ clock, (judgeIntake plain clock intake).1 = .verdict verdict) ∧
      ∀ cause, ¬ Fails intake cause) := by
  cases hSubmission : intake.submission with
  | error cause =>
    refine .inl ⟨cause, fun clock => by rw [judgeIntake, hSubmission], fun other => ?_⟩
    constructor
    · intro h
      cases h with
      | metadata hFields hLacks =>
        rw [submission_error_iff.mpr ⟨_, _, hFields, hLacks, rfl⟩] at hSubmission
        exact Except.error.inj hSubmission
      | submission hRead =>
        rw [hRead] at hSubmission
        cases hSubmission
    · rintro rfl
      obtain ⟨fields, fault, hFields, hLacks, rfl⟩ := submission_error_iff.mp hSubmission
      exact .metadata hFields hLacks
  | ok submission =>
    have hFails : ∀ cause, Fails intake cause ↔ Breaks submission cause := by
      intro cause
      constructor
      · intro h
        cases h with
        | metadata hFields hLacks =>
          rw [submission_error_iff.mpr ⟨_, _, hFields, hLacks, rfl⟩] at hSubmission
          cases hSubmission
        | submission hRead hBreaks =>
          rw [hRead] at hSubmission
          cases hSubmission
          exact hBreaks
      · exact .submission hSubmission
    simp only [hFails, judgeIntake, hSubmission]
    exact judge_plain_cases submission

theorem judgeAll_cons (settings : Settings) (clock : Nat → Nat → Number) (intake : Intake)
    (rest : List Intake) (place : Nat) :
    judgeAll settings clock (intake :: rest) place =
      (settle intake.payload.size (judgeIntake settings (clock place) intake).1).bind
        fun settled => (judgeAll settings clock rest (place + 1)).bind
          fun batch => .ok (settled.1 :: batch.1,
            (judgeIntake settings (clock place) intake).2 ++ settled.2 ++ batch.2) := rfl

/-- A batch keeps the verdicts apart and in order, as long as no submission breaks down. -/
theorem judgeAll_plain_cases (clock : Nat → Nat → Number) (intakes : List Intake) (place : Nat) :
    (∃ before intake behind cause, intakes = before ++ intake :: behind ∧
      (∀ other ∈ before, ∀ cause, ¬ Fails other cause) ∧ Fails intake cause ∧
      judgeAll plain clock intakes place = .error cause) ∨
    (∃ verdicts records, judgeAll plain clock intakes place = .ok (verdicts, records) ∧
      (∀ alone : Nat → Number,
        intakes.map (fun intake => (judgeIntake plain alone intake).1) =
          verdicts.map Judgement.verdict) ∧
      ∀ intake ∈ intakes, ∀ cause, ¬ Fails intake cause) := by
  induction intakes generalizing place with
  | nil => exact .inr ⟨[], [], rfl, fun _ => rfl, by simp⟩
  | cons intake rest ih =>
    rcases judgeIntake_plain_cases intake with ⟨cause, hJudge, hCause⟩ | ⟨verdict, hJudge, hNone⟩
    · refine .inl ⟨[], intake, rest, cause, rfl, by simp, (hCause cause).mpr rfl, ?_⟩
      rw [judgeAll_cons, hJudge]
      rfl
    · rcases ih (place + 1) with
        ⟨before, broken, behind, cause, rfl, hBefore, hBroken, hRest⟩ |
        ⟨verdicts, records, hRest, hAlone, hAll⟩
      · refine .inl ⟨intake :: before, broken, behind, cause, rfl, ?_, hBroken, ?_⟩
        · intro other hOther
          rcases List.mem_cons.mp hOther with rfl | hLater
          · exact hNone
          · exact hBefore other hLater
        · rw [judgeAll_cons, hJudge, hRest]
          rfl
      · refine .inr ⟨verdict :: verdicts, _, by rw [judgeAll_cons, hJudge, hRest]; rfl, ?_, ?_⟩
        · intro alone
          rw [List.map_cons, List.map_cons, hJudge, hAlone]
        · intro other hOther
          rcases List.mem_cons.mp hOther with rfl | hLater
          · exact hNone
          · exact hAll other hLater

theorem Fails.unique {intake : Intake} {cause other : Breakdown} (h : Fails intake cause)
    (hOther : Fails intake other) : cause = other := by
  rcases judgeIntake_plain_cases intake with ⟨found, -, hFound⟩ | ⟨verdict, -, hNone⟩
  · rw [(hFound cause).mp h, (hFound other).mp hOther]
  · exact absurd h (hNone cause)

theorem fails_first_unique {before behind : List Intake} (first last : List Intake)
    {intake found : Intake} {cause other : Breakdown}
    (hSplit : before ++ intake :: behind = first ++ found :: last)
    (hBefore : ∀ earlier ∈ before, ∀ cause, ¬ Fails earlier cause)
    (hBroken : Fails intake cause) (hFirst : ∀ earlier ∈ first, ∀ cause, ¬ Fails earlier cause)
    (hFound : Fails found other) : cause = other := by
  induction before generalizing first with
  | nil =>
    cases first with
    | nil =>
      cases hSplit
      exact hBroken.unique hFound
    | cons earlier rest =>
      cases hSplit
      exact absurd hBroken (hFirst _ List.mem_cons_self cause)
  | cons earlier rest ih =>
    cases first with
    | nil =>
      cases hSplit
      exact absurd hFound (hBefore _ List.mem_cons_self other)
    | cons same others =>
      exact ih others (List.cons.inj hSplit).2
        (fun item hItem => hBefore item (List.mem_cons_of_mem _ hItem))
        fun item hItem => hFirst item (List.mem_cons_of_mem _ hItem)

theorem judgeIntake_plain_breakdown (clock : Nat → Number) (intake : Intake) (cause : Breakdown) :
    (judgeIntake plain clock intake).1 = .breakdown cause ↔ Fails intake cause := by
  rcases judgeIntake_plain_cases intake with ⟨other, hJudge, hCause⟩ | ⟨verdict, hJudge, hNone⟩
  · rw [hJudge, hCause]
    constructor
    · intro h
      cases h
      rfl
    · rintro rfl
      rfl
  · rw [hJudge]
    exact iff_of_false (fun h => by cases h) (hNone cause)

theorem judgeIntake_plain_verdict (clock : Nat → Number) (intake : Intake) :
    (∃ verdict, (judgeIntake plain clock intake).1 = .verdict verdict) ↔
      ∀ cause, ¬ Fails intake cause := by
  rcases judgeIntake_plain_cases intake with ⟨other, hJudge, hCause⟩ | ⟨verdict, hJudge, hNone⟩
  · rw [hJudge]
    refine iff_of_false ?_ fun h => h other ((hCause other).mpr rfl)
    rintro ⟨verdict, h⟩
    cases h
  · exact iff_of_true ⟨verdict, hJudge clock⟩ hNone

theorem judgeAll_plain_error (clocks : Nat → Nat → Number) (intakes : List Intake) (place : Nat)
    (cause : Breakdown) :
    judgeAll plain clocks intakes place = .error cause ↔
      ∃ before broken behind, intakes = before ++ broken :: behind ∧
        (∀ other ∈ before, ∀ cause, ¬ Fails other cause) ∧ Fails broken cause := by
  rcases judgeAll_plain_cases clocks intakes place with
    ⟨before, broken, behind, other, rfl, hBefore, hBroken, hBatch⟩ |
    ⟨verdicts, records, hBatch, -, hAll⟩
  · rw [hBatch]
    constructor
    · intro h
      cases h
      exact ⟨before, broken, behind, rfl, hBefore, hBroken⟩
    · rintro ⟨first, found, last, hSplit, hFirst, hFound⟩
      obtain rfl := fails_first_unique _ _ hSplit hBefore hBroken hFirst hFound
      rfl
  · rw [hBatch]
    refine iff_of_false (fun h => by cases h) ?_
    rintro ⟨first, found, last, rfl, -, hFound⟩
    exact hAll found (by simp) cause hFound

theorem judgeAll_plain_ok (clocks : Nat → Nat → Number) {intakes : List Intake} (place : Nat)
    (hNone : ∀ other ∈ intakes, ∀ cause, ¬ Fails other cause) :
    ∃ verdicts records, judgeAll plain clocks intakes place = .ok (verdicts, records) ∧
      ∀ alone : Nat → Number, intakes.map (fun other => (judgeIntake plain alone other).1) =
        verdicts.map Judgement.verdict := by
  rcases judgeAll_plain_cases clocks intakes place with
    ⟨before, broken, behind, cause, rfl, -, hBroken, -⟩ |
    ⟨verdicts, records, hBatch, hAlone, -⟩
  · exact absurd hBroken (hNone broken (by simp) cause)
  · exact ⟨verdicts, records, hBatch, hAlone⟩

/-- The exact condition of a breakdown, for one submission and for a batch, and that of metadata
that can be read. -/
theorem judge_plain_breakdown_iff (clock : Nat → Number) (intake : Intake)
    (clocks : Nat → Nat → Number) (intakes : List Intake) (place : Nat) :
    (∀ cause, (judgeIntake plain clock intake).1 = .breakdown cause ↔ Fails intake cause) ∧
    ((∃ verdict, (judgeIntake plain clock intake).1 = .verdict verdict) ↔
      ∀ cause, ¬ Fails intake cause) ∧
    (∀ cause, judgeAll plain clocks intakes place = .error cause ↔
      ∃ before broken behind, intakes = before ++ broken :: behind ∧
        (∀ other ∈ before, ∀ cause, ¬ Fails other cause) ∧ Fails broken cause) ∧
    ((∀ other ∈ intakes, ∀ cause, ¬ Fails other cause) →
      ∃ verdicts records, judgeAll plain clocks intakes place = .ok (verdicts, records) ∧
        ∀ alone : Nat → Number, intakes.map (fun other => (judgeIntake plain alone other).1) =
          verdicts.map Judgement.verdict) ∧
    ((∃ submission, intake.submission = .ok submission) ↔
      ∀ fields, intake.declared = .entries fields → ∀ field ∈ Metadata.textFields, ∀ value,
        Metadata.Asks fields field value →
          (∃ s, value = .text s) ∨ value.WritableWithin (Platform.room field)) :=
  ⟨judgeIntake_plain_breakdown clock intake, judgeIntake_plain_verdict clock intake,
    judgeAll_plain_error clocks intakes place, judgeAll_plain_ok clocks place,
    exists_submission_iff⟩

theorem minimalSubmission_holds (cause : Breakdown) : ¬ Breaks minimalSubmission cause := by
  rintro ⟨budget, hOffered, -⟩
  have hNone : Archive.Container.sniff? minimalSubmission.payload = none := by decide +kernel
  rw [hOffered.container] at hNone
  cases hNone

end

section

attribute [local instance] Platform.bare

def minimalIntake : Intake :=
  ⟨minimalSubmission.payload, .entries [(.text "format", .text " Script ")]⟩

theorem minimalIntake_submission : minimalIntake.submission = .ok minimalSubmission := by
  rfl

theorem minimalIntake_holds (cause : Breakdown) : ¬ Fails minimalIntake cause := by
  intro h
  cases h with
  | metadata hFields hLacks =>
    have hError := submission_error_iff.mpr ⟨_, _, hFields, hLacks, rfl⟩
    rw [minimalIntake_submission] at hError
    cases hError
  | submission hRead hBreaks =>
    rw [minimalIntake_submission] at hRead
    cases hRead
    exact minimalSubmission_holds cause hBreaks

/-- A batch of one submission that does not break down has its verdict. -/
theorem judgeAll_plain_minimal :
    (∀ intake ∈ [minimalIntake], ∀ cause, ¬ Fails intake cause) ∧
      ∃ verdicts records, judgeAll plain (fun _ _ => .int 0) [minimalIntake] 0 =
          .ok (verdicts, records) ∧
        [(judgeIntake plain (fun _ => .int 0) minimalIntake).1] =
          verdicts.map Judgement.verdict := by
  have hNone : ∀ intake ∈ [minimalIntake], ∀ cause, ¬ Fails intake cause := by
    intro intake hIntake
    rw [List.mem_singleton.mp hIntake]
    exact minimalIntake_holds
  obtain ⟨-, -, -, hBatch, -⟩ := judge_plain_breakdown_iff (fun _ => .int 0) minimalIntake
    (fun _ _ => .int 0) [minimalIntake] 0
  obtain ⟨verdicts, records, hJudged, hAlone⟩ := hBatch hNone
  exact ⟨hNone, verdicts, records, hJudged, hAlone fun _ => .int 0⟩

/-- A zip archive of 72 bytes with one entry that needs version 6.4 of the format. -/
def unknownVersionPayload : ByteArray := ⟨#[
  0x50, 0x4B, 3, 4,
  0x50, 0x4B, 1, 2, 20, 0, 64, 0, 0, 0, 0, 0, 0, 0, 0, 0, 0, 0, 0, 0, 0, 0, 0, 0, 0, 0, 0, 0, 0, 0,
  0, 0, 0, 0, 0, 0, 0, 0, 0, 0, 0, 0, 0, 0, 0, 0,
  0x50, 0x4B, 5, 6, 0, 0, 0, 0, 1, 0, 1, 0, 46, 0, 0, 0, 4, 0, 0, 0, 0, 0]⟩

def unknownVersionIntake : Intake := ⟨unknownVersionPayload, .entries []⟩

theorem unknownVersionIntake_fails : Fails unknownVersionIntake (.unknownVersion 64) := by
  have hRead : Archive.Directory.read unknownVersionPayload = .error (.version 64) := by
    decide +kernel
  exact .submission rfl ⟨5 * RuleTables.mebibytes,
    ⟨by decide, rfl, .inl rfl, by decide +kernel, by decide +kernel⟩, by decide,
    .reading (.version hRead)⟩

/-- A malformed payload that leaves no verdict, neither alone nor to the others of its batch. -/
theorem judge_unknownVersion :
    (judgeIntake plain (fun _ => .int 0) unknownVersionIntake).1 =
        .breakdown (.unknownVersion 64) ∧
      judgeAll plain (fun _ _ => .int 0) [minimalIntake, unknownVersionIntake] 0 =
        .error (.unknownVersion 64) := by
  have hFails := unknownVersionIntake_fails
  constructor
  · exact (judgeIntake_plain_breakdown _ _ _).mpr hFails
  · exact (judgeAll_plain_error _ _ _ _).mpr
      ⟨[minimalIntake], _, [], rfl, by simpa using minimalIntake_holds, hFails⟩

end

end SubmissionGate.Gate
