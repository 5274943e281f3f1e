import Mathlib.Tactic.IntervalCases
import SubmissionGate.Proofs.Gate.Breakdowns
import SubmissionGate.Proofs.Gate.Checkpoints

/-!
# Validations under a time limit

A time limit can only abort a validation. Whatever the clock reads, the judgement is the verdict
that is reached without a limit, or a timeout that names the first check at which the clock was
past the limit. In a batch such a submission keeps its place with a verdict that accepts nothing.
-/

namespace SubmissionGate.Number

/-- A reading of a clock or a number of seconds: a floating-point number, or an integer that is
rounded to a finite one. -/
def InRange (a : Number) : Prop := a.rounded?.isSome = true

instance (a : Number) : Decidable a.InRange := inferInstanceAs (Decidable (_ = true))

theorem exists_add? {a b : Number} (ha : a.InRange) (hb : b.InRange) :
    ∃ sum, a.add? b = some sum := by
  obtain ⟨x, hx⟩ := Option.isSome_iff_exists.mp ha
  obtain ⟨y, hy⟩ := Option.isSome_iff_exists.mp hb
  cases a with
  | real first => exact ⟨_, by simp only [add?, hx, hy]; rfl⟩
  | int m =>
    cases b with
    | int n => exact ⟨_, rfl⟩
    | real second => exact ⟨_, by simp only [add?, hx, hy]; rfl⟩

end SubmissionGate.Number

namespace SubmissionGate.Deadline

theorem start_eq {seconds now expires : Number} (hExpires : now.add? seconds = some expires) :
    start (some seconds) now = .ok ⟨some seconds, some expires⟩ := by
  simp [start, hExpires]

theorem timeout_ok {seconds : Number} (hSeconds : seconds.InRange) (expires : Option Number)
    (stage : String) :
    ∃ timeout, Deadline.timeout ⟨some seconds, expires⟩ stage = .ok timeout ∧
      timeout.stage = stage := by
  obtain ⟨x, hx⟩ := Option.isSome_iff_exists.mp hSeconds
  unfold Deadline.timeout
  by_cases hZero : seconds.isZero = true
  · exact ⟨_, by simp only [namedSeconds, hZero, if_true, Number.rounded?]; rfl, rfl⟩
  · exact ⟨_, by simp only [namedSeconds, hZero, Bool.false_eq_true, if_false, hx]; rfl, rfl⟩

end SubmissionGate.Deadline

namespace SubmissionGate.Gate

/-- The clock is past the limit at a check; the limit counts from the first reading on. -/
def Late (clock : Nat → Number) (seconds : Number) (place : Nat) : Prop :=
  ∃ expires, (clock 0).add? seconds = some expires ∧ expires.less (clock (place + 1)) = true

/-- The first check of some named ones at which the clock is past the limit. -/
structure MissesAt (names : List String) (clock : Nat → Number) (seconds : Number) (place : Nat)
    (stage : String) : Prop where
  named : names[place]? = some stage
  late : Late clock seconds place
  early : ∀ earlier < place, ¬ Late clock seconds earlier

theorem MissesAt.unique {names : List String} {clock : Nat → Number} {seconds : Number}
    {place other : Nat} {stage name : String} (h : MissesAt names clock seconds place stage)
    (hOther : MissesAt names clock seconds other name) : stage = name := by
  rcases Nat.lt_trichotomy place other with hLess | rfl | hMore
  · exact absurd h.late (hOther.early place hLess)
  · exact Option.some.inj (h.named.symm.trans hOther.named)
  · exact absurd hOther.late (h.early other hMore)

section

variable [Platform] {plan : Plan} {rules : RuleTables} {seconds : Number} {clock : Nat → Number}

/-- Under a limit a validation stops at the first check that is late, or it is not changed. -/
theorem judge_timed (plan : Plan) (rules : RuleTables) (hSeconds : seconds.InRange)
    (hClock : (clock 0).InRange) (submission : Submission) :
    (∃ place stage timeout, MissesAt (points plan rules submission) clock seconds place stage ∧
      (judge ⟨plan, rules, some seconds⟩ clock submission).1 = .timeout timeout ∧
      timeout.stage = stage) ∨
    ((∀ place stage, ¬ MissesAt (points plan rules submission) clock seconds place stage) ∧
      (judge ⟨plan, rules, some seconds⟩ clock submission).1 =
        .ofFinish (validate plan rules submission).finish) := by
  obtain ⟨expires, hExpires⟩ := Number.exists_add? hClock hSeconds
  have hLate : ∀ place, Late clock seconds place ↔ expires.less (clock (place + 1)) = true := by
    intro place
    simp [Late, hExpires]
  have hJudge : (judge ⟨plan, rules, some seconds⟩ clock submission).1 =
      .ofEnding ⟨some seconds, some expires⟩ ((validate plan rules submission).playFrom
        (fun check => expires.less (clock (check + 1))) 0).1 := by
    simp only [judge, Deadline.start_eq hExpires]
    rfl
  rw [hJudge, ← checks_validate]
  rcases Run.playFrom_cases (fun check => expires.less (clock (check + 1)))
    (validate plan rules submission) 0 with ⟨place, stage, hStops, hEnding⟩ | ⟨hNever, hEnding⟩
  · obtain ⟨timeout, hTimeout, hStage⟩ :=
      Deadline.timeout_ok hSeconds (some expires) stage
    refine .inl ⟨place, stage, timeout, ⟨hStops.named, ?_, ?_⟩, ?_, hStage⟩
    · exact (hLate place).mpr (by simpa using hStops.late)
    · intro earlier hEarlier hIsLate
      have hEarly := hStops.early earlier hEarlier
      simp only [Nat.zero_add, (hLate earlier).mp hIsLate] at hEarly
      cases hEarly
    · rw [hEnding, Judgement.ofEnding, hTimeout]
  · refine .inr ⟨fun place stage hMisses => ?_, ?_⟩
    · obtain ⟨hPlace, -⟩ := List.getElem?_eq_some_iff.mp hMisses.named
      have hEarly := hNever place hPlace
      simp only [Nat.zero_add, (hLate place).mp hMisses.late] at hEarly
      cases hEarly
    · rw [hEnding]
      cases (validate plan rules submission).finish <;> rfl

theorem judge_timed_of_verdict (hSeconds : seconds.InRange) (hClock : (clock 0).InRange)
    {submission : Submission} {verdict : Verdict}
    (hFree : (judge ⟨plan, rules, none⟩ clock submission).1 = .verdict verdict) :
    ((judge ⟨plan, rules, some seconds⟩ clock submission).1 = .verdict verdict ∨
      ∃ timeout, (judge ⟨plan, rules, some seconds⟩ clock submission).1 = .timeout timeout) ∧
    ∀ stage, (∃ timeout, (judge ⟨plan, rules, some seconds⟩ clock submission).1 =
        .timeout timeout ∧ timeout.stage = stage) ↔
      ∃ place, MissesAt (points plan rules submission) clock seconds place stage := by
  have hFinish : Judgement.ofFinish (validate plan rules submission).finish = .verdict verdict := by
    rw [← hFree, judge_untimed]
  rcases judge_timed plan rules hSeconds hClock submission with
    ⟨place, stage, timeout, hMisses, hJudge, rfl⟩ | ⟨hNever, hJudge⟩
  · rw [hJudge]
    refine ⟨.inr ⟨timeout, rfl⟩, fun stage => ⟨?_, ?_⟩⟩
    · rintro ⟨other, hOther, rfl⟩
      cases hOther
      exact ⟨place, hMisses⟩
    · rintro ⟨other, hOther⟩
      exact ⟨timeout, rfl, hMisses.unique hOther⟩
  · rw [hJudge, hFinish]
    refine ⟨.inl rfl, fun stage => iff_of_false ?_ fun ⟨place, hMisses⟩ => hNever _ _ hMisses⟩
    rintro ⟨timeout, h, -⟩
    cases h

/-- What the verdict of a submission in a batch has to do with its judgement alone. -/
inductive Settles : Judgement → Verdict → Prop
  | verdict (verdict : Verdict) : Settles (.verdict verdict) verdict
  | timeout {timeout : Deadline.Timeout} {verdict : Verdict} (hErrors : verdict.errors = [])
      (hWarnings : verdict.warnings = []) (hReason : verdict.incomplete = some timeout.message)
      (hRejected : verdict.ok = false) : Settles (.timeout timeout) verdict

omit [Platform] in
theorem settle_abandoned (size : Nat) (timeout : Deadline.Timeout) :
    settle size (.timeout timeout) =
        .ok (.abandoned timeout.message, [abandonNote size timeout]) ∧
      Settles (.timeout timeout) (.abandoned timeout.message) :=
  ⟨rfl, .timeout rfl rfl rfl rfl⟩

theorem judgeIntake_of_submission {intake : Intake} {submission : Submission}
    (h : intake.submission = .ok submission) (settings : Settings) (clock : Nat → Number) :
    judgeIntake settings clock intake = judge settings clock submission := by
  rw [judgeIntake, h]

theorem judgeIntake_timed_ne {intake : Intake} (hSeconds : seconds.InRange)
    (hClock : (clock 0).InRange) {verdict : Verdict}
    (hFree : (judgeIntake ⟨plan, rules, none⟩ clock intake).1 = .verdict verdict)
    (cause : Breakdown) :
    (judgeIntake ⟨plan, rules, some seconds⟩ clock intake).1 ≠ .breakdown cause := by
  cases hSubmission : intake.submission with
  | error other =>
    rw [judgeIntake, hSubmission] at hFree
    cases hFree
  | ok submission =>
    rw [judgeIntake_of_submission hSubmission] at hFree ⊢
    obtain ⟨hJudged | ⟨timeout, hJudged⟩, -⟩ := judge_timed_of_verdict hSeconds hClock hFree
    · rw [hJudged]
      exact fun h => by cases h
    · rw [hJudged]
      exact fun h => by cases h

/-- A batch in which no submission breaks down has a verdict for each of them, in their order. -/
theorem judgeAll_settles (settings : Settings) (clocks : Nat → Nat → Number)
    (intakes : List Intake) (place : Nat)
    (hJudged : ∀ n intake, intakes[n]? = some intake →
      ∀ cause, (judgeIntake settings (clocks (place + n)) intake).1 ≠ .breakdown cause) :
    ∃ verdicts records, judgeAll settings clocks intakes place = .ok (verdicts, records) ∧
      verdicts.length = intakes.length ∧
      ∀ n intake verdict, intakes[n]? = some intake → verdicts[n]? = some verdict →
        Settles (judgeIntake settings (clocks (place + n)) intake).1 verdict := by
  induction intakes generalizing place with
  | nil => exact ⟨[], [], rfl, rfl, by simp⟩
  | cons intake rest ih =>
    have hSettled : ∃ verdict notes,
        settle intake.payload.size (judgeIntake settings (clocks place) intake).1 =
          .ok (verdict, notes) ∧
            Settles (judgeIntake settings (clocks place) intake).1 verdict := by
      have hHead := hJudged 0 intake rfl
      rw [Nat.add_zero] at hHead
      cases hJudge : (judgeIntake settings (clocks place) intake).1 with
      | verdict verdict => exact ⟨verdict, [], rfl, .verdict verdict⟩
      | timeout timeout => exact ⟨_, _, settle_abandoned _ timeout⟩
      | breakdown cause => exact absurd hJudge (hHead cause)
    obtain ⟨verdict, notes, hSettle, hSettles⟩ := hSettled
    obtain ⟨verdicts, records, hRest, hLength, hAll⟩ := ih (place + 1) (by
      intro n other hOther
      rw [Nat.add_right_comm, Nat.add_assoc]
      exact hJudged (n + 1) other hOther)
    refine ⟨verdict :: verdicts, _, by rw [judgeAll_cons, hSettle, hRest]; rfl, by simp [hLength],
      ?_⟩
    rintro (_ | n) other found hOther hFound
    · cases hOther
      cases hFound
      exact hSettles
    · have hLater := hAll n other found hOther hFound
      rwa [Nat.add_right_comm, Nat.add_assoc] at hLater

end

/-- A time limit only aborts: for one submission and for a batch. -/
theorem deadline_only_aborts [Platform] (plan : Plan) (rules : RuleTables) {seconds : Number}
    (hSeconds : seconds.InRange) :
    (∀ clock submission verdict, (clock 0).InRange →
      (judge ⟨plan, rules, none⟩ clock submission).1 = .verdict verdict →
      ((judge ⟨plan, rules, some seconds⟩ clock submission).1 = .verdict verdict ∨
        ∃ timeout, (judge ⟨plan, rules, some seconds⟩ clock submission).1 = .timeout timeout) ∧
      ∀ stage, (∃ timeout, (judge ⟨plan, rules, some seconds⟩ clock submission).1 =
          .timeout timeout ∧ timeout.stage = stage) ↔
        ∃ place, MissesAt (points plan rules submission) clock seconds place stage) ∧
    ∀ clocks intakes place, (∀ n, (clocks n 0).InRange) →
      (∀ intake ∈ intakes, ∃ verdict, ∀ clock,
        (judgeIntake ⟨plan, rules, none⟩ clock intake).1 = .verdict verdict) →
      ∃ verdicts records,
        judgeAll ⟨plan, rules, some seconds⟩ clocks intakes place = .ok (verdicts, records) ∧
        verdicts.length = intakes.length ∧
        ∀ n intake verdict, intakes[n]? = some intake → verdicts[n]? = some verdict →
          Settles (judgeIntake ⟨plan, rules, some seconds⟩ (clocks (place + n)) intake).1
            verdict := by
  refine ⟨fun clock submission verdict hClock hFree =>
    judge_timed_of_verdict hSeconds hClock hFree, ?_⟩
  intro clocks intakes place hClocks hFree
  refine judgeAll_settles _ clocks intakes place fun n intake hIntake cause => ?_
  obtain ⟨verdict, hVerdict⟩ := hFree intake (List.mem_of_getElem? hIntake)
  exact judgeIntake_timed_ne hSeconds (hClocks (place + n)) (hVerdict _) cause

def countingClock (reading : Nat) : Number := .int reading

theorem minimalSubmission_resolved :
    minimalSubmission.resolve .standard =
      .ok (resolvedText minimalSubmission .script (50 * RuleTables.kibibytes)) := by
  have hText : Archive.Container.sniff? minimalSubmission.payload = none := by decide +kernel
  have hAdmitted := minimalSubmission_acceptable.admitted
  rw [hAdmitted.presentable.resolve_text .standard hText, Submission.resolveText]
  rw [show Submission.declaredFormat minimalSubmission.metadata = "script" from rfl]
  rw [show Submission.Kind.ofFormat? "script" = some .script from by decide]
  simp only [sizeLimit_eq (by decide) hAdmitted.ceiling]
  rfl

section

attribute [local instance] Platform.bare

theorem minimalSubmission_verdict :
    ∃ verdict, ∀ clock, (judge plain clock minimalSubmission).1 = .verdict verdict := by
  obtain ⟨verdict, hFinish, -⟩ :=
    finish_validate_of_decides minimalSubmission_resolved (decides_gating (by decide))
  refine ⟨verdict, fun clock => ?_⟩
  rw [plain, judge_untimed, hFinish]
  rfl

theorem minimalSubmission_points :
    (points .standard .standard minimalSubmission)[2]? = some "asset_bundle" := by
  let start := Context.start .standard minimalSubmission
    (resolvedText minimalSubmission .script (50 * RuleTables.kibibytes))
  have hSize : (Stage.size.run start).finish = .ok (.clean start) := by
    have hFits := minimalSubmission_acceptable.fits
    simp [start, Stage.run, sizeStage, payloadIssues, Context.start, resolvedText, hFits,
      Report.clean]
  have hDecode : (Stage.decode.run start).finish = .ok (.clean (start.withScript minimalGame)) := by
    have hText := (@textOfPayload_ok_iff "Submission" _ _).mpr minimalSubmission_decodes
    simp [start, Stage.run, decodeStage, Context.start, hText, resolvedText, Context.withScript]
  have hAlong : pointsAlong start Stage.gating = "size" :: "decode" ::
      pointsAlong (start.withScript minimalGame) (Stage.gating.drop 2) := by
    rw [Stage.gating, pointsAlong_goesOn rfl hSize rfl, Report.clean,
      pointsAlong_goesOn rfl hDecode rfl]
    rfl
  rw [points, minimalSubmission_resolved]
  change (pointsAlong start Stage.gating ++ _)[2]? = _
  rw [hAlong]
  rfl

/-- With a limit of two seconds the smallest game is given up in front of that stage if every look
at the clock takes a second. -/
theorem deadline_only_aborts_minimal :
    Number.InRange (.int 2) ∧ (countingClock 0).InRange ∧
      (∃ verdict, (judge plain countingClock minimalSubmission).1 = .verdict verdict) ∧
      (∃ timeout, (judge ⟨.standard, .standard, some (.int 2)⟩ countingClock
        minimalSubmission).1 = .timeout timeout ∧ timeout.stage = "asset_bundle") ∧
      ∃ verdicts records, judgeAll ⟨.standard, .standard, some (.int 2)⟩ (fun _ => countingClock)
        [minimalIntake] 0 = .ok (verdicts, records) ∧ verdicts.length = 1 := by
  have hSeconds : Number.InRange (.int 2) := by decide
  have hClock : (countingClock 0).InRange := by decide
  obtain ⟨verdict, hVerdict⟩ := minimalSubmission_verdict
  obtain ⟨hAlone, hBatch⟩ := deadline_only_aborts .standard .standard hSeconds
  obtain ⟨-, hStage⟩ := hAlone countingClock minimalSubmission verdict hClock
    (hVerdict countingClock)
  have hMisses : MissesAt (points .standard .standard minimalSubmission) countingClock (.int 2) 2
      "asset_bundle" := by
    refine ⟨minimalSubmission_points, ⟨.int 2, rfl, by decide⟩, ?_⟩
    rintro earlier hEarlier ⟨expires, hExpires, hLess⟩
    cases hExpires
    interval_cases earlier <;> revert hLess <;> decide
  obtain ⟨verdicts, records, hJudged, hLength, -⟩ :=
    hBatch (fun _ => countingClock) [minimalIntake] 0 (fun _ => hClock) fun intake hIntake => by
      obtain rfl := List.mem_singleton.mp hIntake
      refine ⟨verdict, fun clock => ?_⟩
      rw [judgeIntake_of_submission minimalIntake_submission]
      exact hVerdict clock
  exact ⟨hSeconds, hClock, ⟨verdict, hVerdict _⟩, (hStage _).mpr ⟨2, hMisses⟩, verdicts, records,
    hJudged, hLength⟩

end

end SubmissionGate.Gate
