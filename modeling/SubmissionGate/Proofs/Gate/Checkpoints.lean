import SubmissionGate.Proofs.Gate.BundleStage

/-!
# Where a validation looks at the clock

A run that is never cut short passes a fixed list of checks, and a clock stops it at the first of
them that reads too late. The checks of a validation stand in front of every stage that it comes to
and in front of every file of a bundle that it begins with; nothing else is checked. What a reading
of the clock has to be for a stop is not asked here.
-/

namespace SubmissionGate.Run

variable {α β : Type}

/-- The names of the checks that a run passes if it is never cut short. -/
def checks : Run α → List String
  | .done _ => []
  | .broken _ => []
  | .record _ rest => rest.checks
  | .check stage rest => stage :: (rest ()).checks

/-- What is checked behind a part of a run: nothing behind a breakdown. -/
def checksBehind (outcome : Except Breakdown α) (next : α → List String) : List String :=
  match outcome with
  | .ok value => next value
  | .error _ => []

@[simp] theorem checksBehind_ok (value : α) (next : α → List String) :
    checksBehind (.ok value) next = next value := rfl

@[simp] theorem checksBehind_error (breakdown : Breakdown) (next : α → List String) :
    checksBehind (.error breakdown) next = [] := rfl

@[simp] theorem checks_done (value : α) : (Run.done value).checks = [] := rfl

@[simp] theorem checks_broken (breakdown : Breakdown) :
    (Run.broken breakdown : Run α).checks = [] := rfl

@[simp] theorem checks_record (entry : LogRecord) (rest : Run α) :
    (Run.record entry rest).checks = rest.checks := rfl

@[simp] theorem checks_check (stage : String) (rest : Unit → Run α) :
    (Run.check stage rest).checks = stage :: (rest ()).checks := rfl

@[simp] theorem checks_pure (value : α) : (pure value : Run α).checks = [] := rfl

theorem checks_bind (run : Run α) (next : α → Run β) :
    (run.bind next).checks =
      run.checks ++ checksBehind run.finish fun value => (next value).checks := by
  induction run with
  | done value => rfl
  | broken breakdown => rfl
  | record entry rest ih => exact ih
  | check stage rest ih => exact congrArg (stage :: ·) (ih ())

@[simp] theorem checks_bind_do (run : Run α) (next : α → Run β) :
    (run >>= next).checks =
      run.checks ++ checksBehind run.finish fun value => (next value).checks :=
  checks_bind run next

/-- Time is up at a check, and at none before it. -/
structure StopsAt (expired : Nat → Bool) (checks : List String) (place : Nat) (stage : String) :
    Prop where
  named : checks[place]? = some stage
  late : expired place = true
  early : ∀ earlier < place, expired earlier = false

/-- A clock stops a run at the first check that reads too late, and changes nothing otherwise. -/
theorem playFrom_cases (expired : Nat → Bool) (run : Run α) (n : Nat) :
    (∃ place stage, StopsAt (fun check => expired (n + check)) run.checks place stage ∧
      (run.playFrom expired n).1 = .expired stage) ∨
    ((∀ place < run.checks.length, expired (n + place) = false) ∧
      (run.playFrom expired n).1 = .ofFinish run.finish) := by
  -- Places are counted from the check at which the run stands, so behind a check they move by one.
  induction run generalizing n with
  | done value => exact .inr ⟨by simp, rfl⟩
  | broken breakdown => exact .inr ⟨by simp, rfl⟩
  | record entry rest ih => exact ih n
  | check stage rest ih =>
    cases hExpired : expired n with
    | true =>
      exact .inl ⟨0, stage, ⟨rfl, hExpired, by simp⟩, by simp [playFrom, hExpired]⟩
    | false =>
      rcases ih () (n + 1) with ⟨place, other, hStops, hEnding⟩ | ⟨hNever, hEnding⟩
      · refine .inl ⟨place + 1, other, ⟨hStops.named, ?_, ?_⟩, by simpa [playFrom, hExpired]⟩
        · rw [← hStops.late]
          congr 1
          omega
        · rintro (_ | earlier) hEarlier
          · exact hExpired
          · rw [← hStops.early earlier (by omega)]
            congr 1
            omega
      · refine .inr ⟨?_, by simpa [playFrom, hExpired]⟩
        rintro (_ | place) hPlace
        · exact hExpired
        · rw [checks_check, List.length_cons] at hPlace
          rw [← hNever place (by omega)]
          congr 1
          omega

end SubmissionGate.Run

namespace SubmissionGate.Bundle

open Archive Run

variable [Platform]

/-- The files that a reading begins with: all of them, or those up to the first that is refused. -/
def Reading.begun (reading : Reading) (inventory : Inventory) : List Entry → List Entry
  | [] => []
  | entry :: entries =>
    entry :: match reading.takeIn inventory entry with
      | .ok next => reading.begun next entries
      | .error _ => []

def begunFiles (rules : RuleTables) (payload : ByteArray) (budget : Int) : List Entry :=
  match Directory.read payload with
  | .error _ => []
  | .ok entries =>
    let files := entries.filter fun entry => !isDirectory entry
    if (entries.any fun entry => entry.name.isEmpty) || rules.maxEntries < files.length then []
    else (readingOf rules payload budget files).begun (blankOf rules files)
      (readingOrder rules files)

theorem checks_takeAll (reading : Reading) (inventory : Inventory) (entries : List Entry) :
    (reading.takeAll inventory entries).checks =
      (reading.begun inventory entries).map fun _ => "bundle" := by
  induction entries generalizing inventory with
  | nil => rfl
  | cons entry entries ih =>
    rw [Reading.takeAll, Reading.begun, checks_check, List.map_cons]
    refine congrArg ("bundle" :: ·) ?_
    cases reading.takeIn inventory entry with
    | error halt => cases halt <;> rfl
    | ok next =>
      simp only
      split
      · exact ih next
      · exact ih next

theorem checks_read (rules : RuleTables) (payload : ByteArray) (budget : Int) :
    (read rules payload budget).checks =
      (begunFiles rules payload budget).map fun _ => "bundle" := by
  unfold read begunFiles
  cases Directory.read payload with
  | error fault => cases fault <;> rfl
  | ok entries =>
    simp only [Bool.or_eq_true, decide_eq_true_eq]
    by_cases hUnnamed : (entries.any fun entry => entry.name.isEmpty) = true
    · simp [hUnnamed]
    · simp only [hUnnamed, Bool.false_eq_true, if_false, false_or]
      split
      · rfl
      · rw [inventoryOf_eq, checks_takeAll]

theorem checks_manifestNotes (rules : RuleTables) (inventory : Inventory) :
    (manifestNotes rules inventory).checks = [] := by
  unfold manifestNotes
  simp only
  repeat' split
  all_goals rfl

end SubmissionGate.Bundle

namespace SubmissionGate.Gate

open Run

variable [Platform]

/-- The checks inside a stage: one in front of each file of a bundle. -/
def stagePoints (stage : Stage) (context : Context) : List String :=
  match stage with
  | .assetBundle =>
    (Bundle.begunFiles context.rules context.submission.payload context.resolved.sizeLimit).map
      fun _ => "bundle"
  | _ => []

theorem checks_inspect (context : Context) (inventory : Bundle.Inventory) :
    (inspect context inventory).checks = [] := by
  unfold inspect
  split
  · rfl
  · rw [checks_bind_do, Bundle.checks_manifestNotes, List.nil_append]
    cases (Bundle.manifestNotes context.rules inventory).finish with
    | error cause => rfl
    | ok warnings =>
      rw [checksBehind_ok]
      split <;> rfl

theorem checks_bundleStage (context : Context) :
    (bundleStage context).checks = stagePoints .assetBundle context := by
  unfold bundleStage
  simp only [checks_bind_do]
  rw [Bundle.checks_read, stagePoints]
  cases (Bundle.read context.rules context.submission.payload
    context.resolved.sizeLimit).finish with
  | error cause => exact List.append_nil _
  | ok outcome =>
    cases outcome with
    | error fault => exact List.append_nil _
    | ok inventory =>
      change _ ++ (inspect context inventory).checks = _
      rw [checks_inspect, List.append_nil]

theorem checks_stage (stage : Stage) (context : Context) :
    (stage.run context).checks = stagePoints stage context := by
  cases stage with
  | assetBundle => exact checks_bundleStage context
  | _ => rfl

/-- The checks along some stages: one in front of each stage that is come to, and those inside. -/
def pointsAlong (context : Context) : List Stage → List String
  | [] => []
  | stage :: stages =>
    stage.name ::
      if stage.appliesTo context then
        stagePoints stage context ++ checksBehind (stage.run context).finish fun report =>
          if report.stops then [] else pointsAlong report.context stages
      else pointsAlong context stages

/-- Behind a stage that lets the next one run come the checks of the others. -/
theorem pointsAlong_goesOn {context : Context} {stage : Stage} {stages : List Stage}
    {report : Report} (hApplies : stage.appliesTo context = true)
    (hRun : (stage.run context).finish = .ok report) (hGoesOn : report.stops = false) :
    pointsAlong context (stage :: stages) =
      stage.name :: (stagePoints stage context ++ pointsAlong report.context stages) := by
  rw [pointsAlong, if_pos hApplies, hRun, checksBehind_ok, hGoesOn]
  rfl

theorem checks_runGating (context : Context) (verdict : Verdict) (stages : List Stage) :
    (runGating context verdict stages).checks = pointsAlong context stages := by
  induction stages generalizing context verdict with
  | nil => rfl
  | cons stage stages ih =>
    rw [runGating, pointsAlong, checks_check]
    refine congrArg (stage.name :: ·) ?_
    split
    · rw [checks_bind, checks_stage]
      congr 1
      congr 1
      funext report
      by_cases hStops : report.stops = true
      · simp [hStops]
      · by_cases hIssues : report.issues.isEmpty = true
        · simp [hStops, hIssues, ih]
        · simp [hStops, hIssues, ih]
    · exact ih context verdict

theorem checks_runWarning (context : Context) (verdict : Verdict) (stages : List Stage) :
    (runWarning context verdict stages).checks = pointsAlong context stages := by
  induction stages generalizing context verdict with
  | nil => rfl
  | cons stage stages ih =>
    rw [runWarning, pointsAlong, checks_check]
    refine congrArg (stage.name :: ·) ?_
    split
    · rw [checks_bind, checks_stage]
      congr 1
      congr 1
      funext report
      split
      · rfl
      · exact ih _ _
    · exact ih context verdict

/-- The checks of a validation. The warning stages are come to once a text was decoded. -/
def points (plan : Plan) (rules : RuleTables) (submission : Submission) : List String :=
  match submission.resolve rules with
  | .error _ => []
  | .ok resolved =>
    let start := Context.start rules submission resolved
    pointsAlong start plan.gating ++
      checksBehind (runGating start .empty plan.gating).finish fun (context, _) =>
        if context.text.isSome then pointsAlong context plan.warning else []

theorem checks_validate (plan : Plan) (rules : RuleTables) (submission : Submission) :
    (validate plan rules submission).checks = points plan rules submission := by
  unfold validate points
  simp only
  cases submission.resolve rules with
  | error cause => cases cause <;> rfl
  | ok resolved =>
    simp only [validateResolved, checks_record, checks_bind_do, checks_runGating]
    congr 1
    congr 1
    funext reached
    obtain ⟨context, verdict⟩ := reached
    simp only
    split
    · rw [checks_bind_do, checks_runWarning]
      cases (runWarning context verdict plan.warning).finish with
      | error cause => exact List.append_nil _
      | ok outcome => exact List.append_nil _
    · rfl

end SubmissionGate.Gate
