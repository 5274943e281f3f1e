import SubmissionGate.Gate.Judgement

/-!
# Runs and clocks

A clock can only cut a run short: whatever ending a run comes to with a clock that did not stop it
is the one that it comes to with all the time in the world. Without a time limit the two agree, so
everything that is shown of a finished run holds of a judgement.
-/

namespace SubmissionGate.Run

variable {α β : Type}

@[simp] theorem finish_done (value : α) : (Run.done value).finish = .ok value := rfl

@[simp] theorem finish_broken (breakdown : Breakdown) :
    (Run.broken breakdown : Run α).finish = .error breakdown := rfl

@[simp] theorem finish_record (entry : LogRecord) (rest : Run α) :
    (Run.record entry rest).finish = rest.finish := rfl

@[simp] theorem finish_check (stage : String) (rest : Unit → Run α) :
    (Run.check stage rest).finish = (rest ()).finish := rfl

@[simp] theorem finish_pure (value : α) : (pure value : Run α).finish = .ok value := rfl

theorem finish_bind (run : Run α) (next : α → Run β) :
    (run.bind next).finish = run.finish.bind fun value => (next value).finish := by
  induction run with
  | done value => rfl
  | broken breakdown => rfl
  | record entry rest ih => exact ih
  | check stage rest ih => exact ih ()

@[simp] theorem finish_bind_do (run : Run α) (next : α → Run β) :
    (run >>= next).finish = run.finish.bind fun value => (next value).finish :=
  finish_bind run next

def Ending.ofFinish : Except Breakdown α → Ending α
  | .ok value => .done value
  | .error breakdown => .broken breakdown

theorem playFrom_never (run : Run α) (n : Nat) :
    (run.playFrom (fun _ => false) n).1 = .ofFinish run.finish := by
  induction run generalizing n with
  | done value => rfl
  | broken breakdown => rfl
  | record entry rest ih => exact ih n
  | check stage rest ih => exact ih () (n + 1)

/-- A clock can only cut a run short. -/
theorem playFrom_ending (expired : Nat → Bool) (run : Run α) (n : Nat) :
    (∃ stage, (run.playFrom expired n).1 = .expired stage) ∨
      (run.playFrom expired n).1 = .ofFinish run.finish := by
  induction run generalizing n with
  | done value => exact .inr rfl
  | broken breakdown => exact .inr rfl
  | record entry rest ih => exact ih n
  | check stage rest ih =>
    cases hExpired : expired n with
    | true => exact .inl ⟨stage, by simp [playFrom, hExpired]⟩
    | false => simpa [playFrom, hExpired] using ih () (n + 1)

theorem finish_of_played {expired : Nat → Bool} {run : Run α} {n : Nat} {value : α}
    (h : (run.playFrom expired n).1 = .done value) : run.finish = .ok value := by
  rcases playFrom_ending expired run n with ⟨stage, hStage⟩ | hFinish
  · rw [h] at hStage
    cases hStage
  · rw [h] at hFinish
    cases hRun : run.finish with
    | ok result =>
      rw [hRun] at hFinish
      cases hFinish
      rfl
    | error breakdown =>
      rw [hRun] at hFinish
      cases hFinish

end SubmissionGate.Run

namespace SubmissionGate.Gate

def Judgement.ofFinish : Except Breakdown Verdict → Judgement
  | .ok result => .verdict result
  | .error cause => .breakdown cause

theorem judge_untimed [Platform] (plan : Plan) (rules : RuleTables) (clock : Nat → Number)
    (submission : Submission) :
    (judge ⟨plan, rules, none⟩ clock submission).1 =
      .ofFinish (validate plan rules submission).finish := by
  have hPlay := Run.playFrom_never (validate plan rules submission) 0
  simp only [judge, Deadline.start, Run.play, Deadline.hasPassed]
  rw [hPlay]
  cases (validate plan rules submission).finish with
  | ok verdict => rfl
  | error breakdown => rfl

theorem finish_of_judge [Platform] (settings : Settings) {clock : Nat → Number}
    {submission : Submission}
    {verdict : Verdict} (h : (judge settings clock submission).1 = .verdict verdict) :
    (validate settings.plan settings.rules submission).finish = .ok verdict := by
  unfold judge at h
  cases hStart : Deadline.start settings.seconds (clock 0) with
  | error breakdown =>
    rw [hStart] at h
    cases h
  | ok deadline =>
    rw [hStart] at h
    simp only [Run.play] at h
    generalize hEnding : ((validate settings.plan settings.rules submission).playFrom
      (fun check => deadline.hasPassed (clock (check + 1))) 0).1 = ending at h
    cases ending with
    | done result =>
      cases h
      exact Run.finish_of_played hEnding
    | broken breakdown => cases h
    | expired stage =>
      simp only [Judgement.ofEnding] at h
      split at h <;> cases h

end SubmissionGate.Gate
