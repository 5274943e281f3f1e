import SubmissionGate.Proofs.Table
import SubmissionGate.RuleTables.Override

/-!
# What overrides can change

Applying the sections of a configuration is a walk over the rule tables, and `section_cases` says
everything that one section can do on it. Sizes keep the keys that the tables had, so the look-ups
that a validation depends on succeed under every configuration that is accepted.
-/

namespace SubmissionGate

namespace RuleTables

theorem putSizes_has {name : String} {closed : Bool} {entries : List (Value × Value)}
    {current after : Table Int} (h : putSizes name closed current entries = .ok after)
    (key : String) :
    (current.has key = true → after.has key = true) ∧
      (closed = true → after.has key = true → current.has key = true) := by
  induction entries generalizing current with
  | nil =>
    cases h
    exact ⟨id, fun _ => id⟩
  | cons entry rest ih =>
    obtain ⟨label, value⟩ := entry
    rw [putSizes] at h
    split at h
    · cases h
    · next written hWritten =>
      split at h
      · cases h
      · next hKnown =>
        split at h
        · cases h
        · next size hSize =>
          obtain ⟨hKept, hClosed⟩ := ih h
          rw [Table.has_put, Bool.or_eq_true] at hKept hClosed
          refine ⟨fun hHas => hKept (.inl hHas), fun hTrue hHas => ?_⟩
          rcases hClosed hTrue hHas with hOld | hNew
          · exact hOld
          · obtain rfl : written = key := by simpa using hNew
            simpa [hTrue] using hKnown

theorem nameSection_some {value : Option Value} {set : RuleTables → String → RuleTables}
    {before after : RuleTables} (h : nameSection value set before = .ok (some after)) :
    ∃ name, name.isEmpty = false ∧ after = set before name := by
  unfold nameSection at h
  split at h
  · cases h
  · cases h
  · cases h
  · next name _ =>
    cases hEmpty : name.isEmpty with
    | true => simp [hEmpty] at h
    | false =>
      rw [hEmpty] at h
      cases h
      exact ⟨name, hEmpty, rfl⟩

theorem sizeSection_some {name : String} {closed : Bool} {value : Option Value}
    {get : RuleTables → Table Int} {set : RuleTables → Table Int → RuleTables}
    {before after : RuleTables}
    (h : sizeSection name closed value get set before = .ok (some after)) :
    ∃ sizes, putSizes name closed (get before) (Value.asEntries value) = .ok sizes ∧
      after = set before sizes := by
  unfold sizeSection at h
  simp only at h
  split at h
  · cases h
  · cases hSizes : putSizes name closed (get before) (Value.asEntries value) with
    | error fault =>
      rw [hSizes] at h
      cases h
    | ok sizes =>
      rw [hSizes] at h
      cases h
      exact ⟨sizes, rfl, rfl⟩

theorem librarySection_some {value : Option Value} {before after : RuleTables}
    (h : librarySection value before = .ok (some after)) :
    ∃ libraries, putLibraries before.libraries (Value.asEntries value) = .ok libraries ∧
      after = { before with libraries } := by
  unfold librarySection at h
  simp only at h
  split at h
  · cases h
  · cases hLibraries : putLibraries before.libraries (Value.asEntries value) with
    | error fault =>
      rw [hLibraries] at h
      cases h
    | ok libraries =>
      rw [hLibraries] at h
      cases h
      exact ⟨libraries, rfl, rfl⟩

theorem boundSection_some {label : String} {value : Option Value}
    {set : RuleTables → Int → RuleTables} {before after : RuleTables}
    (h : boundSection label value set before = .ok (some after)) :
    ∃ bound, 0 < bound ∧ after = set before bound := by
  unfold boundSection at h
  split at h
  · cases h
  · next value =>
    unfold positive at h
    split at h
    · split at h
      · next bound _ hPositive =>
        cases h
        exact ⟨bound, hPositive, rfl⟩
      · cases h
    · cases h

theorem section_cases {overrides : List (Value × Value)} {apply : Section}
    (hSection : apply ∈ sections overrides) {before after : RuleTables}
    (h : apply before = .ok (some after)) :
    (∃ version, after = { before with version }) ∨
    (∃ cdnHost, after = { before with cdnHost }) ∨
    (∃ sizeLimits entries, putSizes "size_limits" true before.sizeLimits entries = .ok sizeLimits ∧
      after = { before with sizeLimits }) ∨
    (∃ tierBudgets entries, putSizes "tiers" false before.tierBudgets entries = .ok tierBudgets ∧
      after = { before with tierBudgets }) ∨
    (∃ assetLimits entries,
      putSizes "asset_limits" true before.assetLimits entries = .ok assetLimits ∧
      after = { before with assetLimits }) ∨
    (∃ libraries, after = { before with libraries }) ∨
    (∃ maxEntries, 0 < maxEntries ∧ after = { before with maxEntries }) ∨
    (∃ maxCompressionRatio, 0 < maxCompressionRatio ∧
      after = { before with maxCompressionRatio }) := by
  simp only [sections, List.mem_cons, List.not_mem_nil, or_false] at hSection
  rcases hSection with rfl | rfl | rfl | rfl | rfl | rfl | rfl | rfl
  · obtain ⟨version, -, rfl⟩ := nameSection_some h
    exact .inl ⟨_, rfl⟩
  · obtain ⟨host, -, rfl⟩ := nameSection_some h
    exact .inr (.inl ⟨_, rfl⟩)
  · obtain ⟨sizes, hSizes, rfl⟩ := sizeSection_some h
    exact .inr (.inr (.inl ⟨sizes, _, hSizes, rfl⟩))
  · obtain ⟨sizes, hSizes, rfl⟩ := sizeSection_some h
    exact .inr (.inr (.inr (.inl ⟨sizes, _, hSizes, rfl⟩)))
  · obtain ⟨sizes, hSizes, rfl⟩ := sizeSection_some h
    exact .inr (.inr (.inr (.inr (.inl ⟨sizes, _, hSizes, rfl⟩))))
  · obtain ⟨libraries, -, rfl⟩ := librarySection_some h
    exact .inr (.inr (.inr (.inr (.inr (.inl ⟨libraries, rfl⟩)))))
  · obtain ⟨bound, hBound, rfl⟩ := boundSection_some h
    exact .inr (.inr (.inr (.inr (.inr (.inr (.inl ⟨bound, hBound, rfl⟩))))))
  · obtain ⟨bound, hBound, rfl⟩ := boundSection_some h
    exact .inr (.inr (.inr (.inr (.inr (.inr (.inr ⟨bound, hBound, rfl⟩))))))

/-- What every section keeps holds of the tables that a configuration derives. -/
theorem override_keeps {P : RuleTables → Prop} {rules after : RuleTables}
    {overrides : List (Value × Value)} (hOverride : rules.override overrides = .ok after)
    (hStart : P rules)
    (hStep : ∀ apply ∈ sections overrides, ∀ before next,
      apply before = .ok (some next) → P before → P next) : P after := by
  have hWalk : ∀ steps : List Section, (∀ apply ∈ steps, apply ∈ sections overrides) →
      ∀ before changed result, applySections before changed steps = .ok result → P before →
        P rules → P (result.getD rules) := by
    intro steps
    induction steps with
    | nil =>
      intro _ before changed result hResult hBefore hRules
      cases hResult
      cases changed with
      | true => exact hBefore
      | false => exact hRules
    | cons apply rest ih =>
      intro hSteps before changed result hResult hBefore hRules
      have hRest : ∀ other ∈ rest, other ∈ sections overrides :=
        fun other hOther => hSteps other (List.mem_cons_of_mem _ hOther)
      rw [applySections] at hResult
      split at hResult
      · cases hResult
      · exact ih hRest before changed result hResult hBefore hRules
      · next next hNext =>
        have hKept := hStep apply (hSteps apply List.mem_cons_self) before next hNext hBefore
        exact ih hRest next true result hResult hKept hRules
  unfold override override? at hOverride
  cases hApplied : applySections rules false (sections overrides) with
  | error fault =>
    rw [hApplied] at hOverride
    cases hOverride
  | ok result =>
    rw [hApplied] at hOverride
    cases hOverride
    exact hWalk _ (fun _ => id) rules false result hApplied hStart hStart

theorem override_sizeLimits_has {rules after : RuleTables} {overrides : List (Value × Value)}
    (hOverride : rules.override overrides = .ok after) {key : String}
    (hKey : rules.sizeLimits.has key = true) : after.sizeLimits.has key = true := by
  refine override_keeps (P := fun tables => tables.sizeLimits.has key = true) hOverride hKey ?_
  intro apply hSection before next hNext hBefore
  rcases section_cases hSection hNext with ⟨_, rfl⟩ | ⟨_, rfl⟩ | ⟨sizes, entries, hSizes, rfl⟩ |
    ⟨_, _, _, rfl⟩ | ⟨_, _, _, rfl⟩ | ⟨_, rfl⟩ | ⟨_, _, rfl⟩ | ⟨_, _, rfl⟩
  case inr.inr.inl => exact (putSizes_has hSizes key).1 hBefore
  all_goals exact hBefore

theorem override_lists {rules after : RuleTables} {overrides : List (Value × Value)}
    (hOverride : rules.override overrides = .ok after) :
    after.requiredMethods = rules.requiredMethods ∧ after.forbiddenRules = rules.forbiddenRules ∧
      after.advisoryRules = rules.advisoryRules := by
  refine override_keeps (P := fun tables => tables.requiredMethods = rules.requiredMethods ∧
    tables.forbiddenRules = rules.forbiddenRules ∧ tables.advisoryRules = rules.advisoryRules)
    hOverride ⟨rfl, rfl, rfl⟩ ?_
  intro apply hSection before next hNext hBefore
  rcases section_cases hSection hNext with ⟨_, rfl⟩ | ⟨_, rfl⟩ | ⟨_, _, _, rfl⟩ |
    ⟨_, _, _, rfl⟩ | ⟨_, _, _, rfl⟩ | ⟨_, rfl⟩ | ⟨_, _, rfl⟩ | ⟨_, _, rfl⟩
  all_goals exact hBefore

end RuleTables

end SubmissionGate
