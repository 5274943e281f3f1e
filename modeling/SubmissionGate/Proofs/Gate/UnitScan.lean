import Mathlib.Algebra.GroupWithZero.Nat
import Mathlib.Data.List.Basic
import Mathlib.Data.List.Infix
import SubmissionGate.Proofs.Gate.Findings
import SubmissionGate.Proofs.Script.Occurrence

/-!
# What the code units of a submission are reported for

The deciding stage keeps the needles that any of the units uses and reports the first rule of each.
The warning stage adds up over the units how often each rule's needle occurs. So neither stage
depends on the order of the units, and no unit can hide what another one uses.
-/

namespace SubmissionGate

open Script

def Issue.needle? (issue : Issue) : Option (List Char) :=
  match issue.detail.lookup "token" with
  | some (.text token) => some (Text.collapse token.toList)
  | _ => none

def namedNeedles (issues : List Issue) : List (List Char) := issues.filterMap Issue.needle?

def Context.uses (context : Context) (rule : Rules.AdvisoryToken) : Nat :=
  (context.units.map fun unit => occurrences rule.needle unit.compact).sum

namespace Gate

/-! ## Forbidden tokens -/

/-- What is reported are the rules in the order of the table whose needle is wanted and which no
earlier rule shares it with. -/
theorem firstOfEach_eq_filter (needles : List (List Char)) (rules : List Rules.ForbiddenToken) :
    firstOfEach needles rules =
      (rules.zipIdx.filter fun (entry : Rules.ForbiddenToken × Nat) => entry.1.needle ∈ needles ∧
        ∀ earlier ∈ rules.take entry.2, earlier.needle ≠ entry.1.needle).map (·.1) := by
  induction rules using List.reverseRecOn with
  | nil => rfl
  | append_singleton rules rule ih =>
    have hEarlier : ∀ entry ∈ rules.zipIdx,
        (rules ++ [rule]).take entry.2 = rules.take entry.2 := by
      intro entry hEntry
      obtain ⟨-, hPlace, -⟩ := List.mem_zipIdx hEntry
      rw [List.take_append_of_le_length (by omega)]
    rw [firstOfEach_concat, ih, List.zipIdx_append, List.filter_append, List.map_append]
    congr 1
    · congr 1
      apply List.filter_congr
      intro entry hEntry
      rw [hEarlier entry hEntry]
    · have hWhole : (rules ++ [rule]).take rules.length = rules := List.take_left
      rw [Nat.zero_add, List.zipIdx_singleton, List.filter_singleton]
      simp only [hWhole]
      split
      · next hFirst =>
        rw [decide_eq_true hFirst]
        rfl
      · next hLater =>
        rw [decide_eq_false hLater]
        rfl

/-- A rule is reported for the place where it stands in the table. -/
structure Reported (context : Context) (rule : Rules.ForbiddenToken) (place : Nat) : Prop where
  nonempty : rule.needle ≠ []
  used : ∃ unit ∈ context.units, rule.needle <:+: unit.compact
  first : ∀ earlier ∈ context.rules.forbiddenRules.take place, earlier.needle ≠ rule.needle

instance (context : Context) (rule : Rules.ForbiddenToken) (place : Nat) :
    Decidable (Reported context rule place) :=
  decidable_of_iff (rule.needle ≠ [] ∧ (∃ unit ∈ context.units, rule.needle <:+: unit.compact) ∧
      ∀ earlier ∈ context.rules.forbiddenRules.take place, earlier.needle ≠ rule.needle)
    ⟨fun ⟨hNonempty, hUsed, hFirst⟩ => ⟨hNonempty, hUsed, hFirst⟩,
      fun ⟨hNonempty, hUsed, hFirst⟩ => ⟨hNonempty, hUsed, hFirst⟩⟩

def usedNeedles (context : Context) : List (List Char) :=
  context.units.flatMap fun unit =>
    (forbiddenUses unit.compact context.rules.forbiddenRules).map (·.needle)

theorem mem_usedNeedles {context : Context} {needle : List Char} :
    needle ∈ usedNeedles context ↔ needle ≠ [] ∧
      (∃ rule ∈ context.rules.forbiddenRules, rule.needle = needle) ∧
      ∃ unit ∈ context.units, needle <:+: unit.compact := by
  simp only [usedNeedles, List.mem_flatMap, mem_forbiddenUses]
  constructor
  · rintro ⟨unit, hUnit, hNonempty, hUsed, hRule⟩
    exact ⟨hNonempty, hRule, unit, hUnit, hUsed⟩
  · rintro ⟨hNonempty, hRule, unit, hUnit, hUsed⟩
    exact ⟨unit, hUnit, hNonempty, hUsed, hRule⟩

theorem forbiddenIssues_eq (context : Context) :
    forbiddenIssues context =
      (context.rules.forbiddenRules.zipIdx.filter fun entry =>
        Reported context entry.1 entry.2).map fun entry => forbiddenUse entry.1 := by
  change (firstOfEach (usedNeedles context) context.rules.forbiddenRules).map forbiddenUse = _
  rw [firstOfEach_eq_filter, List.map_map]
  congr 1
  apply List.filter_congr
  rintro ⟨rule, place⟩ hEntry
  have hRule : rule ∈ context.rules.forbiddenRules := List.fst_mem_of_mem_zipIdx hEntry
  rw [decide_eq_decide, mem_usedNeedles]
  constructor
  · rintro ⟨⟨hNonempty, -, hUsed⟩, hFirst⟩
    exact ⟨hNonempty, hUsed, hFirst⟩
  · rintro ⟨hNonempty, hUsed, hFirst⟩
    exact ⟨⟨hNonempty, ⟨rule, hRule, rfl⟩, hUsed⟩, hFirst⟩

theorem namedNeedles_forbiddenUse (rules : List Rules.ForbiddenToken) :
    namedNeedles (rules.map forbiddenUse) = rules.map (·.needle) := by
  have hNeedle : ∀ rule, (forbiddenUse rule).needle? = some rule.needle := fun rule => rfl
  rw [namedNeedles, List.filterMap_map, ← List.filterMap_eq_map]
  exact congrArg (List.filterMap · rules) (funext hNeedle)

theorem mem_namedNeedles {context : Context} {needle : List Char} :
    needle ∈ namedNeedles (forbiddenIssues context) ↔ needle ≠ [] ∧
      (∃ rule ∈ context.rules.forbiddenRules, rule.needle = needle) ∧
      ∃ unit ∈ context.units, needle <:+: unit.compact := by
  change needle ∈ namedNeedles ((firstOfEach (usedNeedles context) _).map forbiddenUse) ↔ _
  rw [namedNeedles_forbiddenUse, mem_firstOfEach, mem_usedNeedles]
  constructor
  · exact And.left
  · intro h
    exact ⟨h, h.2.1⟩

theorem namedNeedles_nodup (context : Context) :
    (namedNeedles (forbiddenIssues context)).Nodup := by
  change (namedNeedles ((firstOfEach (usedNeedles context) _).map forbiddenUse)).Nodup
  rw [namedNeedles_forbiddenUse]
  exact (firstOfEach_spec _ _).2

/-! ## Advisories -/

def advisoryUse (rule : Rules.AdvisoryToken) (count : Nat) : Issue :=
  .warning rule.code
    (s!"'{rule.token}' is used {count} time(s); " ++ s!"{rule.label} output is not shown to players")
    [("token", .text rule.token), ("occurrences", .int count)]

section Advisory

variable {rules : List Rules.AdvisoryToken} {rule : Rules.AdvisoryToken}

theorem totalUses_append (first second : List (Rules.AdvisoryToken × Nat)) :
    totalUses (first ++ second) rule = totalUses first rule + totalUses second rule := by
  change (((first ++ second).filter fun use => use.1 == rule).map (·.2)).sum = _
  rw [List.filter_append, List.map_append, List.sum_append]
  rfl

theorem totalUses_perm {first second : List (Rules.AdvisoryToken × Nat)}
    (h : first.Perm second) (rule : Rules.AdvisoryToken) :
    totalUses first rule = totalUses second rule :=
  ((h.filter _).map _).sum_nat

theorem totalUses_absent (h : rule ∉ rules) (compact : List Char) :
    totalUses (advisoryUses compact rules) rule = 0 := by
  have hNone : (advisoryUses compact rules).filter (fun use => use.1 == rule) = [] := by
    rw [List.filter_eq_nil_iff]
    intro use hUse hSame
    obtain ⟨other, hOther, hFound⟩ := List.mem_filterMap.mp hUse
    simp only at hFound
    split at hFound
    · cases hFound
    · cases hFound
      exact h (beq_iff_eq.mp hSame ▸ hOther)
  rw [totalUses, hNone]
  rfl

theorem totalUses_single (rule : Rules.AdvisoryToken) (compact : List Char) :
    totalUses (advisoryUses compact [rule]) rule = occurrences rule.needle compact := by
  simp only [advisoryUses, List.filterMap_cons, List.filterMap_nil]
  cases hCount : occurrences rule.needle compact with
  | zero => rfl
  | succ count => simp [totalUses]

theorem totalUses_advisoryUses (hDistinct : rules.Nodup) (h : rule ∈ rules) (compact : List Char) :
    totalUses (advisoryUses compact rules) rule = occurrences rule.needle compact := by
  induction rules with
  | nil => cases h
  | cons first rest ih =>
    obtain ⟨hNew, hRest⟩ := List.nodup_cons.mp hDistinct
    have hUses : advisoryUses compact (first :: rest) =
        advisoryUses compact [first] ++ advisoryUses compact rest := by
      rw [advisoryUses, ← List.singleton_append, List.filterMap_append]
      rfl
    rw [hUses, totalUses_append]
    obtain rfl | hLater := List.mem_cons.mp h
    · rw [totalUses_single, totalUses_absent hNew, Nat.add_zero]
    · have hOther : rule ∉ [first] := by
        intro hSame
        rw [List.mem_singleton.mp hSame] at hLater
        exact hNew hLater
      rw [totalUses_absent hOther, Nat.zero_add]
      exact ih hRest hLater

theorem totalUses_units (hDistinct : rules.Nodup) (h : rule ∈ rules) (units : List CodeUnit) :
    totalUses (units.flatMap fun unit => advisoryUses unit.compact rules) rule =
      (units.map fun unit => occurrences rule.needle unit.compact).sum := by
  induction units with
  | nil => rfl
  | cons unit rest ih =>
    rw [List.flatMap_cons, totalUses_append, totalUses_advisoryUses hDistinct h, ih, List.map_cons,
      List.sum_cons]

end Advisory

theorem advisoryIssues_eq {context : Context} (hDistinct : context.rules.advisoryRules.Nodup) :
    advisoryIssues context = (context.rules.advisoryRules.filter fun rule =>
      0 < context.uses rule).map fun rule => advisoryUse rule (context.uses rule) := by
  have hTotal : ∀ rule ∈ context.rules.advisoryRules,
      totalUses (context.units.flatMap fun unit =>
        advisoryUses unit.compact context.rules.advisoryRules) rule = context.uses rule :=
    fun rule hRule => totalUses_units hDistinct hRule context.units
  rw [← List.filterMap_eq_map, List.filterMap_filter]
  apply List.filterMap_congr
  intro rule hRule
  simp only [hTotal rule hRule, Nat.pos_iff_ne_zero, decide_not]
  split
  · next hNone => simp [hNone]
  · next hSome =>
    simp only [hSome, decide_false, Bool.not_false, if_true]
    rfl

theorem advisoryIssues_perm {context : Context} {units : List CodeUnit}
    (h : units.Perm context.units) :
    advisoryIssues { context with units } = advisoryIssues context := by
  have hTotal : ∀ rule, totalUses (units.flatMap fun unit =>
        advisoryUses unit.compact context.rules.advisoryRules) rule =
      totalUses (context.units.flatMap fun unit =>
        advisoryUses unit.compact context.rules.advisoryRules) rule := by
    intro rule
    apply totalUses_perm
    exact h.flatMap_right _
  unfold advisoryIssues
  simp only [hTotal]

theorem forbiddenIssues_perm {context : Context} {units : List CodeUnit}
    (h : units.Perm context.units) :
    forbiddenIssues { context with units } = forbiddenIssues context := by
  rw [forbiddenIssues_eq, forbiddenIssues_eq]
  congr 1
  apply List.filter_congr
  intro entry _
  rw [decide_eq_decide]
  constructor
  · rintro ⟨hNonempty, ⟨unit, hUnit, hUsed⟩, hFirst⟩
    exact ⟨hNonempty, ⟨unit, h.mem_iff.mp hUnit, hUsed⟩, hFirst⟩
  · rintro ⟨hNonempty, ⟨unit, hUnit, hUsed⟩, hFirst⟩
    exact ⟨hNonempty, ⟨unit, h.mem_iff.mpr hUnit, hUsed⟩, hFirst⟩

/-- The two stages that scan the code units report exactly what the units use: one error for each
needle, of its first rule, and, where the rules are distinct, one warning for each discouraged token
with the number of its uses in all units. The order of the units does not matter, and each unit is
reported for what it is reported for alone. -/
theorem units_scanned [Platform] (context : Context) :
    Stage.forbiddenApis.run context = .done (.finding context
      ((context.rules.forbiddenRules.zipIdx.filter fun entry =>
        Reported context entry.1 entry.2).map fun entry => forbiddenUse entry.1)) ∧
    (namedNeedles (forbiddenIssues context)).Nodup ∧
    (context.rules.advisoryRules.Nodup → Stage.advisories.run context = .done (.finding context
      ((context.rules.advisoryRules.filter fun rule => 0 < context.uses rule).map fun rule =>
        advisoryUse rule (context.uses rule)))) ∧
    (∀ rule ∈ context.rules.advisoryRules, rule.needle ≠ [] → ∀ unit ∈ context.units,
      IsGreatest {copies | HasCopies rule.needle copies unit.compact}
        (occurrences rule.needle unit.compact)) ∧
    (∀ units, units.Perm context.units →
      forbiddenIssues { context with units } = forbiddenIssues context ∧
        advisoryIssues { context with units } = advisoryIssues context) ∧
    (∀ units, context.units ⊆ units →
      namedNeedles (forbiddenIssues context) ⊆
        namedNeedles (forbiddenIssues { context with units })) ∧
    (∀ needle, needle ∈ namedNeedles (forbiddenIssues context) ↔
      ∃ unit ∈ context.units,
        needle ∈ namedNeedles (forbiddenIssues { context with units := [unit] })) := by
  refine ⟨?_, namedNeedles_nodup context, ?_, ?_, ?_, ?_, ?_⟩
  · rw [← forbiddenIssues_eq]
    rfl
  · intro hDistinct
    rw [← advisoryIssues_eq hDistinct]
    rfl
  · intro rule _ hNonempty unit _
    exact occurrences_isGreatest hNonempty unit.compact
  · intro units hPerm
    exact ⟨forbiddenIssues_perm hPerm, advisoryIssues_perm hPerm⟩
  · intro units hUnits needle hNeedle
    obtain ⟨hNonempty, hRule, unit, hUnit, hUsed⟩ := mem_namedNeedles.mp hNeedle
    exact mem_namedNeedles.mpr ⟨hNonempty, hRule, unit, hUnits hUnit, hUsed⟩
  · intro needle
    simp only [mem_namedNeedles, List.mem_singleton, exists_eq_left]
    constructor
    · rintro ⟨hNonempty, hRule, unit, hUnit, hUsed⟩
      exact ⟨unit, hUnit, hNonempty, hRule, hUsed⟩
    · rintro ⟨unit, hUnit, hNonempty, hRule, hUsed⟩
      exact ⟨hNonempty, hRule, unit, hUnit, hUsed⟩

/-- A unit with an open comment in front of another one, under a table that names one needle twice
and another one not at all. -/
def veiledContext : Context :=
  { Context.start
      { RuleTables.standard with
        forbiddenRules := [⟨" ", "none"⟩, ⟨"new Worker(", "first"⟩, ⟨"newWorker (", "second"⟩] }
      ⟨ByteArray.empty, Metadata.default⟩ ⟨.script, "2d", 0, none, []⟩ with
    units := [⟨"console.log(1) /* console.log(2)".toList⟩, ⟨"new  Worker(console.x)".toList⟩] }

section

attribute [local instance] Platform.bare

/-- The open comment hides a use in its own unit only. -/
theorem units_scanned_veiled : veiledContext.rules.advisoryRules.Nodup ∧
    Stage.forbiddenApis.run veiledContext =
      .done (.finding veiledContext [forbiddenUse ⟨"new Worker(", "first"⟩]) ∧
    Stage.advisories.run veiledContext =
      .done (.finding veiledContext [advisoryUse ⟨"console.", .consoleUsage, "console"⟩ 2]) := by
  have hDistinct : veiledContext.rules.advisoryRules.Nodup := by decide
  obtain ⟨hForbidden, -, hCounted, -⟩ := units_scanned veiledContext
  have hAdvisory := hCounted hDistinct
  have hReported : (veiledContext.rules.forbiddenRules.zipIdx.filter fun entry =>
      Reported veiledContext entry.1 entry.2) = [(⟨"new Worker(", "first"⟩, 1)] := by
    decide +kernel
  have hUsed : (veiledContext.rules.advisoryRules.filter fun rule => 0 < veiledContext.uses rule) =
      [⟨"console.", .consoleUsage, "console"⟩] := by
    decide +kernel
  have hCount : veiledContext.uses ⟨"console.", .consoleUsage, "console"⟩ = 2 := by
    decide +kernel
  rw [hReported] at hForbidden
  rw [hUsed, List.map_singleton, hCount] at hAdvisory
  exact ⟨hDistinct, hForbidden, hAdvisory⟩

end

end Gate

end SubmissionGate
