import SubmissionGate.Proofs.Gate.Course

/-!
# What the checks ask for

Each check on a text submission with the condition under which it has nothing to object to. The
conditions speak about the submission and the rules only, not about issues or stages.
-/

namespace SubmissionGate.Gate

open Script

/-- Whether a script address names the host that scripts have to be served from. -/
def ServedFromHost (rules : RuleTables) (address : List Char) : Prop :=
  Url.hostOfScript address = rules.cdnHost.toList

def LibrariesServed (rules : RuleTables) (libs : List String) : Prop :=
  ∀ key ∈ libs, ∃ url, rules.libraries.get? key = some url ∧ ServedFromHost rules url.toList

/-- What is asked of a document beyond its code. -/
structure DocumentFits (rules : RuleTables) (dimensions : String) (text : List Char)
    (document : Markup.Document) : Prop where
  tags : ∀ tag ∈ rules.requiredHtmlTags, Markup.opensTag tag (Text.lower text) = true
  canvas : dimensions = "2d" → rules.canvasId.toList ∈ document.canvasIds
  sources : ∀ source ∈ document.scriptSources, ServedFromHost rules source

/-- Some unit assigns a game object, and in the first one that does every method is defined. -/
def DefinesGame (rules : RuleTables) (units : List CodeUnit) : Prop :=
  ∃ before unit after object, units = before ++ unit :: after ∧
    (∀ other ∈ before,
      other.outline.gameObject? rules.gameObjectGlobal rules.gameObjectName = none) ∧
    unit.outline.gameObject? rules.gameObjectGlobal rules.gameObjectName = some object ∧
    ∀ spec ∈ rules.requiredMethods, ∃ form,
      (spec.name, form) ∈ unit.outline.methods object rules.requiredMethods

/-- No unit holds a forbidden token once its comments and blanks are gone. -/
def AvoidsForbidden (rules : RuleTables) (units : List CodeUnit) : Prop :=
  ∀ unit ∈ units, ∀ rule ∈ rules.forbiddenRules, rule.needle ≠ [] → ¬ rule.needle <:+: unit.compact

theorem harmless_map_iff {α : Type} {items : List α} {issue : α → Issue}
    (hErrors : ∀ item, (issue item).severity = .error) :
    Harmless (items.map issue) ↔ items = [] := by
  rw [harmless_errors_iff, List.map_eq_nil_iff]
  intro found hFound
  obtain ⟨item, _, rfl⟩ := List.mem_map.mp hFound
  exact hErrors item

theorem harmless_filterMap_iff {α : Type} {items : List α} {issue? : α → Option Issue}
    (hErrors : ∀ item issue, issue? item = some issue → issue.severity = .error) :
    Harmless (items.filterMap issue?) ↔ ∀ item ∈ items, issue? item = none := by
  rw [harmless_errors_iff, List.filterMap_eq_nil_iff]
  intro found hFound
  obtain ⟨item, _, hItem⟩ := List.mem_filterMap.mp hFound
  exact hErrors item found hItem

theorem payloadIssues_harmless_iff (context : Context) :
    Harmless (payloadIssues context) ↔
      (context.submission.payload.size : Int) ≤ context.resolved.sizeLimit := by
  unfold payloadIssues
  simp only
  split
  · next hFits => exact iff_of_true harmless_nil hFits
  · next hLarge =>
    rw [← List.nil_append [_]]
    exact iff_of_false (not_harmless_error _ _ _ _) hLarge

theorem requiredTagIssues_harmless_iff (context : Context) :
    Harmless (requiredTagIssues context) ↔ ∀ tag ∈ context.rules.requiredHtmlTags,
      Markup.opensTag tag (Text.lower (context.text.getD [])) = true := by
  unfold requiredTagIssues
  rw [harmless_map_iff fun _ => rfl]
  simp [Markup.absentTags]

theorem canvasIssues_harmless_iff {context : Context} {document : Markup.Document}
    (hDocument : context.document = some document) :
    Harmless (canvasIssues context) ↔ context.rules.canvasId.toList ∈ document.canvasIds := by
  unfold canvasIssues
  simp only [hDocument]
  split
  · next hFound => exact iff_of_true harmless_nil (List.contains_iff_mem.mp hFound)
  · next hAbsent =>
    rw [← List.nil_append [_]]
    exact iff_of_false (not_harmless_error _ _ _ _) fun hMem =>
      hAbsent (List.contains_iff_mem.mpr hMem)

theorem externalScriptIssues_harmless_iff {context : Context} {document : Markup.Document}
    (hDocument : context.document = some document) :
    Harmless (externalScriptIssues context) ↔
      ∀ source ∈ document.scriptSources, ServedFromHost context.rules source := by
  unfold externalScriptIssues
  rw [harmless_filterMap_iff]
  · simp [hDocument, ServedFromHost]
  · intro source issue hIssue
    simp only at hIssue
    split at hIssue
    · cases hIssue
    · cases hIssue
      rfl

theorem libraryIssues_harmless_iff (context : Context) :
    Harmless (libraryIssues context) ↔
      LibrariesServed context.rules context.submission.metadata.libs := by
  unfold libraryIssues LibrariesServed
  simp only
  rw [harmless_filterMap_iff]
  · refine forall₂_congr fun key hKey => ?_
    cases hUrl : context.rules.libraries.get? key with
    | none => simp
    | some url => simp [ServedFromHost]
  · intro key issue hIssue
    split at hIssue
    · cases hIssue
      rfl
    · split at hIssue
      · cases hIssue
      · cases hIssue
        rfl

theorem has_iff {α : Type} {table : Table α} {key : String} :
    table.has key = true ↔ ∃ value, (key, value) ∈ table := by
  simp only [Table.has, List.any_eq_true, beq_iff_eq]
  constructor
  · rintro ⟨⟨name, value⟩, hMem, rfl⟩
    exact ⟨value, hMem⟩
  · rintro ⟨value, hMem⟩
    exact ⟨(key, value), hMem, rfl⟩

def MethodsDefined (rules : RuleTables) (game : FoundGame) : Prop :=
  ∀ spec ∈ rules.requiredMethods, ∃ form,
    (spec.name, form) ∈ game.outline.methods game.object rules.requiredMethods

theorem methodIssues_harmless_iff (rules : RuleTables) (game : FoundGame) :
    Harmless (methodIssues rules (some game)) ↔ MethodsDefined rules game := by
  unfold methodIssues MethodsDefined
  simp only
  rw [harmless_map_iff fun _ => rfl, List.filter_eq_nil_iff]
  refine forall₂_congr fun spec hSpec => ?_
  rw [← has_iff]
  simp

theorem definesGame_iff (rules : RuleTables) (units : List CodeUnit) :
    DefinesGame rules units ↔
      ∃ game, findGame rules units = some game ∧ MethodsDefined rules game := by
  simp only [findGame, List.findSome?_eq_some_iff, Option.map_eq_some_iff, Option.map_eq_none_iff]
  constructor
  · rintro ⟨before, unit, after, object, hUnits, hBefore, hObject, hMethods⟩
    exact ⟨⟨unit.outline, object⟩, ⟨before, unit, after, hUnits, ⟨object, hObject, rfl⟩, hBefore⟩,
      hMethods⟩
  · rintro ⟨game, ⟨before, unit, after, hUnits, ⟨object, hObject, rfl⟩, hBefore⟩, hMethods⟩
    exact ⟨before, unit, after, object, hUnits, hBefore, hObject, hMethods⟩

theorem occurs_iff (needle text : List Char) : occurs needle text = true ↔ needle <:+: text := by
  induction text with
  | nil => simp [occurs]
  | cons c rest ih =>
    rw [occurs, Bool.or_eq_true, ih, List.infix_cons_iff, List.isPrefixOf_iff_prefix]

def addUse (compact : List Char) (hits : List Rules.ForbiddenToken) (rule : Rules.ForbiddenToken) :
    List Rules.ForbiddenToken :=
  if rule.needle.isEmpty || hits.any (·.needle == rule.needle) then hits
  else if occurs rule.needle compact then rule :: hits
  else hits

theorem forbiddenUses_eq (compact : List Char) (rules : List Rules.ForbiddenToken) :
    forbiddenUses compact rules = (rules.foldl (addUse compact) []).reverse := rfl

theorem mem_addUse (compact needle : List Char) (hits : List Rules.ForbiddenToken)
    (rule : Rules.ForbiddenToken) :
    needle ∈ (addUse compact hits rule).map (·.needle) ↔ needle ∈ hits.map (·.needle) ∨
      (needle ≠ [] ∧ needle <:+: compact ∧ rule.needle = needle) := by
  unfold addUse
  split
  · next hKnown =>
    refine (or_iff_left_of_imp ?_).symm
    rintro ⟨hNonempty, -, rfl⟩
    rcases Bool.or_eq_true _ _ ▸ hKnown with hEmpty | hHit
    · exact absurd (List.isEmpty_iff.mp hEmpty) hNonempty
    · obtain ⟨hit, hMem, hSame⟩ := List.any_eq_true.mp hHit
      exact List.mem_map.mpr ⟨hit, hMem, by simpa using hSame⟩
  · next hNew =>
    have hNonempty : rule.needle ≠ [] := fun hEmpty => hNew (by simp [hEmpty])
    split
    · next hOccurs =>
      rw [List.map_cons, List.mem_cons, or_comm]
      refine or_congr_right ⟨?_, fun h => h.2.2.symm⟩
      rintro rfl
      exact ⟨hNonempty, (occurs_iff _ _).mp hOccurs, rfl⟩
    · next hAbsent =>
      refine (or_iff_left_of_imp ?_).symm
      rintro ⟨-, hInfix, rfl⟩
      exact absurd ((occurs_iff _ _).mpr hInfix) hAbsent

theorem mem_forbiddenUses (compact needle : List Char) (rules : List Rules.ForbiddenToken) :
    needle ∈ (forbiddenUses compact rules).map (·.needle) ↔
      needle ≠ [] ∧ needle <:+: compact ∧ ∃ rule ∈ rules, rule.needle = needle := by
  have hFold : ∀ hits, needle ∈ (rules.foldl (addUse compact) hits).map (·.needle) ↔
      needle ∈ hits.map (·.needle) ∨
        (needle ≠ [] ∧ needle <:+: compact ∧ ∃ rule ∈ rules, rule.needle = needle) := by
    induction rules with
    | nil => simp
    | cons rule rest ih =>
      intro hits
      rw [List.foldl_cons, ih, mem_addUse]
      simp only [List.mem_cons, exists_eq_or_imp]
      rw [or_assoc, ← and_or_left, ← and_or_left]
  rw [forbiddenUses_eq, List.map_reverse, List.mem_reverse, hFold]
  simp

def addFirst (needles : List (List Char)) (hits : List Rules.ForbiddenToken)
    (rule : Rules.ForbiddenToken) : List Rules.ForbiddenToken :=
  if needles.contains rule.needle && !hits.any (·.needle == rule.needle) then rule :: hits else hits

theorem firstOfEach_eq (needles : List (List Char)) (rules : List Rules.ForbiddenToken) :
    firstOfEach needles rules = (rules.foldl (addFirst needles) []).reverse := rfl

theorem mem_addFirst {needles : List (List Char)} {needle : List Char}
    {hits : List Rules.ForbiddenToken} {rule : Rules.ForbiddenToken} :
    needle ∈ (addFirst needles hits rule).map (·.needle) ↔
      needle ∈ hits.map (·.needle) ∨ (needle ∈ needles ∧ rule.needle = needle) := by
  unfold addFirst
  split
  · next hNew =>
    have hWanted : rule.needle ∈ needles := by
      obtain ⟨hContains, -⟩ := (Bool.and_eq_true _ _).mp hNew
      exact List.contains_iff_mem.mp hContains
    rw [List.map_cons, List.mem_cons, or_comm]
    apply or_congr_right
    constructor
    · rintro rfl
      exact ⟨hWanted, rfl⟩
    · rintro ⟨-, rfl⟩
      rfl
  · next hOld =>
    symm
    apply or_iff_left_of_imp
    rintro ⟨hWanted, rfl⟩
    simpa [hWanted] using hOld

theorem mem_firstOfEach {needles : List (List Char)} {needle : List Char}
    {rules : List Rules.ForbiddenToken} : needle ∈ (firstOfEach needles rules).map (·.needle) ↔
      needle ∈ needles ∧ ∃ rule ∈ rules, rule.needle = needle := by
  have hFold : ∀ hits, needle ∈ (rules.foldl (addFirst needles) hits).map (·.needle) ↔
      needle ∈ hits.map (·.needle) ∨ (needle ∈ needles ∧ ∃ rule ∈ rules, rule.needle = needle) := by
    induction rules with
    | nil => simp
    | cons rule rest ih =>
      intro hits
      rw [List.foldl_cons, ih, mem_addFirst, or_assoc, ← and_or_left]
      simp only [List.mem_cons, exists_eq_or_imp]
  rw [firstOfEach_eq, List.map_reverse, List.mem_reverse, hFold]
  simp

theorem firstOfEach_concat (needles : List (List Char)) (rules : List Rules.ForbiddenToken)
    (rule : Rules.ForbiddenToken) :
    firstOfEach needles (rules ++ [rule]) = firstOfEach needles rules ++
      if rule.needle ∈ needles ∧ ∀ earlier ∈ rules, earlier.needle ≠ rule.needle
      then [rule] else [] := by
  have hKnown := @mem_firstOfEach needles rule.needle rules
  rw [firstOfEach_eq, List.map_reverse, List.mem_reverse] at hKnown
  rw [firstOfEach_eq, List.foldl_append, firstOfEach_eq]
  generalize rules.foldl (addFirst needles) [] = hits at hKnown ⊢
  have hAny : hits.any (·.needle == rule.needle) = true ↔ rule.needle ∈ hits.map (·.needle) := by
    simp
  have hNew : (needles.contains rule.needle && !hits.any (·.needle == rule.needle)) = true ↔
      rule.needle ∈ needles ∧ ∀ earlier ∈ rules, earlier.needle ≠ rule.needle := by
    rw [Bool.and_eq_true, Bool.not_eq_true', ← Bool.not_eq_true, hAny, hKnown,
      List.contains_iff_mem]
    apply and_congr_right
    intro hWanted
    simp [hWanted]
  simp only [List.foldl_cons, List.foldl_nil, addFirst, hNew]
  split
  · rw [List.reverse_cons]
  · rw [List.append_nil]

theorem firstOfEach_eq_nil_iff {needles : List (List Char)} {rules : List Rules.ForbiddenToken} :
    firstOfEach needles rules = [] ↔ ∀ rule ∈ rules, rule.needle ∉ needles := by
  have hNeedles : (firstOfEach needles rules).map (·.needle) = [] ↔ firstOfEach needles rules = [] :=
    List.map_eq_nil_iff
  rw [← hNeedles, List.eq_nil_iff_forall_not_mem]
  simp only [mem_firstOfEach, not_and]
  constructor
  · intro h rule hRule hWanted
    exact h rule.needle hWanted ⟨rule, hRule, rfl⟩
  · rintro h needle hWanted ⟨rule, hRule, rfl⟩
    exact h rule hRule hWanted

theorem forbiddenIssues_harmless_iff (context : Context) :
    Harmless (forbiddenIssues context) ↔ AvoidsForbidden context.rules context.units := by
  unfold forbiddenIssues AvoidsForbidden
  simp only
  rw [harmless_map_iff fun _ => rfl, firstOfEach_eq_nil_iff]
  simp only [List.mem_flatMap, mem_forbiddenUses, not_exists, not_and]
  constructor
  · intro h unit hUnit rule hRule hNonempty hInfix
    exact h rule hRule unit hUnit hNonempty hInfix rule hRule rfl
  · intro h rule hRule unit hUnit hNonempty hInfix
    exact absurd hInfix (h unit hUnit rule hRule hNonempty)

/-! What is asked before the stages -/

/-- A payload with metadata that can be told what it is. -/
structure Presentable (submission : Submission) : Prop where
  nonempty : submission.payload.size ≠ 0
  readable : submission.metadata.malformed = []
  dimensions : submission.metadata.dimensions = "2d" ∨ submission.metadata.dimensions = "3d"

theorem knownDimensions_iff {dimensions : String} :
    Submission.knownDimensions.contains dimensions = true ↔
      dimensions = "2d" ∨ dimensions = "3d" := by
  simp [Submission.knownDimensions]

theorem resolve_of_not_presentable {submission : Submission} (rules : RuleTables)
    (h : ¬ Presentable submission) :
    ∃ fault, submission.resolve rules = .error (.refused fault) := by
  unfold Submission.resolve
  simp only
  split
  · exact ⟨_, rfl⟩
  · next hNonempty =>
    split
    · exact ⟨_, rfl⟩
    · next hReadable =>
      split
      · exact ⟨_, rfl⟩
      · next hKnown =>
        refine absurd ⟨?_, hReadable, knownDimensions_iff.mp (by simpa using hKnown)⟩ h
        simpa [ByteArray.isEmpty] using hNonempty

namespace Presentable

variable {submission : Submission} (h : Presentable submission) (rules : RuleTables)

include h

theorem isEmpty : submission.payload.isEmpty = false := by
  simpa [ByteArray.isEmpty] using h.nonempty

theorem resolve_text (hText : Archive.Container.sniff? submission.payload = none) :
    submission.resolve rules = Submission.resolveText rules submission.metadata := by
  unfold Submission.resolve
  simp only [h.isEmpty, h.readable, knownDimensions_iff.mpr h.dimensions, hText]
  rfl

theorem resolve_bundle (hZip : Archive.Container.sniff? submission.payload = some .zip) :
    submission.resolve rules = Submission.resolveBundle rules submission.metadata := by
  unfold Submission.resolve
  simp only [h.isEmpty, h.readable, knownDimensions_iff.mpr h.dimensions, hZip]
  rfl

theorem resolve_container {container : Archive.Container} (hOther : container ≠ .zip)
    (hContainer : Archive.Container.sniff? submission.payload = some container) :
    submission.resolve rules = .error (.refused (.container container)) := by
  unfold Submission.resolve
  simp only [h.isEmpty, h.readable, knownDimensions_iff.mpr h.dimensions, hContainer]
  cases container with
  | zip => exact absurd rfl hOther
  | _ => rfl

end Presentable

end SubmissionGate.Gate
