import SubmissionGate.Proofs.Except
import SubmissionGate.Proofs.Gate.Stages
import SubmissionGate.Proofs.RuleTables.Override
import SubmissionGate.Proofs.Text.Blank

/-!
# Safe rule tables

What a validation relies on holds of the standard tables, and no section of a configuration takes it
away: limits are positive, no key gets lost and every look-up has an answer. The host is another
matter. It is normalised behind the test whether there is one, so a blank host is accepted and comes
out empty, and with it every script that has no host at all.
-/

namespace SubmissionGate

open Text

namespace RuleTables

/-- Limits are positive and the tables have the keys that are looked up in them. -/
structure Safe (rules : RuleTables) : Prop where
  sizeLimits : ∀ entry ∈ rules.sizeLimits, 0 < entry.2
  tierBudgets : ∀ entry ∈ rules.tierBudgets, 0 < entry.2
  assetLimits : ∀ entry ∈ rules.assetLimits, 0 < entry.2
  maxEntries : 0 < rules.maxEntries
  maxCompressionRatio : 0 < rules.maxCompressionRatio
  sizeKeys : rules.sizeLimits.keys = standard.sizeLimits.keys
  assetKeys : rules.assetLimits.keys = standard.assetLimits.keys
  tierKeys : ∀ tier ∈ standard.tierBudgets.keys, tier ∈ rules.tierBudgets.keys
  defaultTiers : rules.defaultTiers = standard.defaultTiers
  extensions : rules.assetExtensions = standard.assetExtensions

/-- Every look-up of a size or a tier finds a positive limit. -/
structure LooksUp (rules : RuleTables) : Prop where
  text : ∀ kind ∈ [Submission.Kind.html, .script], ∀ dimensions ∈ Submission.knownDimensions,
    ∃ limit, Submission.sizeLimit rules kind.name dimensions = .ok limit ∧ 0 < limit
  defaultTier : ∀ dimensions ∈ Submission.knownDimensions,
    ∃ budget, rules.tierBudgets.get? (rules.tierFor none dimensions) = some budget ∧ 0 < budget
  namedTier : ∀ tier ∈ standard.tierBudgets.keys,
    ∃ budget, rules.tierBudgets.get? tier = some budget ∧ 0 < budget
  asset : ∀ extension category, rules.assetExtensions.get? extension = some category →
    ∃ limit, rules.assetLimits.get? category = some limit ∧ 0 < limit

/-! ## Sizes -/

theorem mem_keys_iff {table : Table Int} {key : String} :
    key ∈ table.keys ↔ table.has key = true := by
  simp [Table.keys, Table.has]

theorem positive_get? {table : Table Int} {key : String} (h : ∀ entry ∈ table, 0 < entry.2)
    (hKey : key ∈ table.keys) : ∃ limit, table.get? key = some limit ∧ 0 < limit := by
  obtain ⟨limit, hLimit⟩ := Table.exists_get?_of_has (mem_keys_iff.mp hKey)
  exact ⟨limit, hLimit, h _ (Table.mem_of_get? hLimit)⟩

theorem keys_put_of_has {table : Table Int} {key : String} {value : Int}
    (h : table.has key = true) : (table.put key value).keys = table.keys := by
  rw [Table.put, if_pos h, Table.keys, Table.keys, List.map_map]
  refine List.map_congr_left fun entry _ => ?_
  by_cases hSame : entry.1 = key
  · simp [hSame]
  · simp [hSame]

theorem positive_ok {label : String} {value : Value} {size : Int}
    (h : positive label value = .ok size) : 0 < size := by
  unfold positive at h
  split at h
  · split at h
    · next hPositive =>
      cases h
      exact hPositive
    · cases h
  · cases h

theorem putSizes_safe {name : String} {closed : Bool} {entries : List (Value × Value)}
    {current after : Table Int} (h : putSizes name closed current entries = .ok after)
    (hPositive : ∀ entry ∈ current, 0 < entry.2) :
    (∀ entry ∈ after, 0 < entry.2) ∧ (closed = true → after.keys = current.keys) := by
  induction entries generalizing current with
  | nil =>
    cases h
    exact ⟨hPositive, fun _ => rfl⟩
  | cons entry rest ih =>
    obtain ⟨label, value⟩ := entry
    rw [putSizes] at h
    split at h
    · cases h
    · split at h
      · cases h
      · next written _ hKnown =>
        split at h
        · cases h
        · next size hSize =>
          have hPut : ∀ entry ∈ current.put written size, 0 < entry.2 := by
            intro entry hEntry
            obtain rfl | ⟨-, hOld⟩ := Table.mem_put hEntry
            · exact positive_ok hSize
            · exact hPositive entry hOld
          obtain ⟨hAfter, hKeys⟩ := ih h hPut
          refine ⟨hAfter, fun hClosed => ?_⟩
          have hHas : current.has written = true := by simpa [hClosed] using hKnown
          rw [hKeys hClosed, keys_put_of_has hHas]

/-! ## Safety -/

theorem standard_safe : Safe standard where
  sizeLimits := by decide
  tierBudgets := by decide
  assetLimits := by decide
  maxEntries := by decide
  maxCompressionRatio := by decide
  sizeKeys := rfl
  assetKeys := rfl
  tierKeys := fun _ => id
  defaultTiers := rfl
  extensions := rfl

theorem Safe.section {overrides : List (Value × Value)} {apply : Section}
    (hSection : apply ∈ sections overrides) {before after : RuleTables} (h : Safe before)
    (hApply : apply before = .ok (some after)) : Safe after := by
  rcases section_cases hSection hApply with ⟨_, rfl⟩ | ⟨_, rfl⟩ | ⟨sizes, entries, hSizes, rfl⟩ |
    ⟨budgets, entries, hBudgets, rfl⟩ | ⟨limits, entries, hLimits, rfl⟩ | ⟨_, rfl⟩ |
    ⟨_, hEntries, rfl⟩ | ⟨_, hRatio, rfl⟩
  case inr.inr.inl =>
    obtain ⟨hPositive, hKeys⟩ := putSizes_safe hSizes h.sizeLimits
    exact { h with sizeLimits := hPositive, sizeKeys := (hKeys rfl).trans h.sizeKeys }
  case inr.inr.inr.inl =>
    refine { h with
      tierBudgets := (putSizes_safe hBudgets h.tierBudgets).1
      tierKeys := fun tier hTier => ?_ }
    have hThere := mem_keys_iff.mp (h.tierKeys tier hTier)
    exact mem_keys_iff.mpr ((putSizes_has hBudgets tier).1 hThere)
  case inr.inr.inr.inr.inl =>
    obtain ⟨hPositive, hKeys⟩ := putSizes_safe hLimits h.assetLimits
    exact { h with assetLimits := hPositive, assetKeys := (hKeys rfl).trans h.assetKeys }
  case inr.inr.inr.inr.inr.inr.inl => exact { h with maxEntries := hEntries }
  case inr.inr.inr.inr.inr.inr.inr => exact { h with maxCompressionRatio := hRatio }
  all_goals exact { h with }

theorem override_keeps_safe {overrides : List (Value × Value)} {after : RuleTables}
    (h : standard.override overrides = .ok after) : Safe after :=
  override_keeps h standard_safe fun _ hSection _ _ hApply hBefore =>
    hBefore.section hSection hApply

theorem standard_keys :
    (∀ dimensions ∈ Submission.knownDimensions,
      "html_" ++ dimensions ∈ standard.sizeLimits.keys ∧
      standard.tierFor none dimensions ∈ standard.tierBudgets.keys) ∧
    "script" ∈ standard.sizeLimits.keys ∧
    ∀ entry ∈ standard.assetExtensions, entry.2 ∈ standard.assetLimits.keys := by
  decide

theorem Safe.looksUp {rules : RuleTables} (h : Safe rules) : LooksUp rules := by
  obtain ⟨hDimensions, hScript, hExtensions⟩ := standard_keys
  refine ⟨fun kind hKind dimensions hKnown => ?_, fun dimensions hKnown => ?_,
    fun tier hTier => positive_get? h.tierBudgets (h.tierKeys tier hTier),
    fun extension category hCategory => ?_⟩
  · have hHtml := positive_get? h.sizeLimits (h.sizeKeys ▸ (hDimensions dimensions hKnown).1)
    have hCode := positive_get? h.sizeLimits (h.sizeKeys ▸ hScript)
    simp only [List.mem_cons, List.not_mem_nil, or_false] at hKind
    rcases hKind with rfl | rfl
    · obtain ⟨limit, hLimit, hPositive⟩ := hHtml
      exact ⟨limit, by simp [Submission.sizeLimit, Submission.Kind.name, hLimit], hPositive⟩
    · obtain ⟨limit, hLimit, hPositive⟩ := hCode
      exact ⟨limit, by simp [Submission.sizeLimit, Submission.Kind.name, hLimit], hPositive⟩
  · have hTier : rules.tierFor none dimensions = standard.tierFor none dimensions := by
      simp only [tierFor, h.defaultTiers]
    rw [hTier]
    exact positive_get? h.tierBudgets (h.tierKeys _ (hDimensions dimensions hKnown).2)
  · rw [h.extensions] at hCategory
    exact positive_get? h.assetLimits
      (h.assetKeys ▸ hExtensions _ (Table.mem_of_get? hCategory))

/-! ## The host -/

def behind (rules : RuleTables) (apply : Section) : Except OverrideFault RuleTables :=
  (apply rules).map (·.getD rules)

/-- Overriding walks through the sections and takes each of them over from the one before. -/
theorem override_eq_foldlM (rules : RuleTables) (overrides : List (Value × Value)) :
    rules.override overrides = (sections overrides).foldlM behind rules := by
  have hWalk : ∀ (steps : List Section) (before : RuleTables) (changed : Bool),
      (changed = false → before = rules) →
      (applySections before changed steps).map (·.getD rules) = steps.foldlM behind before := by
    intro steps
    induction steps with
    | nil =>
      intro before changed hChanged
      cases changed with
      | true => rfl
      | false =>
        obtain rfl := hChanged rfl
        rfl
    | cons apply rest ih =>
      intro before changed hChanged
      rw [applySections, List.foldlM_cons, behind]
      cases apply before with
      | error fault => rfl
      | ok result =>
        cases result with
        | none => exact ih before changed hChanged
        | some next => exact ih next true (by simp)
  exact hWalk (sections overrides) rules false fun _ => rfl

theorem behind_ok {before after : RuleTables} {apply : Section}
    (h : behind before apply = .ok after) :
    (apply before = .ok none ∧ after = before) ∨ apply before = .ok (some after) := by
  unfold behind at h
  cases hApply : apply before with
  | error fault =>
    rw [hApply] at h
    cases h
  | ok result =>
    rw [hApply] at h
    cases result with
    | none =>
      cases h
      exact .inl ⟨rfl, rfl⟩
    | some next =>
      cases h
      exact .inr rfl

/-- A section leaves a part of the tables alone. -/
def Section.Keeps {α : Type} (part : RuleTables → α) (apply : Section) : Prop :=
  ∀ before after, apply before = .ok (some after) → part after = part before

theorem behind_keeps {α : Type} {part : RuleTables → α} {apply : Section}
    (hKeeps : Section.Keeps part apply) {before after : RuleTables}
    (h : behind before apply = .ok after) : part after = part before := by
  rcases behind_ok h with ⟨-, rfl⟩ | hApply
  · rfl
  · exact hKeeps before after hApply

theorem foldlM_keeps {α : Type} (part : RuleTables → α) {steps : List Section}
    (hSteps : ∀ apply ∈ steps, Section.Keeps part apply) {before after : RuleTables}
    (h : steps.foldlM behind before = .ok after) : part after = part before := by
  induction steps generalizing before with
  | nil =>
    cases h
    rfl
  | cons apply rest ih =>
    rw [List.foldlM_cons] at h
    obtain ⟨next, hNext, hRest⟩ := Except.bind_eq_ok h
    have hKept := ih (fun other hOther => hSteps other (List.mem_cons_of_mem _ hOther)) hRest
    rw [hKept, behind_keeps (hSteps apply List.mem_cons_self) hNext]

def Gives (overrides : List (Value × Value)) (key name : String) : Prop :=
  ∃ value, Value.field? overrides key = some value ∧ value.asName? = .ok (some name) ∧ name ≠ ""

theorem nameSection_cases {overrides : List (Value × Value)} {key : String}
    {set : RuleTables → String → RuleTables} {before : RuleTables} {result : Option RuleTables}
    (h : nameSection (Value.field? overrides key) set before = .ok result) :
    (∃ name, Gives overrides key name ∧ result = some (set before name)) ∨
      (∀ name, ¬ Gives overrides key name) ∧ result = none := by
  unfold nameSection at h
  cases hField : Value.field? overrides key with
  | none =>
    rw [hField] at h
    cases h
    refine .inr ⟨fun name hGives => ?_, rfl⟩
    obtain ⟨value, hValue, -⟩ := hGives
    cases hField.symm.trans hValue
  | some value =>
    rw [hField, Option.map_some] at h
    cases hName : value.asName? with
    | error fault =>
      rw [hName] at h
      cases h
    | ok found =>
      rw [hName] at h
      have hOnly : ∀ name, Gives overrides key name → found = some name ∧ name ≠ "" := by
        rintro name ⟨other, hOther, hSame, hNonempty⟩
        cases hField.symm.trans hOther
        cases hName.symm.trans hSame
        exact ⟨rfl, hNonempty⟩
      cases found with
      | none =>
        cases h
        refine .inr ⟨fun name hGives => ?_, rfl⟩
        cases (hOnly name hGives).1
      | some name =>
        by_cases hEmpty : name = ""
        · subst hEmpty
          cases h
          refine .inr ⟨fun name hGives => ?_, rfl⟩
          obtain ⟨hSame, hNonempty⟩ := hOnly name hGives
          cases hSame
          exact hNonempty rfl
        · simp only [String.isEmpty_iff, hEmpty, if_false] at h
          cases h
          exact .inl ⟨name, ⟨value, hField, hName, hEmpty⟩, rfl⟩

theorem override_cdnHost {rules after : RuleTables} {overrides : List (Value × Value)}
    (h : rules.override overrides = .ok after) :
    (∃ name, Gives overrides "cdn_host" name ∧ after.cdnHost = lowercased (trimmed name)) ∨
      (∀ name, ¬ Gives overrides "cdn_host" name) ∧ after.cdnHost = rules.cdnHost := by
  rw [override_eq_foldlM, sections, List.foldlM_cons] at h
  obtain ⟨versioned, hVersion, h⟩ := Except.bind_eq_ok h
  rw [List.foldlM_cons] at h
  obtain ⟨hosted, hHost, h⟩ := Except.bind_eq_ok h
  have hBefore : versioned.cdnHost = rules.cdnHost := by
    refine behind_keeps (fun before next hNext => ?_) hVersion
    obtain ⟨version, -, rfl⟩ := nameSection_some hNext
    rfl
  have hBehind : after.cdnHost = hosted.cdnHost := by
    refine foldlM_keeps (·.cdnHost) (fun apply hApply before next hNext => ?_) h
    simp only [List.mem_cons, List.not_mem_nil, or_false] at hApply
    rcases hApply with rfl | rfl | rfl | rfl | rfl | rfl
    · obtain ⟨sizes, -, rfl⟩ := sizeSection_some hNext
      rfl
    · obtain ⟨sizes, -, rfl⟩ := sizeSection_some hNext
      rfl
    · obtain ⟨sizes, -, rfl⟩ := sizeSection_some hNext
      rfl
    · obtain ⟨libraries, -, rfl⟩ := librarySection_some hNext
      rfl
    · obtain ⟨bound, -, rfl⟩ := boundSection_some hNext
      rfl
    · obtain ⟨bound, -, rfl⟩ := boundSection_some hNext
      rfl
  rw [hBehind]
  rcases behind_ok hHost with ⟨hNone, rfl⟩ | hSome
  · rcases nameSection_cases hNone with ⟨name, -, hResult⟩ | ⟨hGives, -⟩
    · cases hResult
    · exact .inr ⟨hGives, hBefore⟩
  · rcases nameSection_cases hSome with ⟨name, hGives, hResult⟩ | ⟨-, hResult⟩
    · cases hResult
      exact .inl ⟨name, hGives, rfl⟩
    · cases hResult

/-- The overrides give a host that is a text of white space only. -/
def GivesBlankHost (overrides : List (Value × Value)) : Prop :=
  ∃ name, Value.field? overrides "cdn_host" = some (.text name) ∧ name ≠ "" ∧ Blank name.toList

theorem written_number {n : Number} {name : String}
    (h : Value.written (.number n) = .ok name) : name = n.text := by
  cases n with
  | int n =>
    rw [Value.written] at h
    split at h
    · cases h
      rfl
    · cases h
  | real x =>
    cases h
    rfl

/-- Only a text is a blank name: the text of a number never is. -/
theorem givesBlankHost_iff {overrides : List (Value × Value)} :
    GivesBlankHost overrides ↔ ∃ name, Gives overrides "cdn_host" name ∧ Blank name.toList := by
  constructor
  · rintro ⟨name, hField, hNonempty, hBlank⟩
    exact ⟨name, ⟨_, hField, rfl, hNonempty⟩, hBlank⟩
  · rintro ⟨name, ⟨value, hField, hName, hNonempty⟩, hBlank⟩
    cases value with
    | text given =>
      cases hName
      exact ⟨_, hField, hNonempty, hBlank⟩
    | number n =>
      cases hWritten : Value.written (.number n) with
      | error fault => simp [Value.asName?, hWritten, Except.map] at hName
      | ok found =>
        obtain rfl : found = name := by simpa [Value.asName?, hWritten, Except.map] using hName
        rw [written_number hWritten] at hBlank
        exact absurd hBlank (not_blank_number n)
    | null => cases hName
    | bool b => cases hName
    | bytes data => cases hName
    | timestamp t => cases hName
    | list items => cases hName
    | map entries => cases hName

theorem normalised_eq_empty_iff {name : String} :
    lowercased (trimmed name) = "" ↔ Blank name.toList := by
  rw [lowercased, trimmed, String.toList_ofList, ← trim_eq_nil_iff, ← lower_eq_nil_iff]
  exact String.ofList_eq_empty_iff

structure Normalised (host : String) : Prop where
  trimmed : Trimmed host.toList
  lower : lowercased host = host

theorem normalised (name : String) : Normalised (lowercased (trimmed name)) where
  trimmed := by
    rw [lowercased, Text.trimmed, String.toList_ofList, String.toList_ofList]
    exact (trimmed_trim _).lower
  lower := by
    rw [lowercased, lowercased, String.toList_ofList, lower_lower]

theorem standard_cdnHost :
    standard.cdnHost = lowercased (trimmed standard.cdnHost) ∧ standard.cdnHost ≠ "" := by
  decide +kernel

theorem override_normalised {overrides : List (Value × Value)} {after : RuleTables}
    (h : standard.override overrides = .ok after) :
    Normalised after.cdnHost ∧ (after.cdnHost = "" ↔ GivesBlankHost overrides) := by
  rw [givesBlankHost_iff]
  rcases override_cdnHost h with ⟨name, hGives, hHost⟩ | ⟨hNone, hHost⟩
  · rw [hHost]
    refine ⟨normalised name, normalised_eq_empty_iff.trans
      ⟨fun hBlank => ⟨name, hGives, hBlank⟩, ?_⟩⟩
    rintro ⟨other, ⟨value, hField, hName, -⟩, hBlank⟩
    obtain ⟨same, hSame, hSameName, -⟩ := hGives
    cases hField.symm.trans hSame
    cases hName.symm.trans hSameName
    exact hBlank
  · obtain ⟨hStandard, hNonempty⟩ := standard_cdnHost
    rw [hHost]
    refine ⟨hStandard ▸ normalised _, iff_of_false hNonempty ?_⟩
    rintro ⟨name, hGives, -⟩
    exact hNone name hGives

end RuleTables

/-! ## Scripts without a host -/

namespace Gate

def hostlessIssue (rules : RuleTables) (source : List Char) : Issue :=
  .error .invalidExternalScript
    s!"Script '{String.ofList source}' is not served from {rules.cdnHost}"
    [("src", .text (String.ofList source)), ("host", .text "")]

theorem hostlessIssue_mem_iff {context : Context} {document : Markup.Document}
    (hDocument : context.document = some document) {source : List Char}
    (hSource : source ∈ document.scriptSources) (hHostless : Url.hostOfScript source = []) :
    hostlessIssue context.rules source ∈ externalScriptIssues context ↔
      context.rules.cdnHost ≠ "" := by
  have hEmpty : ([] == context.rules.cdnHost.toList) = true ↔ context.rules.cdnHost = "" := by
    rw [beq_iff_eq, eq_comm, String.toList_eq_nil_iff]
  unfold externalScriptIssues
  simp only [hDocument, Option.map_some, Option.getD_some, List.mem_filterMap]
  constructor
  · rintro ⟨other, -, hIssue⟩ hHost
    split at hIssue
    · cases hIssue
    · next hServed =>
      simp only [Option.some.injEq, hostlessIssue, Issue.error, Issue.mk.injEq, List.cons.injEq,
        Prod.mk.injEq, Value.text.injEq, String.ofList_inj] at hIssue
      obtain ⟨-, -, -, ⟨-, rfl⟩, -⟩ := hIssue
      rw [hHostless] at hServed
      exact hServed (hEmpty.mpr hHost)
  · intro hHost
    refine ⟨source, hSource, ?_⟩
    rw [hHostless, if_neg (mt hEmpty.mp hHost)]
    rfl

/-- Every accepted configuration keeps the tables safe and the host normalised. The host is empty
exactly for a blank one, and then a script without a host is not reported any more. -/
theorem override_safe [Platform] {overrides : List (Value × Value)} {after : RuleTables}
    (h : RuleTables.standard.override overrides = .ok after) :
    after.Safe ∧ after.LooksUp ∧ RuleTables.Normalised after.cdnHost ∧
    (after.cdnHost = "" ↔ RuleTables.GivesBlankHost overrides) ∧
    ∀ (context : Context) (document : Markup.Document) (source : List Char),
      context.rules = after → context.document = some document →
      source ∈ document.scriptSources → Url.hostOfScript source = [] →
      ∃ report, (Stage.externalScripts.run context).finish = .ok report ∧
        (hostlessIssue after source ∈ report.issues ↔
          ¬ RuleTables.GivesBlankHost overrides) := by
  have hSafe := RuleTables.override_keeps_safe h
  obtain ⟨hNormalised, hEmpty⟩ := RuleTables.override_normalised h
  refine ⟨hSafe, hSafe.looksUp, hNormalised, hEmpty, ?_⟩
  rintro context document source rfl hDocument hSource hHostless
  refine ⟨.finding context (externalScriptIssues context), rfl, ?_⟩
  rw [← hEmpty]
  exact hostlessIssue_mem_iff hDocument hSource hHostless

def relativeDocument : Markup.Document :=
  ⟨[⟨⟨"script", [("src", "x.js".toList)], false⟩, some []⟩]⟩

def relativeContext (rules : RuleTables) : Context where
  submission := ⟨⟨#[]⟩, .default⟩
  resolved := ⟨.html, "2d", 0, none, []⟩
  rules
  text := none
  document := some relativeDocument
  units := []
  game := none

theorem relativeDocument_hostless :
    "x.js".toList ∈ relativeDocument.scriptSources ∧ Url.hostOfScript "x.js".toList = [] := by
  decide +kernel

def renamedHost : List (Value × Value) := [(.text "cdn_host", .text " CDN.example ")]

section

attribute [local instance] Platform.bare

theorem override_safe_renamed :
    ∃ after, RuleTables.standard.override renamedHost = .ok after ∧ after.Safe ∧
      after.cdnHost = "cdn.example" ∧
      ∃ report, (Stage.externalScripts.run (relativeContext after)).finish = .ok report ∧
        (hostlessIssue after "x.js".toList ∈ report.issues ↔
          ¬ RuleTables.GivesBlankHost renamedHost) := by
  have hAfter : RuleTables.standard.override renamedHost =
      .ok { RuleTables.standard with cdnHost := "cdn.example" } := by rfl
  obtain ⟨hSafe, -, -, -, hReported⟩ := override_safe hAfter
  obtain ⟨hSource, hHostless⟩ := relativeDocument_hostless
  exact ⟨_, hAfter, hSafe, rfl, hReported (relativeContext _) relativeDocument _ rfl rfl hSource
    hHostless⟩

/-- Three blanks are accepted as a host, and the script beside the document passes. -/
theorem blankHost_admits_relative :
    ∃ after, RuleTables.standard.override [(.text "cdn_host", .text "   ")] = .ok after ∧
      after.cdnHost = "" ∧ "x.js".toList ∈ relativeDocument.scriptSources ∧
      Url.hostOfScript "x.js".toList = [] ∧
      (Stage.externalScripts.run (relativeContext after)).finish =
        .ok (.finding (relativeContext after) []) := by
  have hAfter : RuleTables.standard.override [(.text "cdn_host", .text "   ")] =
      .ok { RuleTables.standard with cdnHost := "" } := by rfl
  obtain ⟨hSource, hHostless⟩ := relativeDocument_hostless
  refine ⟨_, hAfter, rfl, hSource, hHostless, ?_⟩
  have hNone : externalScriptIssues (relativeContext
      { RuleTables.standard with cdnHost := "" }) = [] := by
    have hSources : relativeDocument.scriptSources = ["x.js".toList] := by decide +kernel
    unfold externalScriptIssues
    simp only [relativeContext, Option.map_some, Option.getD_some, hSources, List.filterMap_cons,
      List.filterMap_nil, hHostless]
    rfl
  rw [← hNone]
  rfl

end

end Gate

end SubmissionGate
