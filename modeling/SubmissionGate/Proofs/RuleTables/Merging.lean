import SubmissionGate.Proofs.RuleTables.Setting

/-!
# Merging overrides into the rule tables

The tables behind some overrides have each setting merged by itself, and all else as it was: an
entry has what the last one under its name says. So merging the overrides again changes nothing, and
overrides without a common key may come in any order or together.
-/

namespace SubmissionGate

open Text

namespace RuleTables

abbrev Overrides := List (Value × Value)

def sectionOf (overrides : Overrides) (key : String) : List (Value × Value) :=
  Value.asEntries (Value.field? overrides key)

def normaliseHost (host : String) : String := lowercased (trimmed host)

/-- Beside the eight settings that overrides can name, tables are the same. -/
def SameElsewhere (base after : RuleTables) : Prop :=
  after = { base with
    version := after.version
    cdnHost := after.cdnHost
    sizeLimits := after.sizeLimits
    tierBudgets := after.tierBudgets
    assetLimits := after.assetLimits
    libraries := after.libraries
    maxEntries := after.maxEntries
    maxCompressionRatio := after.maxCompressionRatio }

/-- Each setting is merged from what is under its key, and nothing else changes. -/
structure Merged (base : RuleTables) (overrides : Overrides) (after : RuleTables) : Prop where
  version : nameMerge id (Value.field? overrides "version") base.version = .ok after.version
  cdnHost : nameMerge normaliseHost (Value.field? overrides "cdn_host") base.cdnHost =
    .ok after.cdnHost
  sizeLimits : sizeMerge "size_limits" true (Value.field? overrides "size_limits")
    base.sizeLimits = .ok after.sizeLimits
  tierBudgets : sizeMerge "tiers" false (Value.field? overrides "tiers") base.tierBudgets =
    .ok after.tierBudgets
  assetLimits : sizeMerge "asset_limits" true (Value.field? overrides "asset_limits")
    base.assetLimits = .ok after.assetLimits
  libraries : libraryMerge (Value.field? overrides "libraries") base.libraries =
    .ok after.libraries
  maxEntries : boundMerge "max_entries" (Value.field? overrides "bundle") base.maxEntries =
    .ok after.maxEntries
  maxCompressionRatio : boundMerge "max_compression_ratio" (Value.field? overrides "bundle")
    base.maxCompressionRatio = .ok after.maxCompressionRatio
  rest : SameElsewhere base after

/-! ## Sections as settings -/

section Sections

variable {α : Type} {put : RuleTables → α → RuleTables} {get : RuleTables → α}

/-- A section merges one setting and leaves the others. -/
def Section.Sets (apply : Section) (get : RuleTables → α) (put : RuleTables → α → RuleTables)
    (merge : α → Except OverrideFault α) : Prop :=
  ∀ rules, behind rules apply = (merge (get rules)).map (put rules)

theorem nameSection_sets (get : RuleTables → String) (put : RuleTables → String → RuleTables)
    (hSame : ∀ rules, put rules (get rules) = rules) (normalise : String → String)
    (given : Option Value) :
    (nameSection given fun rules name => put rules (normalise name)).Sets get put
      (nameMerge normalise given) := by
  intro rules
  unfold behind nameSection nameMerge
  cases given.map Value.asName? with
  | none => simp [Except.map, hSame]
  | some read =>
    cases read with
    | error fault => rfl
    | ok found =>
      cases found with
      | none => simp [Except.map, hSame]
      | some name =>
        cases hEmpty : name.isEmpty with
        | true => simp [Except.map, hEmpty, hSame]
        | false => simp [Except.map, hEmpty]

theorem sizeSection_sets (get : RuleTables → Table Int)
    (put : RuleTables → Table Int → RuleTables) (hSame : ∀ rules, put rules (get rules) = rules)
    (label : String) (closed : Bool) (given : Option Value) :
    (sizeSection label closed given get put).Sets get put (sizeMerge label closed given) := by
  intro rules
  unfold behind sizeSection sizeMerge
  cases hEntries : Value.asEntries given with
  | nil => simp [putSizes, Except.map, hSame]
  | cons entry rest =>
    simp only [List.isEmpty_cons, Bool.false_eq_true, if_false]
    cases putSizes label closed (get rules) (entry :: rest) with
    | error fault => rfl
    | ok sizes => rfl

theorem librarySection_sets (given : Option Value) :
    (librarySection given).Sets (·.libraries) (fun rules libraries => { rules with libraries })
      (libraryMerge given) := by
  intro rules
  unfold behind librarySection libraryMerge
  cases hEntries : Value.asEntries given with
  | nil => simp [putLibraries, Except.map]
  | cons entry rest =>
    simp only [List.isEmpty_cons, Bool.false_eq_true, if_false]
    cases putLibraries rules.libraries (entry :: rest) with
    | error fault => rfl
    | ok libraries => rfl

theorem boundSection_sets (get : RuleTables → Int) (put : RuleTables → Int → RuleTables)
    (hSame : ∀ rules, put rules (get rules) = rules) (name : String) (given : Option Value) :
    (boundSection ("bundle." ++ name) (Value.field? (Value.asEntries given) name) put).Sets get put
      (boundMerge name given) := by
  intro rules
  unfold behind boundSection boundMerge
  cases Value.field? (Value.asEntries given) name with
  | none => simp [Except.map, hSame]
  | some value =>
    cases hBound : positive ("bundle." ++ name) value with
    | error fault => simp [hBound, Except.map]
    | ok bound => simp [hBound, Except.map]

theorem Section.Sets.bind {apply : Section} {merge : α → Except OverrideFault α} {β : Type}
    (h : apply.Sets get put merge) (rules : RuleTables)
    (next : RuleTables → Except OverrideFault β) :
    behind rules apply >>= next = merge (get rules) >>= fun value => next (put rules value) := by
  rw [h rules]
  cases merge (get rules) with
  | error fault => rfl
  | ok value => rfl

end Sections

/-- Overriding merges the settings one after the other. -/
theorem override_eq (base : RuleTables) (overrides : Overrides) :
    base.override overrides = (do
      let version ← nameMerge id (Value.field? overrides "version") base.version
      let cdnHost ← nameMerge normaliseHost (Value.field? overrides "cdn_host") base.cdnHost
      let sizeLimits ← sizeMerge "size_limits" true (Value.field? overrides "size_limits")
        base.sizeLimits
      let tierBudgets ← sizeMerge "tiers" false (Value.field? overrides "tiers") base.tierBudgets
      let assetLimits ← sizeMerge "asset_limits" true (Value.field? overrides "asset_limits")
        base.assetLimits
      let libraries ← libraryMerge (Value.field? overrides "libraries") base.libraries
      let maxEntries ← boundMerge "max_entries" (Value.field? overrides "bundle") base.maxEntries
      let maxCompressionRatio ← boundMerge "max_compression_ratio"
        (Value.field? overrides "bundle") base.maxCompressionRatio
      return { base with
        version, cdnHost, sizeLimits, tierBudgets, assetLimits, libraries, maxEntries,
        maxCompressionRatio }) := by
  have hVersion := nameSection_sets (·.version) (fun rules version => { rules with version })
    (fun _ => rfl) id (Value.field? overrides "version")
  have hHost := nameSection_sets (·.cdnHost) (fun rules cdnHost => { rules with cdnHost })
    (fun _ => rfl) normaliseHost (Value.field? overrides "cdn_host")
  have hSizes := sizeSection_sets (·.sizeLimits) (fun rules sizeLimits => { rules with sizeLimits })
    (fun _ => rfl) "size_limits" true (Value.field? overrides "size_limits")
  have hTiers := sizeSection_sets (·.tierBudgets)
    (fun rules tierBudgets => { rules with tierBudgets })
    (fun _ => rfl) "tiers" false (Value.field? overrides "tiers")
  have hAssets := sizeSection_sets (·.assetLimits)
    (fun rules assetLimits => { rules with assetLimits })
    (fun _ => rfl) "asset_limits" true (Value.field? overrides "asset_limits")
  have hLibraries := librarySection_sets (Value.field? overrides "libraries")
  have hEntries := boundSection_sets (·.maxEntries)
    (fun rules maxEntries => { rules with maxEntries })
    (fun _ => rfl) "max_entries" (Value.field? overrides "bundle")
  have hRatio := boundSection_sets (·.maxCompressionRatio)
    (fun rules maxCompressionRatio => { rules with maxCompressionRatio })
    (fun _ => rfl) "max_compression_ratio" (Value.field? overrides "bundle")
  rw [override_eq_foldlM, sections]
  simp only [List.foldlM_cons, List.foldlM_nil]
  refine (hVersion.bind _ _).trans (bind_congr fun version => ?_)
  refine (hHost.bind _ _).trans (bind_congr fun cdnHost => ?_)
  refine (hSizes.bind _ _).trans (bind_congr fun sizeLimits => ?_)
  refine (hTiers.bind _ _).trans (bind_congr fun tierBudgets => ?_)
  refine (hAssets.bind _ _).trans (bind_congr fun assetLimits => ?_)
  refine (hLibraries.bind _ _).trans (bind_congr fun libraries => ?_)
  refine (hEntries.bind _ _).trans (bind_congr fun maxEntries => ?_)
  exact hRatio.bind _ _

theorem override_ok_iff {base after : RuleTables} {overrides : Overrides} :
    base.override overrides = .ok after ↔ Merged base overrides after := by
  rw [override_eq]
  constructor
  · intro h
    obtain ⟨version, hVersion, h⟩ := Except.bind_eq_ok h
    obtain ⟨cdnHost, hHost, h⟩ := Except.bind_eq_ok h
    obtain ⟨sizeLimits, hSizes, h⟩ := Except.bind_eq_ok h
    obtain ⟨tierBudgets, hTiers, h⟩ := Except.bind_eq_ok h
    obtain ⟨assetLimits, hAssets, h⟩ := Except.bind_eq_ok h
    obtain ⟨libraries, hLibraries, h⟩ := Except.bind_eq_ok h
    obtain ⟨maxEntries, hEntries, h⟩ := Except.bind_eq_ok h
    obtain ⟨maxCompressionRatio, hRatio, h⟩ := Except.bind_eq_ok h
    cases h
    exact ⟨hVersion, hHost, hSizes, hTiers, hAssets, hLibraries, hEntries, hRatio, rfl⟩
  · intro h
    rw [h.version, h.cdnHost, h.sizeLimits, h.tierBudgets, h.assetLimits, h.libraries,
      h.maxEntries, h.maxCompressionRatio]
    exact congrArg Except.ok (Eq.symm h.rest)

/-! ## What the overrides give -/

def lastUnder (entries : List (Value × Value)) (name : String) : Option Value :=
  (entries.reverse.find? fun entry => entry.1.display == name).map (·.2)

theorem get?_writes {α : Type} {read : Value → Option α} {entries : List (Value × Value)}
    (h : ∀ entry ∈ entries, ∃ written, read entry.2 = some written) (name : String) :
    Table.get? (writes read entries) name =
      ((entries.find? fun entry => entry.1.display == name).map (·.2)).bind read := by
  induction entries with
  | nil => rfl
  | cons entry rest ih =>
    obtain ⟨key, value⟩ := entry
    obtain ⟨written, hWritten⟩ := h _ List.mem_cons_self
    rw [writes_cons hWritten, Table.get?_cons,
      ih fun other hOther => h other (List.mem_cons_of_mem _ hOther)]
    by_cases hKey : key.display = name
    · simp [hKey, hWritten]
    · simp [hKey]

theorem get?_putAll_writes {α : Type} {read : Value → Option α} {entries : List (Value × Value)}
    (h : ∀ entry ∈ entries, ∃ written, read entry.2 = some written) (table : Table α)
    (name : String) :
    (table.putAll (writes read entries)).get? name =
      ((lastUnder entries name).bind read).or (table.get? name) := by
  have hReverse : (writes read entries).reverse = writes read entries.reverse :=
    List.filterMap_reverse.symm
  rw [Table.get?_putAll, hReverse, get?_writes]
  · rfl
  · intro entry hEntry
    exact h entry (List.mem_reverse.mp hEntry)

/-- The named settings and entries have the values of the overrides, all else is as before. -/
structure Overridden (base : RuleTables) (overrides : Overrides) (after : RuleTables) : Prop where
  version : after.version =
    (givenName? (Value.field? overrides "version")).getD base.version
  cdnHost : after.cdnHost =
    ((givenName? (Value.field? overrides "cdn_host")).map normaliseHost).getD base.cdnHost
  sizeLimits : ∀ name, after.sizeLimits.get? name =
    ((lastUnder (sectionOf overrides "size_limits") name).bind Value.asInt?).or
      (base.sizeLimits.get? name)
  tierBudgets : ∀ name, after.tierBudgets.get? name =
    ((lastUnder (sectionOf overrides "tiers") name).bind Value.asInt?).or
      (base.tierBudgets.get? name)
  assetLimits : ∀ name, after.assetLimits.get? name =
    ((lastUnder (sectionOf overrides "asset_limits") name).bind Value.asInt?).or
      (base.assetLimits.get? name)
  libraries : ∀ name, after.libraries.get? name =
    ((lastUnder (sectionOf overrides "libraries") name).bind Value.name?).or
      (base.libraries.get? name)
  maxEntries : after.maxEntries =
    ((Value.field? (sectionOf overrides "bundle") "max_entries").bind Value.asInt?).getD
      base.maxEntries
  maxCompressionRatio : after.maxCompressionRatio =
    ((Value.field? (sectionOf overrides "bundle") "max_compression_ratio").bind Value.asInt?).getD
      base.maxCompressionRatio
  rest : SameElsewhere base after

theorem sizeMerge_get? {label : String} {closed : Bool} {overrides : Overrides}
    {current after : Table Int}
    (h : sizeMerge label closed (Value.field? overrides label) current = .ok after)
    (name : String) :
    after.get? name =
      ((lastUnder (sectionOf overrides label) name).bind Value.asInt?).or (current.get? name) := by
  obtain ⟨hEntries, rfl⟩ := putSizes_ok_iff.mp h
  apply get?_putAll_writes
  intro entry hEntry
  obtain ⟨n, hInt, -⟩ := (hEntries entry hEntry).positive
  exact ⟨n, hInt⟩

theorem libraryMerge_get? {overrides : Overrides} {current after : Table String}
    (h : libraryMerge (Value.field? overrides "libraries") current = .ok after) (name : String) :
    after.get? name =
      ((lastUnder (sectionOf overrides "libraries") name).bind Value.name?).or
        (current.get? name) := by
  obtain ⟨hEntries, rfl⟩ := putLibraries_ok_iff.mp h
  apply get?_putAll_writes
  intro entry hEntry
  obtain ⟨url, hUrl, -⟩ := (hEntries entry hEntry).url
  exact ⟨url, hUrl⟩

theorem Merged.overridden {base after : RuleTables} {overrides : Overrides}
    (h : Merged base overrides after) : Overridden base overrides after where
  version := by
    rw [(nameMerge_ok_iff.mp h.version).2, Option.map_id]
    rfl
  cdnHost := (nameMerge_ok_iff.mp h.cdnHost).2
  sizeLimits := sizeMerge_get? h.sizeLimits
  tierBudgets := sizeMerge_get? h.tierBudgets
  assetLimits := sizeMerge_get? h.assetLimits
  libraries := libraryMerge_get? h.libraries
  maxEntries := (boundMerge_ok_iff.mp h.maxEntries).2
  maxCompressionRatio := (boundMerge_ok_iff.mp h.maxCompressionRatio).2
  rest := h.rest

/-! ## Merging again, and in any order -/

theorem Merged.again {base after : RuleTables} {overrides : Overrides}
    (h : Merged base overrides after) : Merged after overrides after where
  version := (nameMerge_lawful _).again h.version
  cdnHost := (nameMerge_lawful _).again h.cdnHost
  sizeLimits := (sizeMerge_lawful _ _).again h.sizeLimits
  tierBudgets := (sizeMerge_lawful _ _).again h.tierBudgets
  assetLimits := (sizeMerge_lawful _ _).again h.assetLimits
  libraries := libraryMerge_lawful.again h.libraries
  maxEntries := (boundMerge_lawful _).again h.maxEntries
  maxCompressionRatio := (boundMerge_lawful _).again h.maxCompressionRatio
  rest := rfl

/-- No key of the one is a key of the other. -/
def Apart (first second : Overrides) : Prop :=
  ∀ entry ∈ first, ∀ other ∈ second, entry.1.sameKey other.1 = false

theorem sameKey_text_iff {key : Value} {name : String} :
    key.sameKey (.text name) = true ↔ key = .text name := by
  cases key with
  | text s => simp [Value.sameKey, Value.asNumber?]
  | _ => simp [Value.sameKey, Value.asNumber?]

theorem mem_of_field? {overrides : Overrides} {name : String} {value : Value}
    (h : Value.field? overrides name = some value) : (.text name, value) ∈ overrides := by
  obtain ⟨⟨key, found⟩, hFind, rfl⟩ := Option.map_eq_some_iff.mp h
  have hSame : key.sameKey (.text name) = true := by simpa using List.find?_some hFind
  obtain rfl := sameKey_text_iff.mp hSame
  exact List.mem_of_find?_eq_some hFind

theorem Apart.field? {first second : Overrides} (h : Apart first second) (name : String) :
    Value.field? first name = none ∨ Value.field? second name = none := by
  cases hFirst : Value.field? first name with
  | none => exact .inl rfl
  | some value =>
    cases hSecond : Value.field? second name with
    | none => exact .inr rfl
    | some other =>
      have hDiffer := h _ (mem_of_field? hFirst) _ (mem_of_field? hSecond)
      rw [sameKey_text_iff.mpr rfl] at hDiffer
      cases hDiffer

theorem field?_append (first second : Overrides) (name : String) :
    Value.field? (first ++ second) name =
      (Value.field? first name).or (Value.field? second name) := by
  rw [Value.field?, List.find?_append, Option.map_or]
  rfl

theorem merged_append_iff {base after : RuleTables} {first second : Overrides}
    (h : ∀ name, Value.field? first name = none ∨ Value.field? second name = none) :
    Merged base (first ++ second) after ↔
      ∃ between, Merged base first between ∧ Merged between second after := by
  constructor
  · intro hMerged
    have hVersion := hMerged.version
    have hHost := hMerged.cdnHost
    have hSizes := hMerged.sizeLimits
    have hTiers := hMerged.tierBudgets
    have hAssets := hMerged.assetLimits
    have hLibraries := hMerged.libraries
    have hEntries := hMerged.maxEntries
    have hRatio := hMerged.maxCompressionRatio
    rw [field?_append] at hVersion hHost hSizes hTiers hAssets hLibraries hEntries hRatio
    obtain ⟨version, hVersion, hVersion'⟩ := ((nameMerge_lawful _).or_iff (h _)).mp hVersion
    obtain ⟨cdnHost, hHost, hHost'⟩ := ((nameMerge_lawful _).or_iff (h _)).mp hHost
    obtain ⟨sizeLimits, hSizes, hSizes'⟩ := ((sizeMerge_lawful _ _).or_iff (h _)).mp hSizes
    obtain ⟨tierBudgets, hTiers, hTiers'⟩ := ((sizeMerge_lawful _ _).or_iff (h _)).mp hTiers
    obtain ⟨assetLimits, hAssets, hAssets'⟩ := ((sizeMerge_lawful _ _).or_iff (h _)).mp hAssets
    obtain ⟨libraries, hLibraries, hLibraries'⟩ := (libraryMerge_lawful.or_iff (h _)).mp hLibraries
    obtain ⟨maxEntries, hEntries, hEntries'⟩ := ((boundMerge_lawful _).or_iff (h _)).mp hEntries
    obtain ⟨maxCompressionRatio, hRatio, hRatio'⟩ :=
      ((boundMerge_lawful _).or_iff (h _)).mp hRatio
    refine ⟨{ base with
      version, cdnHost, sizeLimits, tierBudgets, assetLimits, libraries, maxEntries,
      maxCompressionRatio }, ?_, ?_⟩
    · exact ⟨hVersion, hHost, hSizes, hTiers, hAssets, hLibraries, hEntries, hRatio, rfl⟩
    · exact ⟨hVersion', hHost', hSizes', hTiers', hAssets', hLibraries', hEntries', hRatio',
        hMerged.rest⟩
  · rintro ⟨between, hFirst, hSecond⟩
    constructor
    · rw [field?_append]
      exact ((nameMerge_lawful _).or_iff (h _)).mpr ⟨_, hFirst.version, hSecond.version⟩
    · rw [field?_append]
      exact ((nameMerge_lawful _).or_iff (h _)).mpr ⟨_, hFirst.cdnHost, hSecond.cdnHost⟩
    · rw [field?_append]
      exact ((sizeMerge_lawful _ _).or_iff (h _)).mpr ⟨_, hFirst.sizeLimits, hSecond.sizeLimits⟩
    · rw [field?_append]
      exact ((sizeMerge_lawful _ _).or_iff (h _)).mpr
        ⟨_, hFirst.tierBudgets, hSecond.tierBudgets⟩
    · rw [field?_append]
      exact ((sizeMerge_lawful _ _).or_iff (h _)).mpr
        ⟨_, hFirst.assetLimits, hSecond.assetLimits⟩
    · rw [field?_append]
      exact (libraryMerge_lawful.or_iff (h _)).mpr ⟨_, hFirst.libraries, hSecond.libraries⟩
    · rw [field?_append]
      exact ((boundMerge_lawful _).or_iff (h _)).mpr ⟨_, hFirst.maxEntries, hSecond.maxEntries⟩
    · rw [field?_append]
      exact ((boundMerge_lawful _).or_iff (h _)).mpr
        ⟨_, hFirst.maxCompressionRatio, hSecond.maxCompressionRatio⟩
    · have hRest := hSecond.rest
      rw [SameElsewhere, hFirst.rest] at hRest
      exact hRest

/-- Overriding in one go is overriding with one part of the overrides after the other. -/
theorem override_append_iff {base after : RuleTables} {first second : Overrides}
    (h : ∀ name, Value.field? first name = none ∨ Value.field? second name = none) :
    base.override (first ++ second) = .ok after ↔
      (base.override first >>= (·.override second)) = .ok after := by
  rw [override_ok_iff, merged_append_iff h]
  constructor
  · rintro ⟨between, hFirst, hSecond⟩
    rw [override_ok_iff.mpr hFirst]
    exact override_ok_iff.mpr hSecond
  · intro hBind
    obtain ⟨between, hFirst, hSecond⟩ := Except.bind_eq_ok hBind
    exact ⟨between, override_ok_iff.mp hFirst, override_ok_iff.mp hSecond⟩

theorem override_append_comm {base : RuleTables} {first second : Overrides}
    (h : ∀ name, Value.field? first name = none ∨ Value.field? second name = none) :
    base.override (first ++ second) = base.override (second ++ first) := by
  have hField : ∀ name,
      Value.field? (first ++ second) name = Value.field? (second ++ first) name := by
    intro name
    rw [field?_append, field?_append]
    obtain hNone | hNone := h name
    · rw [hNone, Option.none_or, Option.or_none]
    · rw [hNone, Option.none_or, Option.or_none]
  simp only [override_eq, hField]

end RuleTables

end SubmissionGate
