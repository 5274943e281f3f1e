import Mathlib.Algebra.Group.Nat.Defs
import SubmissionGate.Proofs.Except
import SubmissionGate.Proofs.RuleTables.Merging

/-!
# Overrides that are refused

A fault of some overrides is one of a single entry. Apart from such entries, an integer of more
digits than can be written breaks the merging wherever its text is asked for.
-/

namespace SubmissionGate

namespace RuleTables

/-! ## Faults -/

/-- The sections that take in no new key, with the sizes that they are merged into. -/
def closedSections (base : RuleTables) : List (String × Table Int) :=
  [("size_limits", base.sizeLimits), ("asset_limits", base.assetLimits)]

/-- The faults that single entries of the overrides are refused with. -/
inductive Refused (base : RuleTables) (overrides : Overrides) : OverrideFault → Prop
  | unknown {label : String} {current : Table Int} {key value : Value} :
      (label, current) ∈ closedSections base → (key, value) ∈ sectionOf overrides label →
      current.has key.display = false →
      Refused base overrides (.unknownKey key.display label current.sortedKeys)
  | size {label : String} {key value : Value} :
      label ∈ ["size_limits", "tiers", "asset_limits"] →
      (key, value) ∈ sectionOf overrides label → ¬value.Positive →
      Refused base overrides (.notPositive (label ++ "." ++ key.display))
  | library {key value : Value} :
      (key, value) ∈ sectionOf overrides "libraries" →
      (∀ name, value.name? = some name → name = "") →
      Refused base overrides (.notUrl key.display)
  | bound {name : String} {value : Value} :
      name ∈ ["max_entries", "max_compression_ratio"] →
      Value.field? (sectionOf overrides "bundle") name = some value → ¬value.Positive →
      Refused base overrides (.notPositive ("bundle." ++ name))

/-- The text of an integer is asked for that has more digits than can be written. -/
inductive AsksForTooLong (overrides : Overrides) : Prop
  | name {key : String} {value : Value} :
      key ∈ ["version", "cdn_host"] → Value.field? overrides key = some value → value.TooLong →
      AsksForTooLong overrides
  | key {label : String} {key value : Value} :
      label ∈ ["size_limits", "tiers", "asset_limits", "libraries"] →
      (key, value) ∈ sectionOf overrides label → key.TooLong → AsksForTooLong overrides
  | library {key value : Value} :
      (key, value) ∈ sectionOf overrides "libraries" → value.TooLong → AsksForTooLong overrides

section Faults

variable {base after : RuleTables} {overrides : Overrides} {fault : OverrideFault}

/-- What a fault of the overrides is about. -/
def Blamed (base : RuleTables) (overrides : Overrides) (fault : OverrideFault) : Prop :=
  Refused base overrides fault ∨ fault = .unwritable ∧ AsksForTooLong overrides

theorem nameMerge_blamed {normalise : String → String} {key current : String}
    (hKey : key ∈ ["version", "cdn_host"])
    (h : nameMerge normalise (Value.field? overrides key) current = .error fault) :
    Blamed base overrides fault := by
  obtain ⟨⟨value, hValue, hLong⟩, rfl⟩ := nameMerge_error h
  exact .inr ⟨rfl, .name hKey hValue hLong⟩

theorem sizeMerge_blamed {label : String} {closed : Bool} {current : Table Int}
    (hLabel : label ∈ ["size_limits", "tiers", "asset_limits"])
    (hClosed : closed = true → (label, current) ∈ closedSections base)
    (h : sizeMerge label closed (Value.field? overrides label) current = .error fault) :
    Blamed base overrides fault := by
  obtain ⟨⟨key, value⟩, hEntry, hFault⟩ := putSizes_error h
  obtain ⟨hLong, rfl⟩ | ⟨hTrue, hAbsent, rfl⟩ | ⟨hNegative, rfl⟩ := hFault
  · have hSection : label ∈ ["size_limits", "tiers", "asset_limits", "libraries"] :=
      List.mem_append_left ["libraries"] hLabel
    exact .inr ⟨rfl, .key hSection hEntry hLong⟩
  · exact .inl (.unknown (hClosed hTrue) hEntry hAbsent)
  · exact .inl (.size hLabel hEntry hNegative)

theorem libraryMerge_blamed {current : Table String}
    (h : libraryMerge (Value.field? overrides "libraries") current = .error fault) :
    Blamed base overrides fault := by
  obtain ⟨⟨key, value⟩, hEntry, hFault⟩ := putLibraries_error h
  obtain ⟨hKey | hValue, rfl⟩ | ⟨hBlank, rfl⟩ := hFault
  · exact .inr ⟨rfl, .key (by simp) hEntry hKey⟩
  · exact .inr ⟨rfl, .library hEntry hValue⟩
  · exact .inl (.library hEntry hBlank)

theorem boundMerge_blamed {name : String} {current : Int}
    (hName : name ∈ ["max_entries", "max_compression_ratio"])
    (h : boundMerge name (Value.field? overrides "bundle") current = .error fault) :
    Blamed base overrides fault := by
  obtain ⟨value, hValue, hNegative, rfl⟩ := boundMerge_error h
  exact .inl (.bound hName hValue hNegative)

theorem override_blamed (h : base.override overrides = .error fault) :
    Blamed base overrides fault := by
  rw [override_eq] at h
  obtain hVersion | ⟨_, -, h⟩ := Except.bind_eq_error h
  · exact nameMerge_blamed (by simp) hVersion
  obtain hHost | ⟨_, -, h⟩ := Except.bind_eq_error h
  · exact nameMerge_blamed (by simp) hHost
  obtain hSizes | ⟨_, -, h⟩ := Except.bind_eq_error h
  · exact sizeMerge_blamed (by simp) (by simp [closedSections]) hSizes
  obtain hTiers | ⟨_, -, h⟩ := Except.bind_eq_error h
  · exact sizeMerge_blamed (by simp) (by simp) hTiers
  obtain hAssets | ⟨_, -, h⟩ := Except.bind_eq_error h
  · exact sizeMerge_blamed (by simp) (by simp [closedSections]) hAssets
  obtain hLibraries | ⟨_, -, h⟩ := Except.bind_eq_error h
  · exact libraryMerge_blamed hLibraries
  obtain hEntries | ⟨_, -, h⟩ := Except.bind_eq_error h
  · exact boundMerge_blamed (by simp) hEntries
  obtain hRatio | ⟨_, -, h⟩ := Except.bind_eq_error h
  · exact boundMerge_blamed (by simp) hRatio
  · cases h

theorem Merged.size_entry (h : Merged base overrides after) {label : String} {key value : Value}
    (hLabel : label ∈ ["size_limits", "tiers", "asset_limits"])
    (hEntry : (key, value) ∈ sectionOf overrides label) :
    ∃ closed current, SizeEntry closed current (key, value) ∧
      ∀ table, (label, table) ∈ closedSections base → closed = true ∧ current = table := by
  simp only [List.mem_cons, List.not_mem_nil, or_false] at hLabel
  obtain rfl | rfl | rfl := hLabel
  · refine ⟨_, _, (putSizes_ok_iff.mp h.sizeLimits).1 _ hEntry, ?_⟩
    simp [closedSections]
  · refine ⟨_, _, (putSizes_ok_iff.mp h.tierBudgets).1 _ hEntry, ?_⟩
    simp [closedSections]
  · refine ⟨_, _, (putSizes_ok_iff.mp h.assetLimits).1 _ hEntry, ?_⟩
    simp [closedSections]

theorem Merged.not_refused (h : Merged base overrides after) : ¬Refused base overrides fault := by
  intro hRefused
  cases hRefused with
  | @unknown label current key value hClosed hEntry hAbsent =>
    have hLabel : label ∈ ["size_limits", "tiers", "asset_limits"] := by
      simp only [closedSections, List.mem_cons, Prod.mk.injEq, List.not_mem_nil,
        or_false] at hClosed
      obtain ⟨rfl, -⟩ | ⟨rfl, -⟩ := hClosed
      · simp
      · simp
    obtain ⟨closed, table, hTaken, hSame⟩ := h.size_entry hLabel hEntry
    obtain ⟨hTrue, rfl⟩ := hSame _ hClosed
    have hKnown := hTaken.known hTrue
    rw [hAbsent] at hKnown
    cases hKnown
  | size hLabel hEntry hNegative =>
    obtain ⟨_, _, hTaken, -⟩ := h.size_entry hLabel hEntry
    exact hNegative hTaken.positive
  | library hEntry hBlank =>
    obtain ⟨name, hName, hNonempty⟩ := ((putLibraries_ok_iff.mp h.libraries).1 _ hEntry).url
    exact hNonempty (hBlank name hName)
  | bound hName hValue hNegative =>
    simp only [List.mem_cons, List.not_mem_nil, or_false] at hName
    obtain rfl | rfl := hName
    · exact hNegative ((boundMerge_ok_iff.mp h.maxEntries).1 _ hValue)
    · exact hNegative ((boundMerge_ok_iff.mp h.maxCompressionRatio).1 _ hValue)

theorem Merged.not_asksForTooLong (h : Merged base overrides after) :
    ¬AsksForTooLong overrides := by
  rintro (⟨hKey, hValue, hLong⟩ | ⟨hLabel, hEntry, hLong⟩ | ⟨hEntry, hLong⟩)
  · simp only [List.mem_cons, List.not_mem_nil, or_false] at hKey
    obtain rfl | rfl := hKey
    · exact (nameMerge_ok_iff.mp h.version).1 _ hValue hLong
    · exact (nameMerge_ok_iff.mp h.cdnHost).1 _ hValue hLong
  · obtain hSizes | hLibraries := List.mem_append.mp
      (show _ ∈ ["size_limits", "tiers", "asset_limits"] ++ ["libraries"] from hLabel)
    · obtain ⟨_, _, hTaken, -⟩ := h.size_entry hSizes hEntry
      exact hTaken.short hLong
    · obtain rfl := List.mem_singleton.mp hLibraries
      exact ((putLibraries_ok_iff.mp h.libraries).1 _ hEntry).shortKey hLong
  · exact ((putLibraries_ok_iff.mp h.libraries).1 _ hEntry).short hLong

theorem override_error_iff : (∃ fault, base.override overrides = .error fault) ↔
    (∃ fault, Refused base overrides fault) ∨ AsksForTooLong overrides := by
  constructor
  · rintro ⟨fault, h⟩
    obtain hRefused | ⟨-, hLong⟩ := override_blamed h
    · exact .inl ⟨fault, hRefused⟩
    · exact .inr hLong
  · intro h
    cases hOverride : base.override overrides with
    | error fault => exact ⟨fault, rfl⟩
    | ok after =>
      have hMerged := override_ok_iff.mp hOverride
      obtain ⟨fault, hRefused⟩ | hLong := h
      · exact absurd hRefused hMerged.not_refused
      · exact absurd hLong hMerged.not_asksForTooLong

end Faults

/-! ## Nothing effective -/

/-- There is something in the overrides that counts: a name, a section of entries or a bound. -/
inductive Effective (overrides : Overrides) : Prop
  | name {key name : String} :
      key ∈ ["version", "cdn_host"] → givenName? (Value.field? overrides key) = some name →
      Effective overrides
  | entry {label : String} {entry : Value × Value} :
      label ∈ ["size_limits", "tiers", "asset_limits", "libraries"] →
      entry ∈ sectionOf overrides label → Effective overrides
  | bound {name : String} {value : Value} :
      name ∈ ["max_entries", "max_compression_ratio"] →
      Value.field? (sectionOf overrides "bundle") name = some value → Effective overrides

theorem applySections_none_iff {base : RuleTables} {changed : Bool} {steps : List Section} :
    applySections base changed steps = .ok none ↔
      changed = false ∧ ∀ apply ∈ steps, apply base = .ok none := by
  induction steps generalizing base changed with
  | nil =>
    cases changed with
    | true => simp [applySections]
    | false => simp [applySections]
  | cons apply rest ih =>
    rw [applySections, List.forall_mem_cons]
    cases hApply : apply base with
    | error fault => simp
    | ok result =>
      cases result with
      | none => simpa using ih
      | some next => simpa using fun h => absurd (ih.mp h).1 (by simp)

theorem nameSection_none_iff {given : Option Value} {put : RuleTables → String → RuleTables}
    {base : RuleTables} : nameSection given put base = .ok none ↔ givenName? given = none := by
  unfold nameSection
  cases given with
  | none => simp [givenName?]
  | some value =>
    cases hName : value.asName? with
    | error fault =>
      obtain ⟨hLong, -⟩ := Value.asName?_error_iff.mp hName
      obtain ⟨name, hFound, hNonempty⟩ := Value.name?_of_tooLong hLong
      simp [hName, givenName?, hFound, Option.filter, hNonempty]
    | ok found =>
      obtain ⟨-, rfl⟩ := Value.asName?_ok_iff.mp hName
      cases hFound : value.name? with
      | none => simp [hName, hFound, givenName?]
      | some name =>
        by_cases hEmpty : name = ""
        · simp [hName, hFound, givenName?, Option.filter, hEmpty]
        · simp [hName, hFound, givenName?, Option.filter, hEmpty]

theorem sizeSection_none_iff {label : String} {closed : Bool} {given : Option Value}
    {get : RuleTables → Table Int} {put : RuleTables → Table Int → RuleTables}
    {base : RuleTables} :
    sizeSection label closed given get put base = .ok none ↔ Value.asEntries given = [] := by
  unfold sizeSection
  cases Value.asEntries given with
  | nil => simp
  | cons entry rest =>
    simp only [List.isEmpty_cons, Bool.false_eq_true, if_false]
    cases putSizes label closed (get base) (entry :: rest) with
    | error fault => simp [Except.map]
    | ok sizes => simp [Except.map]

theorem librarySection_none_iff {given : Option Value} {base : RuleTables} :
    librarySection given base = .ok none ↔ Value.asEntries given = [] := by
  unfold librarySection
  cases Value.asEntries given with
  | nil => simp
  | cons entry rest =>
    simp only [List.isEmpty_cons, Bool.false_eq_true, if_false]
    cases putLibraries base.libraries (entry :: rest) with
    | error fault => simp [Except.map]
    | ok libraries => simp [Except.map]

theorem boundSection_none_iff {label : String} {given : Option Value}
    {put : RuleTables → Int → RuleTables} {base : RuleTables} :
    boundSection label given put base = .ok none ↔ given = none := by
  unfold boundSection
  cases given with
  | none => simp
  | some value =>
    cases hBound : positive label value with
    | error fault => simp [hBound, Except.map]
    | ok bound => simp [hBound, Except.map]

theorem not_effective_iff {overrides : Overrides} :
    ¬Effective overrides ↔
      (∀ key ∈ ["version", "cdn_host"], givenName? (Value.field? overrides key) = none) ∧
      (∀ label ∈ ["size_limits", "tiers", "asset_limits", "libraries"],
        sectionOf overrides label = []) ∧
      ∀ name ∈ ["max_entries", "max_compression_ratio"],
        Value.field? (sectionOf overrides "bundle") name = none := by
  constructor
  · intro h
    refine ⟨fun key hKey => ?_, fun label hLabel => ?_, fun name hName => ?_⟩
    · exact Option.eq_none_iff_forall_ne_some.mpr fun name hGiven => h (.name hKey hGiven)
    · exact List.eq_nil_iff_forall_not_mem.mpr fun entry hEntry => h (.entry hLabel hEntry)
    · exact Option.eq_none_iff_forall_ne_some.mpr fun value hValue => h (.bound hName hValue)
  · rintro ⟨hNames, hSections, hBounds⟩ (⟨hKey, hGiven⟩ | ⟨hLabel, hEntry⟩ | ⟨hName, hValue⟩)
    · rw [hNames _ hKey] at hGiven
      cases hGiven
    · rw [hSections _ hLabel] at hEntry
      cases hEntry
    · rw [hBounds _ hName] at hValue
      cases hValue

/-- The tables themselves come back where nothing effective is given, and only there. -/
theorem override?_none_iff {base : RuleTables} {overrides : Overrides} :
    base.override? overrides = .ok none ↔ ¬Effective overrides := by
  rw [override?, applySections_none_iff, not_effective_iff, sections]
  simp only [List.forall_mem_cons, nameSection_none_iff, sizeSection_none_iff,
    librarySection_none_iff, boundSection_none_iff, sectionOf]
  simp [and_assoc]

/-- Overriding is local, idempotent and free of order. -/
theorem override_merges (base : RuleTables) (overrides : Overrides) :
    ((∃ fault, base.override overrides = .error fault) ↔
      (∃ fault, Refused base overrides fault) ∨ AsksForTooLong overrides) ∧
    (∀ fault, base.override overrides = .error fault → Blamed base overrides fault) ∧
    (∀ after, base.override overrides = .ok after →
      Overridden base overrides after ∧ after.override overrides = .ok after) ∧
    (base.override? overrides = .ok none ↔ ¬Effective overrides) ∧
    ∀ others, Apart overrides others → ∀ after,
      (base.override (overrides ++ others) = .ok after ↔
        (base.override overrides >>= (·.override others)) = .ok after) ∧
      (base.override (overrides ++ others) = .ok after ↔
        (base.override others >>= (·.override overrides)) = .ok after) := by
  refine ⟨override_error_iff, fun fault => override_blamed, fun after h => ?_, override?_none_iff,
    fun others hApart after => ⟨override_append_iff hApart.field?, ?_⟩⟩
  · have hMerged := override_ok_iff.mp h
    exact ⟨hMerged.overridden, override_ok_iff.mpr hMerged.again⟩
  · rw [override_append_comm hApart.field?]
    exact override_append_iff fun name => (hApart.field? name).symm

def longLibrary : Overrides :=
  [(.text "libraries", .map [(.text "a", .int (Int.ofNat (10 ^ Numeral.digitLimit)))])]

theorem longLibrary_tooLong : (Value.int (Int.ofNat (10 ^ Numeral.digitLimit))).TooLong := by
  have hLong : ∀ limit : Nat, ¬(Int.ofNat (10 ^ limit)).natAbs < Nat.pow 10 limit :=
    fun limit => Nat.lt_irrefl _
  exact ⟨_, rfl, decide_eq_false (hLong Numeral.digitLimit)⟩

/-- No entry is refused and still there is no result. -/
theorem longLibrary_breaks :
    standard.override longLibrary = .error .unwritable ∧
      ¬∃ fault, Refused standard longLibrary fault := by
  have hNone : ¬∃ fault, Refused standard longLibrary fault := by
    rintro ⟨fault, hRefused⟩
    cases hRefused with
    | unknown hClosed hEntry _ =>
      simp only [closedSections, List.mem_cons, Prod.mk.injEq, List.not_mem_nil,
        or_false] at hClosed
      obtain ⟨rfl, -⟩ | ⟨rfl, -⟩ := hClosed
      · cases hEntry
      · cases hEntry
    | size hLabel hEntry _ =>
      simp only [List.mem_cons, List.not_mem_nil, or_false] at hLabel
      obtain rfl | rfl | rfl := hLabel
      · cases hEntry
      · cases hEntry
      · cases hEntry
    | library hEntry hBlank =>
      obtain ⟨-, rfl⟩ := Prod.mk.inj (List.mem_singleton.mp hEntry)
      obtain ⟨name, hName, hNonempty⟩ := Value.name?_of_tooLong longLibrary_tooLong
      exact hNonempty (hBlank name hName)
    | bound hName hValue _ =>
      cases hValue
  refine ⟨?_, hNone⟩
  have hAsks : AsksForTooLong longLibrary := .library List.mem_cons_self longLibrary_tooLong
  obtain ⟨fault, hFault⟩ := override_error_iff.mpr (.inr hAsks)
  obtain hRefused | ⟨rfl, -⟩ := override_blamed hFault
  · exact absurd ⟨fault, hRefused⟩ hNone
  · exact hFault

end RuleTables

end SubmissionGate
