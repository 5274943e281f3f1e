import SubmissionGate.Proofs.Bundle.Taking

/-!
# Reading a bundle

What the reading of a bundle comes to, traced back to its directory and to the walk over its files.
The limits that the walk looks up are there under every configuration, so a reading breaks down for
three reasons only: an entry of an unknown version, an entry without a name, and an entry that is
read out of reach.
-/

namespace SubmissionGate

/-- Every limit that a bundle can be measured by is there. -/
structure RuleTables.Measures (rules : RuleTables) : Prop where
  script : rules.sizeLimits.has "script" = true
  manifest : rules.assetLimits.has Bundle.jsonCategory = true
  sheet : rules.assetLimits.has Bundle.sheetCategory = true
  asset : ∀ extension category, rules.assetExtensions.get? extension = some category →
    rules.assetLimits.has category = true

theorem RuleTables.standard_measures : RuleTables.standard.Measures where
  script := by decide
  manifest := by decide
  sheet := by decide
  asset := by
    intro extension category h
    have hAll : ∀ entry ∈ RuleTables.standard.assetExtensions,
        RuleTables.standard.assetLimits.has entry.2 = true := by decide
    exact hAll _ (Table.mem_of_get? h)

theorem RuleTables.measures_of_override {rules : RuleTables}
    {overrides : List (Value × Value)}
    (hRules : RuleTables.standard.override overrides = .ok rules) : rules.Measures := by
  refine override_keeps (P := RuleTables.Measures) hRules standard_measures ?_
  intro apply hSection before next hNext hBefore
  obtain ⟨hScript, hManifest, hSheet, hAsset⟩ := hBefore
  rcases section_cases hSection hNext with ⟨_, rfl⟩ | ⟨_, rfl⟩ | ⟨sizes, entries, hSizes, rfl⟩ |
    ⟨_, _, _, rfl⟩ | ⟨limits, entries, hLimits, rfl⟩ | ⟨_, rfl⟩ | ⟨_, _, rfl⟩ | ⟨_, _, rfl⟩
  case inr.inr.inl =>
    exact ⟨(putSizes_has hSizes _).1 hScript, hManifest, hSheet, hAsset⟩
  case inr.inr.inr.inr.inl =>
    have hKept := fun key => (putSizes_has hLimits key).1
    exact ⟨hScript, hKept _ hManifest, hKept _ hSheet,
      fun extension category h => hKept _ (hAsset extension category h)⟩
  all_goals exact ⟨hScript, hManifest, hSheet, hAsset⟩

namespace Bundle

open Archive

/-- The files of an archive, once its directory and their number are no reason to stop. -/
structure Lists (rules : RuleTables) (payload : ByteArray) (files : List Entry) : Prop where
  listed : ∃ entries, Directory.read payload = .ok entries ∧
    (∀ entry ∈ entries, entry.name ≠ "") ∧ files = entries.filter fun entry => !isDirectory entry
  few : (files.length : Int) ≤ rules.maxEntries

def firstFiles (files : List Entry) : List Entry := (distinct files).1

def readingOrder (rules : RuleTables) (files : List Entry) : List Entry :=
  leadingFirst rules (firstFiles files)

def rolesOf (rules : RuleTables) (files : List Entry) : Table Role :=
  (firstFiles files).map fun entry => (entry.name, roleOf rules entry.name)

def assetPaths (rules : RuleTables) (files : List Entry) : List String :=
  ((rolesOf rules files).filter fun role => role.2 == .asset).map (·.1)

def readingOf (rules : RuleTables) (payload : ByteArray) (budget : Int) (files : List Entry) :
    Reading :=
  ⟨rules, payload, budget, categories rules (assetPaths rules files)⟩

def blankOf (rules : RuleTables) (files : List Entry) : Inventory :=
  .blank (rolesOf rules files) (distinct files).2

def Inventories [Platform] (rules : RuleTables) (payload : ByteArray) (budget : Int)
    (files : List Entry) (inventory : Inventory) : Prop :=
  (readingOf rules payload budget files).Takes (blankOf rules files) (readingOrder rules files)
    inventory

theorem inventoryOf_eq [Platform] (rules : RuleTables) (payload : ByteArray) (budget : Int)
    (files : List Entry) :
    inventoryOf rules payload budget files =
      (readingOf rules payload budget files).takeAll (blankOf rules files)
        (readingOrder rules files) := rfl

theorem readingOf_provided {rules : RuleTables} (hMeasures : rules.Measures)
    (payload : ByteArray) (budget : Int) (files : List Entry) :
    (readingOf rules payload budget files).Provided where
  script := hMeasures.script
  manifest := hMeasures.manifest
  asset := by
    intro path category h
    simp only [Reading.category?, readingOf] at h
    rw [categories_get?] at h
    split at h
    · rcases settled_eq_some h with rfl | hCategory
      · exact hMeasures.sheet
      · exact hMeasures.asset _ _ hCategory
    · cases h

theorem none_unnamed {entries : List Entry} (hNamed : ∀ entry ∈ entries, entry.name ≠ "") :
    (entries.any fun entry => entry.name.isEmpty) = false := by
  rw [List.any_eq_false]
  intro entry hEntry
  simpa using hNamed entry hEntry

variable [Platform]

theorem finish_read_of_listed {rules : RuleTables} {payload : ByteArray} {budget : Int}
    {entries : List Entry} (hRead : Directory.read payload = .ok entries)
    (hNamed : ∀ entry ∈ entries, entry.name ≠ "") :
    (read rules payload budget).finish =
      let files := entries.filter fun entry => !isDirectory entry
      if rules.maxEntries < files.length then
        .ok (.error (.tooManyEntries files.length rules.maxEntries))
      else ((readingOf rules payload budget files).takeAll (blankOf rules files)
        (readingOrder rules files)).finish := by
  unfold read
  rw [hRead]
  simp only [none_unnamed hNamed, Bool.false_eq_true, if_false, inventoryOf_eq]
  split <;> rfl

theorem finish_read_of_unlisted {rules : RuleTables} {payload : ByteArray} {budget : Int}
    {fault : DirectoryFault} (hRead : Directory.read payload = .error fault) :
    (∃ needed, fault = .version needed ∧
      (read rules payload budget).finish = .error (.unknownVersion needed)) ∨
    ∃ message, (read rules payload budget).finish = .ok (.error (.unreadable message)) := by
  unfold read
  rw [hRead]
  cases fault with
  | version needed => exact .inl ⟨needed, rfl, rfl⟩
  | _ => exact .inr ⟨_, rfl⟩

theorem finish_read_of_unnamed {rules : RuleTables} {payload : ByteArray} {budget : Int}
    {entries : List Entry} {entry : Entry} (hRead : Directory.read payload = .ok entries)
    (hEntry : entry ∈ entries) (hName : entry.name = "") :
    (read rules payload budget).finish = .error .unnamedEntry := by
  have hSome : (entries.any fun entry => entry.name.isEmpty) = true :=
    List.any_eq_true.mpr ⟨entry, hEntry, by simp [hName]⟩
  unfold read
  simp [hRead, hSome]

/-- Once the files are known, a reading is the walk over them. -/
theorem finish_read_of_lists {rules : RuleTables} {payload : ByteArray} {budget : Int}
    {files : List Entry} (hLists : Lists rules payload files) :
    (read rules payload budget).finish = (inventoryOf rules payload budget files).finish := by
  obtain ⟨⟨entries, hRead, hNamed, rfl⟩, hFew⟩ := hLists
  rw [finish_read_of_listed hRead hNamed, inventoryOf_eq]
  simp only
  rw [if_neg (by omega)]

theorem finish_read_ok_iff {rules : RuleTables} {payload : ByteArray} {budget : Int}
    {inventory : Inventory} :
    (read rules payload budget).finish = .ok (.ok inventory) ↔
      ∃ files, Lists rules payload files ∧ Inventories rules payload budget files inventory := by
  constructor
  · intro h
    cases hRead : Directory.read payload with
    | error fault =>
      rcases finish_read_of_unlisted hRead with ⟨needed, -, hFinish⟩ | ⟨message, hFinish⟩
      · cases hFinish.symm.trans h
      · cases hFinish.symm.trans h
    | ok entries =>
      by_cases hNamed : ∀ entry ∈ entries, entry.name ≠ ""
      · rw [finish_read_of_listed hRead hNamed] at h
        simp only at h
        split at h
        · cases h
        · next hFew =>
          exact ⟨_, ⟨⟨entries, hRead, hNamed, rfl⟩, by omega⟩, Reading.finish_takeAll_ok_iff.mp h⟩
      · obtain ⟨entry, hEntry, hName⟩ : ∃ entry ∈ entries, entry.name = "" := by
          simpa using hNamed
        cases (finish_read_of_unnamed hRead hEntry hName).symm.trans h
  · rintro ⟨files, hFiles, hInventory⟩
    rw [finish_read_of_lists hFiles, inventoryOf_eq]
    exact Reading.finish_takeAll_ok_iff.mpr hInventory

/-- Why a reading leaves no inventory and no fault either. -/
inductive ReadingBreaks (rules : RuleTables) (payload : ByteArray) (budget : Int) :
    Breakdown → Prop
  | version {needed : Nat} (hRead : Directory.read payload = .error (.version needed)) :
      ReadingBreaks rules payload budget (.unknownVersion needed)
  | unnamed {entries : List Entry} {entry : Entry} (hRead : Directory.read payload = .ok entries)
      (hEntry : entry ∈ entries) (hName : entry.name = "") :
      ReadingBreaks rules payload budget .unnamedEntry
  | derailed {files before behind : List Entry} {entry : Entry} {midway : Inventory} {limit : Int}
      {cause : Breakdown}
      (hFiles : Lists rules payload files)
      (hOrder : readingOrder rules files = before ++ entry :: behind)
      (hTaken : (readingOf rules payload budget files).Takes (blankOf rules files) before midway)
      (hClear : suspicion? rules entry = none)
      (hOpened : (readingOf rules payload budget files).OpensWithin midway entry limit)
      (hDerails : Derails payload entry limit cause) :
      ReadingBreaks rules payload budget cause

theorem readingBreaks_of_broken {rules : RuleTables} (hMeasures : rules.Measures)
    {payload : ByteArray} {budget : Int} {cause : Breakdown}
    (h : (read rules payload budget).finish = .error cause) :
    ReadingBreaks rules payload budget cause := by
  cases hRead : Directory.read payload with
  | error fault =>
    rcases finish_read_of_unlisted hRead with ⟨needed, rfl, hFinish⟩ | ⟨message, hFinish⟩
    · cases hFinish.symm.trans h
      exact .version hRead
    · cases hFinish.symm.trans h
  | ok entries =>
    by_cases hNamed : ∀ entry ∈ entries, entry.name ≠ ""
    · rw [finish_read_of_listed hRead hNamed] at h
      simp only at h
      split at h
      · cases h
      · next hFew =>
        obtain ⟨before, entry, behind, midway, hOrder, hTaken, hBroken⟩ :=
          Reading.finish_takeAll_broken_iff.mp h
        obtain ⟨hClear, limit, hOpened, hDerails⟩ :=
          (Reading.takeIn_broken_iff (readingOf_provided hMeasures _ _ _)).mp hBroken
        exact .derailed ⟨⟨entries, hRead, hNamed, rfl⟩, by omega⟩ hOrder hTaken hClear hOpened
          hDerails
    · obtain ⟨entry, hEntry, hName⟩ : ∃ entry ∈ entries, entry.name = "" := by
        simpa using hNamed
      cases (finish_read_of_unnamed hRead hEntry hName).symm.trans h
      exact .unnamed hRead hEntry hName

theorem finish_read_broken_iff {rules : RuleTables} (hMeasures : rules.Measures)
    {payload : ByteArray} {budget : Int} {cause : Breakdown} :
    (read rules payload budget).finish = .error cause ↔
      ReadingBreaks rules payload budget cause := by
  constructor
  · exact readingBreaks_of_broken hMeasures
  · intro h
    cases h with
    | version hRead =>
      unfold read
      rw [hRead]
      rfl
    | unnamed hRead hEntry hName => exact finish_read_of_unnamed hRead hEntry hName
    | derailed hFiles hOrder hTaken hClear hOpened hDerails =>
      rw [finish_read_of_lists hFiles, inventoryOf_eq]
      exact Reading.finish_takeAll_broken_iff.mpr ⟨_, _, _, _, hOrder, hTaken,
        (Reading.takeIn_broken_iff (readingOf_provided hMeasures _ _ _)).mpr
          ⟨hClear, _, hOpened, hDerails⟩⟩

end Bundle

end SubmissionGate
