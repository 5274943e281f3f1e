import SubmissionGate.Proofs.Bundle.Account
import SubmissionGate.Proofs.Bundle.Path
import SubmissionGate.Proofs.Gate.BundleStage

/-!
# The files of an accepted bundle

What follows for the files of an archive once no check objects to its inventory: none of them is
passed over as a duplicate, each has a place in the layout, and the budget was never spent, so every
size in the inventory was found by reading.
-/

namespace SubmissionGate.Bundle

open Archive Gate

def keepFirst (state : List Entry × List String) (entry : Entry) : List Entry × List String :=
  if state.1.any fun other => other.name == entry.name then (state.1, entry.name :: state.2)
  else (entry :: state.1, state.2)

theorem distinct_eq (entries : List Entry) :
    distinct entries = ((entries.foldl keepFirst ([], [])).1.reverse,
      (entries.foldl keepFirst ([], [])).2.reverse) := rfl

theorem foldl_keepFirst_of_none {entries first : List Entry} {others : List String}
    (h : (entries.foldl keepFirst (first, others)).2 = [])
    (hNodup : (first.map (·.name)).Nodup) :
    others = [] ∧ (entries.foldl keepFirst (first, others)).1 = entries.reverse ++ first ∧
      ((entries.reverse ++ first).map (·.name)).Nodup := by
  induction entries generalizing first others with
  | nil => exact ⟨h, rfl, hNodup⟩
  | cons entry rest ih =>
    rw [List.foldl_cons] at h ⊢
    rw [List.reverse_cons, List.append_assoc, List.singleton_append]
    cases hSeen : first.any fun other => other.name == entry.name with
    | true =>
      rw [keepFirst, if_pos hSeen] at h
      cases (ih h hNodup).1
    | false =>
      rw [keepFirst, if_neg (by simp [hSeen])] at h ⊢
      refine ih h (List.nodup_cons.mpr ⟨?_, hNodup⟩)
      intro hMem
      obtain ⟨other, hOther, hName⟩ := List.mem_map.mp hMem
      have hDiffers := List.any_eq_false.mp hSeen other hOther
      simp [hName] at hDiffers

theorem firstFiles_of_no_duplicates {files : List Entry} (h : (distinct files).2 = []) :
    firstFiles files = files ∧ (files.map (·.name)).Nodup := by
  rw [distinct_eq, List.reverse_eq_nil_iff] at h
  obtain ⟨-, hKept, hNodup⟩ := foldl_keepFirst_of_none h List.nodup_nil
  rw [List.append_nil] at hKept hNodup
  refine ⟨by rw [firstFiles, distinct_eq, hKept, List.reverse_reverse], ?_⟩
  rw [List.map_reverse] at hNodup
  exact (List.reverse_perm _).nodup hNodup

theorem foldl_keepFirst_nodup (entries first : List Entry) (others : List String)
    (h : (first.map (·.name)).Nodup) :
    (((entries.foldl keepFirst (first, others)).1).map (·.name)).Nodup ∧
      (entries.foldl keepFirst (first, others)).1.length ≤ first.length + entries.length := by
  induction entries generalizing first others with
  | nil => exact ⟨h, Nat.le_refl _⟩
  | cons entry rest ih =>
    rw [List.foldl_cons, List.length_cons]
    cases hSeen : first.any fun other => other.name == entry.name with
    | true =>
      have hStep : keepFirst (first, others) entry = (first, entry.name :: others) := if_pos hSeen
      rw [hStep]
      obtain ⟨hNames, hLength⟩ := ih first (entry.name :: others) h
      exact ⟨hNames, by omega⟩
    | false =>
      have hStep : keepFirst (first, others) entry = (entry :: first, others) :=
        if_neg (by simp [hSeen])
      rw [hStep]
      have hNew : entry.name ∉ first.map (·.name) := by
        intro hMem
        obtain ⟨other, hOther, hName⟩ := List.mem_map.mp hMem
        have hDiffers := List.any_eq_false.mp hSeen other hOther
        simp [hName] at hDiffers
      obtain ⟨hNames, hLength⟩ := ih (entry :: first) others (List.nodup_cons.mpr ⟨hNew, h⟩)
      rw [List.length_cons] at hLength
      exact ⟨hNames, by omega⟩

theorem firstFiles_nodup (files : List Entry) :
    ((firstFiles files).map (·.name)).Nodup ∧ (firstFiles files).length ≤ files.length := by
  obtain ⟨hNames, hLength⟩ := foldl_keepFirst_nodup files [] [] List.nodup_nil
  rw [firstFiles, distinct_eq, List.length_reverse, List.map_reverse]
  exact ⟨(List.reverse_perm _).nodup_iff.mpr hNames, by simpa using hLength⟩

theorem readingOrder_perm (rules : RuleTables) (files : List Entry) :
    (readingOrder rules files).Perm (firstFiles files) :=
  List.filter_append_perm (isLeading rules) (firstFiles files)

theorem readingOrder_nodup (rules : RuleTables) (files : List Entry) :
    ((readingOrder rules files).map (·.name)).Nodup :=
  ((readingOrder_perm rules files).map (·.name)).nodup_iff.mpr (firstFiles_nodup files).1

theorem mem_readingOrder {rules : RuleTables} {files : List Entry} {entry : Entry} :
    entry ∈ readingOrder rules files ↔ entry ∈ firstFiles files :=
  (readingOrder_perm rules files).mem_iff

theorem sortedOnce_eq_nil {names : List String} (h : sortedOnce names = []) : names = [] := by
  have hLength := congrArg List.length h
  rw [sortedOnce, List.length_mergeSort] at hLength
  cases names with
  | nil => rfl
  | cons name rest =>
    rw [List.eraseDups_cons] at hLength
    cases hLength

theorem placeIssue?_error {root path : String} {role : Role} {issue : Issue}
    (h : placeIssue? root path role = some issue) : issue.severity = .error := by
  unfold placeIssue? at h
  split at h
  · cases h
    rfl
  · cases h
    rfl
  · cases h

/-- The files have a place in the layout, and no two of them share a name. -/
structure WellPlaced (rules : RuleTables) (files : List Entry) : Prop where
  first : firstFiles files = files
  nodup : (files.map (·.name)).Nodup
  role : ∀ file ∈ files, staysBelow file.name = true ∧
    (roleOf rules file.name = .script ∧ file.name = rules.bundleScript ∨
      roleOf rules file.name = .manifest ∧ file.name = rules.bundleManifest ∨
      roleOf rules file.name = .asset ∧ isBelow rules.bundleAssetRoot file.name = true)

theorem wellPlaced_of_harmless [Platform] {rules : RuleTables} {payload : ByteArray} {budget : Int}
    {files : List Entry} {inventory : Inventory}
    (hInventory : Inventories rules payload budget files inventory)
    (h : Harmless (placementIssues rules inventory)) : WellPlaced rules files := by
  obtain ⟨hRoles, hDuplicates⟩ := hInventory.roles
  rw [placementIssues, harmless_append_iff, duplicateIssues, harmless_map_iff fun _ => rfl,
    hDuplicates, harmless_filterMap_iff fun _ _ => placeIssue?_error, hRoles] at h
  obtain ⟨hSorted, hPlaces⟩ := h
  obtain ⟨hFirst, hNodup⟩ := firstFiles_of_no_duplicates (sortedOnce_eq_nil hSorted)
  refine ⟨hFirst, hNodup, fun file hFile => ?_⟩
  have hPlace := hPlaces (file.name, roleOf rules file.name)
    (List.mem_map.mpr ⟨file, by rwa [hFirst], rfl⟩)
  rcases roleOf_cases rules file.name with hUnsafe | hStray | hRole
  · rw [hUnsafe] at hPlace
    cases hPlace
  · rw [hStray] at hPlace
    cases hPlace
  · exact hRole

namespace Reading

variable [Platform]

theorem Takes.append {reading : Reading} {before behind : List Entry} {inventory after : Inventory}
    (h : reading.Takes inventory (before ++ behind) after) :
    ∃ midway, reading.Takes inventory before midway ∧ reading.Takes midway behind after := by
  induction before generalizing inventory with
  | nil => exact ⟨inventory, .nil inventory, h⟩
  | cons entry rest ih =>
    cases h with
    | cons hStep hRest =>
      obtain ⟨midway, hBefore, hBehind⟩ := ih hRest
      exact ⟨midway, .cons hStep hBefore, hBehind⟩

theorem Takes.unique {reading : Reading} {entries : List Entry}
    {inventory after other : Inventory} (h : reading.Takes inventory entries after)
    (hOther : reading.Takes inventory entries other) : after = other := by
  induction h with
  | nil inventory =>
    cases hOther
    rfl
  | cons hStep _ ih =>
    cases hOther with
    | cons hSame hRest =>
      rw [hStep] at hSame
      cases hSame
      exact ih hRest

theorem Adds.exhausted {reading : Reading} {inventory next : Inventory} {entry : Entry}
    (h : reading.Adds inventory entry next) (hSpent : inventory.budgetExhausted = true) :
    next.budgetExhausted = true := by
  cases h with
  | aside => exact hSpent
  | script => simp [withScript, charge, hSpent]
  | manifest => simp [withManifest, charge, hSpent]
  | asset => simp [withAsset, charge, hSpent]

theorem Takes.exhausted {reading : Reading} {inventory after : Inventory} {entries : List Entry}
    (h : reading.Takes inventory entries after) (hSpent : inventory.budgetExhausted = true) :
    after.budgetExhausted = true := by
  induction h with
  | nil inventory => exact hSpent
  | cons hStep _ ih => exact ih ((takeIn_ok hStep).2.exhausted hSpent)

theorem Takes.never_exhausted {reading : Reading} {before behind : List Entry}
    {inventory midway after : Inventory}
    (h : reading.Takes inventory (before ++ behind) after)
    (hBefore : reading.Takes inventory before midway) (hLeft : after.budgetExhausted = false) :
    midway.budgetExhausted = false := by
  obtain ⟨other, hOther, hBehind⟩ := h.append
  obtain rfl := hBefore.unique hOther
  cases hSpent : midway.budgetExhausted with
  | false => rfl
  | true =>
    rw [hBehind.exhausted hSpent] at hLeft
    cases hLeft

end Reading

def sheetOf (assets : List Asset) (asset : Asset) : List Asset :=
  assets.filter fun other => other.category == some sheetCategory &&
    stem other.path == stem asset.path

theorem mem_sortedOnce {names : List String} {name : String} :
    name ∈ sortedOnce names ↔ name ∈ names := by
  rw [sortedOnce, List.mem_mergeSort, List.mem_eraseDups]

theorem sheetOf_mem_sheets {assets : List Asset} {asset : Asset} (hAsset : asset ∈ assets)
    (hCategory : asset.category = some sheetCategory) :
    (stem asset.path, sheetOf assets asset) ∈ sheets assets := by
  have hPart : asset ∈ assets.filter fun other => other.category == some sheetCategory :=
    List.mem_filter.mpr ⟨hAsset, by simp [hCategory]⟩
  refine List.mem_map.mpr ⟨stem asset.path, ?_, ?_⟩
  · exact mem_sortedOnce.mpr (List.mem_map.mpr ⟨asset, hPart, rfl⟩)
  · have hSame : (assets.filter fun other => other.category == some sheetCategory).filter
        (fun other => stem other.path == stem asset.path) = sheetOf assets asset := by
      rw [List.filter_filter]
      exact List.filter_congr fun other _ => Bool.and_comm _ _
    rw [← hSame]

theorem size_le_combinedSize {assets : List Asset} {asset : Asset} (h : asset ∈ assets) :
    asset.size ≤ combinedSize assets := by
  induction assets with
  | nil => cases h
  | cons first rest ih =>
    rw [combinedSize_cons]
    rcases List.mem_cons.mp h with rfl | hRest
    · omega
    · have := ih hRest
      omega

theorem WithinCeilings.size_le {limits : Table Int} {assets : List Asset} {asset : Asset}
    (h : WithinCeilings limits assets) (hAsset : asset ∈ assets) {category : String} {limit : Int}
    (hCategory : asset.category = some category) (hLimit : limits.get? category = some limit) :
    (asset.size : Int) ≤ limit := by
  obtain ⟨other, hOther, hSingle⟩ := h.asset asset hAsset
  have hSame : some other = some category := hOther.symm.trans hCategory
  cases hSame
  by_cases hSheet : category = sheetCategory
  · subst hSheet
    obtain ⟨bound, hBound, hCombined⟩ := h.sheet _ (sheetOf_mem_sheets hAsset hCategory)
    rw [hLimit] at hBound
    cases hBound
    have hPart : asset ∈ sheetOf assets asset :=
      List.mem_filter.mpr ⟨hAsset, by simp [hCategory]⟩
    have hPartSize := size_le_combinedSize hPart
    simp only at hCombined
    omega
  · obtain ⟨bound, hBound, hFits⟩ := hSingle hSheet
    rw [hLimit] at hBound
    cases hBound
    exact hFits

end SubmissionGate.Bundle
