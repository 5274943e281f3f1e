import Mathlib.Algebra.GroupWithZero.Nat
import Mathlib.Algebra.Order.BigOperators.Group.Finset
import Mathlib.Algebra.Order.BigOperators.Group.List
import Mathlib.Algebra.Ring.Int.Defs
import SubmissionGate.Proofs.Archive.Listing
import SubmissionGate.Proofs.Bundle.Openings

/-!
# What a reading spends

A bound on the bytes that one reading obtains, whatever the archive declares and however the reading
ends. The script and the manifest come first and at most once each; behind them an entry is opened
only while what was obtained is within the budget, so at most one of them leads beyond it.
-/

namespace SubmissionGate

/-- Positive limits: the one for scripts, the one for manifests, and the largest one of all
assets. -/
structure RuleTables.PositiveLimits (rules : RuleTables) (script manifest largest : Int) :
    Prop where
  sizes : ∀ entry ∈ rules.sizeLimits, 0 < entry.2
  assets : ∀ entry ∈ rules.assetLimits, 0 < entry.2
  entries : 0 < rules.maxEntries
  script : rules.sizeLimits.get? "script" = some script
  manifest : rules.assetLimits.get? Bundle.jsonCategory = some manifest
  attained : ∃ entry ∈ rules.assetLimits, entry.2 = largest
  largest : ∀ entry ∈ rules.assetLimits, entry.2 ≤ largest

namespace Bundle

open Archive

namespace Reading

/-- The bytes obtained so far are accounted for, and within the budget unless it is spent. -/
structure Spends (reading : Reading) (inventory : Inventory) (bytes : Nat) : Prop where
  counted : bytes ≤ inventory.totalSize
  within : inventory.budgetExhausted = false → (bytes : Int) ≤ max reading.budget 0

theorem spends_blank (reading : Reading) (roles : Table Role) (duplicates : List String) :
    reading.Spends (.blank roles duplicates) 0 :=
  ⟨Nat.le_refl 0, fun _ => Int.le_max_right _ _⟩

theorem Spends.next {reading : Reading} {inventory next : Inventory} {bytes more : Nat}
    (h : reading.Spends inventory bytes) (hCovers : reading.Covers inventory more next) :
    reading.Spends next (bytes + more) where
  counted := by
    have hCounted := h.counted
    have hTotal := hCovers.total
    omega
  within := by
    intro hUnspent
    obtain ⟨hBefore, hMore⟩ := hCovers.unspent hUnspent
    have hWithin := h.within hBefore
    have hCounted := h.counted
    have hTotal := hCovers.total
    omega

theorem obtained_single (entry : Entry) (limit : Int) (bytes : Nat) :
    obtained [⟨entry, limit, bytes⟩] = bytes := by
  simp [obtained]

/-- A walk obtains what its first step does, and then stops or goes on from what covers that. -/
theorem walk_step [Platform] (reading : Reading) (inventory : Inventory) (entry : Entry)
    (entries : List Entry) :
    ∃ more, (more = 0 ∨ ∃ limit, reading.OpensWithin inventory entry limit ∧
        more = bytesOf reading.payload entry limit) ∧
      (obtained (reading.walkTraced inventory (entry :: entries)).openings = more ∨
        ∃ next, reading.Covers inventory more next ∧
          obtained (reading.walkTraced inventory (entry :: entries)).openings =
            more + obtained (reading.walkTraced next entries).openings) := by
  obtain ⟨more, hMore, hObtained, hCovers⟩ : ∃ more,
      (more = 0 ∨ ∃ limit, reading.OpensWithin inventory entry limit ∧
        more = bytesOf reading.payload entry limit) ∧
      obtained (reading.takeInTraced inventory entry).openings = more ∧
      ∀ next, (reading.takeInTraced inventory entry).outcome = .ok next →
        reading.Covers inventory more next := by
    cases reading.takeInTraced_opens inventory entry with
    | nothing hNone hCovers => exact ⟨0, .inl rfl, by rw [hNone]; rfl, hCovers⟩
    | @entry limit hWithin hOpened hCovers =>
      exact ⟨_, .inr ⟨limit, hWithin, rfl⟩, by rw [hOpened, obtained_single], hCovers⟩
  refine ⟨more, hMore, ?_⟩
  rw [walkTraced]
  cases hStep : (reading.takeInTraced inventory entry).outcome with
  | error halt => exact .inl (by rw [Traced.bind_of_error hStep, hObtained])
  | ok next =>
    refine .inr ⟨next, hCovers next hStep, ?_⟩
    rw [Traced.bind_of_ok hStep, obtained_append, hObtained]

variable {reading : Reading} {script manifest largest : Int}

theorem asset_obtained [Platform] (hLimits : reading.rules.PositiveLimits script manifest largest)
    {inventory : Inventory} {bytes : Nat} (h : reading.Spends inventory bytes) {entry : Entry}
    (hEntry : isLeading reading.rules entry = false) {limit : Int}
    (hWithin : reading.OpensWithin inventory entry limit) :
    (bytes : Int) + bytesOf reading.payload entry limit ≤ max reading.budget 0 + largest + 1 := by
  unfold OpensWithin at hWithin
  unfold isLeading at hEntry
  split at hWithin
  · next hRole => rw [hRole] at hEntry; cases hEntry
  · next hRole => rw [hRole] at hEntry; cases hEntry
  · obtain ⟨hUnspent, category, -, hLimit⟩ := hWithin
    have hMember := Table.mem_of_get? hLimit
    have hPositive : 0 < limit := hLimits.assets _ hMember
    have hLargest : limit ≤ largest := hLimits.largest _ hMember
    have hBytes := bytesOf_le reading.payload entry (Int.le_of_lt hPositive)
    have hBudget := h.within hUnspent
    omega
  · cases hWithin
  · cases hWithin

theorem OpensWithin.positive (hLimits : reading.rules.PositiveLimits script manifest largest)
    {inventory : Inventory} {entry : Entry} {limit : Int}
    (h : reading.OpensWithin inventory entry limit) : 0 < limit := by
  unfold OpensWithin at h
  split at h
  · exact hLimits.sizes _ (Table.mem_of_get? h)
  · exact hLimits.assets _ (Table.mem_of_get? h)
  · obtain ⟨-, category, -, hLimit⟩ := h
    exact hLimits.assets _ (Table.mem_of_get? hLimit)
  · cases h
  · cases h

theorem walk_assets [Platform] (hLimits : reading.rules.PositiveLimits script manifest largest)
    {entries : List Entry} (hAssets : ∀ entry ∈ entries, isLeading reading.rules entry = false)
    {inventory : Inventory} {bytes : Nat} (h : reading.Spends inventory bytes) :
    (bytes : Int) + obtained (reading.walkTraced inventory entries).openings ≤
      max (bytes : Int) (max reading.budget 0 + largest + 1) := by
  induction entries generalizing inventory bytes with
  | nil => exact Int.le_max_left _ _
  | cons entry entries ih =>
    obtain ⟨hEntry, hRest⟩ := List.forall_mem_cons.mp hAssets
    obtain ⟨more, hMore, hWalk⟩ := reading.walk_step inventory entry entries
    have hStep : (bytes : Int) + more ≤ max (bytes : Int) (max reading.budget 0 + largest + 1) := by
      rcases hMore with rfl | ⟨limit, hWithin, rfl⟩
      · exact Int.le_max_left _ _
      · exact Int.le_trans (asset_obtained hLimits h hEntry hWithin) (Int.le_max_right _ _)
    rcases hWalk with hStopped | ⟨next, hCovers, hGoesOn⟩
    · rw [hStopped]
      exact hStep
    · have hNext := ih hRest (h.next hCovers)
      rw [hGoesOn]
      omega

/-- The most that is obtained from an entry that comes first, by its name. -/
def leadingShare (rules : RuleTables) (script manifest : Int) (path : String) : Int :=
  match roleOf rules path with
  | .script => script + 1
  | .manifest => manifest + 1
  | _ => 0

theorem leading_obtained [Platform] (hLimits : reading.rules.PositiveLimits script manifest largest)
    {inventory : Inventory} {entry : Entry} (hEntry : isLeading reading.rules entry = true)
    {limit : Int} (hWithin : reading.OpensWithin inventory entry limit) :
    (bytesOf reading.payload entry limit : Int) ≤
      leadingShare reading.rules script manifest entry.name := by
  unfold OpensWithin at hWithin
  unfold isLeading at hEntry
  unfold leadingShare
  split at hWithin
  · next hRole =>
    rw [hLimits.script] at hWithin
    cases hWithin
    have hPositive := hLimits.sizes _ (Table.mem_of_get? hLimits.script)
    simp only [hRole]
    exact bytesOf_le _ _ (Int.le_of_lt hPositive)
  · next hRole =>
    rw [hLimits.manifest] at hWithin
    cases hWithin
    have hPositive := hLimits.assets _ (Table.mem_of_get? hLimits.manifest)
    simp only [hRole]
    exact bytesOf_le _ _ (Int.le_of_lt hPositive)
  · next hRole => rw [hRole] at hEntry; cases hEntry
  · cases hWithin
  · cases hWithin

theorem leadingShare_nonneg {rules : RuleTables}
    (hLimits : rules.PositiveLimits script manifest largest) (path : String) :
    0 ≤ leadingShare rules script manifest path := by
  have hScript := hLimits.sizes _ (Table.mem_of_get? hLimits.script)
  have hManifest := hLimits.assets _ (Table.mem_of_get? hLimits.manifest)
  unfold leadingShare
  simp only at hScript hManifest
  split <;> omega

theorem walk_leading [Platform] (hLimits : reading.rules.PositiveLimits script manifest largest)
    {leading entries : List Entry}
    (hLeading : ∀ entry ∈ leading, isLeading reading.rules entry = true)
    (hAssets : ∀ entry ∈ entries, isLeading reading.rules entry = false)
    {inventory : Inventory} {bytes : Nat} (h : reading.Spends inventory bytes) :
    (bytes : Int) + obtained (reading.walkTraced inventory (leading ++ entries)).openings ≤
      max (bytes + (leading.map fun entry =>
        leadingShare reading.rules script manifest entry.name).sum)
        (max reading.budget 0 + largest + 1) := by
  induction leading generalizing inventory bytes with
  | nil => simpa using walk_assets hLimits hAssets h
  | cons entry leading ih =>
    obtain ⟨hEntry, hRest⟩ := List.forall_mem_cons.mp hLeading
    obtain ⟨more, hMore, hWalk⟩ := reading.walk_step inventory entry (leading ++ entries)
    have hShare := leadingShare_nonneg hLimits entry.name
    have hStep : (more : Int) ≤ leadingShare reading.rules script manifest entry.name := by
      rcases hMore with rfl | ⟨limit, hWithin, rfl⟩
      · exact hShare
      · exact leading_obtained hLimits hEntry hWithin
    have hOthers : 0 ≤
        (leading.map fun entry => leadingShare reading.rules script manifest entry.name).sum :=
      List.sum_nonneg fun share hMem => by
        obtain ⟨other, -, rfl⟩ := List.mem_map.mp hMem
        exact leadingShare_nonneg hLimits other.name
    rw [List.cons_append, List.map_cons, List.sum_cons]
    rcases hWalk with hStopped | ⟨next, hCovers, hGoesOn⟩
    · rw [hStopped]
      omega
    · have hNext := ih hRest (h.next hCovers)
      rw [hGoesOn]
      omega

/-- The script and the manifest are there once each at most. -/
theorem sum_leadingShare {rules : RuleTables}
    (hLimits : rules.PositiveLimits script manifest largest) {leading : List Entry}
    (hLeading : ∀ entry ∈ leading, isLeading rules entry = true)
    (hNames : (leading.map (·.name)).Nodup) :
    (leading.map fun entry => leadingShare rules script manifest entry.name).sum ≤
      script + manifest + 2 := by
  let share := leadingShare rules script manifest
  have hPlaces : (leading.map (·.name)).toFinset ⊆ {rules.bundleScript, rules.bundleManifest} := by
    intro path hPath
    obtain ⟨entry, hEntry, rfl⟩ := List.mem_map.mp (List.mem_toFinset.mp hPath)
    have hRole := hLeading entry hEntry
    unfold isLeading at hRole
    rcases roleOf_cases rules entry.name with
      hUnsafe | hStray | ⟨-, ⟨-, hName⟩ | ⟨-, hName⟩ | ⟨hAsset, -⟩⟩
    · rw [hUnsafe] at hRole
      cases hRole
    · rw [hStray] at hRole
      cases hRole
    · simp [hName]
    · simp [hName]
    · rw [hAsset] at hRole
      cases hRole
  have hScript := hLimits.sizes _ (Table.mem_of_get? hLimits.script)
  have hManifest := hLimits.assets _ (Table.mem_of_get? hLimits.manifest)
  simp only at hScript hManifest
  have hShares : ∑ path ∈ {rules.bundleScript, rules.bundleManifest}, share path ≤
      script + manifest + 2 := by
    have hFirst : share rules.bundleScript ≤ script + 1 := by
      cases hBelow : staysBelow rules.bundleScript with
      | false =>
        simp only [share, leadingShare, roleOf, hBelow, Bool.not_false, if_true]
        omega
      | true => simp [share, leadingShare, roleOf, hBelow]
    by_cases hSame : rules.bundleScript = rules.bundleManifest
    · rw [← hSame, Finset.pair_eq_singleton, Finset.sum_singleton]
      omega
    · have hSecond : share rules.bundleManifest ≤ manifest + 1 := by
        cases hBelow : staysBelow rules.bundleManifest with
        | false =>
          simp only [share, leadingShare, roleOf, hBelow, Bool.not_false, if_true]
          omega
        | true => simp [share, leadingShare, roleOf, hBelow, Ne.symm hSame]
      rw [Finset.sum_pair hSame]
      omega
  calc (leading.map fun entry => share entry.name).sum
      = ((leading.map (·.name)).map share).sum := by rw [List.map_map]; rfl
    _ = ∑ path ∈ (leading.map (·.name)).toFinset, share path :=
        (List.sum_toFinset share hNames).symm
    _ ≤ ∑ path ∈ {rules.bundleScript, rules.bundleManifest}, share path :=
        Finset.sum_le_sum_of_subset_of_nonneg hPlaces fun path _ _ =>
          leadingShare_nonneg hLimits path
    _ ≤ script + manifest + 2 := hShares

end Reading

theorem obtained_walk_le [Platform] {rules : RuleTables} {script manifest largest : Int}
    (hLimits : rules.PositiveLimits script manifest largest) (payload : ByteArray) (budget : Int)
    (files : List Entry) :
    (obtained ((readingOf rules payload budget files).walkTraced (blankOf rules files)
      (readingOrder rules files)).openings : Int) ≤
        max (script + manifest + 2) (max budget 0 + largest + 1) := by
  let reading := readingOf rules payload budget files
  let leading := (firstFiles files).filter (isLeading rules)
  have hFirst : ∀ entry ∈ leading, isLeading reading.rules entry = true :=
    fun entry hEntry => (List.mem_filter.mp hEntry).2
  have hLater : ∀ entry ∈ (firstFiles files).filter fun entry => !isLeading rules entry,
      isLeading reading.rules entry = false :=
    fun entry hEntry => by simpa [reading, readingOf] using (List.mem_filter.mp hEntry).2
  have hWalk := Reading.walk_leading hLimits hFirst hLater
    (reading.spends_blank (rolesOf rules files) (distinct files).2)
  have hNames : (leading.map (·.name)).Nodup :=
    ((List.filter_sublist (l := firstFiles files)).map (·.name)).nodup (firstFiles_nodup files).1
  have hLeading := Reading.sum_leadingShare hLimits hFirst hNames
  rw [Int.natCast_zero, Int.zero_add, Int.zero_add] at hWalk
  exact Int.le_trans hWalk (max_le_max hLeading (Int.le_refl _))

/-- One reading obtains no more than the script and the manifest may have, or the budget and one
more entry, however it ends. -/
theorem readTraced_bounded [Platform] {rules : RuleTables} {script manifest largest : Int}
    (hLimits : rules.PositiveLimits script manifest largest) (payload : ByteArray) (budget : Int) :
    let trace := readTraced rules payload budget
    (read rules payload budget).finish = ending trace.outcome ∧
    (obtained trace.openings : Int) ≤
      max (script + manifest + 2) (max budget 0 + largest + 1) ∧
    (trace.openings.length : Int) ≤ rules.maxEntries ∧
    (trace.openings.map (·.entry.name)).Nodup ∧
    ∀ opening ∈ trace.openings, (opening.obtained : Int) ≤ opening.limit + 1 ∧
      ∃ files before, Lists rules payload files ∧ opening.entry ∈ firstFiles files ∧
        (readingOf rules payload budget files).OpensWithin before opening.entry opening.limit := by
  intro trace
  have hScript := hLimits.sizes _ (Table.mem_of_get? hLimits.script)
  have hManifest := hLimits.assets _ (Table.mem_of_get? hLimits.manifest)
  have hEntries := hLimits.entries
  simp only at hScript hManifest
  refine ⟨finish_read_eq rules payload budget, ?_⟩
  rcases readTraced_cases rules payload budget with hNone | ⟨files, hFiles, hWalk⟩
  · simp only [trace, hNone, obtained, List.map_nil, List.sum_nil, List.length_nil]
    exact ⟨by omega, by omega, List.nodup_nil, fun opening hOpening => by cases hOpening⟩
  · obtain ⟨hNames, hCount⟩ := firstFiles_nodup files
    have hFew := hFiles.few
    have hOrder := readingOrder_perm rules files
    obtain ⟨hSublist, hOpenings⟩ := (readingOf rules payload budget files).walkTraced_openings
      (blankOf rules files) (readingOrder rules files)
    simp only [trace, hWalk]
    refine ⟨obtained_walk_le hLimits payload budget files, ?_, ?_, fun opening hOpening => ?_⟩
    · have hLength := hSublist.length_le
      rw [List.length_map, hOrder.length_eq] at hLength
      omega
    · have hOnce := (hSublist.map (·.name)).nodup ((hOrder.map (·.name)).nodup_iff.mpr hNames)
      rwa [List.map_map] at hOnce
    · obtain ⟨hObtained, before, hWithin⟩ := hOpenings opening hOpening
      have hMember := hSublist.subset (List.mem_map_of_mem hOpening)
      refine ⟨?_, files, before, hFiles, hOrder.mem_iff.mp hMember, hWithin⟩
      rw [hObtained]
      exact bytesOf_le _ _ (Int.le_of_lt (hWithin.positive hLimits))

/-- Five bytes under a declared size of ten, as the only asset of an archive. -/
def modelListing : List UInt8 :=
  [80, 75, 1, 2, 20, 0, 20, 0, 0, 0, 0, 0, 0, 0, 0, 0, 134, 166, 16, 54, 5, 0, 0, 0, 10, 0, 0, 0,
   12, 0, 0, 0, 0, 0, 0, 0, 0, 0, 0, 0, 0, 0, 0, 0, 0, 0, 97, 115, 115, 101, 116, 115, 47, 97, 46,
   103, 108, 98]

def modelPayload : ByteArray :=
  ⟨([80, 75, 3, 4, 20, 0, 0, 0, 0, 0, 0, 0, 0, 0, 134, 166, 16, 54, 5, 0, 0, 0, 10, 0, 0, 0, 12, 0,
      0, 0, 97, 115, 115, 101, 116, 115, 47, 97, 46, 103, 108, 98, 104, 101, 108, 108, 111] ++
    modelListing ++
    [80, 75, 5, 6, 0, 0, 0, 0, 1, 0, 1, 0, 58, 0, 0, 0, 47, 0, 0, 0, 0, 0]).toArray⟩

def modelFiles : List Entry :=
  [⟨"assets/a.glb", "assets/a.glb", 0, 0, 907060870, 5, 10, 0, 47⟩]

theorem modelPayload_entries : Directory.read modelPayload = .ok modelFiles := by
  have hPlace : (Directory.place modelPayload).toOption = some ⟨47, 58, 0⟩ := by decide +kernel
  have hListed : (Directory.readEntries ⟨modelListing.toArray⟩ 0 0).toOption =
      some (modelFiles.map fun entry => { entry with bound := 0 }) := by
    decide +kernel
  exact Directory.read_of_listing hPlace (by decide +kernel) hListed (by decide)
    (by decide +kernel)

/-- The standard rules with the least limits, except the one for models. -/
def modelRules : RuleTables :=
  { RuleTables.standard with
    sizeLimits := [("html_2d", 1), ("html_3d", 1), ("script", 1)]
    assetLimits := [("image", 1), ("audio", 1), ("model", 5), ("font", 1), ("spritesheet", 1),
      ("json", 1)] }

theorem modelRules_limits : modelRules.PositiveLimits 1 1 5 :=
  ⟨by decide, by decide, by decide, by decide, by decide, by decide, by decide⟩

theorem modelPayload_traced [Platform] (budget : Int) : readTraced modelRules modelPayload budget =
    (readingOf modelRules modelPayload budget modelFiles).walkTraced (blankOf modelRules modelFiles)
      (readingOrder modelRules modelFiles) := by
  unfold readTraced
  rw [modelPayload_entries]
  rfl

section

attribute [local instance] Platform.bare

/-- A negative budget does not keep the first asset from being read. -/
theorem modelPayload_overspends : modelRules.PositiveLimits 1 1 5 ∧
    max ((1 : Int) + 1 + 2) (-5 + 5 + 1) <
      obtained (readTraced modelRules modelPayload (-5)).openings := by
  refine ⟨modelRules_limits, ?_⟩
  rw [modelPayload_traced]
  decide +kernel

theorem modelPayload_bounded : modelRules.PositiveLimits 1 1 5 ∧
    (obtained (readTraced modelRules modelPayload (-5)).openings : Int) ≤
      max (1 + 1 + 2) (max (-5) 0 + 5 + 1) :=
  ⟨modelRules_limits, (readTraced_bounded modelRules_limits modelPayload (-5)).2.1⟩

end

end Bundle

end SubmissionGate
