import SubmissionGate.Gate.BundleCheck
import SubmissionGate.Proofs.Bundle.Reading

/-!
# The account of an inventory

What an inventory says about the entries that were taken in. A size may stand in it that no data was
read for, but then the budget was spent before or the file is of no known category, and the account
says so. One entry keeps the account, hence so does every walk.
-/

namespace SubmissionGate.Bundle

open Archive

/-- A size that was found by reading an entry: the size of all its data, or one above the limit. -/
def Measured [Platform] (payload : ByteArray) (entry : Entry) (limit : Int) (size : Nat) : Prop :=
  let delivery := Member.deliver payload entry (probe limit)
  delivery.fault = none ∧
    ((delivery.data.size : Int) ≤ limit ∧ size = delivery.data.size ∨ limit < size)

theorem measured_of_measure [Platform] {payload : ByteArray} {entry : Entry} {limit : Int}
    {content : Content} (h : measure payload entry limit = .ok content) :
    Measured payload entry limit content.size := by
  obtain ⟨hFault, ⟨hFits, hContent⟩ | ⟨hLarge, -⟩⟩ := measure_ok h
  · exact ⟨hFault, .inl ⟨hFits, by rw [hContent]⟩⟩
  · exact ⟨hFault, .inr hLarge⟩

structure ReadWhole [Platform] (payload : ByteArray) (entry : Entry) (limit : Int)
    (data : ByteArray) : Prop where
  sound : (Member.deliver payload entry (probe limit)).fault = none
  whole : (Member.deliver payload entry (probe limit)).data = data
  fits : (data.size : Int) ≤ limit

theorem readWhole_of_measure [Platform] {payload : ByteArray} {entry : Entry} {limit : Int}
    {content : Content} {data : ByteArray} (h : measure payload entry limit = .ok content)
    (hData : content.data = some data) :
    ReadWhole payload entry limit data ∧ content.size = data.size := by
  obtain ⟨hFault, ⟨hFits, hContent⟩ | ⟨-, hNone⟩⟩ := measure_ok h
  · rw [hContent] at hData ⊢
    cases hData
    exact ⟨⟨hFault, rfl, hFits⟩, rfl⟩
  · rw [hNone] at hData
    cases hData

theorem combinedSize_cons (asset : Asset) (assets : List Asset) :
    combinedSize (asset :: assets) = asset.size + combinedSize assets := rfl

theorem combinedSize_append (first second : List Asset) :
    combinedSize (first ++ second) = combinedSize first + combinedSize second := by
  induction first with
  | nil => exact (Nat.zero_add _).symm
  | cons asset rest ih =>
    rw [List.cons_append, combinedSize_cons, combinedSize_cons, ih, Nat.add_assoc]

namespace Reading

/-- How an asset of the inventory came out of an entry. -/
structure Booked [Platform] (reading : Reading) (exhausted : Bool) (entry : Entry) (asset : Asset) :
    Prop where
  role : roleOf reading.rules entry.name = .asset
  path : asset.path = entry.name
  extension : asset.extension = plainExtension entry.name
  category : asset.category = reading.category? entry.name
  measured : exhausted = false → ∀ category, asset.category = some category →
    ∃ limit, reading.rules.assetLimits.get? category = some limit ∧
      Measured reading.payload entry limit asset.size

/-- What an inventory says about the entries that were taken in. -/
structure Account [Platform] (reading : Reading) (seen : List Entry) (inventory : Inventory) :
    Prop where
  clear : ∀ entry ∈ seen, suspicion? reading.rules entry = none
  spent : inventory.budgetExhausted = true → reading.budget < inventory.totalSize
  booked : ∀ asset ∈ inventory.assets, ∃ entry ∈ seen,
    reading.Booked inventory.budgetExhausted entry asset
  paths : inventory.assets.map (·.path) =
    (seen.filter fun entry => roleOf reading.rules entry.name == .asset).map (·.name)
  script : ∀ data, inventory.script = some data → inventory.scriptSize = data.size ∧
    ∃ entry ∈ seen, ∃ limit, roleOf reading.rules entry.name = .script ∧
      reading.rules.sizeLimits.get? "script" = some limit ∧
      ReadWhole reading.payload entry limit data
  total : combinedSize inventory.assets + inventory.scriptSize + inventory.manifestSize ≤
    inventory.totalSize

theorem Booked.weaken [Platform] {reading : Reading} {before after : Bool} {entry : Entry}
    {asset : Asset}
    (h : reading.Booked before entry asset) (hOnce : after = false → before = false) :
    reading.Booked after entry asset :=
  ⟨h.role, h.path, h.extension, h.category, fun hAfter => h.measured (hOnce hAfter)⟩

theorem charge_exhausted (reading : Reading) (inventory : Inventory) (size : Nat) :
    (reading.charge inventory size).budgetExhausted = true ↔
      inventory.budgetExhausted = true ∨
        reading.budget < ((inventory.totalSize + size : Nat) : Int) := by
  simp [charge]

theorem account_blank [Platform] (reading : Reading) (roles : Table Role)
    (duplicates : List String) : reading.Account [] (.blank roles duplicates) where
  clear := by simp
  spent := fun h => by cases h
  booked := fun asset hAsset => by cases hAsset
  paths := rfl
  script := fun data h => by cases h
  total := Nat.le_refl 0

theorem charge_fresh {reading : Reading} {inventory : Inventory} {size : Nat}
    (h : (reading.charge inventory size).budgetExhausted = false) :
    inventory.budgetExhausted = false := by
  simp only [charge, Bool.or_eq_false_iff] at h
  exact h.1

theorem charge_spent {reading : Reading} {inventory : Inventory}
    (hOver : inventory.budgetExhausted = true → reading.budget < inventory.totalSize) {size : Nat}
    (hSpent : (reading.charge inventory size).budgetExhausted = true) :
    reading.budget < (reading.charge inventory size).totalSize := by
  rw [charge_exhausted] at hSpent
  simp only [charge]
  rcases hSpent with hBefore | hNow
  · have hTotal := hOver hBefore
    omega
  · exact hNow

variable [Platform]

section

variable {reading : Reading} {seen : List Entry} {inventory : Inventory} {entry : Entry}

theorem Account.clear_snoc (h : reading.Account seen inventory)
    (hClear : suspicion? reading.rules entry = none) :
    ∀ other ∈ seen ++ [entry], suspicion? reading.rules other = none := by
  intro other hOther
  rcases List.mem_append.mp hOther with hSeen | hNew
  · exact h.clear other hSeen
  · rw [List.mem_singleton.mp hNew]
    exact hClear

theorem Account.booked_snoc (h : reading.Account seen inventory) (entry : Entry)
    {exhausted : Bool} (hOnce : exhausted = false → inventory.budgetExhausted = false) :
    ∀ asset ∈ inventory.assets, ∃ other ∈ seen ++ [entry],
      reading.Booked exhausted other asset := by
  intro asset hAsset
  obtain ⟨other, hOther, hFound⟩ := h.booked asset hAsset
  exact ⟨other, List.mem_append_left _ hOther, hFound.weaken hOnce⟩

theorem Account.script_snoc (h : reading.Account seen inventory) (entry : Entry) :
    ∀ data, inventory.script = some data → inventory.scriptSize = data.size ∧
      ∃ other ∈ seen ++ [entry], ∃ limit, roleOf reading.rules other.name = .script ∧
        reading.rules.sizeLimits.get? "script" = some limit ∧
        ReadWhole reading.payload other limit data := by
  intro data hData
  obtain ⟨hSize, other, hOther, hRest⟩ := h.script data hData
  exact ⟨hSize, other, List.mem_append_left _ hOther, hRest⟩

theorem Account.paths_snoc (h : reading.Account seen inventory)
    (hRole : roleOf reading.rules entry.name ≠ .asset) :
    inventory.assets.map (·.path) =
      ((seen ++ [entry]).filter fun other => roleOf reading.rules other.name == .asset).map
        (·.name) := by
  have hSkipped : [entry].filter (fun other => roleOf reading.rules other.name == .asset) = [] := by
    simp [hRole]
  rw [h.paths, List.filter_append, hSkipped, List.append_nil]

theorem Account.paths_asset (h : reading.Account seen inventory)
    (hRole : roleOf reading.rules entry.name = .asset) (size : Nat) :
    (inventory.assets ++ [reading.assetOf entry size]).map (·.path) =
      ((seen ++ [entry]).filter fun other => roleOf reading.rules other.name == .asset).map
        (·.name) := by
  have hTaken : [entry].filter (fun other => roleOf reading.rules other.name == .asset) =
      [entry] := by simp [hRole]
  rw [List.filter_append, hTaken, List.map_append, List.map_append, ← h.paths]
  rfl

theorem booked_asset (hRole : roleOf reading.rules entry.name = .asset) {size : Nat}
    (hSize : reading.assetSize inventory entry = .ok size) {exhausted : Bool}
    (hOnce : exhausted = false → inventory.budgetExhausted = false) :
    reading.Booked exhausted entry (reading.assetOf entry size) := by
  refine ⟨hRole, rfl, rfl, rfl, ?_⟩
  intro hFresh category hCategory
  rcases assetSize_ok hSize with hSkipped | ⟨other, limit, content, hOther, hLimit, hContent, rfl⟩
  · have hKnown : reading.category? entry.name = some category := hCategory
    simp [decompresses, hKnown, hOnce hFresh] at hSkipped
  · have hSame : some other = some category := hOther.symm.trans hCategory
    cases hSame
    exact ⟨limit, hLimit, measured_of_measure hContent⟩

/-- Taking in an entry keeps the account. -/
theorem Account.step {next : Inventory} (h : reading.Account seen inventory)
    (hStep : reading.takeIn inventory entry = .ok next) :
    reading.Account (seen ++ [entry]) next := by
  obtain ⟨hClear, hAdds⟩ := takeIn_ok hStep
  have hTotal := h.total
  cases hAdds with
  | aside hRole =>
    refine ⟨h.clear_snoc hClear, ?_, h.booked_snoc entry id, h.paths_snoc ?_,
      h.script_snoc entry, ?_⟩
    · intro hSpent
      have hOver := h.spent hSpent
      simp only
      omega
    · rcases hRole with hRole | hRole <;> simp [hRole]
    · simp only
      omega
  | @script limit content hRole hLimit hContent =>
    refine ⟨h.clear_snoc hClear, charge_spent h.spent, h.booked_snoc entry charge_fresh,
      h.paths_snoc (by simp [hRole]), ?_, ?_⟩
    · intro data hData
      obtain ⟨hWhole, hSize⟩ := readWhole_of_measure hContent hData
      exact ⟨hSize, entry, by simp, limit, hRole, hLimit, hWhole⟩
    · simp only [withScript, charge]
      omega
  | @manifest limit content hRole hLimit hContent =>
    refine ⟨h.clear_snoc hClear, charge_spent h.spent, h.booked_snoc entry charge_fresh,
      h.paths_snoc (by simp [hRole]), h.script_snoc entry, ?_⟩
    simp only [withManifest, charge]
    omega
  | @asset size hRole hSize =>
    refine ⟨h.clear_snoc hClear, charge_spent h.spent, ?_, h.paths_asset hRole size,
      h.script_snoc entry, ?_⟩
    · intro asset hAsset
      rcases List.mem_append.mp hAsset with hOld | hNew
      · exact h.booked_snoc entry charge_fresh asset hOld
      · rw [List.mem_singleton.mp hNew]
        exact ⟨entry, by simp, booked_asset hRole hSize charge_fresh⟩
    · have hAdded : combinedSize [reading.assetOf entry size] =
          (reading.assetOf entry size).size := Nat.add_zero _
      simp only [withAsset, charge, combinedSize_append, hAdded] at hTotal ⊢
      omega

end

theorem Account.walk {reading : Reading} {seen entries : List Entry}
    {inventory after : Inventory} (h : reading.Account seen inventory)
    (hTakes : reading.Takes inventory entries after) :
    reading.Account (seen ++ entries) after := by
  induction hTakes generalizing seen with
  | nil inventory => simpa using h
  | cons hStep _ ih => simpa using ih (h.step hStep)

theorem Adds.keeps {reading : Reading} {inventory next : Inventory} {entry : Entry}
    (h : reading.Adds inventory entry next) :
    next.roles = inventory.roles ∧ next.duplicates = inventory.duplicates := by
  cases h with
  | aside => exact ⟨rfl, rfl⟩
  | script => exact ⟨rfl, rfl⟩
  | manifest => exact ⟨rfl, rfl⟩
  | asset => exact ⟨rfl, rfl⟩

theorem Takes.keeps {reading : Reading} {inventory after : Inventory} {entries : List Entry}
    (h : reading.Takes inventory entries after) :
    after.roles = inventory.roles ∧ after.duplicates = inventory.duplicates := by
  induction h with
  | nil inventory => exact ⟨rfl, rfl⟩
  | cons hStep _ ih =>
    obtain ⟨hRoles, hDuplicates⟩ := (takeIn_ok hStep).2.keeps
    exact ⟨ih.1.trans hRoles, ih.2.trans hDuplicates⟩

end Reading

theorem Inventories.account [Platform] {rules : RuleTables} {payload : ByteArray} {budget : Int}
    {files : List Entry} {inventory : Inventory}
    (h : Inventories rules payload budget files inventory) :
    (readingOf rules payload budget files).Account (readingOrder rules files) inventory := by
  simpa using (Reading.account_blank _ _ _).walk h

theorem Inventories.roles [Platform] {rules : RuleTables} {payload : ByteArray} {budget : Int}
    {files : List Entry} {inventory : Inventory}
    (h : Inventories rules payload budget files inventory) :
    inventory.roles = rolesOf rules files ∧ inventory.duplicates = (distinct files).2 :=
  Reading.Takes.keeps h

end SubmissionGate.Bundle
