import Mathlib.Algebra.GroupWithZero.Nat
import Mathlib.Data.List.Nodup
import SubmissionGate.Proofs.Bundle.Sizes

/-!
# The ledger of a reading

A reading loses no file of its archive and counts none twice. Each file is either the first one of
its name, and then has a role, or a later one, and then is a duplicate; each file with the role of an
asset is an asset of the inventory; and the total size is what the first files are taken in for, one
by one. The script is the data of the file that comes first under its name, wherever this file
stands and whatever else there is.
-/

namespace SubmissionGate.Bundle

open Archive

/-! ## First and later files of a name -/

/-- The files whose name stands, or does not stand, at an earlier place. -/
def occurrences (files : List Entry) (repeated : Bool) : List Entry :=
  (files.zipIdx.filter fun place =>
    ((files.take place.2).any fun earlier => earlier.name == place.1.name) == repeated).map (·.1)

theorem occurrences_concat (files : List Entry) (file : Entry) (repeated : Bool) :
    occurrences (files ++ [file]) repeated = occurrences files repeated ++
      if (files.any fun earlier => earlier.name == file.name) == repeated then [file] else [] := by
  have hEarlier : ∀ place ∈ files.zipIdx,
      (files ++ [file]).take place.2 = files.take place.2 := by
    intro place hPlace
    obtain ⟨-, hLess, -⟩ := List.mem_zipIdx hPlace
    rw [List.take_append_of_le_length (by omega)]
  have hWhole : (files ++ [file]).take files.length = files := List.take_left
  unfold occurrences
  rw [List.zipIdx_append, List.filter_append, List.map_append]
  congr 1
  · congr 1
    apply List.filter_congr
    intro place hPlace
    rw [hEarlier place hPlace]
  · rw [Nat.zero_add, List.zipIdx_singleton, List.filter_singleton]
    simp only [hWhole]
    cases (files.any fun earlier => earlier.name == file.name) == repeated <;> rfl

theorem occurrences_length (files : List Entry) :
    (occurrences files false).length + (occurrences files true).length = files.length := by
  induction files using List.reverseRecOn with
  | nil => rfl
  | append_singleton files file ih =>
    rw [occurrences_concat, occurrences_concat]
    simp only [List.length_append, List.length_singleton]
    cases files.any fun earlier => earlier.name == file.name
    · simp
      omega
    · simp
      omega

theorem any_name (files : List Entry) (name : String) :
    (files.any fun file => file.name == name) = decide (name ∈ files.map (·.name)) := by
  rw [Bool.eq_iff_iff, List.any_eq_true, decide_eq_true_iff, List.mem_map]
  simp only [beq_iff_eq]

theorem any_occurrences (files : List Entry) (name : String) :
    ((occurrences files false).any fun file => file.name == name) =
      files.any fun file => file.name == name := by
  induction files using List.reverseRecOn with
  | nil => rfl
  | append_singleton files file ih =>
    rw [occurrences_concat, List.any_append, List.any_append, ih]
    cases hSeen : files.any fun earlier => earlier.name == file.name with
    | false => rfl
    | true =>
      cases hName : file.name == name with
      | false => simp [hName]
      | true =>
        obtain rfl := beq_iff_eq.mp hName
        simp [hSeen]

theorem keys_occurrences (files : List Entry) :
    (occurrences files false).map (·.name) = (files.map (·.name)).eraseDups := by
  induction files using List.reverseRecOn with
  | nil => rfl
  | append_singleton files file ih =>
    rw [occurrences_concat, List.map_append, List.map_append, ih, List.map_singleton,
      List.eraseDups_append, any_name, List.removeAll, List.filter_singleton, List.elem_eq_mem]
    cases decide (file.name ∈ files.map (·.name)) <;> rfl

theorem distinct_concat (files : List Entry) (file : Entry) :
    distinct (files ++ [file]) =
      if (distinct files).1.any fun other => other.name == file.name then
        ((distinct files).1, (distinct files).2 ++ [file.name])
      else ((distinct files).1 ++ [file], (distinct files).2) := by
  rw [distinct_eq, distinct_eq, List.foldl_append, List.foldl_cons, List.foldl_nil, keepFirst]
  simp only [List.any_reverse]
  split <;> simp

theorem distinct_eq_occurrences (files : List Entry) :
    distinct files = (occurrences files false, (occurrences files true).map (·.name)) := by
  induction files using List.reverseRecOn with
  | nil => rfl
  | append_singleton files file ih =>
    rw [distinct_concat, ih, occurrences_concat, occurrences_concat]
    simp only [any_occurrences]
    cases files.any fun earlier => earlier.name == file.name <;> simp

theorem firstFiles_eq (files : List Entry) : firstFiles files = occurrences files false := by
  rw [firstFiles, distinct_eq_occurrences]

/-! ## Sizes -/

/-- The size that an inventory has for an entry, which is the declared one where no place is kept
for the entry. -/
def Inventory.sizeFor (rules : RuleTables) (inventory : Inventory) (entry : Entry) : Nat :=
  match roleOf rules entry.name with
  | .script => inventory.scriptSize
  | .manifest => inventory.manifestSize
  | .asset =>
    ((inventory.assets.find? fun asset => asset.path == entry.name).map (·.size)).getD 0
  | .stray | .unsafePath => entry.size

section

variable [Platform]

namespace Reading

/-- The size that an entry is taken in for: the declared one of what is not read, and the measured
one of what is. -/
inductive Costs (reading : Reading) (midway : Inventory) (entry : Entry) : Nat → Prop
  | aside (hRole : roleOf reading.rules entry.name = .unsafePath ∨
      roleOf reading.rules entry.name = .stray) : Costs reading midway entry entry.size
  | uncategorised (hRole : roleOf reading.rules entry.name = .asset)
      (hCategory : reading.category? entry.name = none) : Costs reading midway entry entry.size
  | spent (hRole : roleOf reading.rules entry.name = .asset)
      (hSpent : midway.budgetExhausted = true) : Costs reading midway entry entry.size
  | measured {limit : Int} {content : Content} (hLimit : reading.OpensWithin midway entry limit)
      (hContent : measure reading.payload entry limit = .ok content) :
      Costs reading midway entry content.size

variable {reading : Reading} {inventory next after : Inventory} {entry other : Entry}

theorem costs_assetSize {size : Nat} (hRole : roleOf reading.rules entry.name = .asset)
    (h : reading.assetSize inventory entry = .ok size) : reading.Costs inventory entry size := by
  unfold assetSize at h
  cases hCategory : reading.category? entry.name with
  | none =>
    rw [hCategory] at h
    cases h
    exact .uncategorised hRole hCategory
  | some category =>
    simp only [hCategory] at h
    cases hSpent : inventory.budgetExhausted with
    | true =>
      simp only [decompresses, hCategory, hSpent] at h
      cases h
      exact .spent hRole hSpent
    | false =>
      simp only [decompresses, hCategory, hSpent, Option.isSome_some, Bool.not_false,
        Bool.and_self, if_true] at h
      obtain ⟨limit, hLimit, h⟩ := Except.bind_eq_ok h
      obtain ⟨content, hContent, h⟩ := Except.bind_eq_ok h
      cases h
      refine .measured ?_ hContent
      rw [OpensWithin, hRole]
      exact ⟨hSpent, category, hCategory, require_eq_ok_iff.mp hLimit⟩

omit [Platform] in
theorem find?_assetOf (assets : List Asset) (size : Nat)
    (hNew : entry.name ∉ assets.map (·.path)) :
    (assets ++ [reading.assetOf entry size]).find? (fun asset => asset.path == entry.name) =
      some (reading.assetOf entry size) := by
  have hNone : assets.find? (fun asset => asset.path == entry.name) = none := by
    rw [List.find?_eq_none]
    intro asset hAsset hPath
    exact hNew (List.mem_map.mpr ⟨asset, hAsset, beq_iff_eq.mp hPath⟩)
  rw [List.find?_append, hNone, Option.none_or, List.find?_singleton]
  simp [assetOf]

theorem Adds.sizeFor_self (h : reading.Adds inventory entry next)
    (hNew : entry.name ∉ inventory.assets.map (·.path)) :
    next.totalSize = inventory.totalSize + next.sizeFor reading.rules entry ∧
      reading.Costs inventory entry (next.sizeFor reading.rules entry) := by
  unfold Inventory.sizeFor
  cases h with
  | aside hRole =>
    rcases hRole with hRole | hRole
    · rw [hRole]
      exact ⟨rfl, .aside (.inl hRole)⟩
    · rw [hRole]
      exact ⟨rfl, .aside (.inr hRole)⟩
  | script hRole hLimit hContent =>
    rw [hRole]
    refine ⟨rfl, .measured ?_ hContent⟩
    rw [OpensWithin, hRole]
    exact hLimit
  | manifest hRole hLimit hContent =>
    rw [hRole]
    refine ⟨rfl, .measured ?_ hContent⟩
    rw [OpensWithin, hRole]
    exact hLimit
  | asset hRole hSize =>
    rw [hRole]
    simp only [withAsset, charge, find?_assetOf _ _ hNew]
    exact ⟨rfl, costs_assetSize hRole hSize⟩

theorem Adds.sizeFor_other (h : reading.Adds inventory other next)
    (hName : other.name ≠ entry.name) :
    next.sizeFor reading.rules entry = inventory.sizeFor reading.rules entry ∧
      (roleOf reading.rules entry.name = .script → next.script = inventory.script) := by
  unfold Inventory.sizeFor
  cases h with
  | aside => exact ⟨rfl, fun _ => rfl⟩
  | script hRole =>
    have hOther : roleOf reading.rules entry.name ≠ .script := by
      intro hSame
      exact hName ((roleOf_script hRole).trans (roleOf_script hSame).symm)
    refine ⟨?_, fun hSame => absurd hSame hOther⟩
    split
    case h_1 hSame => exact absurd hSame hOther
    all_goals rfl
  | manifest hRole =>
    refine ⟨?_, fun _ => rfl⟩
    split
    case h_2 hSame =>
      exact absurd ((roleOf_manifest hRole).trans (roleOf_manifest hSame).symm) hName
    all_goals rfl
  | asset =>
    refine ⟨?_, fun _ => rfl⟩
    split
    case h_3 =>
      simp only [withAsset, charge, List.find?_append, List.find?_singleton]
      simp [assetOf, hName]
    all_goals rfl

theorem Takes.sizeFor_other {entries : List Entry} (h : reading.Takes inventory entries after)
    (hName : entry.name ∉ entries.map (·.name)) :
    after.sizeFor reading.rules entry = inventory.sizeFor reading.rules entry ∧
      (roleOf reading.rules entry.name = .script → after.script = inventory.script) := by
  induction h with
  | nil inventory => exact ⟨rfl, fun _ => rfl⟩
  | cons hStep _ ih =>
    rw [List.map_cons, List.mem_cons, not_or] at hName
    obtain ⟨hSize, hScript⟩ := (takeIn_ok hStep).2.sizeFor_other (Ne.symm hName.1)
    obtain ⟨hSizes, hScripts⟩ := ih hName.2
    exact ⟨hSizes.trans hSize, fun hRole => (hScripts hRole).trans (hScript hRole)⟩

theorem Adds.paths (h : reading.Adds inventory entry next) :
    List.Sublist (next.assets.map (·.path)) (inventory.assets.map (·.path) ++ [entry.name]) := by
  cases h with
  | aside => exact List.sublist_append_left _ _
  | script => exact List.sublist_append_left _ _
  | manifest => exact List.sublist_append_left _ _
  | asset =>
    simp only [withAsset, charge, List.map_append, List.map_cons, List.map_nil, assetOf]
    exact List.Sublist.refl _

theorem Takes.totalSize {entries : List Entry} (h : reading.Takes inventory entries after)
    (hNames : (inventory.assets.map (·.path) ++ entries.map (·.name)).Nodup) :
    after.totalSize = inventory.totalSize + (entries.map (after.sizeFor reading.rules)).sum := by
  induction h with
  | nil inventory => rfl
  | @cons inventory next after entry entries hStep hRest ih =>
    have hAdds := (takeIn_ok hStep).2
    rw [List.map_cons, List.append_cons] at hNames
    have hOld : (inventory.assets.map (·.path) ++ [entry.name]).Nodup :=
      (List.sublist_append_left _ _).nodup hNames
    have hNew : entry.name ∉ inventory.assets.map (·.path) := by
      intro hMem
      exact List.disjoint_of_nodup_append hOld hMem List.mem_cons_self
    have hLater : entry.name ∉ entries.map (·.name) := by
      intro hMem
      exact List.disjoint_of_nodup_append hNames (List.mem_append_right _ List.mem_cons_self) hMem
    have hTotal := (hAdds.sizeFor_self hNew).1
    have hSum := ih ((hAdds.paths.append_right _).nodup hNames)
    rw [List.map_cons, List.sum_cons, (hRest.sizeFor_other hLater).1, hSum, hTotal]
    omega

end Reading

/-! ## One file in its turn -/

theorem Inventories.turn {rules : RuleTables} {payload : ByteArray} {budget : Int}
    {files before behind : List Entry} {entry : Entry} {inventory : Inventory}
    (h : Inventories rules payload budget files inventory)
    (hOrder : readingOrder rules files = before ++ entry :: behind) :
    ∃ midway next, (readingOf rules payload budget files).Takes (blankOf rules files) before midway ∧
      (readingOf rules payload budget files).Adds midway entry next ∧
      (readingOf rules payload budget files).Takes next behind inventory ∧
      entry.name ∉ midway.assets.map (·.path) ∧ entry.name ∉ behind.map (·.name) := by
  have hNames : ((before ++ entry :: behind).map (·.name)).Nodup := by
    rw [← hOrder]
    exact readingOrder_nodup rules files
  rw [List.map_append, List.map_cons] at hNames
  have hTakes : (readingOf rules payload budget files).Takes (blankOf rules files)
      (before ++ entry :: behind) inventory := hOrder ▸ h
  obtain ⟨midway, hBefore, hBehind⟩ := hTakes.append
  cases hBehind with
  | @cons _ next _ _ _ hStep hRest =>
    refine ⟨midway, next, hBefore, (Reading.takeIn_ok hStep).2, hRest, ?_, ?_⟩
    · intro hMem
      have hAccount := (Reading.account_blank (readingOf rules payload budget files) _ _).walk
        hBefore
      rw [hAccount.paths, List.nil_append] at hMem
      have hOld : entry.name ∈ before.map (·.name) :=
        (List.filter_sublist.map _).subset hMem
      exact List.disjoint_of_nodup_append hNames hOld List.mem_cons_self
    · exact (List.nodup_cons.mp (List.nodup_append.mp hNames).2.1).1

theorem Inventories.costs {rules : RuleTables} {payload : ByteArray} {budget : Int}
    {files before behind : List Entry} {entry : Entry} {inventory : Inventory}
    (h : Inventories rules payload budget files inventory)
    (hOrder : readingOrder rules files = before ++ entry :: behind) :
    ∃ midway, (readingOf rules payload budget files).Takes (blankOf rules files) before midway ∧
      (readingOf rules payload budget files).Costs midway entry (inventory.sizeFor rules entry) := by
  obtain ⟨midway, next, hBefore, hAdds, hBehind, hNew, hLater⟩ := h.turn hOrder
  refine ⟨midway, hBefore, ?_⟩
  have hSize := (hBehind.sizeFor_other hLater).1
  have hCosts := (hAdds.sizeFor_self hNew).2
  rw [← hSize] at hCosts
  exact hCosts

theorem Inventories.totalSize {rules : RuleTables} {payload : ByteArray} {budget : Int}
    {files : List Entry} {inventory : Inventory}
    (h : Inventories rules payload budget files inventory) :
    inventory.totalSize =
      ((occurrences files false).map (inventory.sizeFor rules)).sum := by
  have hTotal := Reading.Takes.totalSize h (readingOrder_nodup rules files)
  rw [hTotal, ← firstFiles_eq, ← ((readingOrder_perm rules files).map _).sum_nat]
  exact Nat.zero_add _

omit [Platform] in
/-- The assets stand in the order of the archive, though the script and the manifest are taken in
first. -/
theorem filter_leadingFirst (rules : RuleTables) (entries : List Entry) :
    (leadingFirst rules entries).filter (fun entry => roleOf rules entry.name == .asset) =
      entries.filter fun entry => roleOf rules entry.name == .asset := by
  have hLeading : ∀ entry, roleOf rules entry.name = .asset → isLeading rules entry = false := by
    intro entry hRole
    rw [isLeading, hRole]
  rw [leadingFirst, List.filter_append, List.filter_filter, List.filter_filter]
  have hNone : entries.filter (fun entry =>
      roleOf rules entry.name == .asset && isLeading rules entry) = [] := by
    rw [List.filter_eq_nil_iff]
    intro entry _ hBoth
    rw [Bool.and_eq_true, beq_iff_eq] at hBoth
    rw [hLeading entry hBoth.1] at hBoth
    cases hBoth.2
  rw [hNone, List.nil_append]
  apply List.filter_congr
  intro entry _
  cases hAsset : roleOf rules entry.name == .asset with
  | false => rfl
  | true => rw [hLeading entry (beq_iff_eq.mp hAsset), Bool.not_false, Bool.and_true]

theorem Inventories.assetPaths {rules : RuleTables} {payload : ByteArray} {budget : Int}
    {files : List Entry} {inventory : Inventory}
    (h : Inventories rules payload budget files inventory) :
    inventory.assets.map (·.path) =
      (inventory.roles.filter fun role => role.2 == .asset).map (·.1) := by
  have hPaths := h.account.paths
  rw [hPaths, h.roles.1, rolesOf, List.filter_map, List.map_map, readingOrder]
  exact congrArg (List.map (·.name)) (filter_leadingFirst rules (firstFiles files))

/-! ## The script -/

/-- What an entry gives that is read to its end, however much it is asked for. -/
def Gives (payload : ByteArray) (entry : Entry) (data : ByteArray) : Prop :=
  ∃ wanted, Member.deliver payload entry wanted = ⟨data, none⟩ ∧ data.size < wanted

theorem Gives.content {payload : ByteArray} {entry : Entry} {data : ByteArray}
    (h : Gives payload entry data) (hNative : entry.IsNative) : data = entry.content payload := by
  obtain ⟨wanted, hDelivery, hShort⟩ := h
  have hSound : (Member.deliver payload entry wanted).fault = none := by rw [hDelivery]
  have hLess : (Member.deliver payload entry wanted).data.size < wanted := by
    rw [hDelivery]
    exact hShort
  have hComplete := Member.deliver_complete hSound hLess
  rw [hDelivery] at hComplete
  exact hComplete.content hNative

/-- A stored or deflated entry that gives no more than the limit allows gives the same to every
reader. -/
theorem Gives.readWhole {payload : ByteArray} {entry : Entry} {limit : Int} {data : ByteArray}
    {content : Content} (h : Gives payload entry data) (hNative : entry.IsNative)
    (hFits : (data.size : Int) ≤ limit) (hContent : measure payload entry limit = .ok content) :
    ReadWhole payload entry limit data := by
  have hSound := (measure_ok hContent).1
  have hMost := Member.deliver_size_le_content payload hNative (probe limit)
  rw [← h.content hNative] at hMost
  have hWithin : (bytesOf payload entry limit : Int) ≤ limit := by
    simp only [bytesOf]
    omega
  have hWhole := (Member.deliver_complete hSound (lt_probe hWithin)).content hNative
  exact ⟨hSound, by rw [hWhole, h.content hNative], hFits⟩

theorem ReadWhole.measured {payload : ByteArray} {entry : Entry} {limit : Int} {data : ByteArray}
    {content : Content} (h : ReadWhole payload entry limit data)
    (hContent : measure payload entry limit = .ok content) : content.data = some data := by
  obtain ⟨-, ⟨-, hKept⟩ | ⟨hOver, hDropped⟩⟩ := measure_ok hContent
  · rw [hKept, h.whole]
  · have hWithin : (bytesOf payload entry limit : Int) ≤ limit := by
      rw [bytesOf, h.whole]
      exact h.fits
    have hSize := (measure_within hContent hWithin).1
    omega

theorem Inventories.script_measured {rules : RuleTables} {payload : ByteArray} {budget : Int}
    {files : List Entry} {inventory : Inventory}
    (h : Inventories rules payload budget files inventory) {entry : Entry}
    (hEntry : entry ∈ firstFiles files) (hRole : roleOf rules entry.name = .script) :
    ∃ limit content, rules.sizeLimits.get? "script" = some limit ∧
      measure payload entry limit = .ok content ∧ inventory.script = content.data := by
  obtain ⟨before, behind, hOrder⟩ := List.append_of_mem (mem_readingOrder.mpr hEntry)
  obtain ⟨midway, next, -, hAdds, hBehind, -, hLater⟩ := h.turn hOrder
  rw [(hBehind.sizeFor_other hLater).2 hRole]
  cases hAdds with
  | aside hOther => rcases hOther with hOther | hOther <;> cases hRole.symm.trans hOther
  | manifest hOther => cases hRole.symm.trans hOther
  | asset hOther => cases hRole.symm.trans hOther
  | @script limit content _ hLimit hContent => exact ⟨limit, content, hLimit, hContent, rfl⟩

theorem Inventories.script_iff {rules : RuleTables} {payload : ByteArray} {budget : Int}
    {files : List Entry} {inventory : Inventory}
    (h : Inventories rules payload budget files inventory) (data : ByteArray) :
    inventory.script = some data ↔ ∃ entry ∈ occurrences files false,
      roleOf rules entry.name = .script ∧ ∃ limit, rules.sizeLimits.get? "script" = some limit ∧
        ReadWhole payload entry limit data := by
  rw [← firstFiles_eq]
  constructor
  · intro hData
    obtain ⟨-, entry, hEntry, limit, hRole, hLimit, hWhole⟩ := h.account.script data hData
    exact ⟨entry, mem_readingOrder.mp hEntry, hRole, limit, hLimit, hWhole⟩
  · rintro ⟨entry, hEntry, hRole, limit, hLimit, hWhole⟩
    obtain ⟨other, content, hOther, hContent, hScript⟩ := h.script_measured hEntry hRole
    obtain rfl : other = limit := Option.some.inj (hOther.symm.trans hLimit)
    rw [hScript]
    exact hWhole.measured hContent

theorem Inventories.script_of_gives {rules : RuleTables} {payload : ByteArray} {budget : Int}
    {files : List Entry} {inventory : Inventory}
    (h : Inventories rules payload budget files inventory) {entry : Entry}
    (hEntry : entry ∈ occurrences files false) (hRole : roleOf rules entry.name = .script)
    (hNative : entry.IsNative) {data : ByteArray} (hGives : Gives payload entry data) {limit : Int}
    (hLimit : rules.sizeLimits.get? "script" = some limit) (hFits : (data.size : Int) ≤ limit) :
    inventory.script = some data := by
  rw [← firstFiles_eq] at hEntry
  obtain ⟨other, content, hOther, hContent, hScript⟩ := h.script_measured hEntry hRole
  obtain rfl : other = limit := Option.some.inj (hOther.symm.trans hLimit)
  rw [hScript]
  exact (hGives.readWhole hNative hFits hContent).measured hContent

/-! ## The whole reading -/

/-- The files of an archive that is read, in their first and later occurrences, the assets among
them, and the sizes that add up to the total. A declared size counts for what is put aside, for an
asset of no category and for an asset behind the budget, the measured size for everything else. The
script is what the first file of its name gives, if that is no more than its ceiling; a stored or
deflated one gives the same however much it is asked for. -/
theorem read_accounts {rules : RuleTables} {payload : ByteArray} {budget : Int}
    {inventory : Inventory} (hRead : (read rules payload budget).finish = .ok (.ok inventory)) :
    ∃ files, Lists rules payload files ∧
      inventory.roles.map (·.1) = (files.map (·.name)).eraseDups ∧
      (∀ role ∈ inventory.roles, role.2 = roleOf rules role.1) ∧
      inventory.duplicates = (occurrences files true).map (·.name) ∧
      inventory.roles.length + inventory.duplicates.length = files.length ∧
      inventory.assets.map (·.path) =
        (inventory.roles.filter fun role => role.2 == .asset).map (·.1) ∧
      (inventory.assets.map (·.path)).Nodup ∧
      inventory.totalSize = ((occurrences files false).map (inventory.sizeFor rules)).sum ∧
      (∀ before entry behind,
        leadingFirst rules (occurrences files false) = before ++ entry :: behind →
        ∃ midway, (readingOf rules payload budget files).Takes (blankOf rules files) before midway ∧
          (readingOf rules payload budget files).Costs midway entry
            (inventory.sizeFor rules entry)) ∧
      (inventory.budgetExhausted = true → budget < inventory.totalSize) ∧
      (∀ data, inventory.script = some data ↔ ∃ entry ∈ occurrences files false,
        roleOf rules entry.name = .script ∧ ∃ limit,
          rules.sizeLimits.get? "script" = some limit ∧ ReadWhole payload entry limit data) ∧
      ∀ entry ∈ occurrences files false, roleOf rules entry.name = .script → entry.IsNative →
        ∀ data, Gives payload entry data → ∀ limit,
          rules.sizeLimits.get? "script" = some limit → (data.size : Int) ≤ limit →
            inventory.script = some data := by
  obtain ⟨files, hLists, hInventory⟩ := finish_read_ok_iff.mp hRead
  have hAccount := hInventory.account
  obtain ⟨hRoles, hDuplicates⟩ := hInventory.roles
  have hKeys : inventory.roles.map (·.1) = (occurrences files false).map (·.name) := by
    rw [hRoles, rolesOf, firstFiles_eq, List.map_map]
    rfl
  refine ⟨files, hLists, ?_, ?_, ?_, ?_, ?_, ?_, hInventory.totalSize, ?_, hAccount.spent,
    hInventory.script_iff, fun entry hEntry hRole hNative data hGives limit hLimit hFits =>
      hInventory.script_of_gives hEntry hRole hNative hGives hLimit hFits⟩
  · rw [hKeys, keys_occurrences]
  · intro role hRole
    rw [hRoles] at hRole
    obtain ⟨entry, -, rfl⟩ := List.mem_map.mp hRole
    rfl
  · rw [hDuplicates, distinct_eq_occurrences]
  · rw [← occurrences_length files, hDuplicates, hRoles, rolesOf, firstFiles_eq,
      distinct_eq_occurrences, List.length_map, List.length_map]
  · exact hInventory.assetPaths
  · have hNames : (inventory.roles.map (·.1)).Nodup := by
      rw [hKeys, ← firstFiles_eq]
      exact (firstFiles_nodup files).1
    rw [hInventory.assetPaths]
    exact (List.filter_sublist.map _).nodup hNames
  · intro before entry behind hOrder
    rw [← firstFiles_eq] at hOrder
    exact hInventory.costs hOrder

/-- What some fields of the inventory are when the files of a payload are walked over. -/
theorem exists_read_of_view {α : Type} {view : Inventory → α} {value : α} {rules : RuleTables}
    {payload : ByteArray} {budget : Int} {files : List Entry} (hLists : Lists rules payload files)
    (h : ((inventoryOf rules payload budget files).finish.toOption.bind fun result =>
      result.toOption.map view) = some value) :
    ∃ inventory, (read rules payload budget).finish = .ok (.ok inventory) ∧
      view inventory = value := by
  obtain ⟨result, hResult, hOk⟩ := Option.bind_eq_some_iff.mp h
  obtain ⟨inventory, hInventory, hView⟩ := Option.map_eq_some_iff.mp hOk
  refine ⟨inventory, ?_, hView⟩
  rw [finish_read_of_lists hLists, Except.eq_ok_of_toOption hResult,
    Except.eq_ok_of_toOption hInventory]

end

/-- Two scripts of one name, the first one beyond a ceiling of one byte, and a manifest of five bytes
under a declared size of ten. -/
def ledgerListing : List UInt8 :=
  [80, 75, 1, 2, 20, 0, 20, 0, 0, 0, 0, 0, 0, 0, 0, 0, 109, 72, 131, 158, 2, 0, 0, 0, 2, 0, 0, 0, 7,
   0, 0, 0, 0, 0, 0, 0, 0, 0, 0, 0, 0, 0, 0, 0, 0, 0, 103, 97, 109, 101, 46, 106, 115, 80, 75, 1, 2,
   20, 0, 20, 0, 0, 0, 0, 0, 0, 0, 0, 0, 131, 22, 220, 140, 1, 0, 0, 0, 1, 0, 0, 0, 7, 0, 0, 0, 0,
   0, 0, 0, 0, 0, 0, 0, 0, 0, 39, 0, 0, 0, 103, 97, 109, 101, 46, 106, 115, 80, 75, 1, 2, 20, 0, 20,
   0, 0, 0, 0, 0, 0, 0, 0, 0, 134, 166, 16, 54, 5, 0, 0, 0, 10, 0, 0, 0, 13, 0, 0, 0, 0, 0, 0, 0, 0,
   0, 0, 0, 0, 0, 77, 0, 0, 0, 109, 97, 110, 105, 102, 101, 115, 116, 46, 106, 115, 111, 110]

def ledgerPayload : ByteArray :=
  ⟨([80, 75, 3, 4, 20, 0, 0, 0, 0, 0, 0, 0, 0, 0, 109, 72, 131, 158, 2, 0, 0, 0, 2, 0, 0, 0, 7, 0,
       0, 0, 103, 97, 109, 101, 46, 106, 115, 97, 98, 80, 75, 3, 4, 20, 0, 0, 0, 0, 0, 0, 0, 0, 0,
       131, 22, 220, 140, 1, 0, 0, 0, 1, 0, 0, 0, 7, 0, 0, 0, 103, 97, 109, 101, 46, 106, 115, 120,
       80, 75, 3, 4, 20, 0, 0, 0, 0, 0, 0, 0, 0, 0, 134, 166, 16, 54, 5, 0, 0, 0, 10, 0, 0, 0, 13,
       0, 0, 0, 109, 97, 110, 105, 102, 101, 115, 116, 46, 106, 115, 111, 110, 104, 101, 108, 108,
       111] ++
    ledgerListing ++
    [80, 75, 5, 6, 0, 0, 0, 0, 3, 0, 3, 0, 165, 0, 0, 0, 125, 0, 0, 0, 0, 0]).toArray⟩

def largeScript : Entry := ⟨"game.js", "game.js", 0, 0, 2659403885, 2, 2, 0, 39⟩

def laterScript : Entry := ⟨"game.js", "game.js", 0, 0, 2363233923, 1, 1, 39, 77⟩

def lateManifest : Entry := ⟨"manifest.json", "manifest.json", 0, 0, 907060870, 5, 10, 77, 125⟩

def ledgerFiles : List Entry := [largeScript, laterScript, lateManifest]

def ledgerRules : RuleTables :=
  { RuleTables.standard with sizeLimits := [("html_2d", 1), ("html_3d", 1), ("script", 1)] }

theorem ledgerPayload_entries : Directory.read ledgerPayload = .ok ledgerFiles := by
  have hPlace : (Directory.place ledgerPayload).toOption = some ⟨125, 165, 0⟩ := by decide +kernel
  have hListed : (Directory.readEntries ⟨ledgerListing.toArray⟩ 0 0).toOption =
      some (ledgerFiles.map fun entry => { entry with bound := 0 }) := by
    decide +kernel
  exact Directory.read_of_listing hPlace (by decide +kernel) hListed (by decide)
    (by decide +kernel)

theorem ledgerPayload_lists : Lists ledgerRules ledgerPayload ledgerFiles where
  listed := ⟨ledgerFiles, ledgerPayload_entries, by decide, by decide⟩
  few := by decide

section

attribute [local instance] Platform.bare

theorem ledgerPayload_read : ∃ inventory,
    (read ledgerRules ledgerPayload 1).finish = .ok (.ok inventory) ∧ inventory.script = none ∧
      inventory.manifestSize = 5 ∧ inventory.totalSize = 7 := by
  obtain ⟨inventory, hRead, hFound⟩ := exists_read_of_view ledgerPayload_lists
    (by decide +kernel :
      ((inventoryOf ledgerRules ledgerPayload 1 ledgerFiles).finish.toOption.bind fun result =>
        result.toOption.map fun inventory =>
          (inventory.script, inventory.manifestSize, inventory.totalSize)) = some (none, 5, 7))
  obtain ⟨hScript, hSizes⟩ := Prod.mk.inj hFound
  obtain ⟨hManifest, hTotal⟩ := Prod.mk.inj hSizes
  exact ⟨inventory, hRead, hScript, hManifest, hTotal⟩

theorem Gives.of_bytes {payload : ByteArray} {entry : Entry} {wanted : Nat} {bytes : Array UInt8}
    (hData : (Member.deliver payload entry wanted).data.data = bytes)
    (hFault : (Member.deliver payload entry wanted).fault = none) (hShort : bytes.size < wanted) :
    Gives payload entry ⟨bytes⟩ := by
  subst hData
  exact ⟨wanted, by rw [← hFault], hShort⟩

/-- A manifest behind the budget is not taken at its declared size, and a script that would fit is
not taken where another one of its name comes first. -/
theorem ledgerPayload_departs : ∃ inventory,
    (read ledgerRules ledgerPayload 1).finish = .ok (.ok inventory) ∧
      (∃ midway, (readingOf ledgerRules ledgerPayload 1 ledgerFiles).Takes
          (blankOf ledgerRules ledgerFiles) [largeScript] midway ∧
        midway.budgetExhausted = true ∧
        readingOrder ledgerRules ledgerFiles = [largeScript] ++ lateManifest :: [] ∧
        inventory.sizeFor ledgerRules lateManifest ≠ lateManifest.size) ∧
      inventory.totalSize ≠ largeScript.size + lateManifest.size ∧
      ∃ data, Gives ledgerPayload laterScript data ∧
        roleOf ledgerRules laterScript.name = .script ∧
        ledgerRules.sizeLimits.get? "script" = some 1 ∧ (data.size : Int) ≤ 1 ∧
        inventory.script ≠ some data := by
  obtain ⟨inventory, hRead, hScript, hManifest, hTotal⟩ := ledgerPayload_read
  have hSpent : ((readingOf ledgerRules ledgerPayload 1 ledgerFiles).takeIn
      (blankOf ledgerRules ledgerFiles) largeScript).toOption.map (·.budgetExhausted) =
        some true := by decide +kernel
  obtain ⟨midway, hStep, hExhausted⟩ := Option.map_eq_some_iff.mp hSpent
  have hRole : roleOf ledgerRules lateManifest.name = .manifest := by decide
  have hGiven : Gives ledgerPayload laterScript ⟨#[120]⟩ :=
    .of_bytes (by decide +kernel : (Member.deliver _ _ 2).data.data = _) (by decide +kernel)
      (by decide)
  have hSize : inventory.sizeFor ledgerRules lateManifest = 5 := by
    rw [Inventory.sizeFor, hRole]
    exact hManifest
  refine ⟨inventory, hRead, ⟨midway, .cons (Except.eq_ok_of_toOption hStep) (.nil _), hExhausted,
    by decide, ?_⟩, ?_, ⟨#[120]⟩, hGiven, by decide, by decide, by decide, ?_⟩
  · rw [hSize]
    decide
  · rw [hTotal]
    decide
  · rw [hScript]
    intro hSame
    cases hSame

theorem ledgerPayload_accounted : ∃ inventory,
    (read ledgerRules ledgerPayload 1).finish = .ok (.ok inventory) ∧
      ∃ files, Lists ledgerRules ledgerPayload files ∧
        inventory.roles.map (·.1) = (files.map (·.name)).eraseDups ∧
        inventory.duplicates = (occurrences files true).map (·.name) ∧
        ((occurrences files false).map (inventory.sizeFor ledgerRules)).sum = 7 := by
  obtain ⟨inventory, hRead, -, -, hTotal⟩ := ledgerPayload_read
  obtain ⟨files, hLists, hKeys, -, hLater, -, -, -, hSum, -⟩ := read_accounts hRead
  exact ⟨inventory, hRead, files, hLists, hKeys, hLater, hSum.symm.trans hTotal⟩

end

end SubmissionGate.Bundle
