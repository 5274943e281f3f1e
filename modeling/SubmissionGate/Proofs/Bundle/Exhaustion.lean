import Mathlib.Algebra.GroupWithZero.Nat
import Mathlib.Data.List.DropRight
import SubmissionGate.Proofs.Bundle.Ledger

/-!
# When the budget counts as spent

The total of a reading grows with every file, but it is held against the budget only behind a file
that is not put aside. So a reading knows of a budget that is spent up to the last of these files.
What was put aside since then is overlooked: an asset may still be opened beyond the budget, and a
reading may end beyond it without saying so.
-/

namespace SubmissionGate.Bundle

open Archive

def isAside (rules : RuleTables) (entry : Entry) : Bool :=
  match roleOf rules entry.name with
  | .unsafePath | .stray => true
  | _ => false

/-- The entries up to the last one behind which the total was held against the budget. -/
def weighed (rules : RuleTables) (entries : List Entry) : List Entry :=
  entries.rdropWhile (isAside rules)

theorem weighed_concat_aside {rules : RuleTables} {entry : Entry} (entries : List Entry)
    (h : isAside rules entry = true) : weighed rules (entries ++ [entry]) = weighed rules entries :=
  List.rdropWhile_concat_pos _ _ _ h

theorem weighed_concat {rules : RuleTables} {entry : Entry} (entries : List Entry)
    (h : isAside rules entry = false) : weighed rules (entries ++ [entry]) = entries ++ [entry] :=
  List.rdropWhile_concat_neg _ _ _ (by simp [h])

theorem mem_of_mem_weighed {rules : RuleTables} {entries : List Entry} {entry : Entry}
    (h : entry ∈ weighed rules entries) : entry ∈ entries :=
  (List.rdropWhile_prefix _ _).subset h

theorem weighed_eq_self {rules : RuleTables} {entries : List Entry}
    (h : ∀ entry ∈ entries, isAside rules entry = false) : weighed rules entries = entries := by
  refine List.rdropWhile_eq_self_iff.mpr fun hSome => ?_
  simp [h _ (List.getLast_mem hSome)]

/-- The size that an inventory has for some entries together. -/
def Inventory.totalOf (rules : RuleTables) (inventory : Inventory) (entries : List Entry) : Nat :=
  (entries.map (inventory.sizeFor rules)).sum

/-- Some entries go beyond the budget, and not because of those that were held against it. -/
def Inventory.Overlooks (rules : RuleTables) (inventory : Inventory) (budget : Int)
    (entries : List Entry) : Prop :=
  budget < inventory.totalOf rules entries ∧
    (weighed rules entries = [] ∨
      (inventory.totalOf rules (weighed rules entries) : Int) ≤ budget)

theorem Inventory.not_overlooks {rules : RuleTables} {inventory : Inventory} {budget : Int}
    {entries : List Entry} (hBudget : 0 ≤ budget)
    (hEntries : ∀ entry ∈ entries, isAside rules entry = false) :
    ¬inventory.Overlooks rules budget entries := by
  rintro ⟨hOver, hNone | hWithin⟩
  · rw [weighed_eq_self hEntries] at hNone
    rw [hNone, totalOf] at hOver
    simp at hOver
    omega
  · rw [weighed_eq_self hEntries] at hWithin
    omega

namespace Reading

variable [Platform] {reading : Reading} {inventory next after : Inventory} {entry : Entry}

/-! ## The flag -/

theorem Adds.exhausted_aside (h : reading.Adds inventory entry next)
    (hAside : isAside reading.rules entry = true) :
    next.budgetExhausted = inventory.budgetExhausted := by
  unfold isAside at hAside
  cases h with
  | aside => rfl
  | script hRole => simp [hRole] at hAside
  | manifest hRole => simp [hRole] at hAside
  | asset hRole => simp [hRole] at hAside

theorem Adds.exhausted_weighed (h : reading.Adds inventory entry next)
    (hWeighed : isAside reading.rules entry = false) :
    next.budgetExhausted = true ↔
      inventory.budgetExhausted = true ∨ reading.budget < next.totalSize := by
  unfold isAside at hWeighed
  cases h with
  | aside hRole => rcases hRole with hRole | hRole <;> simp [hRole] at hWeighed
  | script => exact charge_exhausted _ _ _
  | manifest => exact charge_exhausted _ _ _
  | asset => exact charge_exhausted _ _ _

theorem Takes.totalOf {roles : Table Role} {duplicates : List String} {entries : List Entry}
    (h : reading.Takes (.blank roles duplicates) entries after)
    (hNames : (entries.map (·.name)).Nodup) :
    after.totalSize = after.totalOf reading.rules entries := by
  have hTotal := Takes.totalSize h hNames
  rw [hTotal]
  exact Nat.zero_add _

/-- A reading knows of a spent budget by the entries up to the last one that it did not put
aside. -/
theorem Takes.exhausted_iff {roles : Table Role} {duplicates : List String} {entries : List Entry}
    (h : reading.Takes (.blank roles duplicates) entries after)
    (hNames : (entries.map (·.name)).Nodup) :
    after.budgetExhausted = true ↔ weighed reading.rules entries ≠ [] ∧
      reading.budget < after.totalOf reading.rules (weighed reading.rules entries) := by
  induction entries using List.reverseRecOn generalizing after with
  | nil =>
    cases h
    simp [Inventory.blank, weighed]
  | append_singleton entries entry ih =>
    have hTotal := h.totalOf hNames
    have hSpent := ((account_blank reading roles duplicates).walk h).spent
    obtain ⟨midway, hBefore, hLast⟩ := h.append
    rw [List.map_append, List.map_singleton] at hNames
    have hNew : entry.name ∉ entries.map (·.name) := by
      intro hMem
      exact List.disjoint_of_nodup_append hNames hMem List.mem_cons_self
    have hKnown := ih hBefore ((List.sublist_append_left _ _).nodup hNames)
    cases hLast with
    | cons hStep hRest =>
      cases hRest
      have hAdds := (takeIn_ok hStep).2
      cases hAside : isAside reading.rules entry with
      | true =>
        have hSame : after.totalOf reading.rules (weighed reading.rules entries) =
            midway.totalOf reading.rules (weighed reading.rules entries) := by
          refine congrArg List.sum (List.map_congr_left fun other hOther => ?_)
          refine (hAdds.sizeFor_other fun hName => hNew ?_).1
          exact hName ▸ List.mem_map_of_mem (mem_of_mem_weighed hOther)
        rw [weighed_concat_aside _ hAside, hAdds.exhausted_aside hAside, hSame]
        exact hKnown
      | false =>
        rw [weighed_concat _ hAside, ← hTotal]
        constructor
        · intro hExhausted
          exact ⟨List.concat_ne_nil _ _, hSpent hExhausted⟩
        · rintro ⟨-, hOver⟩
          exact (hAdds.exhausted_weighed hAside).mpr (.inr hOver)

theorem Takes.unaware_iff {roles : Table Role} {duplicates : List String} {entries : List Entry}
    (h : reading.Takes (.blank roles duplicates) entries after)
    (hNames : (entries.map (·.name)).Nodup) :
    reading.budget < after.totalSize ∧ after.budgetExhausted = false ↔
      after.Overlooks reading.rules reading.budget entries := by
  rw [h.totalOf hNames, ← Bool.not_eq_true, h.exhausted_iff hNames, not_and_or, not_not,
    Int.not_lt]
  rfl

/-! ## Opened assets -/

/-- Nothing but a spent budget keeps an asset from being opened. -/
def Readable (reading : Reading) (entry : Entry) : Prop :=
  suspicion? reading.rules entry = none ∧ ∃ category limit,
    reading.category? entry.name = some category ∧
      reading.rules.assetLimits.get? category = some limit

theorem gauge_opens_iff {table : Table Int} {key : String} {fill : Content → Inventory} :
    (reading.gauge entry table key fill).openings ≠ [] ↔ ∃ limit, table.get? key = some limit := by
  cases hLimit : table.get? key with
  | none => simp [gauge_openings_of_none hLimit]
  | some limit => simp [gauge_openings hLimit]

theorem asset_opened_iff (hRole : roleOf reading.rules entry.name = .asset) :
    (reading.takeInTraced inventory entry).openings ≠ [] ↔
      reading.Readable entry ∧ inventory.budgetExhausted = false := by
  unfold takeInTraced Readable
  cases hSuspicion : suspicion? reading.rules entry with
  | some fault => simp [Traced.still]
  | none =>
    simp only [hRole]
    cases hCategory : reading.category? entry.name with
    | none => simp [Traced.still]
    | some category =>
      simp only [decompresses, hCategory, Option.isSome_some, Bool.true_and]
      cases inventory.budgetExhausted with
      | true => simp [Traced.still]
      | false =>
        rw [Bool.not_false, if_pos rfl, gauge_opens_iff]
        simp

/-- An asset is opened beyond the budget where nothing but the budget would keep it from that and
what was put aside before is overlooked. -/
theorem Takes.opened_beyond_iff {roles : Table Role} {duplicates : List String}
    {before : List Entry} (h : reading.Takes (.blank roles duplicates) before inventory)
    (hNames : (before.map (·.name)).Nodup) (hRole : roleOf reading.rules entry.name = .asset) :
    (reading.takeInTraced inventory entry).openings ≠ [] ∧
        reading.budget < inventory.totalSize ↔
      reading.Readable entry ∧ inventory.Overlooks reading.rules reading.budget before := by
  rw [asset_opened_iff hRole, ← h.unaware_iff hNames]
  constructor
  · rintro ⟨⟨hReadable, hFresh⟩, hOver⟩
    exact ⟨hReadable, hOver, hFresh⟩
  · rintro ⟨hReadable, hOver, hFresh⟩
    exact ⟨⟨hReadable, hFresh⟩, hOver⟩

end Reading

/-! ## The whole reading -/

theorem readingOrder_subset {rules : RuleTables} {files : List Entry} {entry : Entry}
    (h : entry ∈ readingOrder rules files) : entry ∈ files := by
  rw [mem_readingOrder, firstFiles_eq] at h
  obtain ⟨place, hPlace, rfl⟩ := List.mem_map.mp h
  exact List.fst_mem_of_mem_zipIdx (List.mem_of_mem_filter hPlace)

theorem asset_turn [Platform] {rules : RuleTables} {payload : ByteArray} {budget : Int}
    {files before behind : List Entry} {entry : Entry} {midway : Inventory}
    (hOrder : readingOrder rules files = before ++ entry :: behind)
    (hTakes : (readingOf rules payload budget files).Takes (blankOf rules files) before midway)
    (hRole : roleOf rules entry.name = .asset) :
    midway.totalSize = midway.totalOf rules before ∧
      (((readingOf rules payload budget files).takeInTraced midway entry).openings ≠ [] ↔
        (readingOf rules payload budget files).Readable entry ∧ midway.budgetExhausted = false) ∧
      (((readingOf rules payload budget files).takeInTraced midway entry).openings ≠ [] ∧
          budget < midway.totalSize ↔
        (readingOf rules payload budget files).Readable entry ∧
          midway.Overlooks rules budget before) := by
  have hNames := readingOrder_nodup rules files
  rw [hOrder, List.map_append] at hNames
  have hBefore := (List.sublist_append_left _ _).nodup hNames
  exact ⟨hTakes.totalOf hBefore, Reading.asset_opened_iff hRole,
    hTakes.opened_beyond_iff hBefore hRole⟩

theorem flag_at_end [Platform] {rules : RuleTables} {payload : ByteArray} {budget : Int}
    {files : List Entry} {inventory : Inventory} (hLists : Lists rules payload files)
    (hRead : (read rules payload budget).finish = .ok (.ok inventory)) :
    (inventory.budgetExhausted = true → budget < inventory.totalSize) ∧
      (budget < inventory.totalSize ∧ inventory.budgetExhausted = false ↔
        inventory.Overlooks rules budget (readingOrder rules files)) := by
  rw [finish_read_of_lists hLists, inventoryOf_eq] at hRead
  have hTakes := Reading.finish_takeAll_ok_iff.mp hRead
  exact ⟨Inventories.account hTakes |>.spent, hTakes.unaware_iff (readingOrder_nodup rules files)⟩

/-- A reading opens an asset beyond the budget exactly where it overlooks what it has put aside,
and in the same way a budget that is spent is not said to be at the end. -/
theorem read_overlooks [Platform] {rules : RuleTables} {payload : ByteArray} {files : List Entry}
    (hLists : Lists rules payload files) (budget : Int) :
    let reading := readingOf rules payload budget files
    readTraced rules payload budget =
      reading.walkTraced (blankOf rules files) (readingOrder rules files) ∧
    (∀ before entry behind midway, readingOrder rules files = before ++ entry :: behind →
      reading.Takes (blankOf rules files) before midway → roleOf rules entry.name = .asset →
      midway.totalSize = midway.totalOf rules before ∧
      ((reading.takeInTraced midway entry).openings ≠ [] ↔
        reading.Readable entry ∧ midway.budgetExhausted = false) ∧
      ((reading.takeInTraced midway entry).openings ≠ [] ∧ budget < midway.totalSize ↔
        reading.Readable entry ∧ midway.Overlooks rules budget before)) ∧
    (∀ inventory, (read rules payload budget).finish = .ok (.ok inventory) →
      (inventory.budgetExhausted = true → budget < inventory.totalSize) ∧
      (budget < inventory.totalSize ∧ inventory.budgetExhausted = false ↔
        inventory.Overlooks rules budget (readingOrder rules files))) ∧
    (0 ≤ budget → (∀ file ∈ files, isAside rules file = false) →
      (∀ before entry behind midway, readingOrder rules files = before ++ entry :: behind →
        reading.Takes (blankOf rules files) before midway → roleOf rules entry.name = .asset →
        (reading.takeInTraced midway entry).openings ≠ [] → (midway.totalSize : Int) ≤ budget) ∧
      ∀ inventory, (read rules payload budget).finish = .ok (.ok inventory) →
        (inventory.budgetExhausted = true ↔ budget < inventory.totalSize)) := by
  intro reading
  refine ⟨readTraced_of_lists hLists budget, ?_, ?_, ?_⟩
  · intro before entry behind midway hOrder hTakes hRole
    exact asset_turn hOrder hTakes hRole
  · intro inventory hRead
    exact flag_at_end hLists hRead
  · intro hBudget hFiles
    have hOrdered : ∀ entry ∈ readingOrder rules files, isAside rules entry = false := by
      intro entry hEntry
      exact hFiles entry (readingOrder_subset hEntry)
    constructor
    · intro before entry behind midway hOrder hTakes hRole hOpens
      have hNone : ¬midway.Overlooks rules budget before := by
        apply Inventory.not_overlooks hBudget
        intro other hOther
        exact hOrdered other (hOrder ▸ List.mem_append_left _ hOther)
      apply Int.not_lt.mp
      intro hOver
      exact hNone ((asset_turn hOrder hTakes hRole).2.2.mp ⟨hOpens, hOver⟩).2
    · intro inventory hRead
      obtain ⟨hSpent, hUnaware⟩ := flag_at_end hLists hRead
      have hNone : ¬inventory.Overlooks rules budget (readingOrder rules files) :=
        Inventory.not_overlooks hBudget hOrdered
      constructor
      · exact hSpent
      · intro hOver
        by_contra hFresh
        exact hNone (hUnaware.mp ⟨hOver, Bool.not_eq_true _ |>.mp hFresh⟩)

/-- An asset of five bytes under a declared size of ten, between two files that are put aside. -/
def asideListing : List UInt8 :=
  [80, 75, 1, 2, 20, 0, 20, 0, 0, 0, 0, 0, 0, 0, 0, 0, 134, 166, 16, 54, 5, 0, 0, 0, 5, 0, 0, 0, 10,
   0, 0, 0, 0, 0, 0, 0, 0, 0, 0, 0, 0, 0, 0, 0, 0, 0, 114, 101, 97, 100, 109, 101, 46, 116, 120,
   116, 80, 75, 1, 2, 20, 0, 20, 0, 0, 0, 0, 0, 0, 0, 0, 0, 134, 166, 16, 54, 5, 0, 0, 0, 10, 0, 0,
   0, 12, 0, 0, 0, 0, 0, 0, 0, 0, 0, 0, 0, 0, 0, 45, 0, 0, 0, 97, 115, 115, 101, 116, 115, 47, 97,
   46, 112, 110, 103, 80, 75, 1, 2, 20, 0, 20, 0, 0, 0, 0, 0, 0, 0, 0, 0, 134, 166, 16, 54, 5, 0, 0,
   0, 5, 0, 0, 0, 9, 0, 0, 0, 0, 0, 0, 0, 0, 0, 0, 0, 0, 0, 92, 0, 0, 0, 110, 111, 116, 101, 115,
   46, 116, 120, 116]

def asidePayload : ByteArray :=
  ⟨([80, 75, 3, 4, 20, 0, 0, 0, 0, 0, 0, 0, 0, 0, 134, 166, 16, 54, 5, 0, 0, 0, 5, 0, 0, 0, 10, 0,
       0, 0, 114, 101, 97, 100, 109, 101, 46, 116, 120, 116, 104, 101, 108, 108, 111, 80, 75, 3, 4,
       20, 0, 0, 0, 0, 0, 0, 0, 0, 0, 134, 166, 16, 54, 5, 0, 0, 0, 10, 0, 0, 0, 12, 0, 0, 0, 97,
       115, 115, 101, 116, 115, 47, 97, 46, 112, 110, 103, 104, 101, 108, 108, 111, 80, 75, 3, 4,
       20, 0, 0, 0, 0, 0, 0, 0, 0, 0, 134, 166, 16, 54, 5, 0, 0, 0, 5, 0, 0, 0, 9, 0, 0, 0, 110,
       111, 116, 101, 115, 46, 116, 120, 116, 104, 101, 108, 108, 111] ++
    asideListing ++
    [80, 75, 5, 6, 0, 0, 0, 0, 3, 0, 3, 0, 169, 0, 0, 0, 136, 0, 0, 0, 0, 0]).toArray⟩

def readmeEntry : Entry := ⟨"readme.txt", "readme.txt", 0, 0, 907060870, 5, 5, 0, 45⟩

def imageEntry : Entry := ⟨"assets/a.png", "assets/a.png", 0, 0, 907060870, 5, 10, 45, 92⟩

def notesEntry : Entry := ⟨"notes.txt", "notes.txt", 0, 0, 907060870, 5, 5, 92, 136⟩

def asideFiles : List Entry := [readmeEntry, imageEntry, notesEntry]

theorem asidePayload_entries : Directory.read asidePayload = .ok asideFiles := by
  have hPlace : (Directory.place asidePayload).toOption = some ⟨136, 169, 0⟩ := by decide +kernel
  have hListed : (Directory.readEntries ⟨asideListing.toArray⟩ 0 0).toOption =
      some (asideFiles.map fun entry => { entry with bound := 0 }) := by
    decide +kernel
  exact Directory.read_of_listing hPlace (by decide +kernel) hListed (by decide)
    (by decide +kernel)

theorem asidePayload_lists : Lists RuleTables.standard asidePayload asideFiles where
  listed := ⟨asideFiles, asidePayload_entries, by decide, by decide⟩
  few := by decide

theorem asidePayload_order :
    readingOrder RuleTables.standard asideFiles = [readmeEntry] ++ imageEntry :: [notesEntry] := by
  decide

section

attribute [local instance] Platform.bare

theorem asidePayload_midway : ∃ midway,
    (readingOf RuleTables.standard asidePayload 4 asideFiles).Takes
        (blankOf RuleTables.standard asideFiles) [readmeEntry] midway ∧
      midway.totalSize = 5 ∧
      ((readingOf RuleTables.standard asidePayload 4 asideFiles).takeInTraced midway
        imageEntry).openings.length = 1 := by
  have hStep : ((readingOf RuleTables.standard asidePayload 4 asideFiles).takeIn
      (blankOf RuleTables.standard asideFiles) readmeEntry).toOption.map (fun midway =>
        (midway.totalSize, ((readingOf RuleTables.standard asidePayload 4 asideFiles).takeInTraced
          midway imageEntry).openings.length)) = some (5, 1) := by decide +kernel
  obtain ⟨midway, hMidway, hFound⟩ := Option.map_eq_some_iff.mp hStep
  obtain ⟨hTotal, hOpened⟩ := Prod.mk.inj hFound
  exact ⟨midway, .cons (Except.eq_ok_of_toOption hMidway) (.nil _), hTotal, hOpened⟩

theorem asidePayload_read : ∃ inventory,
    (read RuleTables.standard asidePayload 12).finish = .ok (.ok inventory) ∧
      inventory.totalSize = 15 ∧ inventory.budgetExhausted = false := by
  obtain ⟨inventory, hRead, hFound⟩ := exists_read_of_view asidePayload_lists
    (by decide +kernel :
      ((inventoryOf RuleTables.standard asidePayload 12 asideFiles).finish.toOption.bind
        fun result => result.toOption.map fun inventory =>
          (inventory.totalSize, inventory.budgetExhausted)) = some (15, false))
  obtain ⟨hTotal, hFlag⟩ := Prod.mk.inj hFound
  exact ⟨inventory, hRead, hTotal, hFlag⟩

/-- An asset is opened five bytes into a budget of four, and a reading that comes to fifteen bytes
does not say that its budget of twelve is spent. -/
theorem asidePayload_overspends :
    (∃ midway, (readingOf RuleTables.standard asidePayload 4 asideFiles).Takes
        (blankOf RuleTables.standard asideFiles) [readmeEntry] midway ∧
      readingOrder RuleTables.standard asideFiles = [readmeEntry] ++ imageEntry :: [notesEntry] ∧
      roleOf RuleTables.standard imageEntry.name = .asset ∧
      ((readingOf RuleTables.standard asidePayload 4 asideFiles).takeInTraced midway
        imageEntry).openings ≠ [] ∧ (4 : Int) < midway.totalSize) ∧
    ∃ inventory, (read RuleTables.standard asidePayload 12).finish = .ok (.ok inventory) ∧
      (12 : Int) < inventory.totalSize ∧ inventory.budgetExhausted = false := by
  constructor
  · obtain ⟨midway, hTakes, hTotal, hOpened⟩ := asidePayload_midway
    refine ⟨midway, hTakes, asidePayload_order, by decide, ?_, ?_⟩
    · intro hNone
      rw [hNone] at hOpened
      cases hOpened
    · rw [hTotal]
      decide
  · obtain ⟨inventory, hRead, hTotal, hFlag⟩ := asidePayload_read
    refine ⟨inventory, hRead, ?_, hFlag⟩
    rw [hTotal]
    decide

theorem asidePayload_overlooked :
    Lists RuleTables.standard asidePayload asideFiles ∧
    (∃ midway, (readingOf RuleTables.standard asidePayload 4 asideFiles).Takes
        (blankOf RuleTables.standard asideFiles) [readmeEntry] midway ∧
      midway.Overlooks RuleTables.standard 4 [readmeEntry]) ∧
    ∃ inventory, (read RuleTables.standard asidePayload 12).finish = .ok (.ok inventory) ∧
      inventory.Overlooks RuleTables.standard 12
        (readingOrder RuleTables.standard asideFiles) := by
  refine ⟨asidePayload_lists, ?_, ?_⟩
  · obtain ⟨midway, hTakes, hTotal, hOpened⟩ := asidePayload_midway
    obtain ⟨-, hSteps, -⟩ := read_overlooks asidePayload_lists 4
    obtain ⟨-, -, hBeyond⟩ := hSteps _ _ _ midway asidePayload_order hTakes (by decide)
    refine ⟨midway, hTakes, (hBeyond.mp ⟨?_, ?_⟩).2⟩
    · intro hNone
      rw [hNone] at hOpened
      cases hOpened
    · rw [hTotal]
      decide
  · obtain ⟨inventory, hRead, hTotal, hFlag⟩ := asidePayload_read
    obtain ⟨-, -, hEnds, -⟩ := read_overlooks asidePayload_lists 12
    refine ⟨inventory, hRead, (hEnds inventory hRead).2.mp ⟨?_, hFlag⟩⟩
    rw [hTotal]
    decide

end

end SubmissionGate.Bundle
