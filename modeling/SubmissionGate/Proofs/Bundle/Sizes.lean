import SubmissionGate.Proofs.Archive.Expansion
import SubmissionGate.Proofs.Archive.Listing
import SubmissionGate.Proofs.Bundle.Openings

/-!
# Reported sizes

A stored or deflated entry that was read to its end is reported with the size of its expansion cut
at the declared size. So the size is that of all its data just when the data is no larger than
declared, and what lies behind goes unnoticed: the entries that declare too little are not refused
for it, but for a checksum that does not fit the data up to there.
-/

namespace SubmissionGate.Bundle

open Archive

def Inventory.Reports (rules : RuleTables) (inventory : Inventory) (entry : Entry) (size : Nat) :
    Prop :=
  match roleOf rules entry.name with
  | .script => inventory.scriptSize = size
  | .manifest => inventory.manifestSize = size
  | .asset => ∃ asset ∈ inventory.assets, asset.path = entry.name ∧ asset.size = size
  | .stray | .unsafePath => False

/-! ## One entry -/

theorem lt_probe {size : Nat} {limit : Int} (h : (size : Int) ≤ limit) : size < probe limit := by
  rw [probe]
  omega

theorem bytesOf_le_declared [Platform] (payload : ByteArray) (entry : Entry) (limit : Int) :
    bytesOf payload entry limit ≤ entry.size :=
  Member.deliver_size_le_declared payload entry (probe limit)

theorem measure_within [Platform] {payload : ByteArray} {entry : Entry} {limit : Int}
    {content : Content} (h : measure payload entry limit = .ok content)
    (hWithin : (bytesOf payload entry limit : Int) ≤ limit) :
    content.size = bytesOf payload entry limit ∧
      (entry.IsNative → bytesOf payload entry limit = (entry.content payload).size ∧
        Checksum.update Checksum.empty (entry.content payload) = entry.checksum) := by
  have hSound := (measure_ok h).1
  have hComplete := Member.deliver_complete hSound (lt_probe hWithin)
  constructor
  · unfold measure at h
    simp only [hSound] at h
    rw [if_pos (by simpa [bytesOf] using hWithin)] at h
    split at h
    · cases h
    · cases h
      rfl
  · intro hNative
    have hChecksum := hComplete.checksum
    rw [hComplete.content hNative] at hChecksum
    exact ⟨by rw [bytesOf, hComplete.content hNative], hChecksum⟩

theorem content_size (payload : ByteArray) (entry : Entry) :
    (entry.content payload).size = min entry.size (entry.expansion payload).size := by
  rw [Entry.content, ByteArray.size_extract, Nat.sub_zero]

theorem halt_ne_understated (entry : Entry) (fault : MemberFault) (name : String) :
    halt entry fault ≠ .refused (.understated name) := by
  unfold halt
  split <;> intro h <;> cases h

/-- No entry gives more than it declares, so none is refused for that. -/
theorem measure_ne_understated [Platform] (payload : ByteArray) (entry : Entry) (limit : Int)
    (name : String) : measure payload entry limit ≠ .error (.refused (.understated name)) := by
  intro h
  have hDeclared := bytesOf_le_declared payload entry limit
  unfold measure at h
  simp only at h
  split at h
  · exact halt_ne_understated entry _ name (Except.error.inj h)
  · split at h
    · split at h
      · next hMore => exact absurd hMore (Nat.not_lt.mpr hDeclared)
      · cases h
    · cases h

theorem require_ne_refused {α : Type} (table : Table α) (key : String) (fault : Fault) :
    require table key ≠ .error (.refused fault) := by
  unfold require
  split <;> intro h <;> cases h

theorem suspicion?_ne_understated (rules : RuleTables) (entry : Entry) (name : String) :
    suspicion? rules entry ≠ some (.understated name) := by
  unfold suspicion?
  simp only
  repeat' split
  all_goals intro h; cases h

namespace Reading

variable [Platform]

theorem gauge_ne_understated {α : Type} (reading : Reading) (entry : Entry) (table : Table Int)
    (key : String) (next : Content → α) (name : String) :
    (reading.gauge entry table key next).outcome ≠ .error (.refused (.understated name)) := by
  intro h
  rw [gauge, Traced.bind_outcome] at h
  rcases Except.bind_eq_error h with hRequire | ⟨limit, -, hMeasure⟩
  · exact require_ne_refused _ _ _ hRequire
  · rw [Traced.bind_outcome] at hMeasure
    rcases Except.bind_eq_error hMeasure with hRefused | ⟨content, -, hRest⟩
    · exact measure_ne_understated _ _ _ _ hRefused
    · cases hRest

theorem takeInTraced_ne_understated (reading : Reading) (inventory : Inventory) (entry : Entry)
    (name : String) :
    (reading.takeInTraced inventory entry).outcome ≠ .error (.refused (.understated name)) := by
  have hForm := reading.takeInTraced_form inventory entry
  generalize reading.takeInTraced inventory entry = step at hForm ⊢
  cases hForm with
  | refused hSuspicion =>
    intro h
    cases h
    exact suspicion?_ne_understated _ _ _ hSuspicion
  | aside => exact fun h => by cases h
  | declared => exact fun h => by cases h
  | script => exact gauge_ne_understated _ _ _ _ _ _
  | manifest => exact gauge_ne_understated _ _ _ _ _ _
  | asset => exact gauge_ne_understated _ _ _ _ _ _

theorem walkTraced_ne_understated (reading : Reading) (inventory : Inventory)
    (entries : List Entry) (name : String) :
    (reading.walkTraced inventory entries).outcome ≠ .error (.refused (.understated name)) := by
  induction entries generalizing inventory with
  | nil => exact fun h => by cases h
  | cons entry entries ih =>
    intro h
    rw [walkTraced, Traced.bind_outcome] at h
    rcases Except.bind_eq_error h with hNow | ⟨next, -, hLater⟩
    · exact takeInTraced_ne_understated _ _ _ _ hNow
    · exact ih next hLater

end Reading

theorem ending_refused {outcome : Except Halt Inventory} {fault : Fault}
    (h : ending outcome = .ok (.error fault)) : outcome = .error (.refused fault) := by
  unfold ending at h
  split at h
  · cases h
  · cases h
    rfl
  · cases h

theorem read_ne_understated [Platform] (rules : RuleTables) (payload : ByteArray) (budget : Int)
    (name : String) : (read rules payload budget).finish ≠ .ok (.error (.understated name)) := by
  intro h
  rw [finish_read_eq] at h
  have hOutcome := ending_refused h
  unfold readTraced at hOutcome
  cases hRead : Directory.read payload with
  | error fault =>
    rw [hRead] at hOutcome
    cases fault <;> cases hOutcome
  | ok entries =>
    simp only [hRead] at hOutcome
    split at hOutcome
    · cases hOutcome
    · split at hOutcome
      · cases hOutcome
      · exact Reading.walkTraced_ne_understated _ _ _ _ hOutcome

/-! ## All entries -/

theorem roleOf_script {rules : RuleTables} {path : String} (h : roleOf rules path = .script) :
    path = rules.bundleScript := by
  have hCases := roleOf_cases rules path
  simp only [h, reduceCtorEq, true_and, false_and, or_false, false_or] at hCases
  exact hCases.2

theorem roleOf_manifest {rules : RuleTables} {path : String}
    (h : roleOf rules path = .manifest) : path = rules.bundleManifest := by
  have hCases := roleOf_cases rules path
  simp only [h, reduceCtorEq, true_and, false_and, or_false, false_or] at hCases
  exact hCases.2

namespace Reading

variable [Platform] {reading : Reading} {inventory next after : Inventory} {entry other : Entry}
  {size : Nat}

theorem Adds.reports (h : reading.Adds inventory other next) (hName : other.name ≠ entry.name)
    (hReports : inventory.Reports reading.rules entry size) :
    next.Reports reading.rules entry size := by
  unfold Inventory.Reports at hReports ⊢
  cases h with
  | aside => exact hReports
  | script hRole =>
    split at hReports
    case h_1 hSame =>
      exact absurd ((roleOf_script hRole).trans (roleOf_script hSame).symm) hName
    all_goals exact hReports
  | manifest hRole =>
    split at hReports
    case h_2 hSame =>
      exact absurd ((roleOf_manifest hRole).trans (roleOf_manifest hSame).symm) hName
    all_goals exact hReports
  | asset =>
    split at hReports
    case h_3 =>
      obtain ⟨asset, hAsset, hFound⟩ := hReports
      exact ⟨asset, List.mem_append_left _ hAsset, hFound⟩
    all_goals exact hReports

theorem Takes.reports {entries : List Entry} (h : reading.Takes inventory entries after)
    (hName : entry.name ∉ entries.map (·.name))
    (hReports : inventory.Reports reading.rules entry size) :
    after.Reports reading.rules entry size := by
  induction h with
  | nil inventory => exact hReports
  | cons hStep _ ih =>
    rw [List.map_cons, List.mem_cons, not_or] at hName
    exact ih hName.2 ((takeIn_ok hStep).2.reports (Ne.symm hName.1) hReports)

/-- An entry that is opened on the way to the next inventory is reported there as measured. -/
def ReportsOpened (reading : Reading) (after : Inventory) (opening : Opening) : Prop :=
  ∃ content, measure reading.payload opening.entry opening.limit = .ok content ∧
    opening.obtained = bytesOf reading.payload opening.entry opening.limit ∧
    after.Reports reading.rules opening.entry content.size

theorem gauge_opened {table : Table Int} {key : String} {fill : Content → Inventory}
    (hOk : (reading.gauge entry table key fill).outcome = .ok next)
    (hFill : ∀ content, (fill content).Reports reading.rules entry content.size) :
    ∀ opening ∈ (reading.gauge entry table key fill).openings,
      opening.entry = entry ∧ reading.ReportsOpened next opening := by
  rw [gauge_outcome] at hOk
  obtain ⟨limit, hLimit, hOk⟩ := Except.bind_eq_ok hOk
  obtain ⟨content, hContent, hOk⟩ := Except.bind_eq_ok hOk
  cases hOk
  intro opening hOpening
  rw [gauge_openings (require_eq_ok_iff.mp hLimit)] at hOpening
  rw [List.mem_singleton.mp hOpening]
  exact ⟨rfl, content, hContent, rfl, hFill content⟩

theorem takeInTraced_opened (hOk : (reading.takeInTraced inventory entry).outcome = .ok next) :
    ∀ opening ∈ (reading.takeInTraced inventory entry).openings,
      opening.entry = entry ∧ reading.ReportsOpened next opening := by
  have hForm := reading.takeInTraced_form inventory entry
  generalize reading.takeInTraced inventory entry = step at hForm hOk ⊢
  cases hForm with
  | refused => cases hOk
  | aside => exact fun opening hNone => by cases hNone
  | declared => exact fun opening hNone => by cases hNone
  | script hRole =>
    refine gauge_opened hOk fun content => ?_
    rw [Inventory.Reports, hRole]
    rfl
  | manifest hRole =>
    refine gauge_opened hOk fun content => ?_
    rw [Inventory.Reports, hRole]
    rfl
  | asset hRole =>
    refine gauge_opened hOk fun content => ?_
    rw [Inventory.Reports, hRole]
    exact ⟨_, List.mem_append_right _ List.mem_cons_self, rfl, rfl⟩

theorem takes_of_walkTraced {entries : List Entry}
    (h : (reading.walkTraced inventory entries).outcome = .ok after) :
    reading.Takes inventory entries after := by
  rw [← finish_takeAll_ok_iff, finish_takeAll_eq, h]
  rfl

/-- Every opening of a walk to the end is reported at its end. -/
theorem walkTraced_opened {entries : List Entry} (hNames : (entries.map (·.name)).Nodup)
    (h : (reading.walkTraced inventory entries).outcome = .ok after) :
    ∀ opening ∈ (reading.walkTraced inventory entries).openings,
      reading.ReportsOpened after opening := by
  induction entries generalizing inventory with
  | nil => exact fun opening hNone => by cases hNone
  | cons entry entries ih =>
    rw [List.map_cons, List.nodup_cons] at hNames
    rw [walkTraced, Traced.bind_outcome] at h
    obtain ⟨next, hStep, hRest⟩ := Except.bind_eq_ok h
    rw [walkTraced, Traced.bind_of_ok hStep]
    intro opening hOpening
    rcases List.mem_append.mp hOpening with hNow | hLater
    · obtain ⟨hEntry, content, hContent, hObtained, hReports⟩ :=
        takeInTraced_opened hStep opening hNow
      refine ⟨content, hContent, hObtained, (takes_of_walkTraced hRest).reports ?_ hReports⟩
      rw [hEntry]
      exact hNames.1
    · exact ih hNames.2 hRest opening hLater

end Reading

theorem ending_ok {outcome : Except Halt Inventory} {inventory : Inventory}
    (h : ending outcome = .ok (.ok inventory)) : outcome = .ok inventory := by
  unfold ending at h
  split at h
  · cases h
    rfl
  · cases h
  · cases h

theorem readTraced_opened [Platform] {rules : RuleTables} {payload : ByteArray} {budget : Int}
    {inventory : Inventory} (h : (read rules payload budget).finish = .ok (.ok inventory)) :
    ∀ opening ∈ (readTraced rules payload budget).openings, ∃ content,
      measure payload opening.entry opening.limit = .ok content ∧
      opening.obtained = bytesOf payload opening.entry opening.limit ∧
      inventory.Reports rules opening.entry content.size := by
  rw [finish_read_eq] at h
  have hOutcome := ending_ok h
  rcases readTraced_cases rules payload budget with hNone | ⟨files, -, hWalk⟩
  · rw [hNone]
    exact fun opening hOpening => by cases hOpening
  · rw [hWalk] at hOutcome ⊢
    exact Reading.walkTraced_opened (readingOrder_nodup rules files) hOutcome

/-- The sizes that a reading reports of the entries that it reads to their end. Of a stored or
deflated entry it is the size of all its data where that is no larger than declared, and the
declared one elsewhere. Nothing is refused for being larger than declared. -/
theorem read_reports_expansions [Platform] (rules : RuleTables) (payload : ByteArray)
    (budget : Int) :
    (read rules payload budget).finish = ending (readTraced rules payload budget).outcome ∧
    (∀ name, (read rules payload budget).finish ≠ .ok (.error (.understated name))) ∧
    ∀ inventory, (read rules payload budget).finish = .ok (.ok inventory) →
      ∀ opening ∈ (readTraced rules payload budget).openings,
        (opening.obtained : Int) ≤ opening.limit →
          inventory.Reports rules opening.entry opening.obtained ∧
          opening.obtained ≤ opening.entry.size ∧
          (opening.entry.IsNative →
            opening.obtained =
              min opening.entry.size (opening.entry.expansion payload).size ∧
            (opening.obtained = (opening.entry.expansion payload).size ↔
              (opening.entry.expansion payload).size ≤ opening.entry.size) ∧
            Checksum.update Checksum.empty (opening.entry.content payload) =
              opening.entry.checksum) := by
  refine ⟨finish_read_eq rules payload budget, read_ne_understated rules payload budget, ?_⟩
  intro inventory hRead opening hOpening hWithin
  obtain ⟨content, hContent, hObtained, hReports⟩ := readTraced_opened hRead opening hOpening
  rw [hObtained] at hWithin ⊢
  obtain ⟨hSize, hNativeBytes⟩ := measure_within hContent hWithin
  rw [hSize] at hReports
  refine ⟨hReports, bytesOf_le_declared payload opening.entry opening.limit, fun hNative => ?_⟩
  obtain ⟨hBytes, hChecksum⟩ := hNativeBytes hNative
  rw [content_size] at hBytes
  exact ⟨hBytes, by omega, hChecksum⟩

/-- Ten bytes under a declared size of five and the checksum of the first five. -/
def clippedListing : List UInt8 :=
  [80, 75, 1, 2, 20, 0, 20, 0, 0, 0, 0, 0, 0, 0, 0, 0, 134, 166, 16, 54, 10, 0, 0, 0, 5, 0, 0, 0,
   12, 0, 0, 0, 0, 0, 0, 0, 0, 0, 0, 0, 0, 0, 0, 0, 0, 0, 97, 115, 115, 101, 116, 115, 47, 97, 46,
   112, 110, 103]

def clippedPayload : ByteArray :=
  ⟨([80, 75, 3, 4, 20, 0, 0, 0, 0, 0, 0, 0, 0, 0, 134, 166, 16, 54, 10, 0, 0, 0, 5, 0, 0, 0, 12, 0,
      0, 0, 97, 115, 115, 101, 116, 115, 47, 97, 46, 112, 110, 103, 104, 101, 108, 108, 111, 119,
      111, 114, 108, 100] ++
    clippedListing ++
    [80, 75, 5, 6, 0, 0, 0, 0, 1, 0, 1, 0, 58, 0, 0, 0, 52, 0, 0, 0, 0, 0]).toArray⟩

def clippedEntry : Entry := ⟨"assets/a.png", "assets/a.png", 0, 0, 907060870, 10, 5, 0, 52⟩

theorem clippedPayload_entries : Directory.read clippedPayload = .ok [clippedEntry] := by
  have hPlace : (Directory.place clippedPayload).toOption = some ⟨52, 58, 0⟩ := by
    decide +kernel
  have hListed : (Directory.readEntries ⟨clippedListing.toArray⟩ 0 0).toOption =
      some [{ clippedEntry with bound := 0 }] := by
    decide +kernel
  exact Directory.read_of_listing hPlace (by decide +kernel) hListed (by decide)
    (by decide +kernel)

theorem clippedPayload_traced [Platform] (budget : Int) :
    readTraced RuleTables.standard clippedPayload budget =
      (readingOf RuleTables.standard clippedPayload budget [clippedEntry]).walkTraced
        (blankOf RuleTables.standard [clippedEntry])
        (readingOrder RuleTables.standard [clippedEntry]) := by
  unfold readTraced
  rw [clippedPayload_entries]
  rfl

deriving instance DecidableEq for Opening

section

attribute [local instance] Platform.bare

theorem clippedPayload_opens : ⟨clippedEntry, 2097152, 5⟩ ∈
    (readTraced RuleTables.standard clippedPayload 1000).openings := by
  rw [clippedPayload_traced]
  decide +kernel

theorem clippedPayload_read : ∃ inventory,
    (read RuleTables.standard clippedPayload 1000).finish = .ok (.ok inventory) ∧
      inventory.assets.map (fun asset => (asset.path, asset.size)) = [("assets/a.png", 5)] := by
  have hAssets : ((readTraced RuleTables.standard clippedPayload 1000).outcome.toOption.map
      fun inventory => inventory.assets.map fun asset => (asset.path, asset.size)) =
        some [("assets/a.png", 5)] := by
    rw [clippedPayload_traced]
    decide +kernel
  obtain ⟨inventory, hInventory, hSizes⟩ := Option.map_eq_some_iff.mp hAssets
  refine ⟨inventory, ?_, hSizes⟩
  rw [finish_read_eq, Except.eq_ok_of_toOption hInventory]
  rfl

/-- An entry is taken for half of what its data expands to. -/
theorem clippedPayload_misreported : ∃ inventory,
    (read RuleTables.standard clippedPayload 1000).finish = .ok (.ok inventory) ∧
      ∃ opening ∈ (readTraced RuleTables.standard clippedPayload 1000).openings,
        (opening.obtained : Int) ≤ opening.limit ∧
        opening.entry.size < (opening.entry.expansion clippedPayload).size ∧
        ¬inventory.Reports RuleTables.standard opening.entry
          (opening.entry.expansion clippedPayload).size := by
  obtain ⟨inventory, hRead, hAssets⟩ := clippedPayload_read
  have hExpansion : (clippedEntry.expansion clippedPayload).size = 10 := by decide +kernel
  have hRole : roleOf RuleTables.standard clippedEntry.name = .asset := by decide +kernel
  refine ⟨inventory, hRead, _, clippedPayload_opens, by decide, ?_, ?_⟩
  · rw [hExpansion]
    decide
  · rw [Inventory.Reports, hRole, hExpansion]
    rintro ⟨asset, hAsset, -, hSize⟩
    have hListed := List.mem_map_of_mem (f := fun asset => (asset.path, asset.size)) hAsset
    rw [hAssets, List.mem_singleton, hSize] at hListed
    cases (Prod.mk.inj hListed).2

theorem clippedPayload_reported : ∃ inventory,
    (read RuleTables.standard clippedPayload 1000).finish = .ok (.ok inventory) ∧
      ∃ opening ∈ (readTraced RuleTables.standard clippedPayload 1000).openings,
        (opening.obtained : Int) ≤ opening.limit ∧
        inventory.Reports RuleTables.standard opening.entry opening.obtained ∧
        opening.obtained =
          min opening.entry.size (opening.entry.expansion clippedPayload).size := by
  obtain ⟨inventory, hRead, -⟩ := clippedPayload_read
  have hReported := (read_reports_expansions RuleTables.standard clippedPayload 1000).2.2 inventory
    hRead _ clippedPayload_opens (by decide)
  exact ⟨inventory, hRead, _, clippedPayload_opens, by decide, hReported.1,
    (hReported.2.2 (.inl rfl)).1⟩

end

end SubmissionGate.Bundle
