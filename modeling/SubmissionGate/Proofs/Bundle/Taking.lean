import SubmissionGate.Bundle.Inventory
import SubmissionGate.Proofs.Archive.Delivery
import SubmissionGate.Proofs.Except
import SubmissionGate.Proofs.Gate.Clock
import SubmissionGate.Proofs.RuleTables.Override

/-!
# Taking in the entries of a bundle

The inventory of a bundle grows entry by entry. `Takes` is the walk over the entries that were taken
in without a fault; a run of `takeAll` either makes that walk to the end or stops behind a part of
it. What one entry adds is said by `takeIn_ok`, and nothing else about a step is needed later.
-/

namespace SubmissionGate.Bundle

open Archive

theorem categories_get? (rules : RuleTables) (paths : List String) (path : String) :
    (categories rules paths).get? path =
      if path ∈ paths then some ((classify rules path).settled (paths.map (classify rules)))
      else none := by
  unfold categories
  simp only
  rw [List.foldl_map]
  exact Table.get?_foldl_put
    (fun path => (classify rules path).settled (paths.map (classify rules))) paths [] path

theorem settled_eq_some {assets : List Classified} {asset : Classified} {category : String}
    (h : asset.settled assets = some category) :
    category = sheetCategory ∨ asset.category = some category := by
  unfold Classified.settled at h
  split at h
  · cases h
    exact .inl rfl
  · exact .inr h

theorem settled_isSome (assets : List Classified) (asset : Classified) :
    (asset.settled assets).isSome = asset.category.isSome := by
  unfold Classified.settled
  split
  · next hJoins =>
    simp only [canJoinSheet, Bool.and_eq_true, Bool.or_eq_true, beq_iff_eq] at hJoins
    rcases hJoins.1.1 with hImage | hJson
    · simp [hImage]
    · simp [hJson]
  · rfl

theorem require_eq_ok_iff {α : Type} {table : Table α} {key : String} {value : α} :
    require table key = .ok value ↔ table.get? key = some value := by
  unfold require
  cases table.get? key with
  | none => simp
  | some other => simp

theorem require_of_has {α : Type} {table : Table α} {key : String} (h : table.has key = true) :
    ∃ value, require table key = .ok value := by
  obtain ⟨value, hValue⟩ := Table.exists_get?_of_has h
  exact ⟨value, require_eq_ok_iff.mpr hValue⟩

theorem measure_ok [Platform] {payload : ByteArray} {entry : Entry} {limit : Int}
    {content : Content} (h : measure payload entry limit = .ok content) :
    let delivery := Member.deliver payload entry (probe limit)
    delivery.fault = none ∧
      ((delivery.data.size : Int) ≤ limit ∧ content = ⟨some delivery.data, delivery.data.size⟩ ∨
        limit < content.size ∧ content.data = none) := by
  unfold measure at h
  simp only at h ⊢
  split at h
  · cases h
  · next hFault =>
    refine ⟨hFault, ?_⟩
    split at h
    · next hFits =>
      split at h
      · cases h
      · cases h
        exact .inl ⟨hFits, rfl⟩
    · cases h
      refine .inr ⟨?_, rfl⟩
      simp only
      omega

/-- Why an entry that is read against a limit leaves neither content nor an issue: its place is out
of reach, or the decompressor of the platform gives up in a way of its own. -/
inductive Derails [Platform] (payload : ByteArray) (entry : Entry) (limit : Int) : Breakdown → Prop
  | far (hFar : entry.IsFar) : Derails payload entry limit .farEntry
  | foreign {reason : String}
      (hFault : (Member.deliver payload entry (probe limit)).fault =
        some (.codec (.foreign reason))) :
      Derails payload entry limit (.decompressor reason)

theorem measure_broken_iff [Platform] {payload : ByteArray} {entry : Entry} {limit : Int}
    {cause : Breakdown} :
    measure payload entry limit = .error (.broken cause) ↔ Derails payload entry limit cause := by
  unfold measure
  simp only
  constructor
  · intro h
    split at h
    · next fault hFault =>
      rw [Except.error.injEq] at h
      unfold halt at h
      split at h
      · cases h
        exact .far ((Member.deliver_farOffset_iff payload _).mp hFault)
      · cases h
        exact .foreign hFault
      · cases h
    · repeat' split at h
      all_goals cases h
  · intro h
    cases h with
    | far hFar =>
      rw [(Member.deliver_farOffset_iff payload _).mpr hFar]
      rfl
    | foreign hFault =>
      rw [hFault]
      rfl

theorem gauged_broken_iff [Platform] {α : Type} {payload : ByteArray} {entry : Entry}
    {table : Table Int}
    {key : String} (hHas : table.has key = true) (next : Content → α) {cause : Breakdown} :
    (do let limit ← require table key
        let content ← measure payload entry limit
        return next content) = .error (.broken cause) ↔
      ∃ limit, table.get? key = some limit ∧ Derails payload entry limit cause := by
  obtain ⟨limit, hLimit⟩ := require_of_has hHas
  have hFound := require_eq_ok_iff.mp hLimit
  have hOnly : (∃ other, table.get? key = some other ∧ Derails payload entry other cause) ↔
      Derails payload entry limit cause := by
    simp [hFound]
  rw [hOnly, ← measure_broken_iff, hLimit]
  simp only [bind, Except.bind, pure, Except.pure]
  cases measure payload entry limit with
  | error halt => simp
  | ok content => exact iff_of_false (fun h => by cases h) (fun h => by cases h)

namespace Reading

variable [Platform]

/-- The limit that an entry is read against where it is opened. -/
def OpensWithin (reading : Reading) (inventory : Inventory) (entry : Entry) (limit : Int) : Prop :=
  match roleOf reading.rules entry.name with
  | .script => reading.rules.sizeLimits.get? "script" = some limit
  | .manifest => reading.rules.assetLimits.get? jsonCategory = some limit
  | .asset => inventory.budgetExhausted = false ∧ ∃ category,
      reading.category? entry.name = some category ∧
        reading.rules.assetLimits.get? category = some limit
  | .stray | .unsafePath => False

/-- Every limit that is looked up while entries are taken in is there. -/
structure Provided (reading : Reading) : Prop where
  script : reading.rules.sizeLimits.has "script" = true
  manifest : reading.rules.assetLimits.has jsonCategory = true
  asset : ∀ path category, reading.category? path = some category →
    reading.rules.assetLimits.has category = true

theorem assetSize_broken_iff {reading : Reading} (hProvided : reading.Provided)
    {inventory : Inventory} {entry : Entry} {cause : Breakdown} :
    reading.assetSize inventory entry = .error (.broken cause) ↔
      ∃ limit, (inventory.budgetExhausted = false ∧ ∃ category,
        reading.category? entry.name = some category ∧
          reading.rules.assetLimits.get? category = some limit) ∧
        Derails reading.payload entry limit cause := by
  unfold assetSize
  cases hCategory : reading.category? entry.name with
  | none => simp
  | some category =>
    simp only [decompresses, hCategory, Option.isSome_some, Bool.true_and]
    cases inventory.budgetExhausted with
    | true => simp
    | false =>
      simp only [Bool.not_false, if_true, true_and, Option.some.injEq, exists_eq_left']
      exact gauged_broken_iff (hProvided.asset _ _ hCategory) Content.size

/-- Taking in an entry breaks down exactly where the content that it opens does. -/
theorem takeIn_broken_iff {reading : Reading} (hProvided : reading.Provided)
    {inventory : Inventory} {entry : Entry} {cause : Breakdown} :
    reading.takeIn inventory entry = .error (.broken cause) ↔
      suspicion? reading.rules entry = none ∧ ∃ limit,
        reading.OpensWithin inventory entry limit ∧
          Derails reading.payload entry limit cause := by
  unfold takeIn OpensWithin
  cases suspicion? reading.rules entry with
  | some fault => simp
  | none =>
    rw [and_iff_right rfl]
    cases roleOf reading.rules entry.name with
    | unsafePath => simp
    | stray => simp
    | script => exact gauged_broken_iff hProvided.script _
    | manifest => exact gauged_broken_iff hProvided.manifest _
    | asset =>
      simp only
      rw [← assetSize_broken_iff hProvided]
      simp only [bind, Except.bind, pure, Except.pure]
      cases reading.assetSize inventory entry with
      | error halt => simp
      | ok size => simp

theorem assetSize_ok {reading : Reading} {inventory : Inventory} {entry : Entry} {size : Nat}
    (h : reading.assetSize inventory entry = .ok size) :
    reading.decompresses inventory entry.name = false ∨
      ∃ category limit content, reading.category? entry.name = some category ∧
        reading.rules.assetLimits.get? category = some limit ∧
        measure reading.payload entry limit = .ok content ∧ size = content.size := by
  unfold assetSize at h
  cases hCategory : reading.category? entry.name with
  | none => exact .inl (by simp [decompresses, hCategory])
  | some category =>
    rw [hCategory] at h
    simp only at h
    cases hReads : reading.decompresses inventory entry.name with
    | false => exact .inl rfl
    | true =>
      rw [hReads, if_pos rfl] at h
      obtain ⟨limit, hLimit, h⟩ := Except.bind_eq_ok h
      obtain ⟨content, hContent, h⟩ := Except.bind_eq_ok h
      cases h
      exact .inr ⟨category, limit, content, rfl, require_eq_ok_iff.mp hLimit, hContent, rfl⟩

def withScript (reading : Reading) (inventory : Inventory) (content : Content) : Inventory :=
  reading.charge { inventory with script := content.data, scriptSize := content.size }
    content.size

def withManifest (reading : Reading) (inventory : Inventory) (content : Content) : Inventory :=
  reading.charge { inventory with manifest := content.data, manifestSize := content.size }
    content.size

def assetOf (reading : Reading) (entry : Entry) (size : Nat) : Asset :=
  ⟨entry.name, plainExtension entry.name, reading.category? entry.name, size⟩

def withAsset (reading : Reading) (inventory : Inventory) (asset : Asset) : Inventory :=
  reading.charge { inventory with assets := inventory.assets ++ [asset] } asset.size

/-- Everything that taking in one entry can do. -/
inductive Adds (reading : Reading) (inventory : Inventory) (entry : Entry) : Inventory → Prop
  | aside (hRole : roleOf reading.rules entry.name = .unsafePath ∨
      roleOf reading.rules entry.name = .stray) :
      Adds reading inventory entry
        { inventory with totalSize := inventory.totalSize + entry.size }
  | script {limit : Int} {content : Content} (hRole : roleOf reading.rules entry.name = .script)
      (hLimit : reading.rules.sizeLimits.get? "script" = some limit)
      (hContent : measure reading.payload entry limit = .ok content) :
      Adds reading inventory entry (reading.withScript inventory content)
  | manifest {limit : Int} {content : Content}
      (hRole : roleOf reading.rules entry.name = .manifest)
      (hLimit : reading.rules.assetLimits.get? jsonCategory = some limit)
      (hContent : measure reading.payload entry limit = .ok content) :
      Adds reading inventory entry (reading.withManifest inventory content)
  | asset {size : Nat} (hRole : roleOf reading.rules entry.name = .asset)
      (hSize : reading.assetSize inventory entry = .ok size) :
      Adds reading inventory entry (reading.withAsset inventory (reading.assetOf entry size))

theorem takeIn_ok {reading : Reading} {inventory next : Inventory} {entry : Entry}
    (h : reading.takeIn inventory entry = .ok next) :
    suspicion? reading.rules entry = none ∧ reading.Adds inventory entry next := by
  unfold takeIn at h
  cases hSuspicion : suspicion? reading.rules entry with
  | some fault =>
    rw [hSuspicion] at h
    cases h
  | none =>
    refine ⟨rfl, ?_⟩
    rw [hSuspicion] at h
    simp only at h
    cases hRole : roleOf reading.rules entry.name with
    | unsafePath =>
      rw [hRole] at h
      cases h
      exact .aside (.inl hRole)
    | stray =>
      rw [hRole] at h
      cases h
      exact .aside (.inr hRole)
    | script =>
      rw [hRole] at h
      obtain ⟨limit, hLimit, h⟩ := Except.bind_eq_ok h
      obtain ⟨content, hContent, h⟩ := Except.bind_eq_ok h
      cases h
      exact .script hRole (require_eq_ok_iff.mp hLimit) hContent
    | manifest =>
      rw [hRole] at h
      obtain ⟨limit, hLimit, h⟩ := Except.bind_eq_ok h
      obtain ⟨content, hContent, h⟩ := Except.bind_eq_ok h
      cases h
      exact .manifest hRole (require_eq_ok_iff.mp hLimit) hContent
    | asset =>
      rw [hRole] at h
      obtain ⟨size, hSize, h⟩ := Except.bind_eq_ok h
      cases h
      exact .asset hRole hSize

/-- The entries are taken in one after the other, none of them with a fault. -/
inductive Takes (reading : Reading) : Inventory → List Entry → Inventory → Prop
  | nil (inventory : Inventory) : Takes reading inventory [] inventory
  | cons {inventory next after : Inventory} {entry : Entry} {entries : List Entry}
      (hStep : reading.takeIn inventory entry = .ok next)
      (hRest : Takes reading next entries after) :
      Takes reading inventory (entry :: entries) after

theorem finish_takeAll_cons (reading : Reading) (inventory : Inventory) (entry : Entry)
    (entries : List Entry) :
    (reading.takeAll inventory (entry :: entries)).finish =
      match reading.takeIn inventory entry with
      | .error (.broken cause) => .error cause
      | .error (.refused fault) => .ok (.error fault)
      | .ok next => (reading.takeAll next entries).finish := by
  rw [takeAll, Run.finish_check]
  cases reading.takeIn inventory entry with
  | error halt => cases halt <;> rfl
  | ok next =>
    simp only
    split <;> rfl

theorem finish_takeAll_ok_iff {reading : Reading} {inventory after : Inventory}
    {entries : List Entry} :
    (reading.takeAll inventory entries).finish = .ok (.ok after) ↔
      reading.Takes inventory entries after := by
  induction entries generalizing inventory with
  | nil =>
    constructor
    · intro h
      cases h
      exact .nil _
    · intro h
      cases h
      rfl
  | cons entry entries ih =>
    rw [finish_takeAll_cons]
    constructor
    · intro h
      split at h
      · cases h
      · cases h
      · next next hStep => exact .cons hStep (ih.mp h)
    · intro h
      cases h with
      | cons hStep hRest =>
        rw [hStep]
        exact ih.mpr hRest

/-- A walk breaks down at some entry, behind those that were taken in before it. -/
theorem finish_takeAll_broken_iff {reading : Reading} {inventory : Inventory}
    {entries : List Entry} {cause : Breakdown} :
    (reading.takeAll inventory entries).finish = .error cause ↔
      ∃ before entry behind midway, entries = before ++ entry :: behind ∧
        reading.Takes inventory before midway ∧
        reading.takeIn midway entry = .error (.broken cause) := by
  induction entries generalizing inventory with
  | nil =>
    refine iff_of_false (fun h => by cases h) ?_
    rintro ⟨before, entry, behind, midway, hSplit, -⟩
    cases before <;> cases hSplit
  | cons first entries ih =>
    rw [finish_takeAll_cons]
    constructor
    · intro h
      split at h
      · next hBroken =>
        cases h
        exact ⟨[], first, entries, inventory, rfl, .nil inventory, hBroken⟩
      · cases h
      · next next hStep =>
        obtain ⟨before, entry, behind, midway, rfl, hTaken, hBroken⟩ := ih.mp h
        exact ⟨first :: before, entry, behind, midway, rfl, .cons hStep hTaken, hBroken⟩
    · rintro ⟨before, entry, behind, midway, hSplit, hTaken, hBroken⟩
      cases hTaken with
      | nil =>
        cases hSplit
        rw [hBroken]
      | cons hStep hRest =>
        cases hSplit
        rw [hStep]
        exact ih.mpr ⟨_, entry, behind, midway, rfl, hRest, hBroken⟩

end Reading

end SubmissionGate.Bundle
