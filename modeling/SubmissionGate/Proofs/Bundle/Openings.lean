import Mathlib.Algebra.GroupWithZero.Nat
import SubmissionGate.Proofs.Archive.Quantity
import SubmissionGate.Proofs.Bundle.Files

/-!
# Opened entries

The walk over the files of a bundle once more, with a record of every entry that it opens: the
ceiling the entry is read against and how many bytes were obtained. Forgetting the record gives the
reading back. Between two entries the bytes obtained are covered by the total size, and while the
budget is not spent they are within it, so the one entry that goes beyond it is the last one to be
opened.
-/

namespace SubmissionGate.Bundle

open Archive

structure Opening where
  entry : Entry
  limit : Int
  obtained : Nat

def obtained (openings : List Opening) : Nat := (openings.map (·.obtained)).sum

theorem obtained_append (first second : List Opening) :
    obtained (first ++ second) = obtained first + obtained second := by
  simp [obtained]

/-- A computation with the entries that it opened on its way. -/
structure Traced (α : Type) where
  openings : List Opening
  outcome : Except Halt α

namespace Traced

variable {α β : Type}

def still (outcome : Except Halt α) : Traced α := ⟨[], outcome⟩

def bind (first : Traced α) (next : α → Traced β) : Traced β :=
  match first.outcome with
  | .error halt => ⟨first.openings, .error halt⟩
  | .ok value => ⟨first.openings ++ (next value).openings, (next value).outcome⟩

theorem bind_outcome (first : Traced α) (next : α → Traced β) :
    (first.bind next).outcome = first.outcome.bind fun value => (next value).outcome := by
  unfold bind
  cases first.outcome <;> rfl

theorem bind_of_error {first : Traced α} {halt : Halt} (h : first.outcome = .error halt)
    (next : α → Traced β) : (first.bind next).openings = first.openings := by
  rw [bind, h]

theorem bind_of_ok {first : Traced α} {value : α} (h : first.outcome = .ok value)
    (next : α → Traced β) :
    (first.bind next).openings = first.openings ++ (next value).openings := by
  rw [bind, h]

end Traced

variable [Platform]

def measureTraced (payload : ByteArray) (entry : Entry) (limit : Int) : Traced Content :=
  ⟨[⟨entry, limit, (Member.deliver payload entry (probe limit)).data.size⟩],
    measure payload entry limit⟩

namespace Reading

def gauge {α : Type} (reading : Reading) (entry : Entry) (table : Table Int) (key : String)
    (next : Content → α) : Traced α :=
  (Traced.still (require table key)).bind fun limit =>
    (measureTraced reading.payload entry limit).bind fun content => .still (.ok (next content))

def takeInTraced (reading : Reading) (inventory : Inventory) (entry : Entry) : Traced Inventory :=
  match suspicion? reading.rules entry with
  | some fault => .still (.error (.refused fault))
  | none =>
    match roleOf reading.rules entry.name with
    | .unsafePath | .stray =>
      .still (.ok { inventory with totalSize := inventory.totalSize + entry.size })
    | .script =>
      reading.gauge entry reading.rules.sizeLimits "script" (reading.withScript inventory)
    | .manifest =>
      reading.gauge entry reading.rules.assetLimits jsonCategory (reading.withManifest inventory)
    | .asset =>
      let declared := reading.withAsset inventory (reading.assetOf entry entry.size)
      match reading.category? entry.name with
      | none => .still (.ok declared)
      | some category =>
        if reading.decompresses inventory entry.name then
          reading.gauge entry reading.rules.assetLimits category fun content =>
            reading.withAsset inventory (reading.assetOf entry content.size)
        else .still (.ok declared)

def walkTraced (reading : Reading) (inventory : Inventory) : List Entry → Traced Inventory
  | [] => .still (.ok inventory)
  | entry :: entries =>
    (reading.takeInTraced inventory entry).bind fun next => walkTraced reading next entries

end Reading

def ending : Except Halt Inventory → Except Breakdown (Except Fault Inventory)
  | .ok inventory => .ok (.ok inventory)
  | .error (.refused fault) => .ok (.error fault)
  | .error (.broken cause) => .error cause

def readTraced (rules : RuleTables) (payload : ByteArray) (budget : Int) : Traced Inventory :=
  match Directory.read payload with
  | .error (.version needed) => .still (.error (.broken (.unknownVersion needed)))
  | .error fault => .still (.error (.refused (.unreadable fault.message)))
  | .ok entries =>
    if entries.any fun entry => entry.name.isEmpty then .still (.error (.broken .unnamedEntry))
    else
      let files := entries.filter fun entry => !isDirectory entry
      if rules.maxEntries < files.length then
        .still (.error (.refused (.tooManyEntries files.length rules.maxEntries)))
      else
        (readingOf rules payload budget files).walkTraced (blankOf rules files)
          (readingOrder rules files)

/-! ## The record can be forgotten -/

namespace Reading

theorem gauge_outcome {α : Type} (reading : Reading) (entry : Entry) (table : Table Int)
    (key : String) (next : Content → α) :
    (reading.gauge entry table key next).outcome = do
      let limit ← require table key
      let content ← measure reading.payload entry limit
      return next content := by
  simp only [gauge, Traced.bind_outcome]
  rfl

theorem takeInTraced_outcome (reading : Reading) (inventory : Inventory) (entry : Entry) :
    (reading.takeInTraced inventory entry).outcome = reading.takeIn inventory entry := by
  unfold takeInTraced takeIn
  cases suspicion? reading.rules entry with
  | some fault => rfl
  | none =>
    simp only
    cases roleOf reading.rules entry.name with
    | unsafePath => rfl
    | stray => rfl
    | script => exact gauge_outcome _ _ _ _ _
    | manifest => exact gauge_outcome _ _ _ _ _
    | asset =>
      show _ = (reading.assetSize inventory entry).bind fun size =>
        .ok (reading.withAsset inventory (reading.assetOf entry size))
      unfold assetSize
      cases reading.category? entry.name with
      | none => rfl
      | some category =>
        simp only
        split
        · rw [gauge_outcome]
          cases require reading.rules.assetLimits category with
          | error halt => rfl
          | ok limit =>
            simp only [bind, Except.bind]
            cases measure reading.payload entry limit <;> rfl
        · rfl

theorem finish_takeAll_eq (reading : Reading) (inventory : Inventory) (entries : List Entry) :
    (reading.takeAll inventory entries).finish =
      ending (reading.walkTraced inventory entries).outcome := by
  induction entries generalizing inventory with
  | nil => rfl
  | cons entry entries ih =>
    rw [finish_takeAll_cons, walkTraced, Traced.bind_outcome, takeInTraced_outcome]
    cases reading.takeIn inventory entry with
    | error halt => cases halt <;> rfl
    | ok next => exact ih next

end Reading

theorem finish_read_eq (rules : RuleTables) (payload : ByteArray) (budget : Int) :
    (read rules payload budget).finish = ending (readTraced rules payload budget).outcome := by
  unfold read readTraced
  cases Directory.read payload with
  | error fault => cases fault <;> rfl
  | ok entries =>
    simp only
    split
    · rfl
    · split
      · rfl
      · rw [inventoryOf_eq]
        exact Reading.finish_takeAll_eq _ _ _

/-! ## What one entry adds to the record -/

/-- How many bytes are obtained from an entry that is read against a limit. -/
def bytesOf (payload : ByteArray) (entry : Entry) (limit : Int) : Nat :=
  (Member.deliver payload entry (probe limit)).data.size

theorem bytesOf_le (payload : ByteArray) (entry : Entry) {limit : Int} (h : 0 ≤ limit) :
    (bytesOf payload entry limit : Int) ≤ limit + 1 := by
  have hSize := Member.deliver_size_le payload entry (probe limit)
  simp only [probe] at hSize
  simp only [bytesOf, probe]
  omega

theorem bytesOf_le_size {payload : ByteArray} {entry : Entry} {limit : Int} {content : Content}
    (h : measure payload entry limit = .ok content) :
    bytesOf payload entry limit ≤ content.size := by
  unfold measure at h
  unfold bytesOf
  simp only at h
  repeat' split at h
  all_goals cases h
  · exact Nat.le_refl _
  · exact Nat.le_max_left _ _

namespace Reading

theorem gauge_openings_of_none {α : Type} {reading : Reading} {entry : Entry} {table : Table Int}
    {key : String} (hLimit : table.get? key = none) (next : Content → α) :
    (reading.gauge entry table key next).openings = [] := by
  have hRequire : require table key = .error (.broken (.missingKey key)) := by
    rw [require, hLimit]
  rw [gauge, Traced.bind_of_error hRequire]
  rfl

theorem gauge_openings {α : Type} {reading : Reading} {entry : Entry} {table : Table Int}
    {key : String} {limit : Int} (hLimit : table.get? key = some limit) (next : Content → α) :
    (reading.gauge entry table key next).openings =
      [⟨entry, limit, bytesOf reading.payload entry limit⟩] := by
  have hRequire : require table key = .ok limit := require_eq_ok_iff.mpr hLimit
  rw [gauge, Traced.bind_of_ok hRequire, Traced.still, List.nil_append, Traced.bind]
  cases (measureTraced reading.payload entry limit).outcome with
  | error halt => rfl
  | ok content => exact List.append_nil _

/-- The next inventory accounts for some bytes, and unless the budget is spent they are within
it. -/
structure Covers (reading : Reading) (inventory : Inventory) (bytes : Nat) (next : Inventory) :
    Prop where
  total : inventory.totalSize + bytes ≤ next.totalSize
  unspent : next.budgetExhausted = false → inventory.budgetExhausted = false ∧
    (bytes = 0 ∨ (next.totalSize : Int) ≤ reading.budget)

omit [Platform] in
theorem covers_charge (reading : Reading) {inventory filled : Inventory} {bytes size : Nat}
    (hTotal : inventory.totalSize = filled.totalSize)
    (hSpent : inventory.budgetExhausted = filled.budgetExhausted) (h : bytes ≤ size) :
    reading.Covers inventory bytes (reading.charge filled size) where
  total := by
    rw [hTotal]
    exact Nat.add_le_add_left h _
  unspent := by
    intro hUnspent
    refine ⟨hSpent.trans (charge_fresh hUnspent), .inr ?_⟩
    simp only [charge, Bool.or_eq_false_iff, decide_eq_false_iff_not] at hUnspent
    exact Int.not_lt.mp hUnspent.2

omit [Platform] in
theorem covers_aside (reading : Reading) (inventory : Inventory) (size : Nat) :
    reading.Covers inventory 0
      { inventory with totalSize := inventory.totalSize + size } where
  total := Nat.le_add_right _ _
  unspent := fun h => ⟨h, .inl rfl⟩

/-- What taking in an entry opens: nothing, or this entry against its ceiling. -/
inductive StepOpens (reading : Reading) (inventory : Inventory) (entry : Entry)
    (step : Traced Inventory) : Prop
  | nothing (hNone : step.openings = [])
      (hCovers : ∀ next, step.outcome = .ok next → reading.Covers inventory 0 next)
  | entry {limit : Int} (hCeiling : reading.OpensWithin inventory entry limit)
      (hOpened : step.openings = [⟨entry, limit, bytesOf reading.payload entry limit⟩])
      (hCovers : ∀ next, step.outcome = .ok next →
        reading.Covers inventory (bytesOf reading.payload entry limit) next)

theorem stepOpens_still {reading : Reading} {inventory : Inventory} {entry : Entry}
    {outcome : Except Halt Inventory}
    (h : ∀ next, outcome = .ok next → reading.Covers inventory 0 next) :
    reading.StepOpens inventory entry (.still outcome) := .nothing rfl h

theorem stepOpens_gauge {reading : Reading} {inventory : Inventory} {entry : Entry}
    {table : Table Int} {key : String} {next : Content → Inventory}
    (hCeiling : ∀ limit, table.get? key = some limit → reading.OpensWithin inventory entry limit)
    (hNext : ∀ bytes content, bytes ≤ content.size →
      reading.Covers inventory bytes (next content)) :
    reading.StepOpens inventory entry (reading.gauge entry table key next) := by
  cases hLimit : table.get? key with
  | none =>
    refine .nothing (gauge_openings_of_none hLimit next) fun after hOk => ?_
    rw [gauge_outcome, require, hLimit] at hOk
    cases hOk
  | some limit =>
    refine .entry (hCeiling limit hLimit) (gauge_openings hLimit next) fun after hOk => ?_
    rw [gauge_outcome, require_eq_ok_iff.mpr hLimit] at hOk
    obtain ⟨same, hSame, hOk⟩ := Except.bind_eq_ok hOk
    cases hSame
    obtain ⟨content, hContent, hOk⟩ := Except.bind_eq_ok hOk
    cases hOk
    exact hNext _ content (bytesOf_le_size hContent)

/-- The forms of a step: without an opening, or a measurement against the limit that it looks up. -/
inductive StepForm (reading : Reading) (inventory : Inventory) (entry : Entry) :
    Traced Inventory → Prop
  | refused {fault : Fault} (hSuspicion : suspicion? reading.rules entry = some fault) :
    StepForm reading inventory entry (.still (.error (.refused fault)))
  | aside : StepForm reading inventory entry
      (.still (.ok { inventory with totalSize := inventory.totalSize + entry.size }))
  | declared : StepForm reading inventory entry
      (.still (.ok (reading.withAsset inventory (reading.assetOf entry entry.size))))
  | script (hRole : roleOf reading.rules entry.name = .script) :
    StepForm reading inventory entry
      (reading.gauge entry reading.rules.sizeLimits "script" (reading.withScript inventory))
  | manifest (hRole : roleOf reading.rules entry.name = .manifest) :
    StepForm reading inventory entry
      (reading.gauge entry reading.rules.assetLimits jsonCategory (reading.withManifest inventory))
  | asset {category : String} (hRole : roleOf reading.rules entry.name = .asset)
    (hCategory : reading.category? entry.name = some category)
    (hReads : reading.decompresses inventory entry.name = true) :
    StepForm reading inventory entry
      (reading.gauge entry reading.rules.assetLimits category fun content =>
        reading.withAsset inventory (reading.assetOf entry content.size))

theorem takeInTraced_form (reading : Reading) (inventory : Inventory) (entry : Entry) :
    reading.StepForm inventory entry (reading.takeInTraced inventory entry) := by
  unfold takeInTraced
  cases hSuspicion : suspicion? reading.rules entry with
  | some fault => exact .refused hSuspicion
  | none =>
    simp only
    cases hRole : roleOf reading.rules entry.name with
    | unsafePath => exact .aside
    | stray => exact .aside
    | script => exact .script hRole
    | manifest => exact .manifest hRole
    | asset =>
      simp only
      cases hCategory : reading.category? entry.name with
      | none => exact .declared
      | some category =>
        simp only
        split
        · next hReads => exact .asset hRole hCategory hReads
        · exact .declared

theorem takeInTraced_opens (reading : Reading) (inventory : Inventory) (entry : Entry) :
    reading.StepOpens inventory entry (reading.takeInTraced inventory entry) := by
  have hForm := reading.takeInTraced_form inventory entry
  generalize reading.takeInTraced inventory entry = step at hForm ⊢
  cases hForm with
  | refused => exact stepOpens_still fun next hOk => by cases hOk
  | aside =>
    refine stepOpens_still fun next hOk => ?_
    cases hOk
    exact reading.covers_aside inventory entry.size
  | declared =>
    refine stepOpens_still fun next hOk => ?_
    cases hOk
    exact reading.covers_charge rfl rfl (Nat.zero_le _)
  | script hRole =>
    refine stepOpens_gauge (fun limit hLimit => ?_) fun _ _ => reading.covers_charge rfl rfl
    rw [OpensWithin, hRole]
    exact hLimit
  | manifest hRole =>
    refine stepOpens_gauge (fun limit hLimit => ?_) fun _ _ => reading.covers_charge rfl rfl
    rw [OpensWithin, hRole]
    exact hLimit
  | @asset category hRole hCategory hReads =>
    simp only [decompresses, Bool.and_eq_true, Bool.not_eq_true'] at hReads
    refine stepOpens_gauge (fun limit hLimit => ?_) fun _ _ => reading.covers_charge rfl rfl
    rw [OpensWithin, hRole]
    exact ⟨hReads.2, category, hCategory, hLimit⟩

/-- Every opening of a walk is one of an entry that is walked over, each in its turn. -/
theorem walkTraced_openings (reading : Reading) (inventory : Inventory) (entries : List Entry) :
    List.Sublist ((reading.walkTraced inventory entries).openings.map (·.entry)) entries ∧
      ∀ opening ∈ (reading.walkTraced inventory entries).openings,
        opening.obtained = bytesOf reading.payload opening.entry opening.limit ∧
          ∃ before, reading.OpensWithin before opening.entry opening.limit := by
  induction entries generalizing inventory with
  | nil => exact ⟨List.Sublist.refl [], fun opening hOpening => by cases hOpening⟩
  | cons entry entries ih =>
    obtain ⟨first, hFirst, hStep⟩ : ∃ first : List Opening,
        (reading.takeInTraced inventory entry).openings = first ∧
          List.Sublist (first.map (·.entry)) [entry] ∧
          ∀ opening ∈ first,
            opening.obtained = bytesOf reading.payload opening.entry opening.limit ∧
            ∃ before, reading.OpensWithin before opening.entry opening.limit := by
      cases reading.takeInTraced_opens inventory entry with
      | nothing hNone _ => exact ⟨[], hNone, List.nil_sublist _, fun opening h => by cases h⟩
      | @entry limit hWithin hOpened _ =>
        refine ⟨_, hOpened, List.Sublist.refl _, fun opening hOpening => ?_⟩
        rw [List.mem_singleton.mp hOpening]
        exact ⟨rfl, inventory, hWithin⟩
    rw [walkTraced]
    cases hOutcome : (reading.takeInTraced inventory entry).outcome with
    | error halt =>
      rw [Traced.bind_of_error hOutcome, hFirst]
      exact ⟨hStep.1.trans (List.singleton_sublist.mpr List.mem_cons_self), hStep.2⟩
    | ok next =>
      obtain ⟨hSublist, hRest⟩ := ih next
      rw [Traced.bind_of_ok hOutcome, hFirst, List.map_append]
      refine ⟨hStep.1.append hSublist, fun opening hOpening => ?_⟩
      rcases List.mem_append.mp hOpening with hNow | hLater
      · exact hStep.2 opening hNow
      · exact hRest opening hLater

end Reading

theorem readTraced_of_lists {rules : RuleTables} {payload : ByteArray} {files : List Entry}
    (hLists : Lists rules payload files) (budget : Int) : readTraced rules payload budget =
      (readingOf rules payload budget files).walkTraced (blankOf rules files)
        (readingOrder rules files) := by
  obtain ⟨⟨entries, hRead, hNamed, rfl⟩, hFew⟩ := hLists
  unfold readTraced
  simp only [hRead, none_unnamed hNamed, Bool.false_eq_true, if_false]
  rw [if_neg (by omega)]

theorem readTraced_cases (rules : RuleTables) (payload : ByteArray) (budget : Int) :
    (readTraced rules payload budget).openings = [] ∨
      ∃ files, Lists rules payload files ∧ readTraced rules payload budget =
        (readingOf rules payload budget files).walkTraced (blankOf rules files)
          (readingOrder rules files) := by
  unfold readTraced
  cases hRead : Directory.read payload with
  | error fault => cases fault <;> exact .inl rfl
  | ok entries =>
    simp only
    split
    · exact .inl rfl
    · next hNamed =>
      split
      · exact .inl rfl
      · next hFew =>
        refine .inr ⟨_, ⟨⟨entries, hRead, fun entry hEntry hName => hNamed ?_, rfl⟩, by omega⟩, rfl⟩
        exact List.any_eq_true.mpr ⟨entry, hEntry, by simp [hName]⟩

end SubmissionGate.Bundle
