import Mathlib.Data.List.Forall2
import SubmissionGate.Proofs.Bundle.Files

/-!
# Archives that differ in their manifest

Two archives list the same entries with the same contents, the bytes of the manifest apart. They are
read side by side: the same entries count, in the same order, one step leaves two inventories the
same but for the manifest, and so does the whole walk.
-/

namespace SubmissionGate

/-- Two outcomes side by side: related values, or the same reason to stop. What may happen to one of
them alone is exempt. -/
inductive Alongside {ε α β : Type} (exempt : ε → Prop) (Related : α → β → Prop) :
    Except ε α → Except ε β → Prop
  | ok {value : α} {other : β} (h : Related value other) :
      Alongside exempt Related (.ok value) (.ok other)
  | stopped (cause : ε) : Alongside exempt Related (.error cause) (.error cause)
  | first {cause : ε} (h : exempt cause) (outcome : Except ε β) :
      Alongside exempt Related (.error cause) outcome
  | second {cause : ε} (h : exempt cause) (outcome : Except ε α) :
      Alongside exempt Related outcome (.error cause)

namespace Alongside

variable {ε α β γ δ : Type} {exempt : ε → Prop} {Related : α → β → Prop} {After : γ → δ → Prop}

theorem mono {wider : ε → Prop} (hExempt : ∀ cause, exempt cause → wider cause)
    {outcome : Except ε α} {twin : Except ε β} (h : Alongside exempt Related outcome twin) :
    Alongside wider Related outcome twin := by
  cases h with
  | ok h => exact .ok h
  | stopped cause => exact .stopped cause
  | first h outcome => exact .first (hExempt _ h) _
  | second h outcome => exact .second (hExempt _ h) _

theorem bind {outcome : Except ε α} {twin : Except ε β} {next : α → Except ε γ}
    {follow : β → Except ε δ} (h : Alongside exempt Related outcome twin)
    (hNext : ∀ value other, Related value other →
      Alongside exempt After (next value) (follow other)) :
    Alongside exempt After (outcome >>= next) (twin >>= follow) := by
  cases h with
  | ok h => exact hNext _ _ h
  | stopped cause => exact .stopped cause
  | first h outcome => exact .first h _
  | second h outcome => exact .second h _

theorem bind_same {next : α → Except ε γ} {follow : α → Except ε δ} (outcome : Except ε α)
    (hNext : ∀ value, outcome = .ok value → Alongside exempt After (next value) (follow value)) :
    Alongside exempt After (outcome >>= next) (outcome >>= follow) := by
  cases outcome with
  | error cause => exact .stopped cause
  | ok value => exact hNext value rfl

end Alongside

end SubmissionGate

namespace SubmissionGate.Bundle

open Archive

variable [Platform]

def Never {ε : Type} (_ : ε) : Prop := False

/-- A limit that an entry of this role is read against. -/
def ReadAgainst (rules : RuleTables) (limit : Int) : Role → Prop
  | .script => rules.sizeLimits.get? "script" = some limit
  | .manifest => rules.assetLimits.get? jsonCategory = some limit
  | .asset => ∃ category, rules.assetLimits.get? category = some limit
  | _ => False

/-- Two entries, each in its archive, that differ at most in the bytes of a manifest. -/
structure Counterpart (rules : RuleTables) (payload twin : ByteArray) (entry other : Entry) :
    Prop where
  name : other.name = entry.name
  size : other.size = entry.size
  suspicion : suspicion? rules other = suspicion? rules entry
  content : ∀ limit, ReadAgainst rules limit (roleOf rules entry.name) →
    measure twin other limit = measure payload entry limit ∨
      roleOf rules entry.name = .manifest ∧ ∃ data same, measure payload entry limit = .ok data ∧
        measure twin other limit = .ok same ∧ same.size = data.size

/-- Two inventories that differ at most in the bytes of the manifest. -/
def SameButManifest (inventory other : Inventory) : Prop :=
  ∃ manifest, other = { inventory with manifest := manifest }

variable {rules : RuleTables} {payload twin : ByteArray}

section

variable {entry other : Entry} (h : Counterpart rules payload twin entry other)

include h

theorem Counterpart.role : roleOf rules other.name = roleOf rules entry.name := by rw [h.name]

theorem Counterpart.measure_eq {role : Role} (hRole : roleOf rules entry.name = role)
    (hOther : role ≠ .manifest) {limit : Int} (hLimit : ReadAgainst rules limit role) :
    measure twin other limit = measure payload entry limit := by
  subst hRole
  rcases h.content limit hLimit with hSame | ⟨hManifest, -⟩
  · exact hSame
  · exact absurd hManifest hOther

theorem Counterpart.measure_manifest (hRole : roleOf rules entry.name = .manifest) {limit : Int}
    (hLimit : ReadAgainst rules limit .manifest) :
    Alongside Never (fun data same => same.size = data.size) (measure payload entry limit)
      (measure twin other limit) := by
  rcases h.content limit (hRole ▸ hLimit) with hSame | ⟨-, data, same, hData, hOther, hSize⟩
  · rw [hSame]
    cases measure payload entry limit with
    | error halt => exact .stopped halt
    | ok content => exact .ok rfl
  · rw [hData, hOther]
    exact .ok hSize

end

namespace Reading

variable {reading : Reading} {entry other : Entry} {inventory copy : Inventory}

theorem assetSize_counterpart (h : Counterpart reading.rules reading.payload twin entry other)
    (hRole : roleOf reading.rules entry.name = .asset) (hSame : SameButManifest inventory copy) :
    Alongside Never (· = ·) (reading.assetSize inventory entry)
      ({ reading with payload := twin }.assetSize copy other) := by
  obtain ⟨manifest, rfl⟩ := hSame
  have hCategory : { reading with payload := twin }.category? other.name =
      reading.category? entry.name := by rw [h.name, category?, category?]
  unfold assetSize decompresses
  rw [hCategory, h.size]
  cases reading.category? entry.name with
  | none => exact .ok rfl
  | some category =>
    simp only
    split
    · refine .bind_same _ fun limit hLimit => ?_
      rw [h.measure_eq hRole (by decide) ⟨category, require_eq_ok_iff.mp hLimit⟩]
      exact .bind_same _ fun content _ => .ok rfl
    · exact .ok rfl

theorem takeIn_counterpart (h : Counterpart reading.rules reading.payload twin entry other)
    (hSame : SameButManifest inventory copy) :
    Alongside Never SameButManifest (reading.takeIn inventory entry)
      ({ reading with payload := twin }.takeIn copy other) := by
  have hAsset := fun hRole => assetSize_counterpart h hRole hSame
  obtain ⟨manifest, rfl⟩ := hSame
  unfold takeIn
  rw [h.suspicion]
  cases suspicion? reading.rules entry with
  | some fault => exact .stopped _
  | none =>
    simp only [h.role]
    cases hRole : roleOf reading.rules entry.name with
    | unsafePath | stray =>
      simp only [h.size]
      exact .ok ⟨manifest, rfl⟩
    | script =>
      refine .bind_same _ fun limit hLimit => ?_
      rw [h.measure_eq hRole (by decide) (require_eq_ok_iff.mp hLimit)]
      exact .bind_same _ fun content _ => .ok ⟨manifest, rfl⟩
    | manifest =>
      refine .bind_same _ fun limit hLimit => ?_
      refine (h.measure_manifest hRole (require_eq_ok_iff.mp hLimit)).bind
        fun content same hSize => ?_
      rw [hSize]
      exact .ok ⟨same.data, rfl⟩
    | asset =>
      simp only [h.name]
      refine (hAsset hRole).bind ?_
      rintro size _ rfl
      exact .ok ⟨manifest, rfl⟩

theorem takeAll_counterparts {entries others : List Entry}
    (h : List.Forall₂ (Counterpart reading.rules reading.payload twin) entries others)
    (hSame : SameButManifest inventory copy) :
    Alongside Never (Alongside Never SameButManifest) (reading.takeAll inventory entries).finish
      ({ reading with payload := twin }.takeAll copy others).finish := by
  induction h generalizing inventory copy with
  | nil => exact .ok (.ok hSame)
  | cons hEntry _ ih =>
    rw [finish_takeAll_cons, finish_takeAll_cons]
    have hStep := takeIn_counterpart hEntry hSame
    revert hStep
    generalize reading.takeIn inventory _ = first
    generalize takeIn _ copy _ = second
    rintro (hNext | halt | hNever | hNever)
    · exact ih hNext
    · cases halt with
      | refused fault => exact .ok (.stopped fault)
      | broken cause => exact .stopped cause
    · exact hNever.elim
    · exact hNever.elim

end Reading

/-! ## From the directory to the inventory -/

section

variable {entries others : List Entry}
  (h : List.Forall₂ (Counterpart rules payload twin) entries others)

include h

theorem counterparts_filter (keep : Entry → Bool)
    (hKeep : ∀ entry other : Entry, other.name = entry.name → keep other = keep entry) :
    List.Forall₂ (Counterpart rules payload twin) (entries.filter keep) (others.filter keep) :=
  List.rel_filter (fun entry other hEntry => by simp only [hKeep entry other hEntry.name]) h

theorem counterparts_names : others.map (·.name) = entries.map (·.name) := by
  induction h with
  | nil => rfl
  | cons hEntry _ ih => rw [List.map_cons, List.map_cons, hEntry.name, ih]

theorem counterparts_keepFirst {first copies : List Entry} (repeated : List String)
    (hFirst : List.Forall₂ (Counterpart rules payload twin) first copies) :
    List.Forall₂ (Counterpart rules payload twin) (entries.foldl keepFirst (first, repeated)).1
        (others.foldl keepFirst (copies, repeated)).1 ∧
      (others.foldl keepFirst (copies, repeated)).2 =
        (entries.foldl keepFirst (first, repeated)).2 := by
  induction h generalizing first copies repeated with
  | nil => exact ⟨hFirst, rfl⟩
  | @cons entry other rest behind hEntry _ ih =>
    have hSeen : (copies.any fun earlier => earlier.name == other.name) =
        first.any fun earlier => earlier.name == entry.name := by
      have hNames := counterparts_names hFirst
      have hAny := congrArg (·.any (· == entry.name)) hNames
      simpa only [List.any_map, Function.comp_def, hEntry.name] using hAny
    rw [List.foldl_cons, List.foldl_cons, keepFirst, keepFirst]
    simp only [hSeen]
    split
    · rw [hEntry.name]
      exact ih _ hFirst
    · exact ih _ (.cons hEntry hFirst)

theorem counterparts_distinct :
    List.Forall₂ (Counterpart rules payload twin) (firstFiles entries) (firstFiles others) ∧
      (distinct others).2 = (distinct entries).2 := by
  obtain ⟨hKept, hRepeated⟩ := counterparts_keepFirst h [] .nil
  rw [firstFiles, firstFiles, distinct_eq, distinct_eq]
  exact ⟨List.forall₂_reverse_iff.mpr hKept, congrArg List.reverse hRepeated⟩

theorem counterparts_readingOrder :
    List.Forall₂ (Counterpart rules payload twin) (readingOrder rules entries)
      (readingOrder rules others) := by
  obtain ⟨hFirst, -⟩ := counterparts_distinct h
  have hLeading : ∀ entry other : Entry, other.name = entry.name →
      isLeading rules other = isLeading rules entry := fun entry other hName => by
    rw [isLeading, isLeading, hName]
  exact List.rel_append (counterparts_filter hFirst _ hLeading)
    (counterparts_filter hFirst _ fun entry other hName => by rw [hLeading entry other hName])

theorem counterparts_roles : rolesOf rules others = rolesOf rules entries := by
  have hNames := counterparts_names (counterparts_distinct h).1
  have hRoles := congrArg (List.map fun name => (name, roleOf rules name)) hNames
  rwa [List.map_map, List.map_map] at hRoles

/-- Archives with the same files are read to inventories that differ at most in the bytes of the
manifest. -/
theorem inventoryOf_counterparts (budget : Int) :
    Alongside Never (Alongside Never SameButManifest)
      (inventoryOf rules payload budget entries).finish
      (inventoryOf rules twin budget others).finish := by
  have hRoles := counterparts_roles h
  have hReading : readingOf rules twin budget others =
      { readingOf rules payload budget entries with payload := twin } := by
    rw [readingOf, assetPaths, hRoles]
    rfl
  have hBlank : blankOf rules others = blankOf rules entries := by
    rw [blankOf, hRoles, (counterparts_distinct h).2]
    rfl
  rw [inventoryOf_eq, inventoryOf_eq, hReading, hBlank]
  exact Reading.takeAll_counterparts (counterparts_readingOrder h) ⟨_, rfl⟩

theorem read_counterparts (hRead : Directory.read payload = .ok entries)
    (hTwin : Directory.read twin = .ok others) (budget : Int) :
    Alongside Never (Alongside Never SameButManifest) (read rules payload budget).finish
      (read rules twin budget).finish := by
  have hNames := counterparts_names h
  by_cases hNamed : ∀ entry ∈ entries, entry.name ≠ ""
  · have hOtherNamed : ∀ other ∈ others, other.name ≠ "" := by
      have hAll : ∀ name ∈ others.map (·.name), name ≠ "" := by
        rw [hNames]
        simpa using hNamed
      simpa using hAll
    have hFiles := counterparts_filter h (fun entry => !isDirectory entry)
      fun entry other hName => by rw [isDirectory, isDirectory, hName]
    rw [finish_read_of_listed hRead hNamed, finish_read_of_listed hTwin hOtherNamed]
    simp only [← hFiles.length_eq]
    split
    · exact .ok (.stopped _)
    · exact inventoryOf_counterparts hFiles budget
  · obtain ⟨entry, hEntry, hName⟩ : ∃ entry ∈ entries, entry.name = "" := by simpa using hNamed
    have hMem : "" ∈ others.map (·.name) := by
      rw [hNames]
      exact List.mem_map.mpr ⟨entry, hEntry, hName⟩
    obtain ⟨other, hOther, hEmpty⟩ := List.mem_map.mp hMem
    rw [finish_read_of_unnamed hRead hEntry hName, finish_read_of_unnamed hTwin hOther hEmpty]
    exact .stopped _

end

end SubmissionGate.Bundle
