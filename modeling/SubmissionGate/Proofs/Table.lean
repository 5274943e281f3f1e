import Mathlib.Data.List.Induction
import SubmissionGate.Table

/-!
# Look-ups in keyed tables

What putting a value into a table does to the look-ups in it: one key changes and all the others
stay. A table that was filled from a list of keys holds just those keys. Of several writes under one
name the last one counts, and writing them all again changes nothing.
-/

namespace SubmissionGate.Table

variable {α : Type}

theorem get?_isSome (table : Table α) (key : String) : (table.get? key).isSome = table.has key := by
  unfold get? has
  induction table with
  | nil => rfl
  | cons entry rest ih =>
    obtain ⟨name, value⟩ := entry
    rw [List.lookup_cons, List.any_cons, Bool.beq_comm]
    cases hSame : name == key with
    | true => simp
    | false => simpa [hSame] using ih

theorem exists_get?_of_has {table : Table α} {key : String} (h : table.has key = true) :
    ∃ value, table.get? key = some value := by
  rw [← get?_isSome] at h
  exact Option.isSome_iff_exists.mp h

theorem get?_cons (entry : String × α) (table : Table α) (key : String) :
    get? (entry :: table) key = if entry.1 = key then some entry.2 else table.get? key := by
  obtain ⟨name, value⟩ := entry
  unfold get?
  rw [List.lookup_cons]
  by_cases hSame : name = key
  · simp [hSame]
  · have hOther : (key == name) = false := by simpa using Ne.symm hSame
    simp [hSame, hOther]

theorem mem_of_get? {table : Table α} {key : String} {value : α}
    (h : get? table key = some value) : (key, value) ∈ table := by
  induction table with
  | nil => cases h
  | cons entry rest ih =>
    rw [Table.get?_cons] at h
    split at h
    · next hSame =>
      cases h
      subst hSame
      exact List.mem_cons_self
    · exact List.mem_cons_of_mem _ (ih h)

theorem get?_append_single (table : Table α) (key other : String) (value : α)
    (hNew : table.has key = false) :
    get? (table ++ [(key, value)]) other =
      if key = other then some value else table.get? other := by
  induction table with
  | nil => rw [List.nil_append, get?_cons]
  | cons entry rest ih =>
    obtain ⟨hEntry, hRest⟩ := Bool.or_eq_false_iff.mp hNew
    rw [List.cons_append, get?_cons, get?_cons, ih hRest]
    by_cases hOther : entry.1 = other
    · subst hOther
      have hKey : key ≠ entry.1 := by
        rintro rfl
        simp at hEntry
      simp [hKey]
    · simp [hOther]

theorem get?_map_set (table : Table α) (key other : String) (value : α) :
    get? (table.map fun entry => if entry.1 == key then (key, value) else entry) other =
      if key = other ∧ table.has key = true then some value else table.get? other := by
  induction table with
  | nil => simp [get?, has]
  | cons entry rest ih =>
    rw [List.map_cons, get?_cons, get?_cons, ih]
    by_cases hEntry : entry.1 = key
    · subst hEntry
      by_cases hOther : entry.1 = other
      · simp [hOther, has]
      · simp [hOther]
    · by_cases hOther : entry.1 = other
      · subst hOther
        simp [hEntry, Ne.symm hEntry]
      · have hRest : has (entry :: rest) key = Table.has rest key := by simp [has, hEntry]
        simp [hEntry, hOther, hRest]

theorem get?_put (table : Table α) (key other : String) (value : α) :
    (table.put key value).get? other = if key = other then some value else table.get? other := by
  unfold put
  cases hKey : table.has key with
  | true => simpa [hKey] using get?_map_set table key other value
  | false => exact get?_append_single table key other value hKey

theorem has_put (table : Table α) (key other : String) (value : α) :
    (table.put key value).has other = (table.has other || key == other) := by
  rw [← get?_isSome, ← get?_isSome, get?_put]
  by_cases hSame : key = other
  · simp [hSame]
  · simp [hSame]

theorem get?_foldl_put (value : String → α) (keys : List String) (table : Table α)
    (name : String) :
    get? (keys.foldl (fun (filled : Table α) key => filled.put key (value key)) table) name =
      if name ∈ keys then some (value name) else table.get? name := by
  induction keys generalizing table with
  | nil => simp
  | cons key rest ih =>
    rw [List.foldl_cons, ih, get?_put]
    by_cases hRest : name ∈ rest
    · simp [hRest]
    · by_cases hKey : key = name
      · simp [hKey]
      · simp [hRest, hKey, Ne.symm hKey]

/-! Many writes -/

/-- A table with all of some writes put into it, one after the other. -/
def putAll (table writes : Table α) : Table α :=
  writes.foldl (fun filled entry => filled.put entry.1 entry.2) table

theorem putAll_concat (table writes : Table α) (entry : String × α) :
    table.putAll (writes ++ [entry]) = (table.putAll writes).put entry.1 entry.2 := by
  rw [putAll, List.foldl_append]
  rfl

theorem get?_putAll (table writes : Table α) (name : String) :
    (table.putAll writes).get? name = (get? writes.reverse name).or (table.get? name) := by
  induction writes using List.reverseRecOn with
  | nil => rfl
  | append_singleton writes entry ih =>
    rw [putAll_concat, get?_put, ih, List.reverse_concat, get?_cons]
    split
    · rfl
    · rfl

theorem has_putAll (table writes : Table α) (name : String) :
    (table.putAll writes).has name = (has writes name || table.has name) := by
  induction writes using List.reverseRecOn with
  | nil => rfl
  | append_singleton writes entry ih =>
    rw [putAll_concat, has_put, ih]
    simp only [has, List.any_append, List.any_cons, List.any_nil, Bool.or_false]
    rw [Bool.or_right_comm]

theorem mem_put {table : Table α} {key : String} {value : α} {entry : String × α}
    (h : entry ∈ table.put key value) :
    entry = (key, value) ∨ entry.1 ≠ key ∧ entry ∈ table := by
  unfold put at h
  split at h
  · obtain ⟨old, hOld, rfl⟩ := List.mem_map.mp h
    by_cases hSame : old.1 = key
    · simp [hSame]
    · simp [hSame, hOld]
  · next hNew =>
    obtain hOld | hLast := List.mem_append.mp h
    · refine .inr ⟨?_, hOld⟩
      rintro rfl
      exact hNew (List.any_eq_true.mpr ⟨entry, hOld, beq_self_eq_true _⟩)
    · exact .inl (List.mem_singleton.mp hLast)

/-- An entry holds what the last write under its name put there, if there is one. -/
theorem mem_putAll {table writes : Table α} {entry : String × α}
    (h : entry ∈ table.putAll writes) :
    get? writes.reverse entry.1 = some entry.2 ∨ get? writes.reverse entry.1 = none := by
  induction writes using List.reverseRecOn with
  | nil => exact .inr rfl
  | append_singleton writes write ih =>
    rw [putAll_concat] at h
    rw [List.reverse_concat, get?_cons]
    obtain rfl | ⟨hOther, hOld⟩ := mem_put h
    · simp
    · rw [if_neg (Ne.symm hOther)]
      exact ih hOld

/-- Writes that name only keys of a table leave each of its entries in its place. -/
theorem putAll_of_has {table writes : Table α} (h : ∀ write ∈ writes, table.has write.1 = true) :
    table.putAll writes =
      table.map fun entry => (entry.1, (get? writes.reverse entry.1).getD entry.2) := by
  induction writes using List.reverseRecOn with
  | nil => exact (List.map_id _).symm
  | append_singleton writes write ih =>
    have hBefore := ih fun other hOther => h other (List.mem_append_left _ hOther)
    have hHas : (table.putAll writes).has write.1 = true := by
      rw [has_putAll, h write (List.mem_append_right _ List.mem_cons_self), Bool.or_true]
    rw [putAll_concat, put, if_pos hHas, hBefore, List.map_map]
    refine List.map_congr_left fun entry _ => ?_
    rw [List.reverse_concat, get?_cons]
    by_cases hSame : entry.1 = write.1
    · simp [hSame]
    · simp [hSame, Ne.symm hSame]

theorem putAll_putAll (table writes : Table α) :
    (table.putAll writes).putAll writes = table.putAll writes := by
  have hHas : ∀ write ∈ writes, (table.putAll writes).has write.1 = true := by
    intro write hWrite
    have hNamed : has writes write.1 = true :=
      List.any_eq_true.mpr ⟨write, hWrite, beq_self_eq_true write.1⟩
    rw [has_putAll, hNamed, Bool.true_or]
  rw [putAll_of_has hHas]
  refine (List.map_congr_left fun entry hEntry => ?_).trans (List.map_id _)
  obtain hWritten | hKept := mem_putAll hEntry
  · rw [hWritten]
    rfl
  · rw [hKept]
    rfl

end SubmissionGate.Table
