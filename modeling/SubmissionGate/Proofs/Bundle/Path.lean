import SubmissionGate.Bundle.Path

/-!
# Paths that stay below

A path of a bundle entry is joined to a directory part by part. Where every part is a plain name
nothing is ever left, and the entry lands strictly below the directory whatever that is.
-/

namespace SubmissionGate.Bundle

def enter (place : List (List Char)) (part : List Char) : List (List Char) :=
  if part = [] ∨ part = ['.'] then place
  else if part = ['.', '.'] then place.dropLast
  else place ++ [part]

def joined (directory : List (List Char)) (path : String) : List (List Char) :=
  let start := if path.toList.head? = some '/' then [] else directory
  (components path.toList).foldl enter start

/-- A path that can be joined to any directory without leaving it. -/
structure Contained (path : String) : Prop where
  noBackslash : '\\' ∉ path.toList
  noColon : ':' ∉ path.toList
  relative : path.toList.head? ≠ some '/'
  parts : ∀ part ∈ components path.toList, part ≠ [] ∧ part ≠ ['.'] ∧ part ≠ ['.', '.']
  below : ∀ directory, ∃ name rest, joined directory path = directory ++ name :: rest

theorem components_ne_nil (chars : List Char) : components chars ≠ [] := by
  induction chars with
  | nil => simp [components]
  | cons c rest ih =>
    rw [components]
    split
    · simp
    · split
      · simp
      · simp

theorem isPlainComponent_iff {part : List Char} :
    isPlainComponent part = true ↔ part ≠ [] ∧ part ≠ ['.'] ∧ part ≠ ['.', '.'] := by
  simp [isPlainComponent, and_assoc]

theorem foldl_enter_plain {parts : List (List Char)}
    (h : ∀ part ∈ parts, part ≠ [] ∧ part ≠ ['.'] ∧ part ≠ ['.', '.'])
    (place : List (List Char)) : parts.foldl enter place = place ++ parts := by
  induction parts generalizing place with
  | nil => simp
  | cons part rest ih =>
    obtain ⟨hEmpty, hPoint, hPoints⟩ := h part List.mem_cons_self
    have hEnter : enter place part = place ++ [part] := by
      simp [enter, hEmpty, hPoint, hPoints]
    rw [List.foldl_cons, hEnter, ih fun other hOther => h other (List.mem_cons_of_mem _ hOther),
      List.append_assoc, List.singleton_append]

theorem contained_of_staysBelow {path : String} (h : staysBelow path = true) : Contained path := by
  simp only [staysBelow, Bool.and_eq_true, Bool.not_eq_true', List.all_eq_true,
    isPlainComponent_iff] at h
  obtain ⟨⟨hBackslash, hColon⟩, hParts⟩ := h
  have hRelative : path.toList.head? ≠ some '/' := by
    intro hSlash
    cases hChars : path.toList with
    | nil =>
      rw [hChars] at hSlash
      cases hSlash
    | cons c rest =>
      rw [hChars] at hSlash hParts
      cases hSlash
      exact (hParts [] (by simp [components])).1 rfl
  refine ⟨by simpa using hBackslash, by simpa using hColon, hRelative, hParts, ?_⟩
  intro directory
  cases hComponents : components path.toList with
  | nil => exact absurd hComponents (components_ne_nil _)
  | cons name rest =>
    refine ⟨name, rest, ?_⟩
    unfold joined
    simp only
    rw [if_neg hRelative, foldl_enter_plain hParts, hComponents]

theorem roleOf_cases (rules : RuleTables) (path : String) :
    roleOf rules path = .unsafePath ∨ roleOf rules path = .stray ∨
      staysBelow path = true ∧
        (roleOf rules path = .script ∧ path = rules.bundleScript ∨
          roleOf rules path = .manifest ∧ path = rules.bundleManifest ∨
          roleOf rules path = .asset ∧ isBelow rules.bundleAssetRoot path = true) := by
  unfold roleOf
  cases hBelow : staysBelow path with
  | false => exact .inl rfl
  | true =>
    simp only [Bool.not_true, Bool.false_eq_true, if_false]
    split
    · next hScript => exact .inr (.inr ⟨trivial, .inl ⟨rfl, hScript⟩⟩)
    · split
      · next hManifest => exact .inr (.inr ⟨trivial, .inr (.inl ⟨rfl, hManifest⟩)⟩)
      · split
        · next hAsset => exact .inr (.inr ⟨trivial, .inr (.inr ⟨rfl, hAsset⟩)⟩)
        · exact .inr (.inl rfl)

end SubmissionGate.Bundle
