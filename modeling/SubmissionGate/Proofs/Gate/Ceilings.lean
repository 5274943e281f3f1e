import Mathlib.Algebra.BigOperators.Group.List.Basic
import Mathlib.Algebra.Ring.Int.Defs
import Mathlib.Data.Nat.Init
import SubmissionGate.Proofs.Bundle.Classification
import SubmissionGate.Proofs.Gate.BundleAcceptance
import SubmissionGate.Proofs.Gate.Findings

/-!
# Ceilings

Every asset that has a category is held against one ceiling: the one of its category, or together
with its sprite sheet the one of sheets. The comparisons cover the assets without an overlap, and
each of them reports an issue exactly if it exceeds its limit.
-/

namespace SubmissionGate.Bundle

open Gate

/-- What is held against one ceiling: an asset by itself, or the members of a sprite sheet. -/
structure Comparison where
  entry : String
  category : String
  members : List Asset

namespace Comparison

def ofAsset? (asset : Asset) : Option Comparison :=
  match asset.category with
  | none => none
  | some category =>
    if category = sheetCategory then none else some ⟨asset.path, category, [asset]⟩

def ofSheet (sheet : String × List Asset) : Comparison := ⟨sheet.1, sheetCategory, sheet.2⟩

def size (comparison : Comparison) : Nat := combinedSize comparison.members

def detail (comparison : Comparison) (limit : Int) : List (String × Value) :=
  [("entry", .text comparison.entry), ("category", .text comparison.category)] ++
    (if comparison.category = sheetCategory then
      [("members", .list (comparison.members.map fun asset => .text asset.path))] else []) ++
    [("actual", .int comparison.size), ("allowed", .int limit)]

structure ReportedBy (comparison : Comparison) (limit : Int) (issue : Issue) : Prop where
  severity : issue.severity = .error
  code : issue.code = .invalidAssetBundle
  detail : issue.detail = comparison.detail limit

end Comparison

def comparisons (assets : List Asset) : List Comparison :=
  assets.filterMap Comparison.ofAsset? ++ (sheets assets).map Comparison.ofSheet

/-- The assets of a bundle, classified by the paths that are there. -/
structure ClassifiedBy (rules : RuleTables) (paths : List String) (assets : List Asset) :
    Prop where
  distinct : (assets.map (·.path)).Nodup
  category : ∀ asset ∈ assets, (categories rules paths).get? asset.path = some asset.category

theorem mem_ceilingIssues {limits : Table Int} {assets : List Asset} {issues : List Issue}
    (h : ceilingIssues limits assets = .ok issues) {issue : Issue} :
    issue ∈ issues ↔ (∃ asset ∈ assets, assetIssue? limits asset = .ok (some issue)) ∨
      ∃ sheet ∈ sheets assets, sheetIssue? limits sheet.1 sheet.2 = .ok (some issue) := by
  rw [ceilingIssues_eq] at h
  obtain ⟨single, hSingle, h⟩ := Except.bind_eq_ok h
  obtain ⟨combined, hCombined, h⟩ := Except.bind_eq_ok h
  cases h
  rw [List.mem_filterMap]
  simp only [id_eq, exists_eq_right, List.mem_append]
  refine or_congr ⟨mapM_origin hSingle, ?_⟩ ⟨mapM_origin hCombined, ?_⟩
  · rintro ⟨asset, hAsset, hIssue⟩
    obtain ⟨result, hResult, hSame⟩ := mapM_member hSingle hAsset
    cases hIssue.symm.trans hSame
    exact hResult
  · rintro ⟨sheet, hSheet, hIssue⟩
    obtain ⟨result, hResult, hSame⟩ := mapM_member hCombined hSheet
    cases hIssue.symm.trans hSame
    exact hResult

namespace Comparison

theorem ReportedBy.sizes {comparison other : Comparison} {limit bound : Int} {issue : Issue}
    (h : comparison.ReportedBy limit issue) (hOther : other.ReportedBy bound issue) :
    comparison.size = other.size ∧ limit = bound := by
  have hSame := (List.append_inj' (h.detail.symm.trans hOther.detail) rfl).2
  simpa [Value.int] using hSame

theorem ReportedBy.not_single {comparison : Comparison} {limit : Int} {issue : Issue}
    (h : comparison.ReportedBy limit issue) (field : String × Value) :
    issue.detail ≠ [field] := by
  rw [h.detail]
  intro hSingle
  simpa [Comparison.detail] using congrArg List.length hSingle

theorem of_mem_sheets {assets : List Asset} {sheet : String × List Asset}
    (h : sheet ∈ sheets assets) : ofSheet sheet ∈ comparisons assets :=
  List.mem_append_right _ (List.mem_map_of_mem h)

end Comparison

theorem assetIssue?_eq {limits : Table Int} {asset : Asset} {comparison : Comparison} {limit : Int}
    (h : Comparison.ofAsset? asset = some comparison)
    (hLimit : limits.get? comparison.category = some limit) :
    ∃ issue, comparison.ReportedBy limit issue ∧ assetIssue? limits asset =
      .ok (if limit < (comparison.size : Int) then some issue else none) := by
  unfold Comparison.ofAsset? at h
  cases hCategory : asset.category with
  | none =>
    rw [hCategory] at h
    cases h
  | some category =>
    rw [hCategory] at h
    simp only at h
    split at h
    · cases h
    · next hSingle =>
      cases h
      let label := Text.capitalized category
      refine ⟨entryIssue
        s!"{label} '{asset.path}' is {asset.size} bytes; the limit is {limit} bytes" asset.path
        [("category", .text category), ("actual", .int asset.size), ("allowed", .int limit)],
        ⟨rfl, rfl, ?_⟩, ?_⟩
      · simp [Comparison.detail, hSingle, entryIssue, Issue.error, Comparison.size, combinedSize]
      · have hSize : Comparison.size ⟨asset.path, category, [asset]⟩ = asset.size := by
          simp [Comparison.size, combinedSize]
        rw [assetIssue?, hCategory, hSize]
        simp only [hSingle, if_false, ceiling_eq_ok_iff.mpr hLimit]
        exact (apply_ite Except.ok _ _ _).symm

theorem sheetIssue?_eq {limits : Table Int} {limit : Int}
    (hLimit : limits.get? sheetCategory = some limit) (sheet : String × List Asset) :
    ∃ issue, (Comparison.ofSheet sheet).ReportedBy limit issue ∧
      sheetIssue? limits sheet.1 sheet.2 =
        .ok (if limit < ((Comparison.ofSheet sheet).size : Int) then some issue else none) := by
  obtain ⟨key, members⟩ := sheet
  let size := combinedSize members
  refine ⟨entryIssue s!"Sprite sheet '{key}' is {size} bytes; the limit is {limit} bytes" key
    [("category", .text sheetCategory),
      ("members", .list (members.map fun asset => .text asset.path)), ("actual", .int size),
      ("allowed", .int limit)], ⟨rfl, rfl, ?_⟩, ?_⟩
  · simp [Comparison.detail, Comparison.ofSheet, entryIssue, Issue.error, Comparison.size, size]
  · simp only [sheetIssue?, ceiling_eq_ok_iff.mpr hLimit]
    exact (apply_ite Except.ok _ _ _).symm

theorem assetIssue?_uncompared {limits : Table Int} {asset : Asset} {issue : Issue}
    (h : Comparison.ofAsset? asset = none)
    (hIssue : assetIssue? limits asset = .ok (some issue)) :
    issue.detail = [("entry", .text asset.path)] := by
  unfold Comparison.ofAsset? at h
  unfold assetIssue? at hIssue
  cases hCategory : asset.category with
  | none =>
    rw [hCategory] at hIssue
    cases hIssue
    rfl
  | some category =>
    rw [hCategory] at h hIssue
    simp only at h hIssue
    split at h
    · next hSheet =>
      rw [if_pos hSheet] at hIssue
      cases hIssue
    · cases h

/-- Every comparison reports an issue exactly if it exceeds its limit. -/
theorem comparisons_reported {limits : Table Int} {assets : List Asset} {issues : List Issue}
    (h : ceilingIssues limits assets = .ok issues)
    (hKnown : ∀ comparison ∈ comparisons assets, limits.has comparison.category = true)
    {comparison : Comparison} (hComparison : comparison ∈ comparisons assets) {limit : Int}
    (hLimit : limits.get? comparison.category = some limit) :
    (∃ issue ∈ issues, comparison.ReportedBy limit issue) ↔ limit < (comparison.size : Int) := by
  constructor
  · rintro ⟨issue, hIssue, hReported⟩
    rcases (mem_ceilingIssues h).mp hIssue with ⟨asset, hAsset, hFound⟩ | ⟨sheet, hSheet, hFound⟩
    · cases hOther : Comparison.ofAsset? asset with
      | none => exact absurd (assetIssue?_uncompared hOther hFound) (hReported.not_single _)
      | some other =>
        have hMem : other ∈ comparisons assets :=
          List.mem_append_left _ (List.mem_filterMap.mpr ⟨asset, hAsset, hOther⟩)
        obtain ⟨bound, hBound⟩ := Table.exists_get?_of_has (hKnown other hMem)
        obtain ⟨same, hSame, hEq⟩ := assetIssue?_eq hOther hBound
        rw [hEq] at hFound
        split at hFound
        · next hExceeds =>
          cases hFound
          obtain ⟨hSize, rfl⟩ := hReported.sizes hSame
          rwa [hSize]
        · cases hFound
    · obtain ⟨bound, hBound⟩ := Table.exists_get?_of_has
        (hKnown _ (Comparison.of_mem_sheets hSheet))
      obtain ⟨same, hSame, hEq⟩ := sheetIssue?_eq hBound sheet
      rw [hEq] at hFound
      split at hFound
      · next hExceeds =>
        cases hFound
        obtain ⟨hSize, rfl⟩ := hReported.sizes hSame
        rwa [hSize]
      · cases hFound
  · intro hExceeds
    rcases List.mem_append.mp hComparison with hSingle | hCombined
    · obtain ⟨asset, hAsset, hOf⟩ := List.mem_filterMap.mp hSingle
      obtain ⟨issue, hReported, hEq⟩ := assetIssue?_eq hOf hLimit
      rw [if_pos hExceeds] at hEq
      exact ⟨issue, (mem_ceilingIssues h).mpr (.inl ⟨asset, hAsset, hEq⟩), hReported⟩
    · obtain ⟨sheet, hSheet, rfl⟩ := List.mem_map.mp hCombined
      obtain ⟨issue, hReported, hEq⟩ := sheetIssue?_eq hLimit sheet
      rw [if_pos hExceeds] at hEq
      exact ⟨issue, (mem_ceilingIssues h).mpr (.inr ⟨sheet, hSheet, hEq⟩), hReported⟩

theorem ClassifiedBy.category_known {rules : RuleTables} {paths : List String}
    {assets : List Asset} (h : ClassifiedBy rules paths assets)
    (hExtensions : rules.assetExtensions = RuleTables.standard.assetExtensions) {asset : Asset}
    (hAsset : asset ∈ assets) {category : String} (hCategory : asset.category = some category) :
    category ∈ RuleTables.standard.assetLimits.keys := by
  have hListed : ∀ entry ∈ RuleTables.standard.assetExtensions,
      entry.2 ∈ RuleTables.standard.assetLimits.keys := by decide
  have hFound := h.category asset hAsset
  rw [categories_get?] at hFound
  split at hFound
  · rw [Option.some.injEq, hCategory] at hFound
    rcases settled_eq_some hFound with rfl | hOwn
    · decide
    · have hExtension : extensionCategory? rules asset.path = some category := hOwn
      rw [extensionCategory?, hExtensions] at hExtension
      exact hListed _ (Table.mem_of_get? hExtension)
  · cases hFound

theorem ClassifiedBy.ceilings {rules : RuleTables} {paths : List String} {assets : List Asset}
    (h : ClassifiedBy rules paths assets)
    (hExtensions : rules.assetExtensions = RuleTables.standard.assetExtensions)
    {limits : Table Int}
    (hLimits : ∀ category ∈ RuleTables.standard.assetLimits.keys, limits.has category = true) :
    ∃ issues, ceilingIssues limits assets = .ok issues ∧ ∀ comparison ∈ comparisons assets,
      ∃ limit, limits.get? comparison.category = some limit ∧
        ((∃ issue ∈ issues, comparison.ReportedBy limit issue) ↔
          limit < (comparison.size : Int)) := by
  have hSheet : limits.has sheetCategory = true := hLimits _ (by decide)
  have hKnown : ∀ comparison ∈ comparisons assets, limits.has comparison.category = true := by
    intro comparison hComparison
    rcases List.mem_append.mp hComparison with hSingle | hCombined
    · obtain ⟨asset, hAsset, hOf⟩ := List.mem_filterMap.mp hSingle
      unfold Comparison.ofAsset? at hOf
      split at hOf
      · cases hOf
      · next category hCategory =>
        split at hOf
        · cases hOf
        · cases hOf
          exact hLimits _ (h.category_known hExtensions hAsset hCategory)
    · obtain ⟨sheet, -, rfl⟩ := List.mem_map.mp hCombined
      exact hSheet
  obtain ⟨issues, hIssues⟩ := ceilingIssues_total ⟨hSheet, fun asset hAsset category hCategory =>
    hLimits _ (h.category_known hExtensions hAsset hCategory)⟩
  refine ⟨issues, hIssues, fun comparison hComparison => ?_⟩
  obtain ⟨limit, hLimit⟩ := Table.exists_get?_of_has (hKnown comparison hComparison)
  exact ⟨limit, hLimit, comparisons_reported hIssues hKnown hComparison hLimit⟩

section

attribute [local instance] Platform.bare

end

end SubmissionGate.Bundle
