import SubmissionGate.Proofs.Bundle.Account
import SubmissionGate.Proofs.Gate.Stages

/-!
# The bundle stage

What the checks on an inventory ask for, and what the stage that opens a bundle comes to: it breaks
down, it stops with an error, or it hands the script of a bundle on that no check objected to.
-/

namespace SubmissionGate.Bundle

open Gate

theorem mapM_member {α β ε : Type} {f : α → Except ε β} {items : List α} {results : List β}
    (h : items.mapM f = .ok results) {item : α} (hItem : item ∈ items) :
    ∃ result ∈ results, f item = .ok result := by
  induction items generalizing results with
  | nil => cases hItem
  | cons first rest ih =>
    rw [List.mapM_cons] at h
    obtain ⟨result, hResult, h⟩ := Except.bind_eq_ok h
    obtain ⟨others, hOthers, h⟩ := Except.bind_eq_ok h
    cases h
    rcases List.mem_cons.mp hItem with rfl | hRest
    · exact ⟨result, List.mem_cons_self, hResult⟩
    · obtain ⟨other, hOther, hFound⟩ := ih hOthers hRest
      exact ⟨other, List.mem_cons_of_mem _ hOther, hFound⟩

theorem mapM_total {α β ε : Type} {f : α → Except ε β} {items : List α}
    (h : ∀ item ∈ items, ∃ result, f item = .ok result) :
    ∃ results, items.mapM f = .ok results := by
  induction items with
  | nil => exact ⟨[], rfl⟩
  | cons first rest ih =>
    obtain ⟨result, hResult⟩ := h first List.mem_cons_self
    obtain ⟨results, hResults⟩ := ih fun item hItem => h item (List.mem_cons_of_mem _ hItem)
    refine ⟨result :: results, ?_⟩
    rw [List.mapM_cons, hResult, hResults]
    rfl

theorem ceiling_eq_ok_iff {limits : Table Int} {category : String} {limit : Int} :
    ceiling limits category = .ok limit ↔ limits.get? category = some limit := by
  unfold ceiling
  cases limits.get? category with
  | none => simp
  | some other => simp

def CeilingsKnown (limits : Table Int) (assets : List Asset) : Prop :=
  limits.has sheetCategory = true ∧
    ∀ asset ∈ assets, ∀ category, asset.category = some category → limits.has category = true

theorem assetIssue?_total {limits : Table Int} {asset : Asset}
    (h : ∀ category, asset.category = some category → limits.has category = true) :
    ∃ issue, assetIssue? limits asset = .ok issue := by
  unfold assetIssue?
  cases hCategory : asset.category with
  | none => exact ⟨_, rfl⟩
  | some category =>
    obtain ⟨limit, hLimit⟩ := Table.exists_get?_of_has (h category hCategory)
    simp only [ceiling_eq_ok_iff.mpr hLimit]
    split
    · exact ⟨_, rfl⟩
    · split <;> exact ⟨_, rfl⟩

theorem sheetIssue?_total {limits : Table Int} (h : limits.has sheetCategory = true)
    (key : String) (members : List Asset) :
    ∃ issue, sheetIssue? limits key members = .ok issue := by
  obtain ⟨limit, hLimit⟩ := Table.exists_get?_of_has h
  simp only [sheetIssue?, ceiling_eq_ok_iff.mpr hLimit]
  split <;> exact ⟨_, rfl⟩

theorem ceilingIssues_eq (limits : Table Int) (assets : List Asset) :
    ceilingIssues limits assets =
      (assets.mapM (assetIssue? limits)).bind fun single =>
        ((sheets assets).mapM fun sheet => sheetIssue? limits sheet.1 sheet.2).bind
          fun combined => .ok ((single ++ combined).filterMap id) := rfl

theorem ceilingIssues_total {limits : Table Int} {assets : List Asset}
    (h : CeilingsKnown limits assets) : ∃ issues, ceilingIssues limits assets = .ok issues := by
  obtain ⟨hSheet, hAssets⟩ := h
  obtain ⟨single, hSingle⟩ := mapM_total fun asset hAsset =>
    assetIssue?_total (hAssets asset hAsset)
  obtain ⟨combined, hCombined⟩ := mapM_total fun sheet (_ : sheet ∈ sheets assets) =>
    sheetIssue?_total hSheet sheet.1 sheet.2
  refine ⟨(single ++ combined).filterMap id, ?_⟩
  rw [ceilingIssues_eq, hSingle, Except.bind, hCombined]
  rfl

structure WithinCeilings (limits : Table Int) (assets : List Asset) : Prop where
  asset : ∀ asset ∈ assets, ∃ category, asset.category = some category ∧
    (category ≠ sheetCategory → ∃ limit, limits.get? category = some limit ∧
      (asset.size : Int) ≤ limit)
  sheet : ∀ sheet ∈ sheets assets, ∃ limit, limits.get? sheetCategory = some limit ∧
    (combinedSize sheet.2 : Int) ≤ limit

theorem assetIssue?_none {limits : Table Int} {asset : Asset}
    (h : assetIssue? limits asset = .ok none) : ∃ category, asset.category = some category ∧
      (category ≠ sheetCategory → ∃ limit, limits.get? category = some limit ∧
        (asset.size : Int) ≤ limit) := by
  unfold assetIssue? at h
  split at h
  · cases h
  · next category hCategory =>
    refine ⟨category, hCategory, fun hSingle => ?_⟩
    rw [if_neg hSingle] at h
    split at h
    · cases h
    · next limit hLimit =>
      refine ⟨limit, ceiling_eq_ok_iff.mp hLimit, ?_⟩
      split at h
      · cases h
      · omega

theorem sheetIssue?_none {limits : Table Int} {key : String} {members : List Asset}
    (h : sheetIssue? limits key members = .ok none) :
    ∃ limit, limits.get? sheetCategory = some limit ∧ (combinedSize members : Int) ≤ limit := by
  unfold sheetIssue? at h
  split at h
  · cases h
  · next limit hLimit =>
    refine ⟨limit, ceiling_eq_ok_iff.mp hLimit, ?_⟩
    simp only at h
    split at h
    · cases h
    · omega

theorem assetIssue?_kind {limits : Table Int} {asset : Asset} {issue : Issue}
    (h : assetIssue? limits asset = .ok (some issue)) :
    issue.severity = .error ∧ issue.code = .invalidAssetBundle := by
  unfold assetIssue? at h
  repeat' split at h
  all_goals cases h
  all_goals exact ⟨rfl, rfl⟩

theorem sheetIssue?_kind {limits : Table Int} {key : String} {members : List Asset}
    {issue : Issue} (h : sheetIssue? limits key members = .ok (some issue)) :
    issue.severity = .error ∧ issue.code = .invalidAssetBundle := by
  unfold sheetIssue? at h
  simp only at h
  repeat' split at h
  all_goals cases h
  all_goals exact ⟨rfl, rfl⟩

theorem withinCeilings_of_harmless {limits : Table Int} {assets : List Asset}
    {issues : List Issue} (h : ceilingIssues limits assets = .ok issues)
    (hHarmless : Harmless issues) : WithinCeilings limits assets := by
  unfold ceilingIssues at h
  obtain ⟨single, hSingle, h⟩ := Except.bind_eq_ok h
  obtain ⟨combined, hCombined, h⟩ := Except.bind_eq_ok h
  cases h
  have hWarnings : ∀ issue, some issue ∈ single ++ combined → issue.severity = .warning :=
    fun issue hIssue => hHarmless issue (List.mem_filterMap.mpr ⟨some issue, hIssue, rfl⟩)
  constructor
  · intro asset hAsset
    obtain ⟨found, hFound, hIssue⟩ := mapM_member hSingle hAsset
    cases found with
    | none => exact assetIssue?_none hIssue
    | some issue =>
      have hWarning := hWarnings issue (List.mem_append_left _ hFound)
      rw [(assetIssue?_kind hIssue).1] at hWarning
      cases hWarning
  · intro sheet hSheet
    obtain ⟨found, hFound, hIssue⟩ := mapM_member hCombined hSheet
    cases found with
    | none => exact sheetIssue?_none hIssue
    | some issue =>
      have hWarning := hWarnings issue (List.mem_append_right _ hFound)
      rw [(sheetIssue?_kind hIssue).1] at hWarning
      cases hWarning

/-- What keeps a manifest from being read to its end: an integer of too many digits. -/
structure ManifestBreaks [Platform] (rules : RuleTables) (inventory : Inventory) (digits : Nat) :
    Prop where
  there : inventory.roles.has rules.bundleManifest = true
  found : ∃ data text, inventory.manifest = some data ∧
    Utf8.decodeMarked data.data.toList = .ok text ∧
      Json.read Platform.nesting text = .error (.tooManyDigits digits)

theorem manifestBreaks_iff [Platform] {rules : RuleTables} {inventory : Inventory}
    {data : ByteArray} {text : List Char} {digits : Nat}
    (hThere : inventory.roles.has rules.bundleManifest = true)
    (hManifest : inventory.manifest = some data)
    (hText : Utf8.decodeMarked data.data.toList = .ok text) :
    ManifestBreaks rules inventory digits ↔
      Json.read Platform.nesting text = .error (.tooManyDigits digits) := by
  constructor
  · intro h
    obtain ⟨other, same, hData, hOther, hRead⟩ := h.found
    rw [hManifest] at hData
    cases hData
    rw [hText] at hOther
    cases hOther
    exact hRead
  · exact fun hRead => ⟨hThere, data, text, hManifest, hText, hRead⟩

theorem ManifestBreaks.unique [Platform] {rules : RuleTables} {inventory : Inventory}
    {digits other : Nat}
    (h : ManifestBreaks rules inventory digits) (hOther : ManifestBreaks rules inventory other) :
    digits = other := by
  obtain ⟨data, text, hData, hText, hRead⟩ := h.found
  rw [manifestBreaks_iff h.there hData hText, hRead] at hOther
  cases hOther
  rfl

theorem finish_manifestNotes [Platform] {rules : RuleTables}
    (hLimit : rules.assetLimits.has jsonCategory = true) (inventory : Inventory) :
    (∃ digits, (manifestNotes rules inventory).finish = .error (.longInteger digits) ∧
      ManifestBreaks rules inventory digits) ∨
    (∃ issues, (manifestNotes rules inventory).finish = .ok issues ∧
      ∀ digits, ¬ ManifestBreaks rules inventory digits) := by
  unfold manifestNotes
  simp only
  cases hThere : inventory.roles.has rules.bundleManifest with
  | false =>
    refine .inr ⟨[], rfl, fun digits h => ?_⟩
    rw [h.there] at hThere
    cases hThere
  | true =>
    simp only [Bool.not_true, Bool.false_eq_true, if_false]
    cases hManifest : inventory.manifest with
    | none =>
      obtain ⟨limit, hFound⟩ := Table.exists_get?_of_has hLimit
      simp only [hFound]
      refine .inr ⟨_, rfl, fun digits h => ?_⟩
      obtain ⟨data, text, hData, -⟩ := h.found
      rw [hManifest] at hData
      cases hData
    | some data =>
      simp only [parseManifest]
      cases hText : Utf8.decodeMarked data.data.toList with
      | error fault =>
        refine .inr ⟨_, rfl, fun digits h => ?_⟩
        obtain ⟨other, text, hData, hOther, -⟩ := h.found
        rw [hManifest] at hData
        cases hData
        rw [hText] at hOther
        cases hOther
      | ok text =>
        simp only [manifestBreaks_iff hThere hManifest hText]
        cases Json.read Platform.nesting text with
        | ok value => exact .inr ⟨_, rfl, fun _ h => by cases h⟩
        | error fault =>
          cases fault with
          | tooManyDigits digits => exact .inl ⟨digits, rfl, rfl⟩
          | malformed problem position =>
            exact .inr ⟨_, rfl, fun _ h => by cases h⟩
          | tooDeep container =>
            exact .inr ⟨_, rfl, fun _ h => by cases h⟩

end SubmissionGate.Bundle

namespace SubmissionGate

def Context.withScript (context : Context) (text : List Char) : Context :=
  { context with text := some text, units := [⟨text⟩] }

namespace Gate

open SubmissionGate.Bundle

variable [Platform]

/-- Why a bundle leaves neither a verdict nor a timeout. -/
inductive Overlooked (rules : RuleTables) (payload : ByteArray) (budget : Int) : Breakdown → Prop
  | reading {cause : Breakdown} (h : ReadingBreaks rules payload budget cause) :
      Overlooked rules payload budget cause
  | digits {files : List Archive.Entry} {inventory : Inventory} {digits : Nat}
      (hFiles : Lists rules payload files)
      (hInventory : Inventories rules payload budget files inventory)
      (hManifest : ManifestBreaks rules inventory digits) :
      Overlooked rules payload budget (.longInteger digits)

/-- A bundle is overlooked in its reading, or in the manifest that the reading found. -/
theorem overlooked_iff {rules : RuleTables} (hMeasures : rules.Measures) {payload : ByteArray}
    {budget : Int} {cause : Breakdown} :
    Overlooked rules payload budget cause ↔
      (read rules payload budget).finish = .error cause ∨
      ∃ inventory digits, (read rules payload budget).finish = .ok (.ok inventory) ∧
        ManifestBreaks rules inventory digits ∧ cause = .longInteger digits := by
  constructor
  · intro h
    cases h with
    | reading h => exact .inl ((finish_read_broken_iff hMeasures).mpr h)
    | digits hFiles hInventory hManifest =>
      exact .inr ⟨_, _, finish_read_ok_iff.mpr ⟨_, hFiles, hInventory⟩, hManifest, rfl⟩
  · rintro (h | ⟨inventory, digits, hRead, hManifest, rfl⟩)
    · exact .reading ((finish_read_broken_iff hMeasures).mp h)
    · obtain ⟨files, hFiles, hInventory⟩ := finish_read_ok_iff.mp hRead
      exact .digits hFiles hInventory hManifest

theorem ceilingsKnown {rules : RuleTables} (hMeasures : rules.Measures) {payload : ByteArray}
    {budget : Int} {files : List Archive.Entry} {inventory : Inventory}
    (hInventory : Inventories rules payload budget files inventory) :
    CeilingsKnown rules.assetLimits inventory.assets := by
  refine ⟨hMeasures.sheet, fun asset hAsset category hCategory => ?_⟩
  obtain ⟨entry, -, hBooked⟩ := hInventory.account.booked asset hAsset
  rw [hBooked.category] at hCategory
  exact (readingOf_provided hMeasures payload budget files).asset _ _ hCategory

structure HandsOn (rules : RuleTables) (inventory : Inventory) (text : List Char) : Prop where
  there : inventory.roles.has rules.bundleScript = true
  found : ∃ data limit, inventory.script = some data ∧
    rules.sizeLimits.get? "script" = some limit ∧ (inventory.scriptSize : Int) ≤ limit ∧
    Decodes data text

omit [Platform] in
theorem scriptReport_cases {context : Context}
    (hLimit : context.rules.sizeLimits.has "script" = true) (inventory : Inventory)
    (issues : List Issue) :
    ∃ report, scriptReport context inventory issues = .ok report ∧
      (report.stops = true ∧ ¬ Harmless report.issues ∨
        ∃ text, HandsOn context.rules inventory text ∧
          report = .finding (context.withScript text) issues) := by
  obtain ⟨limit, hLimit⟩ := Table.exists_get?_of_has hLimit
  unfold scriptReport
  simp only [hLimit]
  split
  · exact ⟨_, rfl, .inl ⟨rfl, not_harmless_error _ _ _ _⟩⟩
  · next hThere =>
    split
    · exact ⟨_, rfl, .inl ⟨rfl, not_harmless_error _ _ _ _⟩⟩
    · next data hData =>
      split
      · exact ⟨_, rfl, .inl ⟨rfl, not_harmless_error _ _ _ _⟩⟩
      · next hFits =>
        split
        · exact ⟨_, rfl, .inl ⟨rfl, not_harmless_error _ _ _ _⟩⟩
        · next text hText =>
          refine ⟨_, rfl, .inr ⟨text, ⟨by simpa using hThere, data, limit, hData, hLimit, ?_,
            textOfPayload_ok_iff.mp hText⟩, rfl⟩⟩
          omega

/-- What no check on a bundle objects to. -/
structure BundlePasses (context : Context) (files : List Archive.Entry) (inventory : Inventory)
    (text : List Char) : Prop where
  lists : Lists context.rules context.submission.payload files
  inventories : Inventories context.rules context.submission.payload context.resolved.sizeLimit
    files inventory
  placed : Harmless (placementIssues context.rules inventory)
  ceilings : WithinCeilings context.rules.assetLimits inventory.assets
  budget : (inventory.totalSize : Int) ≤ context.resolved.sizeLimit
  script : HandsOn context.rules inventory text

omit [Platform] in
theorem budgetIssues_harmless_iff (resolved : Submission.Resolved) (inventory : Inventory) :
    Harmless (budgetIssues resolved inventory) ↔
      (inventory.totalSize : Int) ≤ resolved.sizeLimit := by
  unfold budgetIssues
  simp only
  split
  · next hOver =>
    rw [← List.nil_append [_]]
    exact iff_of_false (not_harmless_error _ _ _ _) (by omega)
  · next hFits => exact iff_of_true harmless_nil (by omega)

/-- The outcomes of the bundle stage that are no breakdown. -/
inductive BundleReport (context : Context) : Report → Prop
  | stopped {report : Report} (hStops : report.stops = true) (hIssues : ¬ Harmless report.issues) :
      BundleReport context report
  | handed {issues : List Issue} {text : List Char} {files : List Archive.Entry}
      {inventory : Inventory}
      (hPasses : Harmless issues → BundlePasses context files inventory text) :
      BundleReport context (.finding (context.withScript text) issues)

def inspect (context : Context) (inventory : Inventory) : Run Report :=
  match ceilingIssues (assetLimits context) inventory.assets with
  | .error breakdown => .broken breakdown
  | .ok ceilings => do
    let issues := placementIssues context.rules inventory ++ ceilings
      ++ budgetIssues context.resolved inventory
    let warnings ← manifestNotes context.rules inventory
    match scriptReport context inventory (issues ++ warnings) with
    | .error breakdown => .broken breakdown
    | .ok report => return report

theorem finish_bundleStage_eq (context : Context) :
    (bundleStage context).finish =
      (read context.rules context.submission.payload context.resolved.sizeLimit).finish.bind
        fun
        | .error fault => .ok (.stopping context [fault.issue])
        | .ok inventory => (inspect context inventory).finish := by
  unfold bundleStage
  simp only [Run.finish_bind_do]
  congr 1
  funext outcome
  cases outcome with
  | error fault => rfl
  | ok inventory => rfl

theorem finish_inspect_eq (context : Context) (inventory : Inventory) :
    (inspect context inventory).finish =
      (ceilingIssues (assetLimits context) inventory.assets).bind fun ceilings =>
        (manifestNotes context.rules inventory).finish.bind fun notes =>
          scriptReport context inventory (placementIssues context.rules inventory ++ ceilings ++
            budgetIssues context.resolved inventory ++ notes) := by
  unfold inspect
  cases ceilingIssues (assetLimits context) inventory.assets with
  | error breakdown => rfl
  | ok ceilings =>
    simp only [Run.finish_bind_do, Except.bind]
    congr 1
    funext notes
    split
    · next hBroken => exact hBroken.symm
    · next hReport => exact hReport.symm

theorem finish_inspect {context : Context} (hMeasures : context.rules.Measures)
    (hLimits : assetLimits context = context.rules.assetLimits) {files : List Archive.Entry}
    {inventory : Inventory} (hFiles : Lists context.rules context.submission.payload files)
    (hInventory : Inventories context.rules context.submission.payload context.resolved.sizeLimit
      files inventory) :
    (∃ digits, (inspect context inventory).finish = .error (.longInteger digits) ∧
      ManifestBreaks context.rules inventory digits) ∨
    (∃ report, (inspect context inventory).finish = .ok report ∧ BundleReport context report ∧
      ∀ digits, ¬ ManifestBreaks context.rules inventory digits) := by
  obtain ⟨ceilings, hCeilings⟩ := ceilingIssues_total (ceilingsKnown hMeasures hInventory)
  simp only [inspect, hLimits, hCeilings, Run.finish_bind_do]
  rcases finish_manifestNotes hMeasures.manifest inventory with
    ⟨digits, hBroken, hManifest⟩ | ⟨warnings, hWarnings, hNone⟩
  · rw [hBroken]
    exact .inl ⟨digits, rfl, hManifest⟩
  · rw [hWarnings]
    let issues := placementIssues context.rules inventory ++ ceilings ++
      budgetIssues context.resolved inventory
    obtain ⟨report, hReport, hCases⟩ :=
      scriptReport_cases hMeasures.script inventory (issues ++ warnings)
    simp only [issues] at hReport
    simp only [hReport, Except.bind]
    refine .inr ⟨report, rfl, ?_, hNone⟩
    rcases hCases with ⟨hStops, hIssues⟩ | ⟨text, hScript, rfl⟩
    · exact .stopped hStops hIssues
    · have hPasses : Harmless (issues ++ warnings) →
          BundlePasses context files inventory text := by
        intro hAll
        rw [harmless_append_iff, harmless_append_iff, harmless_append_iff,
          budgetIssues_harmless_iff] at hAll
        obtain ⟨⟨⟨hPlaced, hWithin⟩, hBudget⟩, -⟩ := hAll
        exact ⟨hFiles, hInventory, hPlaced, withinCeilings_of_harmless hCeilings hWithin,
          hBudget, hScript⟩
      exact .handed hPasses

theorem finish_bundleStage (context : Context) (hMeasures : context.rules.Measures)
    (hLimits : assetLimits context = context.rules.assetLimits) :
    (∃ cause, (bundleStage context).finish = .error cause ∧
      ∀ other, Overlooked context.rules context.submission.payload
        context.resolved.sizeLimit other ↔ other = cause) ∨
    (∃ report, (bundleStage context).finish = .ok report ∧ BundleReport context report ∧
      ∀ cause, ¬ Overlooked context.rules context.submission.payload
        context.resolved.sizeLimit cause) := by
  simp only [overlooked_iff hMeasures, finish_bundleStage_eq]
  cases hRead :
    (read context.rules context.submission.payload context.resolved.sizeLimit).finish with
  | error cause =>
    refine .inl ⟨cause, rfl, fun other => ⟨?_, fun hSame => .inl (by rw [hSame])⟩⟩
    rintro (hBroken | ⟨inventory, digits, hOk, -⟩)
    · cases hBroken
      rfl
    · cases hOk
  | ok outcome =>
    cases outcome with
    | error fault =>
      refine .inr ⟨_, rfl, .stopped rfl (not_harmless_error [] _ _ _), ?_⟩
      rintro cause (hBroken | ⟨inventory, digits, hOk, -⟩)
      · cases hBroken
      · cases hOk
    | ok inventory =>
      obtain ⟨files, hFiles, hInventory⟩ := finish_read_ok_iff.mp hRead
      rcases finish_inspect hMeasures hLimits hFiles hInventory with
        ⟨digits, hBroken, hManifest⟩ | ⟨report, hReport, hCases, hNone⟩
      · refine .inl ⟨_, hBroken, fun other => ⟨?_, ?_⟩⟩
        · rintro (hBroken | ⟨same, count, hOk, hCount, rfl⟩)
          · cases hBroken
          · cases hOk
            rw [hManifest.unique hCount]
        · rintro rfl
          exact .inr ⟨inventory, digits, rfl, hManifest, rfl⟩
      · refine .inr ⟨report, hReport, hCases, ?_⟩
        rintro cause (hBroken | ⟨other, digits, hOk, hManifest, -⟩)
        · cases hBroken
        · cases hOk
          exact hNone digits hManifest

end Gate

end SubmissionGate
