import SubmissionGate.Proofs.Archive.Listing
import SubmissionGate.Proofs.Bundle.Files
import SubmissionGate.Proofs.Gate.BundleSubmission
import SubmissionGate.Proofs.Gate.TextSubmission

/-!
# Accepted bundles

What holds of a bundle whose verdict accepts it. Only files are looked at: a directory entry is
listed by the archive but never inspected, so nothing is said about it.
-/

namespace SubmissionGate.Gate

open Archive SubmissionGate.Bundle

/-- The demands on the files of a bundle that their directory records alone can meet. -/
structure FilesSound (rules : RuleTables) (payload : ByteArray) (files : List Entry) : Prop where
  listed : ∃ entries, Directory.read payload = .ok entries ∧
    files = entries.filter fun entry => !isDirectory entry
  few : (files.length : Int) ≤ rules.maxEntries
  distinct : (files.map (·.name)).Nodup
  placed : ∀ file ∈ files, file.name = rules.bundleScript ∨ file.name = rules.bundleManifest ∨
    isBelow rules.bundleAssetRoot file.name = true ∧
      ∃ category, rules.assetExtensions.get? (plainExtension file.name) = some category
  contained : ∀ file ∈ files, Contained file.name
  unencrypted : ∀ file ∈ files, isEncrypted file = false
  ratio : ∀ file ∈ files, rules.compressionCheckFloor < file.size →
    (Number.int rules.maxCompressionRatio).less (.real (declaredRatio file)) = false

/-- An asset whose size was found by reading the whole of a file within the ceiling of its
category. -/
structure AssetSound [Platform] (rules : RuleTables) (payload : ByteArray) (files : List Entry)
    (asset : Asset) : Prop where
  category : asset.category =
    (classify rules asset.path).settled ((assetPaths rules files).map (classify rules))
  read : ∃ file ∈ files, asset.path = file.name ∧ ∃ category limit data,
    asset.category = some category ∧ rules.assetLimits.get? category = some limit ∧
      ReadWhole payload file limit data ∧ asset.size = data.size

/-- The script was found by reading the whole of a file within its limit, and it decodes. -/
structure ScriptSound [Platform] (rules : RuleTables) (payload : ByteArray) (files : List Entry)
    (inventory : Inventory) (text : List Char) : Prop where
  read : ∃ file ∈ files, file.name = rules.bundleScript ∧ ∃ limit data,
    rules.sizeLimits.get? "script" = some limit ∧ ReadWhole payload file limit data ∧
      inventory.script = some data ∧ inventory.scriptSize = data.size ∧ Decodes data text

/-- Everything that the acceptance of a bundle guarantees. -/
structure BundleSound [Platform] (rules : RuleTables) (submission : Submission) (budget : Int)
    (files : List Entry) (inventory : Inventory) (text : List Char) : Prop where
  offered : Offered rules submission budget
  fits : (submission.payload.size : Int) ≤ budget
  sound : FilesSound rules submission.payload files
  taken : Inventories rules submission.payload budget files inventory
  unspent : ∀ before behind midway, readingOrder rules files = before ++ behind →
    (readingOf rules submission.payload budget files).Takes (blankOf rules files) before midway →
    midway.budgetExhausted = false
  booked : ∀ file ∈ files, roleOf rules file.name = .asset →
    ∃ asset ∈ inventory.assets, asset.path = file.name
  asset : ∀ asset ∈ inventory.assets, AssetSound rules submission.payload files asset
  sheet : ∀ asset ∈ inventory.assets, asset.category = some sheetCategory →
    ∃ limit, rules.assetLimits.get? sheetCategory = some limit ∧
      (combinedSize (sheetOf inventory.assets asset) : Int) ≤ limit
  script : ScriptSound rules submission.payload files inventory text
  total : (combinedSize inventory.assets + inventory.scriptSize + inventory.manifestSize : Int) ≤
    budget
  code : DefinesGame rules [⟨text⟩] ∧ AvoidsForbidden rules [⟨text⟩] ∧
    LibrariesServed rules submission.metadata.libs

theorem suspicion?_eq_none {rules : RuleTables} {entry : Entry}
    (h : suspicion? rules entry = none) : isEncrypted entry = false ∧
      (rules.compressionCheckFloor < entry.size →
        (Number.int rules.maxCompressionRatio).less (.real (declaredRatio entry)) = false) := by
  unfold suspicion? at h
  split at h
  · cases h
  · next hPlain =>
    refine ⟨by simpa using hPlain, fun hLarge => ?_⟩
    rw [if_pos hLarge] at h
    simp only at h
    split at h
    · cases h
    · next hRatio => simpa using hRatio

section

variable [Platform] {rules : RuleTables} {payload : ByteArray} {budget : Int} {files : List Entry}
  {inventory : Inventory}

omit [Platform] in
theorem extension_of_category {category : String} {path : String}
    (h : (readingOf rules payload budget files).category? path = some category) :
    ∃ known, rules.assetExtensions.get? (plainExtension path) = some known := by
  simp only [Reading.category?, readingOf, categories_get?] at h
  split at h
  · have hSome := settled_isSome ((assetPaths rules files).map (classify rules))
      (classify rules path)
    rw [Option.join_some] at h
    rw [h] at hSome
    exact Option.isSome_iff_exists.mp hSome.symm
  · cases h

theorem booked_of_role (hInventory : Inventories rules payload budget files inventory)
    (hPlaced : WellPlaced rules files) {file : Entry} (hFile : file ∈ files)
    (hRole : roleOf rules file.name = .asset) :
    ∃ asset ∈ inventory.assets, asset.path = file.name := by
  have hOrdered : file ∈ readingOrder rules files := by
    rw [mem_readingOrder, hPlaced.first]
    exact hFile
  have hListed : file.name ∈ inventory.assets.map (·.path) := by
    rw [hInventory.account.paths]
    exact List.mem_map.mpr ⟨file, List.mem_filter.mpr ⟨hOrdered, beq_iff_eq.mpr hRole⟩, rfl⟩
  exact List.mem_map.mp hListed

theorem filesSound (hLists : Lists rules payload files)
    (hInventory : Inventories rules payload budget files inventory)
    (hPlaced : WellPlaced rules files)
    (hCeilings : WithinCeilings rules.assetLimits inventory.assets) :
    FilesSound rules payload files := by
  have hClear : ∀ file ∈ files, suspicion? rules file = none := by
    intro file hFile
    refine hInventory.account.clear file ?_
    rw [mem_readingOrder, hPlaced.first]
    exact hFile
  obtain ⟨entries, hRead, -, hFiles⟩ := hLists.listed
  refine ⟨⟨entries, hRead, hFiles⟩, hLists.few, hPlaced.nodup, ?_,
    fun file hFile => contained_of_staysBelow (hPlaced.role file hFile).1,
    fun file hFile => (suspicion?_eq_none (hClear file hFile)).1,
    fun file hFile => (suspicion?_eq_none (hClear file hFile)).2⟩
  intro file hFile
  rcases (hPlaced.role file hFile).2 with ⟨-, hScript⟩ | ⟨-, hManifest⟩ | ⟨hRole, hBelow⟩
  · exact .inl hScript
  · exact .inr (.inl hManifest)
  · refine .inr (.inr ⟨hBelow, ?_⟩)
    obtain ⟨asset, hAsset, hPath⟩ := booked_of_role hInventory hPlaced hFile hRole
    obtain ⟨entry, -, hBooked⟩ := hInventory.account.booked asset hAsset
    obtain ⟨category, hCategory, -⟩ := hCeilings.asset asset hAsset
    rw [hBooked.category] at hCategory
    obtain ⟨known, hKnown⟩ := extension_of_category hCategory
    rw [← hBooked.path, hPath] at hKnown
    exact ⟨known, hKnown⟩

theorem assetSound (hInventory : Inventories rules payload budget files inventory)
    (hPlaced : WellPlaced rules files)
    (hCeilings : WithinCeilings rules.assetLimits inventory.assets)
    (hUnspent : inventory.budgetExhausted = false) {asset : Asset}
    (hAsset : asset ∈ inventory.assets) : AssetSound rules payload files asset := by
  obtain ⟨file, hFile, hBooked⟩ := hInventory.account.booked asset hAsset
  rw [mem_readingOrder, hPlaced.first] at hFile
  obtain ⟨category, hCategory, -⟩ := hCeilings.asset asset hAsset
  obtain ⟨limit, hLimit, hFault, hMeasured⟩ := hBooked.measured hUnspent category hCategory
  have hFits := hCeilings.size_le hAsset hCategory hLimit
  constructor
  · have hPath : file.name ∈ assetPaths rules files := by
      refine List.mem_map.mpr ⟨(file.name, roleOf rules file.name), ?_, rfl⟩
      refine List.mem_filter.mpr ⟨List.mem_map.mpr ⟨file, ?_, rfl⟩, beq_iff_eq.mpr hBooked.role⟩
      rwa [hPlaced.first]
    rw [hBooked.category, Reading.category?, readingOf]
    simp only
    rw [categories_get?, if_pos hPath, Option.join_some, hBooked.path]
  · rcases hMeasured with ⟨hWhole, hSize⟩ | hOver
    · exact ⟨file, hFile, hBooked.path, category, limit, _, hCategory, hLimit,
        ⟨hFault, rfl, hWhole⟩, hSize⟩
    · omega

theorem scriptSound {text : List Char}
    (hInventory : Inventories rules payload budget files inventory)
    (hPlaced : WellPlaced rules files) (hScript : HandsOn rules inventory text) :
    ScriptSound rules payload files inventory text := by
  obtain ⟨data, -, hData, -, -, hText⟩ := hScript.found
  obtain ⟨hSize, file, hFile, limit, hRole, hLimit, hWhole⟩ :=
    hInventory.account.script data hData
  rw [mem_readingOrder, hPlaced.first] at hFile
  refine ⟨file, hFile, ?_, limit, data, hLimit, hWhole, hData, hSize, hText⟩
  have hRoles := (hPlaced.role file hFile).2
  have hSame : roleOf rules file.name = .script := hRole
  rw [hSame] at hRoles
  rcases hRoles with ⟨-, hName⟩ | ⟨hOther, -⟩ | ⟨hOther, -⟩
  · exact hName
  · cases hOther
  · cases hOther

/-- What no check objects to is sound. -/
theorem bundleSound_of_passes {submission : Submission} {text : List Char}
    (hOffered : Offered rules submission budget)
    (hFits : (submission.payload.size : Int) ≤ budget)
    (hPasses : BundlePasses (bundleContext rules submission budget) files inventory text)
    (hCode : DefinesGame rules [⟨text⟩] ∧ AvoidsForbidden rules [⟨text⟩] ∧
      LibrariesServed rules submission.metadata.libs) :
    BundleSound rules submission budget files inventory text := by
  have hLists : Lists rules submission.payload files := hPasses.lists
  have hInventory : Inventories rules submission.payload budget files inventory :=
    hPasses.inventories
  have hCeilings : WithinCeilings rules.assetLimits inventory.assets := hPasses.ceilings
  have hBudget : (inventory.totalSize : Int) ≤ budget := hPasses.budget
  have hScript : HandsOn rules inventory text := hPasses.script
  have hPlaced : WellPlaced rules files := wellPlaced_of_harmless hInventory hPasses.placed
  have hTotal := hInventory.account.total
  have hUnspent : inventory.budgetExhausted = false := by
    cases hSpent : inventory.budgetExhausted with
    | false => rfl
    | true =>
      -- The sizes that were not read for lack of budget cannot hide: the total is over it already.
      have hOver : budget < inventory.totalSize := hInventory.account.spent hSpent
      omega
  refine ⟨hOffered, hFits, filesSound hLists hInventory hPlaced hCeilings, hInventory, ?_,
    fun file hFile => booked_of_role hInventory hPlaced hFile,
    fun asset hAsset => assetSound hInventory hPlaced hCeilings hUnspent hAsset, ?_,
    scriptSound hInventory hPlaced hScript, ?_, hCode⟩
  · intro before behind midway hOrder hBefore
    have hWalk : (readingOf rules submission.payload budget files).Takes (blankOf rules files)
        (before ++ behind) inventory := by
      rw [← hOrder]
      exact hInventory
    exact hWalk.never_exhausted hBefore hUnspent
  · intro asset hAsset hCategory
    exact hCeilings.sheet _ (sheetOf_mem_sheets hAsset hCategory)
  · omega

/-- A bundle that is accepted under some configuration and clock is sound. -/
theorem judge_bundle_sound {rules : RuleTables} {overrides : List (Value × Value)}
    (hRules : RuleTables.standard.override overrides = .ok rules) {seconds : Option Number}
    {clock : Nat → Number} {submission : Submission} {verdict : Verdict}
    (hZip : Archive.Container.sniff? submission.payload = some .zip)
    (hVerdict : (judge ⟨.standard, rules, seconds⟩ clock submission).1 = .verdict verdict)
    (hOk : verdict.ok = true) :
    ∃ budget files inventory text, BundleSound rules submission budget files inventory text := by
  have hMeasures := RuleTables.measures_of_override hRules
  have hFinish : (validate .standard rules submission).finish = .ok verdict :=
    finish_of_judge ⟨.standard, rules, seconds⟩ hVerdict
  have hSame : ∀ {other}, (validate .standard rules submission).finish = .ok other →
      other.ok = true := by
    intro other hOther
    rw [hFinish] at hOther
    cases hOther
    exact hOk
  rcases resolve_archive hZip with ⟨budget, hOffered, hResolved⟩ | ⟨⟨fault, hRefused⟩, -⟩
  · by_cases hFits : (submission.payload.size : Int) ≤ budget
    · rcases finish_bundleStage (bundleContext rules submission budget) hMeasures
        assetLimits_bundleContext with ⟨cause, hBroken, -⟩ | ⟨report, hReport, hCases, -⟩
      · rw [finish_validate_of_bundle_broken hResolved hFits hBroken] at hFinish
        cases hFinish
      · obtain ⟨condition, hDecides, hCondition⟩ := decides_gating_opened hFits hReport hCases
        obtain ⟨other, hOther, hIff⟩ := finish_validate_of_decides hResolved hDecides
        obtain ⟨files, inventory, text, hPasses, hLibraries, hGame, hForbidden⟩ :=
          hCondition (hIff.mp (hSame hOther))
        exact ⟨budget, files, inventory, text,
          bundleSound_of_passes hOffered hFits hPasses ⟨hGame, hForbidden, hLibraries⟩⟩
    · obtain ⟨other, hOther, hIff⟩ :=
        finish_validate_of_decides hResolved (decides_gating_oversized hFits)
      exact (hIff.mp (hSame hOther)).elim
  · obtain ⟨other, hOther, hRejected⟩ := finish_validate_of_refused .standard hRefused
    rw [hSame hOther] at hRejected
    cases hRejected

end

def sheetRecords : List UInt8 :=
  [80, 75, 3, 4, 20, 0, 1, 0, 0, 0, 0, 0, 0, 0, 0, 0, 0, 0, 0, 0, 0, 0, 0, 0, 0, 0, 7, 0, 0, 0, 97,
   115, 115, 101, 116, 115, 47] ++
  [80, 75, 3, 4, 20, 0, 0, 0, 0, 0, 0, 0, 0, 0, 118, 69, 12, 173, 92, 0, 0, 0, 92, 0, 0, 0, 7, 0, 0,
   0, 103, 97, 109, 101, 46, 106, 115] ++
    (String.ofList minimalGame).toUTF8.data.toList ++
  [80, 75, 3, 4, 20, 0, 0, 0, 0, 0, 0, 0, 0, 0, 0, 0, 0, 0, 0, 0, 0, 0, 0, 0, 0, 0, 12, 0, 0, 0, 97,
   115, 115, 101, 116, 115, 47, 97, 46, 112, 110, 103] ++
  [80, 75, 3, 4, 20, 0, 0, 0, 0, 0, 0, 0, 0, 0, 0, 0, 0, 0, 0, 0, 0, 0, 0, 0, 0, 0, 13, 0, 0, 0, 97,
   115, 115, 101, 116, 115, 47, 97, 46, 106, 115, 111, 110]

def sheetListing : List UInt8 :=
  [80, 75, 1, 2, 20, 0, 20, 0, 1, 0, 0, 0, 0, 0, 0, 0, 0, 0, 0, 0, 0, 0, 0, 0, 0, 0, 0, 0, 7, 0, 0,
   0, 0, 0, 0, 0, 0, 0, 0, 0, 0, 0, 0, 0, 0, 0, 97, 115, 115, 101, 116, 115, 47] ++
  [80, 75, 1, 2, 20, 0, 20, 0, 0, 0, 0, 0, 0, 0, 0, 0, 118, 69, 12, 173, 92, 0, 0, 0, 92, 0, 0, 0,
   7, 0, 0, 0, 0, 0, 0, 0, 0, 0, 0, 0, 0, 0, 37, 0, 0, 0, 103, 97, 109, 101, 46, 106, 115] ++
  [80, 75, 1, 2, 20, 0, 20, 0, 0, 0, 0, 0, 0, 0, 0, 0, 0, 0, 0, 0, 0, 0, 0, 0, 0, 0, 0, 0, 12, 0, 0,
   0, 0, 0, 0, 0, 0, 0, 0, 0, 0, 0, 166, 0, 0, 0, 97, 115, 115, 101, 116, 115, 47, 97, 46, 112, 110,
   103] ++
  [80, 75, 1, 2, 20, 0, 20, 0, 0, 0, 0, 0, 0, 0, 0, 0, 0, 0, 0, 0, 0, 0, 0, 0, 0, 0, 0, 0, 13, 0, 0,
   0, 0, 0, 0, 0, 0, 0, 0, 0, 0, 0, 208, 0, 0, 0, 97, 115, 115, 101, 116, 115, 47, 97, 46, 106, 115,
   111, 110]

def sheetPayload : ByteArray := ⟨(sheetRecords ++ sheetListing ++
    [80, 75, 5, 6, 0, 0, 0, 0, 4, 0, 4, 0, 223, 0, 0, 0, 251, 0, 0, 0, 0, 0]).toArray⟩

def sheetSubmission : Submission := ⟨sheetPayload, .default⟩

def sheetEntries : List Entry := [
    ⟨"assets/", "assets/", 1, 0, 0, 0, 0, 0, 37⟩,
    ⟨"game.js", "game.js", 0, 0, 2903262582, 92, 92, 37, 166⟩,
    ⟨"assets/a.png", "assets/a.png", 0, 0, 0, 0, 0, 166, 208⟩,
    ⟨"assets/a.json", "assets/a.json", 0, 0, 0, 0, 0, 208, 251⟩]

theorem sheetPayload_entries : Directory.read sheetPayload = .ok sheetEntries := by
  have hPlace : (Directory.place sheetPayload).toOption = some ⟨251, 223, 0⟩ := by decide +kernel
  have hListed : (Directory.readEntries ⟨sheetListing.toArray⟩ 0 0).toOption =
      some (sheetEntries.map fun entry => { entry with bound := 0 }) := by
    decide +kernel
  exact Directory.read_of_listing hPlace (by decide +kernel) hListed (by decide)
    (by decide +kernel)

def sheetContext : Context :=
  bundleContext .standard sheetSubmission (5 * RuleTables.mebibytes)

def sheetFiles : List Entry := sheetEntries.filter fun entry => !isDirectory entry

theorem sheetFiles_lists : Lists .standard sheetPayload sheetFiles :=
  ⟨⟨sheetEntries, sheetPayload_entries, by decide, rfl⟩, by decide⟩

section

attribute [local instance] Platform.bare

theorem sheetFiles_report :
    ((inventoryOf .standard sheetPayload (5 * RuleTables.mebibytes) sheetFiles).finish.toOption.any
      fun outcome => outcome.toOption.any fun inventory =>
        (inspect sheetContext inventory).finish.toOption.any fun report =>
          !report.stops && report.issues.isEmpty && report.context.text == some minimalGame) =
      true := by
  decide +kernel

theorem sheetContext_report : ∃ report, (bundleStage sheetContext).finish = .ok report ∧
    report.stops = false ∧ report.issues = [] ∧ report.context.text = some minimalGame := by
  obtain ⟨outcome, hOutcome, hRest⟩ := (Option.any_eq_true _ _).mp sheetFiles_report
  obtain ⟨inventory, hInventory, hRest⟩ := (Option.any_eq_true _ _).mp hRest
  obtain ⟨report, hReport, hChecked⟩ := (Option.any_eq_true _ _).mp hRest
  simp only [Bool.and_eq_true, Bool.not_eq_true', List.isEmpty_iff, beq_iff_eq, and_assoc]
    at hChecked
  refine ⟨report, ?_, hChecked⟩
  have hSame : (Bundle.read sheetContext.rules sheetContext.submission.payload
      sheetContext.resolved.sizeLimit).finish = .ok outcome :=
    (finish_read_of_lists sheetFiles_lists).trans (Except.eq_ok_of_toOption hOutcome)
  rw [finish_bundleStage_eq]
  rw [hSame, Except.eq_ok_of_toOption hInventory]
  exact Except.eq_ok_of_toOption hReport

theorem sheetSubmission_offered :
    Offered .standard sheetSubmission (5 * RuleTables.mebibytes) :=
  ⟨by decide +kernel, rfl, .inl rfl, by decide +kernel, by decide +kernel⟩

theorem sheetSubmission_finish : (bundleStage sheetContext).finish =
    .ok (.finding (sheetContext.withScript minimalGame) []) := by
  obtain ⟨report, hReport, hStops, hIssues, hText⟩ := sheetContext_report
  rcases finish_bundleStage sheetContext RuleTables.standard_measures
    assetLimits_bundleContext with ⟨cause, hBroken, -⟩ | ⟨same, hSame, hCases, -⟩
  · rw [hReport] at hBroken
    cases hBroken
  · rw [hReport] at hSame ⊢
    cases hSame
    cases hCases with
    | stopped hStopped _ =>
      rw [hStopped] at hStops
      cases hStops
    | handed _ =>
      cases hIssues
      cases hText
      rfl

theorem sheetSubmission_accepted : ∃ verdict,
    (judge ⟨.standard, .standard, none⟩ (fun _ => .int 0) sheetSubmission).1 = .verdict verdict ∧
      verdict.ok = true := by
  have hFits : (sheetSubmission.payload.size : Int) ≤ 5 * RuleTables.mebibytes := by
    decide +kernel
  rcases resolve_archive sheetSubmission_offered.container with
    ⟨budget, hOffered, hResolved⟩ | ⟨-, hNone⟩
  · obtain rfl := sheetSubmission_offered.unique hOffered
    obtain ⟨verdict, hFinish, hOk⟩ :=
      finish_validate_of_decides hResolved (decides_gating_handed hFits sheetSubmission_finish)
    refine ⟨verdict, ?_, hOk.mpr ⟨harmless_nil, ?_, minimalGame_definesGame,
      minimalGame_avoidsForbidden⟩⟩
    · rw [judge_untimed, hFinish]
      rfl
    · intro key hKey
      cases hKey
  · exact absurd sheetSubmission_offered (hNone _)

/-- The guarantees hold of a bundle with a sprite sheet. -/
theorem judge_bundle_sound_sheet :
    RuleTables.standard.override [] = .ok .standard ∧
      Archive.Container.sniff? sheetSubmission.payload = some .zip ∧
      ∃ verdict, (judge ⟨.standard, .standard, none⟩ (fun _ => .int 0) sheetSubmission).1 =
          .verdict verdict ∧ verdict.ok = true ∧
        ∃ budget files inventory text,
          BundleSound .standard sheetSubmission budget files inventory text := by
  have hRules : RuleTables.standard.override [] = .ok .standard := rfl
  have hZip := sheetSubmission_offered.container
  obtain ⟨verdict, hVerdict, hOk⟩ := sheetSubmission_accepted
  exact ⟨hRules, hZip, verdict, hVerdict, hOk, judge_bundle_sound hRules hZip hVerdict hOk⟩

/-- An entry that is flagged as encrypted does not keep a bundle from being accepted if it is a
directory. -/
theorem judge_accepts_encrypted_directory :
    (∃ verdict, (judge ⟨.standard, .standard, none⟩ (fun _ => .int 0) sheetSubmission).1 =
      .verdict verdict ∧ verdict.ok = true) ∧
    ∃ entries, Directory.read sheetSubmission.payload = .ok entries ∧
      ∃ entry ∈ entries, isEncrypted entry = true :=
  ⟨sheetSubmission_accepted, sheetEntries, sheetPayload_entries, _, List.mem_cons_self, by decide⟩

end

end SubmissionGate.Gate
