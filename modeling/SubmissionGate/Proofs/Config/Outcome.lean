import SubmissionGate.Proofs.Config.Depth
import SubmissionGate.Proofs.Number.Range
import SubmissionGate.Proofs.RuleTables.Refusal
import SubmissionGate.Proofs.Text.Utf8
import SubmissionGate.Yaml.Document

/-!
# Outcomes of loading a configuration

A configuration file is refused or gives a configuration with a time limit above zero and with at
least one worker. Three kinds of values lead elsewhere: an integer for the time limit beyond all
floating-point numbers, an integer in the rules whose text is too long, and a time limit that is no
number, which passes for a positive one since it compares with nothing.
-/

namespace SubmissionGate.Config

open RuleTables (AsksForTooLong override_blamed override_ok_iff)

/-! ## Numbers of seconds -/

theorem isPositive_iff {x : Binary64} :
    isPositive x = true ↔ x = .nan ∨ Binary64.zero.less x = true := by
  rw [isPositive, Bool.not_eq_true', Bool.or_eq_false_iff, Binary64.zero_less_iff]
  constructor
  · intro h
    by_cases hNan : x = .nan
    · exact .inl hNan
    · exact .inr ⟨hNan, h⟩
  · rintro (rfl | ⟨-, h⟩)
    · exact ⟨rfl, rfl⟩
    · exact h

/-- An integer that no finite floating-point number comes near. -/
def Huge (value : Value) : Prop :=
  ∃ n, value = .number (.int n) ∧ Binary64.overflow ≤ n.natAbs

/-- What is no number, or its name as a text. -/
def NotANumber (value : Value) : Prop :=
  value = .number (.real .nan) ∨ ∃ s, value = .text s ∧ Numeral.NamesNan s.toList

theorem seconds?_of_huge {value : Value} (h : Huge value) :
    seconds? value = .error .hugeSeconds := by
  obtain ⟨n, rfl, hLarge⟩ := h
  rw [seconds?, Binary64.rounded?_int_eq_none_iff.mpr hLarge]

theorem seconds?_error {value : Value} {halt : ConfigHalt} (h : seconds? value = .error halt) :
    halt = .hugeSeconds ∧ Huge value := by
  unfold seconds? at h
  split at h
  · next limit =>
    split at h
    · next hNone =>
      cases h
      cases limit with
      | int n => exact ⟨rfl, n, rfl, Binary64.rounded?_int_eq_none_iff.mp hNone⟩
      | real x => cases hNone
    · cases h
  · cases h
  · cases h

theorem rounded?_eq_nan_iff {limit : Number} :
    limit.rounded? = some .nan ↔ limit = .real .nan := by
  cases limit with
  | int n =>
    have hFinite : Binary64.ofInt n ≠ .nan := Binary64.ofRatio_ne_nan
    simp [Number.rounded?, hFinite]
  | real x => simp [Number.rounded?]

theorem seconds?_eq_nan_iff {value : Value} :
    seconds? value = .ok (some .nan) ↔ NotANumber value := by
  unfold NotANumber
  cases value with
  | number limit =>
    have hNumber : seconds? (.number limit) = .ok (some .nan) ↔ limit.rounded? = some .nan := by
      cases hRounded : limit.rounded? with
      | none => simp [seconds?, hRounded]
      | some x => simp [seconds?, hRounded]
    simp [hNumber, rounded?_eq_nan_iff]
  | text s => simp [seconds?, Numeral.real?_eq_nan_iff]
  | _ => simp [seconds?]

theorem defaultSeconds_positive : Binary64.zero.less defaultSeconds = true := by decide +kernel

/-! ## Settings -/

def timeLimit (entries : List (Value × Value)) : Value :=
  (Value.field? entries "timeout_seconds").getD .null

def ruleEntries (entries : List (Value × Value)) : List (Value × Value) :=
  Value.asEntries (Value.field? entries "rules")

section Settings

variable {root : List String} {entries : List (Value × Value)}

theorem ofEntries_ok {config : Config} (h : ofEntries root entries = .ok config) :
    (∃ seconds, seconds? (timeLimit entries) = .ok seconds ∧
      (∀ x ∈ seconds, isPositive x = true) ∧ config.seconds = seconds.getD defaultSeconds) ∧
    1 ≤ config.workers ∧ RuleTables.standard.override (ruleEntries entries) = .ok config.rules := by
  unfold ofEntries at h
  dsimp only at h
  split at h
  · cases h
  · next seconds hSeconds =>
    split at h
    · cases h
    · next hPositive =>
      split at h
      · cases h
      · next hWorkers =>
        split at h
        · cases h
        · next rules hRules =>
          cases h
          have hAll : ∀ x ∈ seconds, isPositive x = true := by
            rintro x rfl
            simpa using hPositive
          refine ⟨⟨seconds, hSeconds, hAll, rfl⟩, ?_, ?_⟩
          · show 1 ≤ ((Value.field? entries "max_workers").bind Value.asInt?).getD defaultWorkers
            cases hGiven : (Value.field? entries "max_workers").bind Value.asInt? with
            | none => decide
            | some workers => simpa [hGiven] using hWorkers
          · rw [ruleEntries, RuleTables.override, hRules]
            rfl

theorem ofEntries_error {halt : ConfigHalt} (h : ofEntries root entries = .error halt) :
    (∃ fault, halt = .refused fault) ∨ seconds? (timeLimit entries) = .error halt ∨
      ∃ fault, RuleTables.standard.override (ruleEntries entries) = .error fault ∧
        halt = .ofOverride fault := by
  unfold ofEntries at h
  dsimp only at h
  split at h
  · next other hHalt =>
    cases h
    exact .inr (.inl hHalt)
  · split at h
    · cases h
      exact .inl ⟨_, rfl⟩
    · split at h
      · cases h
        exact .inl ⟨_, rfl⟩
      · split at h
        · next fault hFault =>
          cases h
          refine .inr (.inr ⟨fault, ?_, rfl⟩)
          rw [ruleEntries, RuleTables.override, hFault]
          rfl
        · cases h

structure Usable (config : Config) : Prop where
  seconds : Binary64.zero.less config.seconds = true
  workers : 1 ≤ config.workers

/-- Where settings lead that are neither refused nor usable, and which of their values does it. -/
inductive Departs (entries : List (Value × Value)) : Except ConfigHalt Config → Prop
  | huge : Huge (timeLimit entries) → Departs entries (.error .hugeSeconds)
  | tooLong : AsksForTooLong (ruleEntries entries) → Departs entries (.error .unwritable)
  | notANumber {config : Config} : NotANumber (timeLimit entries) → config.seconds = .nan →
      1 ≤ config.workers → Departs entries (.ok config)

theorem ofOverride_cases {fault : OverrideFault}
    (h : RuleTables.standard.override (ruleEntries entries) = .error fault) :
    (∃ refusal, ConfigHalt.ofOverride fault = .refused refusal) ∨
      Departs entries (.error (.ofOverride fault)) := by
  obtain hRefused | ⟨rfl, hLong⟩ := override_blamed h
  · left
    cases hRefused with
    | unknown _ _ _ => exact ⟨_, rfl⟩
    | size _ _ _ => exact ⟨_, rfl⟩
    | library _ _ => exact ⟨_, rfl⟩
    | bound _ _ _ => exact ⟨_, rfl⟩
  · exact .inr (.tooLong hLong)

/-- Settings are refused, usable, or depart by one of their values. -/
theorem ofEntries_outcome (root : List String) (entries : List (Value × Value)) :
    (∃ fault, ofEntries root entries = .error (.refused fault)) ∨
      (∃ config, ofEntries root entries = .ok config ∧ Usable config) ∨
      Departs entries (ofEntries root entries) := by
  cases hResult : ofEntries root entries with
  | error halt =>
    obtain ⟨fault, rfl⟩ | hSeconds | ⟨fault, hFault, rfl⟩ := ofEntries_error hResult
    · exact .inl ⟨fault, rfl⟩
    · obtain ⟨rfl, hHuge⟩ := seconds?_error hSeconds
      exact .inr (.inr (.huge hHuge))
    · obtain ⟨refusal, hRefusal⟩ | hDeparts := ofOverride_cases hFault
      · exact .inl ⟨refusal, congrArg Except.error hRefusal⟩
      · exact .inr (.inr hDeparts)
  | ok config =>
    obtain ⟨⟨seconds, hSeconds, hPositive, hGiven⟩, hWorkers, -⟩ := ofEntries_ok hResult
    cases seconds with
    | none => exact .inr (.inl ⟨config, rfl, hGiven ▸ defaultSeconds_positive, hWorkers⟩)
    | some x =>
      obtain rfl | hAbove := isPositive_iff.mp (hPositive x rfl)
      · exact .inr (.inr (.notANumber (seconds?_eq_nan_iff.mp hSeconds) hGiven hWorkers))
      · exact .inr (.inl ⟨config, rfl, hGiven ▸ hAbove, hWorkers⟩)

theorem ofEntries_of_huge (h : Huge (timeLimit entries)) :
    ofEntries root entries = .error .hugeSeconds := by
  have hSeconds := seconds?_of_huge h
  unfold timeLimit at hSeconds
  simp only [ofEntries, hSeconds]

theorem ofEntries_of_tooLong (h : AsksForTooLong (ruleEntries entries)) :
    ∃ halt, ofEntries root entries = .error halt := by
  cases hResult : ofEntries root entries with
  | error halt => exact ⟨halt, rfl⟩
  | ok config =>
    have hMerged := override_ok_iff.mp (ofEntries_ok hResult).2.2
    exact absurd h hMerged.not_asksForTooLong

theorem ofEntries_of_nan {config : Config} (h : NotANumber (timeLimit entries))
    (hResult : ofEntries root entries = .ok config) : config.seconds = .nan := by
  obtain ⟨⟨seconds, hSeconds, -, hGiven⟩, -⟩ := ofEntries_ok hResult
  cases hSeconds.symm.trans (seconds?_eq_nan_iff.mpr h)
  exact hGiven

end Settings

/-! ## Files -/

def HasText (tree : FileTree) (target : FilePath) (text : List Char) : Prop :=
  ∃ content raw, tree.read (FileTree.absolute (place tree target)) = .ok content ∧
    Utf8.decode content.data.toList = .ok raw ∧ Text.unifyBreaks raw = text

section Files

variable {read : Reader} {tree : FileTree} {path target : FilePath}

def Holds (read : Reader) (tree : FileTree) (target : FilePath) (entries : List (Value × Value)) :
    Prop :=
  ∃ text, HasText tree target text ∧
    readEntries read ((place tree target).getLastD "") text = .ok entries

/-- The text of a file is no document, or it is one and each of its scalars fits its type. -/
def Reads (read : Reader) (tree : FileTree) (target : FilePath) : Prop :=
  ∀ text fault, HasText tree target text → read text = .error fault → isScalarFault fault = false

theorem readEntries_error {name : String} {text : List Char} {halt : ConfigHalt}
    (h : readEntries read name text = .error halt)
    (hFits : ∀ fault, read text = .error fault → isScalarFault fault = false) :
    ∃ fault, halt = .refused fault := by
  unfold readEntries at h
  split at h
  · cases h
  · split at h
    · next fault hFault =>
      rw [hFits fault hFault] at h
      cases h
      exact ⟨_, rfl⟩
    · cases h
    · cases h
    · cases h
      exact ⟨_, rfl⟩

theorem load_of_holds (hHome : tree.expandHome? path = some target)
    (hThere : (tree.node? (place tree target)).isSome = true) {entries : List (Value × Value)}
    (h : Holds read tree target entries) :
    load read tree path = ofEntries (place tree target).dropLast entries := by
  obtain ⟨text, ⟨content, raw, hContent, hRaw, rfl⟩, hEntries⟩ := h
  have hFile : (tree.node? (place tree target)).isNone = false := by
    simpa [Option.isNone_eq_false_iff] using hThere
  simp only [load, hHome, loadFrom, hFile, hContent, hRaw, hEntries]
  rfl

theorem load_cases (hHome : tree.expandHome? path = some target)
    (hThere : (tree.node? (place tree target)).isSome = true) (hReads : Reads read tree target) :
    (∃ fault, load read tree path = .error (.refused fault)) ∨
      ∃ entries, Holds read tree target entries := by
  have hFile : (tree.node? (place tree target)).isNone = false := by
    simpa [Option.isNone_eq_false_iff] using hThere
  simp only [load, hHome, loadFrom, hFile, Bool.false_eq_true, if_false]
  split
  · exact .inl ⟨_, rfl⟩
  · next content hContent =>
    split
    · exact .inl ⟨_, rfl⟩
    · next raw hRaw =>
      have hText : HasText tree target (Text.unifyBreaks raw) := ⟨content, raw, hContent, hRaw, rfl⟩
      split
      · next halt hHalt =>
        obtain ⟨fault, rfl⟩ := readEntries_error hHalt fun fault => hReads _ fault hText
        exact .inl ⟨fault, rfl⟩
      · next entries hEntries => exact .inr ⟨entries, _, hText, hEntries⟩

/-- A file whose text is read or is no document is refused, gives a usable configuration, or departs
by one of three kinds of values; none of these ever gives a usable one. All of it is the same for
readers that agree as far as a configuration looks. -/
theorem load_outcome (hHome : tree.expandHome? path = some target)
    (hThere : (tree.node? (place tree target)).isSome = true) (hReads : Reads read tree target) :
    ((∃ fault, load read tree path = .error (.refused fault)) ∨
      (∃ config, load read tree path = .ok config ∧ Usable config) ∨
      ∃ entries, Holds read tree target entries ∧ Departs entries (load read tree path)) ∧
    (∀ entries, Holds read tree target entries →
      (Huge (timeLimit entries) → load read tree path = .error .hugeSeconds) ∧
      (AsksForTooLong (ruleEntries entries) → ∃ halt, load read tree path = .error halt) ∧
      (NotANumber (timeLimit entries) →
        ∀ config, load read tree path = .ok config → config.seconds = .nan)) ∧
    ∀ other : Reader, other.cut = read.cut → load other tree path = load read tree path := by
  refine ⟨?_, ?_, fun other hSame => load_congr hSame tree path⟩
  · obtain hRefused | ⟨entries, hHolds⟩ := load_cases hHome hThere hReads
    · exact .inl hRefused
    · rw [load_of_holds hHome hThere hHolds]
      obtain hRefused | hUsable | hDeparts :=
        ofEntries_outcome (place tree target).dropLast entries
      · exact .inl hRefused
      · exact .inr (.inl hUsable)
      · exact .inr (.inr ⟨entries, hHolds, hDeparts⟩)
  · intro entries hHolds
    rw [load_of_holds hHome hThere hHolds]
    exact ⟨ofEntries_of_huge, ofEntries_of_tooLong, fun hNan config => ofEntries_of_nan hNan⟩

end Files

/-! ## A time limit that is no number -/

def configTree (text : List Char) : FileTree where
  current := []
  nodes := [([fileName], .file ⟨(Utf8.spelled text).toArray⟩)]
  homes := []

def here : FilePath := ⟨"", []⟩

theorem configTree_hasText_iff {text read : List Char} :
    HasText (configTree text) here read ↔ Text.unifyBreaks text = read := by
  have hContent : (configTree text).read (FileTree.absolute (place (configTree text) here)) =
      .ok ⟨(Utf8.spelled text).toArray⟩ := rfl
  have hDecoded : Utf8.decode (Utf8.spelled text) = .ok text := Utf8.decode_ok_iff.mpr rfl
  constructor
  · rintro ⟨content, raw, hRead, hRaw, rfl⟩
    cases hContent.symm.trans hRead
    cases hDecoded.symm.trans hRaw
    rfl
  · rintro rfl
    exact ⟨_, text, hContent, hDecoded, rfl⟩

def nanText : List Char := "timeout_seconds: .nan".toList

def nanEntries : List (Value × Value) := [(.text "timeout_seconds", .real .nan)]

def nanNode : Yaml.Node :=
  .mapping .map [(.scalar .text "timeout_seconds".toList, .scalar .real ".nan".toList)]

theorem nanText_read : Yaml.read nanText = .ok (.map nanEntries) := by
  have hTokens : Yaml.tokens nanText = [.mappingStart, .key,
      .scalar "timeout_seconds".toList true, .value, .scalar ".nan".toList true, .blockEnd] := by
    decide +kernel
  have hNode : Yaml.Node.ofTokens (Yaml.tokens nanText) = .ok (some nanNode) := by
    rw [hTokens]
    rfl
  have hValue : Yaml.ofNode 0 nanNode = .ok (.map nanEntries) := by
    simp only [nanNode, Yaml.ofNode, Yaml.ofEntries, Yaml.allEntries, Yaml.mergedEntries,
      Yaml.ownEntries]
    rfl
  rw [Yaml.read, hNode]
  change (Yaml.ofNode 0 nanNode).mapError (·.fault) = _
  rw [hValue]
  rfl

theorem nanText_holds : Holds Yaml.read (configTree nanText) here nanEntries := by
  refine ⟨nanText, configTree_hasText_iff.mpr (by decide +kernel), ?_⟩
  have hSpace : nanText.all Text.isSpace = false := by decide +kernel
  rw [readEntries, hSpace, nanText_read]
  rfl

theorem nanText_reads : Reads Yaml.read (configTree nanText) here := by
  intro text fault hText hFault
  obtain rfl : nanText = text := by
    rw [← configTree_hasText_iff.mp hText]
    decide +kernel
  cases nanText_read.symm.trans hFault

theorem load_outcome_nan :
    Reads Yaml.read (configTree nanText) here ∧ NotANumber (timeLimit nanEntries) ∧
      ∀ config, load Yaml.read (configTree nanText) here = .ok config → config.seconds = .nan :=
  have hNan : NotANumber (timeLimit nanEntries) := .inl rfl
  ⟨nanText_reads, hNan,
    ((load_outcome rfl rfl nanText_reads).2.1 nanEntries nanText_holds).2.2 hNan⟩

/-- A time limit that is no number is taken in, though it is not above zero. -/
theorem nanText_unusable :
    ∃ config, load Yaml.read (configTree nanText) here = .ok config ∧ ¬Usable config := by
  refine ⟨{ default [] with seconds := .nan }, ?_, fun h => ?_⟩
  · rw [load_of_holds rfl rfl nanText_holds]
    rfl
  · have hSeconds : Binary64.zero.less .nan = true := h.seconds
    cases hSeconds

end SubmissionGate.Config
