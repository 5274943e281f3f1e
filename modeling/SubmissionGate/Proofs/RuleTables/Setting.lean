import SubmissionGate.Proofs.RuleTables.Safety

/-!
# Settings of the rule tables

The overrides hold a value under the key of a setting, or none. A setting is merged from that value
and from what it was before: a name takes the place of another one, entries are put into a table, a
bound takes the place of another one. Without a value it stays, and the same value a second time
changes nothing more.
-/

namespace SubmissionGate

open Text

namespace Value

def TooLong (value : Value) : Prop :=
  ∃ n, value = .number (.int n) ∧ Numeral.isWritable n = false

def Positive (value : Value) : Prop := ∃ n, value.asInt? = some n ∧ 0 < n

def name? : Value → Option String
  | .text s => some s
  | .number n => some n.text
  | _ => none

theorem written_ok_iff {value : Value} {name : String} :
    value.written = .ok name ↔ ¬value.TooLong ∧ name = value.display := by
  unfold written
  split
  · next n =>
    cases hWritable : Numeral.isWritable n with
    | true =>
      have hShort : ¬(Value.number (.int n)).TooLong := by
        rintro ⟨m, hm, hLong⟩
        cases hm
        simp [hWritable] at hLong
      simp [hShort, display, inner, eq_comm]
    | false =>
      have hLong : (Value.number (.int n)).TooLong := ⟨n, rfl, hWritable⟩
      simp [hLong]
  · next hOther =>
    have hShort : ¬value.TooLong := by
      rintro ⟨n, rfl, -⟩
      exact hOther n rfl
    simp [hShort, eq_comm]

theorem written_error_iff {value : Value} {fault : OverrideFault} :
    value.written = .error fault ↔ value.TooLong ∧ fault = .unwritable := by
  constructor
  · intro h
    unfold written at h
    split at h
    · next n =>
      split at h
      · cases h
      · next hWritable =>
        cases h
        exact ⟨⟨n, rfl, by simpa using hWritable⟩, rfl⟩
    · cases h
  · rintro ⟨⟨n, rfl, hLong⟩, rfl⟩
    simp [written, hLong]

theorem name?_of_tooLong {value : Value} (h : value.TooLong) :
    ∃ name, value.name? = some name ∧ name ≠ "" := by
  obtain ⟨n, rfl, -⟩ := h
  refine ⟨_, rfl, ?_⟩
  intro hEmpty
  apply not_blank_number (.int n)
  rw [hEmpty]
  intro c hc
  cases hc

theorem asName?_of_none {value : Value} (h : value.name? = none) :
    value.asName? = .ok none ∧ ¬value.TooLong := by
  constructor
  · cases value with
    | text s => cases h
    | number n => cases h
    | _ => rfl
  · intro hLong
    obtain ⟨name, hName, -⟩ := name?_of_tooLong hLong
    rw [h] at hName
    cases hName

theorem asName?_of_some {value : Value} {name : String} (h : value.name? = some name) :
    value.asName? = value.written.map some ∧ value.display = name := by
  cases value with
  | text s =>
    cases h
    exact ⟨rfl, rfl⟩
  | number n =>
    cases h
    exact ⟨rfl, rfl⟩
  | _ => cases h

theorem asName?_ok_iff {value : Value} {result : Option String} :
    value.asName? = .ok result ↔ ¬value.TooLong ∧ result = value.name? := by
  cases hName : value.name? with
  | none =>
    obtain ⟨hNone, hShort⟩ := asName?_of_none hName
    rw [hNone, Except.ok.injEq, eq_comm]
    exact (and_iff_right hShort).symm
  | some name =>
    obtain ⟨hSome, rfl⟩ := asName?_of_some hName
    rw [hSome]
    cases hWritten : value.written with
    | ok written =>
      obtain ⟨hShort, rfl⟩ := written_ok_iff.mp hWritten
      rw [Except.map, Except.ok.injEq, eq_comm]
      exact (and_iff_right hShort).symm
    | error fault =>
      obtain ⟨hLong, -⟩ := written_error_iff.mp hWritten
      simp [Except.map, hLong]

theorem asName?_error_iff {value : Value} {fault : OverrideFault} :
    value.asName? = .error fault ↔ value.TooLong ∧ fault = .unwritable := by
  cases hName : value.name? with
  | none =>
    obtain ⟨hNone, hShort⟩ := asName?_of_none hName
    simp [hNone, hShort]
  | some name =>
    rw [(asName?_of_some hName).1, ← written_error_iff]
    cases value.written with
    | ok written => simp [Except.map]
    | error other => simp [Except.map]

end Value

namespace RuleTables

theorem positive_ok_iff {label : String} {value : Value} {size : Int} :
    positive label value = .ok size ↔ value.asInt? = some size ∧ 0 < size := by
  unfold positive
  cases value.asInt? with
  | none => simp
  | some n =>
    simp only [Option.some.injEq]
    split
    · next hPositive =>
      constructor
      · rintro ⟨⟩
        exact ⟨rfl, hPositive⟩
      · rintro ⟨rfl, -⟩
        rfl
    · next hNegative =>
      constructor
      · intro h
        cases h
      · rintro ⟨rfl, hPositive⟩
        exact absurd hPositive hNegative

theorem positive_error {label : String} {value : Value} {fault : OverrideFault}
    (h : positive label value = .error fault) :
    ¬value.Positive ∧ fault = .notPositive label := by
  constructor
  · rintro ⟨n, hInt, hPositive⟩
    rw [positive_ok_iff.mpr ⟨hInt, hPositive⟩] at h
    cases h
  · unfold positive at h
    split at h
    · split at h
      · cases h
      · exact (Except.error.inj h).symm
    · exact (Except.error.inj h).symm

/-! ## How a setting is merged -/

/-- What a setting becomes, from the value that the overrides give for it. -/
abbrev Merge (α : Type) := Option Value → α → Except OverrideFault α

def givenName? (given : Option Value) : Option String :=
  (given.bind Value.name?).filter fun name => !name.isEmpty

/-- What the entries of a section write, each under the text of its key. -/
def writes {α : Type} (read : Value → Option α) (entries : List (Value × Value)) : Table α :=
  entries.filterMap fun entry => (read entry.2).map (entry.1.display, ·)

def nameMerge (normalise : String → String) : Merge String := fun given current =>
  match given.map Value.asName? with
  | none | some (.ok none) => .ok current
  | some (.error fault) => .error fault
  | some (.ok (some name)) => .ok (if name.isEmpty then current else normalise name)

def sizeMerge (label : String) (closed : Bool) : Merge (Table Int) := fun given current =>
  putSizes label closed current (Value.asEntries given)

def libraryMerge : Merge (Table String) := fun given current =>
  putLibraries current (Value.asEntries given)

def boundMerge (name : String) : Merge Int := fun given current =>
  match Value.field? (Value.asEntries given) name with
  | none => .ok current
  | some value => positive ("bundle." ++ name) value

theorem nameMerge_some (normalise : String → String) (value : Value) (current : String) :
    nameMerge normalise (some value) current = value.asName?.map fun found =>
      ((found.filter fun name => !name.isEmpty).map normalise).getD current := by
  unfold nameMerge
  rw [Option.map_some]
  cases value.asName? with
  | error fault => rfl
  | ok found =>
    cases found with
    | none => rfl
    | some name =>
      cases hEmpty : name.isEmpty with
      | true => simp [Except.map, Option.filter, hEmpty]
      | false => simp [Except.map, Option.filter, hEmpty]

theorem nameMerge_ok_iff {normalise : String → String} {given : Option Value}
    {current after : String} :
    nameMerge normalise given current = .ok after ↔
      (∀ value ∈ given, ¬value.TooLong) ∧
        after = ((givenName? given).map normalise).getD current := by
  cases given with
  | none => simp [nameMerge, givenName?, eq_comm]
  | some value =>
    rw [nameMerge_some]
    cases hName : value.asName? with
    | error fault =>
      obtain ⟨hLong, -⟩ := Value.asName?_error_iff.mp hName
      simp [Except.map, hLong]
    | ok found =>
      obtain ⟨hShort, rfl⟩ := Value.asName?_ok_iff.mp hName
      simp [Except.map, givenName?, hShort, eq_comm]

theorem nameMerge_error {normalise : String → String} {given : Option Value} {current : String}
    {fault : OverrideFault} (h : nameMerge normalise given current = .error fault) :
    (∃ value ∈ given, value.TooLong) ∧ fault = .unwritable := by
  cases given with
  | none => cases h
  | some value =>
    rw [nameMerge_some] at h
    cases hName : value.asName? with
    | error other =>
      obtain ⟨hLong, rfl⟩ := Value.asName?_error_iff.mp hName
      rw [hName] at h
      cases h
      exact ⟨⟨value, rfl, hLong⟩, rfl⟩
    | ok found =>
      rw [hName] at h
      cases h

theorem boundMerge_ok_iff {name : String} {given : Option Value} {current after : Int} :
    boundMerge name given current = .ok after ↔
      (∀ value ∈ Value.field? (Value.asEntries given) name, value.Positive) ∧
        after = ((Value.field? (Value.asEntries given) name).bind Value.asInt?).getD current := by
  unfold boundMerge
  cases Value.field? (Value.asEntries given) name with
  | none => simp [eq_comm]
  | some value =>
    simp only [positive_ok_iff, Option.mem_some_iff, forall_eq', Option.bind_some]
    constructor
    · rintro ⟨hInt, hPositive⟩
      exact ⟨⟨after, hInt, hPositive⟩, by rw [hInt]; rfl⟩
    · rintro ⟨⟨n, hInt, hPositive⟩, rfl⟩
      rw [hInt]
      exact ⟨rfl, hPositive⟩

theorem boundMerge_error {name : String} {given : Option Value} {current : Int}
    {fault : OverrideFault} (h : boundMerge name given current = .error fault) :
    ∃ value ∈ Value.field? (Value.asEntries given) name,
      ¬value.Positive ∧ fault = .notPositive ("bundle." ++ name) := by
  unfold boundMerge at h
  cases hField : Value.field? (Value.asEntries given) name with
  | none =>
    rw [hField] at h
    cases h
  | some value =>
    rw [hField] at h
    exact ⟨value, rfl, positive_error h⟩

/-! ## Sections of entries -/

section Writes

variable {α : Type} {read : Value → Option α} {key value : Value} {rest : List (Value × Value)}

theorem writes_cons {written : α} (h : read value = some written) :
    writes read ((key, value) :: rest) = (key.display, written) :: writes read rest := by
  rw [writes, List.filterMap_cons_some]
  · rfl
  · rw [h]
    rfl

end Writes

structure SizeEntry (closed : Bool) (current : Table Int) (entry : Value × Value) : Prop where
  short : ¬entry.1.TooLong
  known : closed = true → current.has entry.1.display = true
  positive : entry.2.Positive

/-- In a closed section the key of a size is there already, so the later entries meet the same keys
as before. -/
theorem sizeEntry_put_iff {closed : Bool} {current : Table Int} {name : String} {size : Int}
    (hKnown : closed = true → current.has name = true) {entry : Value × Value} :
    SizeEntry closed (current.put name size) entry ↔ SizeEntry closed current entry := by
  have hHas : closed = true →
      ((current.put name size).has entry.1.display = true ↔
        current.has entry.1.display = true) := by
    intro hClosed
    rw [Table.has_put, Bool.or_eq_true, beq_iff_eq]
    constructor
    · rintro (hOld | hSame)
      · exact hOld
      · exact hSame ▸ hKnown hClosed
    · exact .inl
  constructor
  · rintro ⟨hShort, hThere, hPositive⟩
    exact ⟨hShort, fun hClosed => (hHas hClosed).mp (hThere hClosed), hPositive⟩
  · rintro ⟨hShort, hThere, hPositive⟩
    exact ⟨hShort, fun hClosed => (hHas hClosed).mpr (hThere hClosed), hPositive⟩

theorem putSizes_ok_iff {label : String} {closed : Bool} {entries : List (Value × Value)}
    {current after : Table Int} :
    putSizes label closed current entries = .ok after ↔
      (∀ entry ∈ entries, SizeEntry closed current entry) ∧
        after = current.putAll (writes Value.asInt? entries) := by
  induction entries generalizing current with
  | nil => simp [putSizes, writes, Table.putAll, eq_comm]
  | cons entry rest ih =>
    obtain ⟨key, value⟩ := entry
    rw [putSizes, List.forall_mem_cons]
    constructor
    · intro h
      split at h
      · cases h
      · next name hName =>
        obtain ⟨hShort, rfl⟩ := Value.written_ok_iff.mp hName
        split at h
        · cases h
        · next hUnknown =>
          have hKnown : closed = true → current.has key.display = true := by
            intro hClosed
            simpa [hClosed] using hUnknown
          split at h
          · cases h
          · next size hSize =>
            obtain ⟨hInt, hPositive⟩ := positive_ok_iff.mp hSize
            obtain ⟨hEntries, rfl⟩ := ih.mp h
            refine ⟨⟨⟨hShort, hKnown, size, hInt, hPositive⟩, fun other hOther => ?_⟩, ?_⟩
            · exact (sizeEntry_put_iff hKnown).mp (hEntries other hOther)
            · rw [writes_cons hInt]
              rfl
    · rintro ⟨⟨⟨hShort, hKnown, size, hInt, hPositive⟩, hEntries⟩, rfl⟩
      have hUnknown : ¬(closed && !current.has key.display) = true := by
        cases closed with
        | true => simpa using hKnown rfl
        | false => simp
      rw [Value.written_ok_iff.mpr ⟨hShort, rfl⟩]
      simp only [if_neg hUnknown, positive_ok_iff.mpr ⟨hInt, hPositive⟩]
      refine ih.mpr ⟨fun other hOther => ?_, ?_⟩
      · exact (sizeEntry_put_iff hKnown).mpr (hEntries other hOther)
      · rw [writes_cons hInt]
        rfl

theorem sortedKeys_put {table : Table Int} {key : String} {value : Int}
    (h : table.has key = true) : (table.put key value).sortedKeys = table.sortedKeys := by
  rw [Table.sortedKeys, Table.sortedKeys, keys_put_of_has h]

theorem putSizes_error {label : String} {closed : Bool} {entries : List (Value × Value)}
    {current : Table Int} {fault : OverrideFault}
    (h : putSizes label closed current entries = .error fault) :
    ∃ entry ∈ entries, (entry.1.TooLong ∧ fault = .unwritable) ∨
      (closed = true ∧ current.has entry.1.display = false ∧
        fault = .unknownKey entry.1.display label current.sortedKeys) ∨
      (¬entry.2.Positive ∧ fault = .notPositive (label ++ "." ++ entry.1.display)) := by
  induction entries generalizing current with
  | nil => cases h
  | cons entry rest ih =>
    obtain ⟨key, value⟩ := entry
    rw [putSizes] at h
    split at h
    · next other hLong =>
      cases h
      exact ⟨_, List.mem_cons_self, .inl (Value.written_error_iff.mp hLong)⟩
    · next name hName =>
      obtain ⟨-, rfl⟩ := Value.written_ok_iff.mp hName
      split at h
      · next hUnknown =>
        cases h
        obtain ⟨hClosed, hAbsent⟩ := (Bool.and_eq_true _ _).mp hUnknown
        exact ⟨_, List.mem_cons_self, .inr (.inl ⟨hClosed, by simpa using hAbsent, rfl⟩)⟩
      · next hUnknown =>
        split at h
        · next other hNegative =>
          cases h
          exact ⟨_, List.mem_cons_self, .inr (.inr (positive_error hNegative))⟩
        · next size hSize =>
          obtain ⟨entry, hEntry, hFault⟩ := ih h
          refine ⟨entry, List.mem_cons_of_mem _ hEntry, ?_⟩
          obtain hLong | ⟨hClosed, hAbsent, hFault⟩ | hNegative := hFault
          · exact .inl hLong
          · have hKnown : current.has key.display = true := by simpa [hClosed] using hUnknown
            rw [Table.has_put, Bool.or_eq_false_iff] at hAbsent
            rw [sortedKeys_put hKnown] at hFault
            exact .inr (.inl ⟨hClosed, hAbsent.1, hFault⟩)
          · exact .inr (.inr hNegative)

structure LibraryEntry (entry : Value × Value) : Prop where
  shortKey : ¬entry.1.TooLong
  short : ¬entry.2.TooLong
  url : ∃ name, entry.2.name? = some name ∧ name ≠ ""

theorem putLibraries_cons (current : Table String) (key value : Value)
    (rest : List (Value × Value)) :
    putLibraries current ((key, value) :: rest) =
      (do
        let url ← value.asName?
        let name ← key.written
        match url with
        | none => .error (.notUrl name)
        | some url =>
          if url.isEmpty then .error (.notUrl name)
          else putLibraries (current.put name url) rest) := rfl

theorem putLibraries_ok_iff {entries : List (Value × Value)} {current after : Table String} :
    putLibraries current entries = .ok after ↔
      (∀ entry ∈ entries, LibraryEntry entry) ∧
        after = current.putAll (writes Value.name? entries) := by
  induction entries generalizing current with
  | nil => simp [putLibraries, writes, Table.putAll, eq_comm]
  | cons entry rest ih =>
    obtain ⟨key, value⟩ := entry
    rw [putLibraries_cons, List.forall_mem_cons]
    constructor
    · intro h
      obtain ⟨url, hUrl, h⟩ := Except.bind_eq_ok h
      obtain ⟨name, hName, h⟩ := Except.bind_eq_ok h
      obtain ⟨hShort, rfl⟩ := Value.asName?_ok_iff.mp hUrl
      obtain ⟨hShortKey, rfl⟩ := Value.written_ok_iff.mp hName
      split at h
      · cases h
      · next url hUrl =>
        split at h
        · cases h
        · next hNonempty =>
          obtain ⟨hEntries, rfl⟩ := ih.mp h
          refine ⟨⟨⟨hShortKey, hShort, url, hUrl, by simpa using hNonempty⟩, hEntries⟩, ?_⟩
          rw [writes_cons hUrl]
          rfl
    · rintro ⟨⟨⟨hShortKey, hShort, url, hUrl, hNonempty⟩, hEntries⟩, rfl⟩
      rw [Value.asName?_ok_iff.mpr ⟨hShort, rfl⟩, Value.written_ok_iff.mpr ⟨hShortKey, rfl⟩, hUrl]
      change (if url.isEmpty then _ else _) = _
      rw [if_neg (by simpa using hNonempty)]
      apply ih.mpr
      refine ⟨hEntries, ?_⟩
      rw [writes_cons hUrl]
      rfl

theorem putLibraries_error {entries : List (Value × Value)} {current : Table String}
    {fault : OverrideFault} (h : putLibraries current entries = .error fault) :
    ∃ entry ∈ entries, ((entry.1.TooLong ∨ entry.2.TooLong) ∧ fault = .unwritable) ∨
      ((∀ name, entry.2.name? = some name → name = "") ∧ fault = .notUrl entry.1.display) := by
  induction entries generalizing current with
  | nil => cases h
  | cons entry rest ih =>
    obtain ⟨key, value⟩ := entry
    rw [putLibraries_cons] at h
    cases hUrl : value.asName? with
    | error other =>
      rw [hUrl] at h
      cases h
      obtain ⟨hLong, rfl⟩ := Value.asName?_error_iff.mp hUrl
      exact ⟨_, List.mem_cons_self, .inl ⟨.inr hLong, rfl⟩⟩
    | ok url =>
      cases hName : key.written with
      | error other =>
        rw [hUrl, hName] at h
        cases h
        obtain ⟨hLong, rfl⟩ := Value.written_error_iff.mp hName
        exact ⟨_, List.mem_cons_self, .inl ⟨.inl hLong, rfl⟩⟩
      | ok name =>
        rw [hUrl, hName] at h
        obtain ⟨-, rfl⟩ := Value.asName?_ok_iff.mp hUrl
        obtain ⟨-, rfl⟩ := Value.written_ok_iff.mp hName
        cases hFound : value.name? with
        | none =>
          rw [hFound] at h
          cases h
          exact ⟨_, List.mem_cons_self, .inr ⟨by simp [hFound], rfl⟩⟩
        | some url =>
          rw [hFound] at h
          change (if url.isEmpty then _ else _) = _ at h
          split at h
          · next hEmpty =>
            cases h
            exact ⟨_, List.mem_cons_self, .inr ⟨by simpa [hFound] using hEmpty, rfl⟩⟩
          · obtain ⟨entry, hEntry, hFault⟩ := ih h
            exact ⟨entry, List.mem_cons_of_mem _ hEntry, hFault⟩

/-! ## What all settings have in common -/

/-- Without a value a setting stays, and the same value again leaves what it made of it. -/
structure Merge.Lawful {α : Type} (merge : Merge α) : Prop where
  absent : ∀ current, merge none current = .ok current
  again : ∀ {given current after}, merge given current = .ok after → merge given after = .ok after

theorem Merge.Lawful.or_iff {α : Type} {merge : Merge α} (h : merge.Lawful)
    {first second : Option Value} (hApart : first = none ∨ second = none) {current after : α} :
    merge (first.or second) current = .ok after ↔
      ∃ between, merge first current = .ok between ∧ merge second between = .ok after := by
  obtain rfl | rfl := hApart
  · simp [h.absent]
  · simp [h.absent]

theorem nameMerge_lawful (normalise : String → String) : (nameMerge normalise).Lawful where
  absent _ := rfl
  again h := by
    obtain ⟨hShort, rfl⟩ := nameMerge_ok_iff.mp h
    refine nameMerge_ok_iff.mpr ⟨hShort, ?_⟩
    cases (givenName? _).map normalise with
    | none => rfl
    | some name => rfl

theorem boundMerge_lawful (name : String) : (boundMerge name).Lawful where
  absent _ := rfl
  again h := by
    obtain ⟨hPositive, rfl⟩ := boundMerge_ok_iff.mp h
    refine boundMerge_ok_iff.mpr ⟨hPositive, ?_⟩
    cases (Value.field? _ name).bind Value.asInt? with
    | none => rfl
    | some bound => rfl

theorem sizeMerge_lawful (label : String) (closed : Bool) : (sizeMerge label closed).Lawful where
  absent _ := rfl
  again h := by
    obtain ⟨hEntries, rfl⟩ := putSizes_ok_iff.mp h
    apply putSizes_ok_iff.mpr
    refine ⟨fun entry hEntry => ?_, (Table.putAll_putAll _ _).symm⟩
    obtain ⟨hShort, hKnown, hPositive⟩ := hEntries entry hEntry
    refine ⟨hShort, fun hClosed => ?_, hPositive⟩
    rw [Table.has_putAll, hKnown hClosed, Bool.or_true]

theorem libraryMerge_lawful : libraryMerge.Lawful where
  absent _ := rfl
  again h := by
    obtain ⟨hEntries, rfl⟩ := putLibraries_ok_iff.mp h
    exact putLibraries_ok_iff.mpr ⟨hEntries, (Table.putAll_putAll _ _).symm⟩

end RuleTables

end SubmissionGate
