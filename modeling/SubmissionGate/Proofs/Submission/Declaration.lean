import SubmissionGate.Metadata
import SubmissionGate.Proofs.Except

/-!
# Metadata that cannot be read

A value has a text unless an integer in it has too many digits or a part of it stands too deep. The
metadata ask for the text of up to three fields, one after the other, and the first of them that has
none is the reason why there are no metadata.
-/

namespace SubmissionGate

namespace Value

/-- The parts of a value, with the number of values that stand around each. -/
inductive Part : Value → Nat → Value → Prop
  | self (v : Value) : Part v 0 v
  | item {items : List Value} {item part : Value} {depth : Nat} (hItem : item ∈ items)
      (h : Part item depth part) : Part (.list items) (depth + 1) part
  | key {entries : List (Value × Value)} {entry : Value × Value} {part : Value} {depth : Nat}
      (hEntry : entry ∈ entries) (h : Part entry.1 depth part) :
      Part (.map entries) (depth + 1) part
  | value {entries : List (Value × Value)} {entry : Value × Value} {part : Value} {depth : Nat}
      (hEntry : entry ∈ entries) (h : Part entry.2 depth part) :
      Part (.map entries) (depth + 1) part

/-- No integer in a value is too long and no part of it too deep. -/
def WritableWithin (v : Value) (room : Nat) : Prop :=
  ∀ depth part, Part v depth part →
    depth < room ∧ ∀ n : Int, part = .number (.int n) → Numeral.isWritable n = true

theorem not_writableWithin_zero (v : Value) : ¬ v.WritableWithin 0 :=
  fun h => Nat.not_lt_zero 0 (h 0 v (.self v)).1

theorem writableWithin_list_iff {items : List Value} {room : Nat} :
    (Value.list items).WritableWithin (room + 1) ↔ ∀ item ∈ items, item.WritableWithin room := by
  constructor
  · intro h item hItem depth part hPart
    obtain ⟨hDepth, hDigits⟩ := h _ part (.item hItem hPart)
    exact ⟨Nat.lt_of_succ_lt_succ hDepth, hDigits⟩
  · intro h depth part hPart
    cases hPart with
    | self => exact ⟨Nat.succ_pos room, fun n hSame => by cases hSame⟩
    | item hItem hInner =>
      obtain ⟨hDepth, hDigits⟩ := h _ hItem _ _ hInner
      exact ⟨Nat.succ_lt_succ hDepth, hDigits⟩

theorem writableWithin_map_iff {entries : List (Value × Value)} {room : Nat} :
    (Value.map entries).WritableWithin (room + 1) ↔
      ∀ entry ∈ entries, entry.1.WritableWithin room ∧ entry.2.WritableWithin room := by
  constructor
  · intro h entry hEntry
    constructor
    · intro depth part hPart
      obtain ⟨hDepth, hDigits⟩ := h _ part (.key hEntry hPart)
      exact ⟨Nat.lt_of_succ_lt_succ hDepth, hDigits⟩
    · intro depth part hPart
      obtain ⟨hDepth, hDigits⟩ := h _ part (.value hEntry hPart)
      exact ⟨Nat.lt_of_succ_lt_succ hDepth, hDigits⟩
  · intro h depth part hPart
    cases hPart with
    | self => exact ⟨Nat.succ_pos room, fun n hSame => by cases hSame⟩
    | key hEntry hInner =>
      obtain ⟨hDepth, hDigits⟩ := (h _ hEntry).1 _ _ hInner
      exact ⟨Nat.succ_lt_succ hDepth, hDigits⟩
    | value hEntry hInner =>
      obtain ⟨hDepth, hDigits⟩ := (h _ hEntry).2 _ _ hInner
      exact ⟨Nat.succ_lt_succ hDepth, hDigits⟩

theorem writableWithin_number_iff {n : Number} {room : Nat} :
    (Value.number n).WritableWithin (room + 1) ↔
      ∀ m : Int, n = .int m → Numeral.isWritable m = true := by
  constructor
  · intro h m hSame
    exact (h 0 _ (.self _)).2 m (congrArg Value.number hSame)
  · intro h depth part hPart
    cases hPart
    exact ⟨Nat.succ_pos room, fun m hSame => h m (Value.number.inj hSame)⟩

mutual

theorem innerFault?_eq_none_iff (v : Value) (room : Nat) :
    v.innerFault? room = none ↔ v.WritableWithin room := by
  cases room with
  | zero => simp [innerFault?, not_writableWithin_zero]
  | succ room =>
    cases v with
    | list items =>
      rw [innerFault?, writableWithin_list_iff]
      exact itemsFault?_eq_none_iff items room
    | map entries =>
      rw [innerFault?, writableWithin_map_iff]
      exact entriesFault?_eq_none_iff entries room
    | number n =>
      rw [writableWithin_number_iff]
      cases n with
      | int m => simp [innerFault?]
      | real x => simp [innerFault?]
    | _ =>
      refine iff_of_true rfl fun depth part hPart => ?_
      cases hPart
      exact ⟨Nat.succ_pos room, fun m hSame => by cases hSame⟩
termination_by sizeOf v

theorem itemsFault?_eq_none_iff (items : List Value) (room : Nat) :
    itemsFault? items room = none ↔ ∀ item ∈ items, item.WritableWithin room := by
  cases items with
  | nil => simp [itemsFault?]
  | cons item rest =>
    rw [itemsFault?, Option.or_eq_none_iff, innerFault?_eq_none_iff item room,
      itemsFault?_eq_none_iff rest room, List.forall_mem_cons]
termination_by sizeOf items

theorem entriesFault?_eq_none_iff (entries : List (Value × Value)) (room : Nat) :
    entriesFault? entries room = none ↔
      ∀ entry ∈ entries, entry.1.WritableWithin room ∧ entry.2.WritableWithin room := by
  match entries with
  | [] => simp [entriesFault?]
  | (key, item) :: rest =>
    rw [entriesFault?, Option.or_eq_none_iff, Option.or_eq_none_iff,
      innerFault?_eq_none_iff key room, innerFault?_eq_none_iff item room,
      entriesFault?_eq_none_iff rest room, List.forall_mem_cons, and_assoc]
termination_by sizeOf entries

end

theorem textFault?_eq_none_iff (v : Value) (room : Nat) :
    v.textFault? room = none ↔ (∃ s, v = .text s) ∨ v.WritableWithin room := by
  cases v with
  | text s => exact iff_of_true rfl (.inl ⟨s, rfl⟩)
  | _ => simp [textFault?, innerFault?_eq_none_iff]

theorem displayWithin_error_iff {v : Value} {room : Nat} {fault : TextFault} :
    v.displayWithin room = .error fault ↔ v.textFault? room = some fault := by
  unfold displayWithin
  cases v.textFault? room with
  | none => simp
  | some other => simp

end Value

namespace Metadata

/-- Whether the text of a value is asked for in a field of the metadata. -/
inductive Asks (fields : List (Value × Value)) : String → Value → Prop
  | name {field : String} {value : Value} (hField : field ≠ "dimensions")
      (hGiven : Value.field? fields field = some value) (hSome : value ≠ .null) :
      Asks fields field value
  | dimensions {value : Value} (hGiven : Value.field? fields "dimensions" = some value)
      (hSome : value.isBlank = false) : Asks fields "dimensions" value

def textFields : List String := ["format", "dimensions", "tier"]

variable [Platform] {fields : List (Value × Value)} {fault : Value.TextFault}

/-- A field has no text where one is asked for. -/
def Lacks (fields : List (Value × Value)) (field : String) (fault : Value.TextFault) : Prop :=
  ∃ value, Asks fields field value ∧ value.textFault? (Platform.room field) = some fault

/-- The first of some fields that has no text, by the reason for it. -/
inductive FirstLacks (fields : List (Value × Value)) (fault : Value.TextFault) :
    List String → Prop
  | here {field : String} {rest : List String} (h : Lacks fields field fault) :
      FirstLacks fields fault (field :: rest)
  | later {field : String} {rest : List String} (hWritten : ∀ other, ¬ Lacks fields field other)
      (h : FirstLacks fields fault rest) : FirstLacks fields fault (field :: rest)

theorem firstLacks_cons_iff {field : String} {rest : List String} :
    FirstLacks fields fault (field :: rest) ↔ Lacks fields field fault ∨
      (∀ other, ¬ Lacks fields field other) ∧ FirstLacks fields fault rest := by
  constructor
  · intro h
    cases h with
    | here h => exact .inl h
    | later hWritten h => exact .inr ⟨hWritten, h⟩
  · rintro (h | ⟨hWritten, h⟩)
    · exact .here h
    · exact .later hWritten h

theorem not_firstLacks_nil : ¬ FirstLacks fields fault [] := fun h => by cases h

theorem normalName_error_iff {field : String} {value : Value} :
    normalName field value = .error fault ↔
      value.textFault? (Platform.room field) = some fault := by
  rw [normalName, ← Value.displayWithin_error_iff]
  cases value.displayWithin (Platform.room field) with
  | error other => simp [Except.map]
  | ok text => simp [Except.map]

theorem optionalName_error_iff {field : String} (hField : field ≠ "dimensions") :
    optionalName field (Value.field? fields field) = .error fault ↔ Lacks fields field fault := by
  have hMap : ∀ value, ((normalName field value).map fun name =>
      if name.isEmpty then none else some name) = .error fault ↔
        value.textFault? (Platform.room field) = some fault := by
    intro value
    rw [← normalName_error_iff]
    cases normalName field value <;> simp [Except.map]
  constructor
  · intro h
    unfold optionalName at h
    split at h
    · cases h
    · cases h
    · next value hSome hGiven => exact ⟨value, .name hField hGiven hSome, (hMap value).mp h⟩
  · rintro ⟨value, hAsks, hFault⟩
    cases hAsks with
    | dimensions => exact absurd rfl hField
    | name _ hGiven hSome =>
      rw [hGiven, optionalName]
      · exact (hMap value).mpr hFault
      · exact hSome

theorem dimensionsName_error_iff :
    dimensionsName (Value.field? fields "dimensions") = .error fault ↔
      Lacks fields "dimensions" fault := by
  constructor
  · intro h
    unfold dimensionsName at h
    split at h
    · cases h
    · next value hGiven =>
      split at h
      · cases h
      · next hBlank =>
        exact ⟨value, .dimensions hGiven (by simpa using hBlank), normalName_error_iff.mp h⟩
  · rintro ⟨value, hAsks, hFault⟩
    cases hAsks with
    | name hOther => exact absurd rfl hOther
    | dimensions hGiven hSome =>
      rw [hGiven, dimensionsName]
      simp only [hSome, Bool.false_eq_true, if_false]
      exact normalName_error_iff.mpr hFault

/-- There are no metadata exactly if a field has no text, and then the first such field says why. -/
theorem ofEntries_error_iff (fields : List (Value × Value)) (fault : Value.TextFault) :
    ofEntries fields = .error fault ↔ FirstLacks fields fault textFields := by
  have hFormat := fun fault => @optionalName_error_iff _ fields fault "format" (by decide)
  have hTier := fun fault => @optionalName_error_iff _ fields fault "tier" (by decide)
  have hDimensions := fun fault => @dimensionsName_error_iff _ fields fault
  simp only [textFields, firstLacks_cons_iff, not_firstLacks_nil, and_false, or_false]
  cases fields with
  | nil =>
    refine iff_of_false (fun h => by cases h) ?_
    simp [← hFormat, ← hTier, ← hDimensions, Value.field?, optionalName, dimensionsName]
  | cons first rest =>
    have hNever : ∀ (metadata : Metadata) (other : Value.TextFault),
        (Except.ok metadata : Except Value.TextFault Metadata) = .error other ↔ False :=
      fun metadata other => iff_of_false (fun h => by cases h) id
    rw [ofEntries, List.isEmpty_cons, if_neg Bool.false_ne_true]
    refine (Except.bind_error_iff hFormat (fun format => Except.bind_error_iff hDimensions
      fun dimensions => Except.bind_error_iff hTier fun tier => hNever _) fault).trans ?_
    simp only [and_false, or_false]

theorem not_lacks_iff {field : String} : (∀ fault, ¬ Lacks fields field fault) ↔
    ∀ value, Asks fields field value →
      (∃ s, value = .text s) ∨ value.WritableWithin (Platform.room field) := by
  simp only [← Value.textFault?_eq_none_iff]
  constructor
  · intro h value hAsks
    cases hFault : value.textFault? (Platform.room field) with
    | none => rfl
    | some fault => exact absurd ⟨value, hAsks, hFault⟩ (h fault)
  · rintro h fault ⟨value, hAsks, hFault⟩
    rw [h value hAsks] at hFault
    cases hFault

theorem not_firstLacks_iff {names : List String} : (∀ fault, ¬ FirstLacks fields fault names) ↔
    ∀ field ∈ names, ∀ fault, ¬ Lacks fields field fault := by
  induction names with
  | nil => simp [not_firstLacks_nil]
  | cons field rest ih =>
    rw [List.forall_mem_cons, ← ih]
    constructor
    · intro h
      have hHere : ∀ fault, ¬ Lacks fields field fault := fun fault hLacks => h fault (.here hLacks)
      exact ⟨hHere, fun fault hRest => h fault (.later hHere hRest)⟩
    · rintro ⟨hHere, hRest⟩ fault h
      rcases firstLacks_cons_iff.mp h with hLacks | ⟨-, hLater⟩
      · exact hHere fault hLacks
      · exact hRest fault hLater

/-- There are metadata exactly if each value that is asked for is a text or can be written. -/
theorem exists_ofEntries_iff (fields : List (Value × Value)) :
    (∃ metadata, ofEntries fields = .ok metadata) ↔ ∀ field ∈ textFields, ∀ value,
      Asks fields field value →
        (∃ s, value = .text s) ∨ value.WritableWithin (Platform.room field) := by
  simp only [← not_lacks_iff]
  rw [← not_firstLacks_iff]
  simp only [← ofEntries_error_iff]
  cases ofEntries fields with
  | ok metadata => simp
  | error fault => simp

end Metadata

end SubmissionGate
