import SubmissionGate.Config

/-!
# How deep a configuration looks

A configuration is a map, its rules are one inside it, and a section of the rules is one inside
these. Nothing looks further in, so a value may be cut off there. A map that holds itself, which has
no end, is therefore read alike however far it is unrolled.
-/

namespace SubmissionGate

namespace Value

/-- A value as far as it is looked into: lists, and maps below so many others, come out empty. -/
def upTo : Nat → Value → Value
  | depth + 1, .map entries => .map (entries.map fun entry => (entry.1, upTo depth entry.2))
  | 0, .map _ => .list []
  | _, .list _ => .list []
  | _, value => value

def entriesUpTo (depth : Nat) (entries : List (Value × Value)) : List (Value × Value) :=
  entries.map fun entry => (entry.1, entry.2.upTo depth)

variable {depth : Nat} {entries : List (Value × Value)}

theorem field?_entriesUpTo (name : String) :
    field? (entriesUpTo depth entries) name = (field? entries name).map (upTo depth) := by
  unfold field? entriesUpTo
  rw [List.find?_map, Option.map_map, Option.map_map]
  rfl

theorem asEntries_upTo (value : Option Value) :
    asEntries (value.map (upTo (depth + 1))) = entriesUpTo depth (asEntries value) := by
  cases value with
  | none => rfl
  | some value => cases value <;> rfl

theorem asInt?_upTo (value : Value) : (value.upTo depth).asInt? = value.asInt? := by
  cases depth <;> cases value <;> rfl

theorem asName?_upTo (value : Value) : (value.upTo depth).asName? = value.asName? := by
  cases depth <;> cases value <;> rfl

end Value

namespace RuleTables

open Value

variable {depth : Nat} {entries : List (Value × Value)}

theorem positive_upTo (label : String) (value : Value) :
    positive label (value.upTo depth) = positive label value := by
  rw [positive, asInt?_upTo, positive]

theorem putSizes_entriesUpTo (label : String) (closed : Bool) (current : Table Int) :
    putSizes label closed current (entriesUpTo depth entries) =
      putSizes label closed current entries := by
  induction entries generalizing current with
  | nil => rfl
  | cons entry rest ih =>
    change putSizes label closed current ((entry.1, entry.2.upTo depth) :: entriesUpTo depth rest) =
      putSizes label closed current ((entry.1, entry.2) :: rest)
    simp only [putSizes, positive_upTo, ih]

theorem putLibraries_entriesUpTo (current : Table String) :
    putLibraries current (entriesUpTo depth entries) = putLibraries current entries := by
  induction entries generalizing current with
  | nil => rfl
  | cons entry rest ih =>
    change putLibraries current ((entry.1, entry.2.upTo depth) :: entriesUpTo depth rest) =
      putLibraries current ((entry.1, entry.2) :: rest)
    simp only [putLibraries, asName?_upTo, ih]

theorem isEmpty_entriesUpTo : (entriesUpTo depth entries).isEmpty = entries.isEmpty :=
  List.isEmpty_map

theorem nameSection_upTo (value : Option Value) (set : RuleTables → String → RuleTables) :
    nameSection (value.map (upTo depth)) set = nameSection value set := by
  have hName : asName? ∘ upTo depth = asName? := funext asName?_upTo
  unfold nameSection
  rw [Option.map_map, hName]

theorem sizeSection_upTo (label : String) (closed : Bool) (value : Option Value)
    (get : RuleTables → Table Int) (set : RuleTables → Table Int → RuleTables) :
    sizeSection label closed (value.map (upTo (depth + 1))) get set =
      sizeSection label closed value get set := by
  unfold sizeSection
  simp only [asEntries_upTo, isEmpty_entriesUpTo, putSizes_entriesUpTo]

theorem librarySection_upTo (value : Option Value) :
    librarySection (value.map (upTo (depth + 1))) = librarySection value := by
  unfold librarySection
  simp only [asEntries_upTo, isEmpty_entriesUpTo, putLibraries_entriesUpTo]

theorem boundSection_upTo (label : String) (value : Option Value)
    (set : RuleTables → Int → RuleTables) :
    boundSection label (value.map (upTo depth)) set = boundSection label value set := by
  cases value with
  | none => rfl
  | some value =>
    unfold boundSection
    simp only [Option.map_some, positive_upTo]

theorem override?_entriesUpTo (rules : RuleTables) :
    rules.override? (entriesUpTo (depth + 1) entries) = rules.override? entries := by
  simp only [override?, sections, field?_entriesUpTo, asEntries_upTo, nameSection_upTo,
    sizeSection_upTo, librarySection_upTo, boundSection_upTo]

end RuleTables

namespace Config

open Value

theorem seconds?_upTo (depth : Nat) (value : Value) :
    seconds? (value.upTo depth) = seconds? value := by
  cases depth <;> cases value <;> rfl

theorem ofEntries_entriesUpTo (root : List String) (entries : List (Value × Value)) :
    ofEntries root (entriesUpTo 2 entries) = ofEntries root entries := by
  have hSeconds : ∀ value : Option Value,
      seconds? ((value.map (upTo 2)).getD .null) = seconds? (value.getD .null) := by
    intro value
    cases value with
    | none => rfl
    | some value => exact seconds?_upTo 2 value
  have hWorkers : ∀ value : Option Value,
      (value.map (upTo 2)).bind asInt? = value.bind asInt? := by
    intro value
    cases value with
    | none => rfl
    | some value => exact asInt?_upTo value
  simp only [ofEntries, field?_entriesUpTo, hSeconds, hWorkers, asEntries_upTo,
    RuleTables.override?_entriesUpTo]

/-- A reader that gives values only as far as a configuration looks into them. -/
def Reader.cut (read : Reader) : Reader := fun text => (read text).map (upTo 3)

theorem readEntries_cut (read : Reader) (name : String) (text : List Char) :
    readEntries read.cut name text = (readEntries read name text).map (entriesUpTo 2) := by
  unfold readEntries Reader.cut
  split
  · rfl
  · cases read text with
    | error fault => rfl
    | ok value => cases value <;> rfl

theorem load_cut (read : Reader) (tree : FileTree) (path : FilePath) :
    load read.cut tree path = load read tree path := by
  cases hHome : tree.expandHome? path with
  | none => simp only [load, hHome]
  | some target =>
    simp only [load, hHome, loadFrom, readEntries_cut]
    split
    · rfl
    · split
      · rfl
      · split
        · rfl
        · next raw _ =>
          cases readEntries read ((place tree target).getLastD "") (Text.unifyBreaks raw) with
          | error halt => rfl
          | ok entries => exact ofEntries_entriesUpTo _ entries

/-- Two readers that agree as far as a configuration looks load the same. -/
theorem load_congr {read other : Reader} (h : read.cut = other.cut) (tree : FileTree)
    (path : FilePath) : load read tree path = load other tree path :=
  calc load read tree path
    _ = load read.cut tree path := (load_cut read tree path).symm
    _ = load other.cut tree path := by rw [h]
    _ = load other tree path := load_cut other tree path

end Config

end SubmissionGate
