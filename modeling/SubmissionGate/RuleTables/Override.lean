import SubmissionGate.Number.Numeral
import SubmissionGate.RuleTables
import SubmissionGate.Text.LetterCase

/-!
# Overriding the rule tables

A configuration may replace single limits, tiers, libraries and names of the rule tables. Sections
of the wrong shape are passed over; a value of the wrong shape inside a section is a fault. Where
nothing effective is given the tables stay as they are.
-/

namespace SubmissionGate

inductive OverrideFault where
  | unknownKey (name section_ : String) (known : List String)
  | notPositive (label : String)
  | notUrl (key : String)
  | unwritable
  deriving DecidableEq, Repr

def OverrideFault.message : OverrideFault → String
  | .unknownKey name section_ known =>
    let names := ", ".intercalate known
    s!"Unknown key '{name}' in {section_}; expected one of {names}"
  | .notPositive label => s!"{label} must be a positive integer"
  | .notUrl key => s!"libraries.{key} must be a URL"
  | .unwritable => Numeral.unwritableMessage

namespace Value

def asEntries : Option Value → List (Value × Value)
  | some (.map entries) => entries
  | _ => []

def written : Value → Except OverrideFault String
  | .number (.int n) =>
    if Numeral.isWritable n then .ok (Number.int n).text else .error .unwritable
  | value => .ok value.display

def asName? (value : Value) : Except OverrideFault (Option String) :=
  match value with
  | .text _ | .number _ => value.written.map some
  | _ => .ok none

def asInt? : Value → Option Int
  | .number (.int n) => some n
  | .text s => Numeral.int? s.toList
  | _ => none

end Value

namespace RuleTables

def positive (label : String) (value : Value) : Except OverrideFault Int :=
  match value.asInt? with
  | some n => if 0 < n then .ok n else .error (.notPositive label)
  | none => .error (.notPositive label)

/-- Puts the sizes of a section into a table; only known keys if `closed`. -/
def putSizes (section_ : String) (closed : Bool) (current : Table Int) :
    List (Value × Value) → Except OverrideFault (Table Int)
  | [] => .ok current
  | (key, value) :: rest =>
    match key.written with
    | .error fault => .error fault
    | .ok name =>
      if closed && !current.has name then
        .error (.unknownKey name section_ current.sortedKeys)
      else match positive (section_ ++ "." ++ name) value with
        | .error fault => .error fault
        | .ok size => putSizes section_ closed (current.put name size) rest

def putLibraries (current : Table String) :
    List (Value × Value) → Except OverrideFault (Table String)
  | [] => .ok current
  | (key, value) :: rest => do
    let url ← value.asName?
    let name ← key.written
    match url with
    | none => .error (.notUrl name)
    | some url =>
      if url.isEmpty then .error (.notUrl name)
      else putLibraries (current.put name url) rest

/-- One section of the overrides: what it makes of the tables, or `none` where it says nothing. -/
abbrev Section := RuleTables → Except OverrideFault (Option RuleTables)

def nameSection (value : Option Value) (set : RuleTables → String → RuleTables) : Section :=
  fun rules =>
    match value.map Value.asName? with
    | none | some (.ok none) => .ok none
    | some (.error fault) => .error fault
    | some (.ok (some name)) => .ok (if name.isEmpty then none else some (set rules name))

def sizeSection (name : String) (closed : Bool) (value : Option Value)
    (get : RuleTables → Table Int) (set : RuleTables → Table Int → RuleTables) : Section :=
  fun rules =>
    let entries := Value.asEntries value
    if entries.isEmpty then .ok none
    else (putSizes name closed (get rules) entries).map fun sizes => some (set rules sizes)

def librarySection (value : Option Value) : Section :=
  fun rules =>
    let entries := Value.asEntries value
    if entries.isEmpty then .ok none
    else (putLibraries rules.libraries entries).map fun libraries =>
      some { rules with libraries }

def boundSection (label : String) (value : Option Value)
    (set : RuleTables → Int → RuleTables) : Section :=
  fun rules =>
    match value with
    | none => .ok none
    | some value => (positive label value).map fun bound => some (set rules bound)

def sections (overrides : List (Value × Value)) : List Section :=
  let field := Value.field? overrides
  let bundle := Value.asEntries (field "bundle")
  [nameSection (field "version") fun rules version => { rules with version },
    nameSection (field "cdn_host") fun rules host =>
      { rules with cdnHost := Text.lowercased (Text.trimmed host) },
    sizeSection "size_limits" true (field "size_limits") (·.sizeLimits)
      fun rules sizeLimits => { rules with sizeLimits },
    sizeSection "tiers" false (field "tiers") (·.tierBudgets)
      fun rules tierBudgets => { rules with tierBudgets },
    sizeSection "asset_limits" true (field "asset_limits") (·.assetLimits)
      fun rules assetLimits => { rules with assetLimits },
    librarySection (field "libraries"),
    boundSection "bundle.max_entries" (Value.field? bundle "max_entries")
      fun rules maxEntries => { rules with maxEntries },
    boundSection "bundle.max_compression_ratio" (Value.field? bundle "max_compression_ratio")
      fun rules maxCompressionRatio => { rules with maxCompressionRatio }]

/-- Applies sections one after the other and tells whether any had an effect. -/
def applySections (rules : RuleTables) (changed : Bool) :
    List Section → Except OverrideFault (Option RuleTables)
  | [] => .ok (if changed then some rules else none)
  | apply :: rest =>
    match apply rules with
    | .error fault => .error fault
    | .ok none => applySections rules changed rest
    | .ok (some rules) => applySections rules true rest

/-- The overridden tables, or `none` where nothing effective is given. -/
def override? (rules : RuleTables) (overrides : List (Value × Value)) :
    Except OverrideFault (Option RuleTables) :=
  applySections rules false (sections overrides)

def override (rules : RuleTables) (overrides : List (Value × Value)) :
    Except OverrideFault RuleTables :=
  (rules.override? overrides).map (·.getD rules)

end RuleTables

end SubmissionGate
