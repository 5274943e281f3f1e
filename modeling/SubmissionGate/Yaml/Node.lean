import SubmissionGate.Table
import SubmissionGate.Yaml.Tag
import SubmissionGate.Yaml.Token

/-!
# Configuration nodes

The tokens of a text form one document: a scalar, a list or a map, each with the type that its tag
or its form tells. A place where a node may stand and none does holds the empty scalar. A reference
stands for the node that was given its name before. Every function takes what is left to read and
gives what is left behind the node; the fuel bounds the nesting, each level of which takes a token.
-/

namespace SubmissionGate.Yaml

inductive Node where
  | scalar (tag : Tag) (text : List Char)
  | sequence (tag : Tag) (items : List Node)
  | mapping (tag : Tag) (entries : List (Node × Node))
  deriving Repr, Inhabited

structure Feed where
  tokens : List Token
  handles : Table String
  /-- The nodes by their names. One that is not complete yet has no parts. -/
  named : Table Node

structure Marks where
  anchor : Option String
  tag : Option String

namespace Marks

def none : Marks := ⟨Option.none, Option.none⟩

def isNone (marks : Marks) : Bool := marks.anchor.isNone && marks.tag.isNone

def formTag : String := "!"

def typeOr (marks : Marks) (otherwise : Tag) : Tag :=
  match marks.tag with
  | .none => otherwise
  | some name => if name == formTag then otherwise else .ofName name

/-- The type of a scalar. One with quotes is a text unless its tag leaves the type to its form. -/
def scalarType (marks : Marks) (text : List Char) (plain : Bool) : Tag :=
  if plain || marks.tag == some formTag then marks.typeOr (.ofForm text) else marks.typeOr .text

end Marks

namespace Feed

def leaving (feed : Feed) (tokens : List Token) : Feed := { feed with tokens }

def fault (feed : Feed) : Fault :=
  match feed.tokens with
  | .broken fault :: _ => fault
  | _ => .structural

def refuse {α : Type} (feed : Feed) : Except Fault α := .error feed.fault

def lacksNode (feed : Feed) (enders : List Token) : Bool := feed.tokens.head?.any enders.contains

def separated (feed : Feed) (first : Bool) (closer : Token) : Except Fault Feed :=
  if first || feed.tokens.head? == some closer then .ok feed
  else match feed.tokens with
    | .flowEntry :: rest => .ok (feed.leaving rest)
    | _ => feed.refuse

def tagName (feed : Feed) (handle : Option String) (text : String) : Except Fault String :=
  match handle with
  | none => .ok text
  | some handle =>
    match feed.handles.get? handle with
    | some meaning => .ok (meaning ++ text)
    | none => .error .unknownHandle

def marks (feed : Feed) : Except Fault (Marks × Feed) := do
  match feed.tokens with
  | .anchor name :: .tag handle text :: rest =>
    return (⟨some name, some (← feed.tagName handle text)⟩, feed.leaving rest)
  | .anchor name :: rest => return (⟨some name, none⟩, feed.leaving rest)
  | .tag _ _ :: .broken fault :: _ => throw fault
  | .tag handle text :: .anchor name :: rest =>
    return (⟨some name, some (← feed.tagName handle text)⟩, feed.leaving rest)
  | .tag handle text :: rest =>
    return (⟨none, some (← feed.tagName handle text)⟩, feed.leaving rest)
  | _ => return (.none, feed)

def outline (feed : Feed) (marks : Marks) : Node :=
  match feed.tokens with
  | .flowMappingStart :: _ | .mappingStart :: _ => .mapping (marks.typeOr .map) []
  | _ => .sequence (marks.typeOr .list) []

def announce (feed : Feed) (marks : Marks) : Except Fault Feed :=
  match feed.tokens, marks.anchor with
  | .broken fault :: _, _ => .error fault
  | _, none => .ok feed
  | _, some name =>
    if feed.named.has name then .error .repeatedAnchor
    else .ok { feed with named := feed.named.put name (feed.outline marks) }

def complete (feed : Feed) (marks : Marks) (node : Node) : Feed :=
  match marks.anchor with
  | none => feed
  | some name => { feed with named := feed.named.put name node }

end Feed

namespace Node

def tag : Node → Tag
  | scalar tag _ => tag
  | sequence tag _ => tag
  | mapping tag _ => tag

def empty : Node := .scalar .null []

mutual

/-- A node of any form; `flow` leaves only those that may stand in brackets, and `indentless` adds
a list whose dashes stand in the column of the key in front. -/
def parse (flow indentless : Bool) (feed : Feed) : Nat → Except Fault (Node × Feed)
  | 0 => .error .structural
  | fuel + 1 => do
    match feed.tokens with
    | .reference name :: rest =>
      match feed.named.get? name with
      | some node => return (node, feed.leaving rest)
      | none => throw .unknownAnchor
    | _ =>
      let (marks, feed) ← feed.marks
      let feed ← feed.announce marks
      let (node, feed) ← parseContent flow indentless marks feed fuel
      return (node, feed.complete marks node)

/-- A node behind its marks, which an empty scalar may have too. -/
def parseContent (flow indentless : Bool) (marks : Marks) (feed : Feed) :
    Nat → Except Fault (Node × Feed)
  | 0 => .error .structural
  | fuel + 1 =>
    let sequence := fun (read : List Node × Feed) =>
      (Node.sequence (marks.typeOr .list) read.1, read.2)
    let mapping := fun (read : List (Node × Node) × Feed) =>
      (Node.mapping (marks.typeOr .map) read.1, read.2)
    let otherwise : Except Fault (Node × Feed) :=
      if marks.isNone then feed.refuse else .ok (.scalar (marks.scalarType [] true) [], feed)
    match feed.tokens with
    | .scalar text plain :: rest =>
      .ok (.scalar (marks.scalarType text plain) text, feed.leaving rest)
    | .flowSequenceStart :: rest => (flowItems true [] (feed.leaving rest) fuel).map sequence
    | .flowMappingStart :: rest => (flowEntries true [] (feed.leaving rest) fuel).map mapping
    | .blockEntry :: _ =>
      if indentless then (blockItems true [] feed fuel).map sequence else otherwise
    | .sequenceStart :: rest =>
      if flow then otherwise else (blockItems false [] (feed.leaving rest) fuel).map sequence
    | .mappingStart :: rest =>
      if flow then otherwise else (blockEntries [] (feed.leaving rest) fuel).map mapping
    | _ => otherwise

def parseOr (enders : List Token) (flow indentless : Bool) (feed : Feed) :
    Nat → Except Fault (Node × Feed)
  | 0 => .error .structural
  | fuel + 1 =>
    if feed.lacksNode enders then .ok (.empty, feed) else parse flow indentless feed fuel

def parseValue (enders : List Token) (flow indentless : Bool) (feed : Feed) :
    Nat → Except Fault (Node × Feed)
  | 0 => .error .structural
  | fuel + 1 =>
    match feed.tokens with
    | .value :: rest => parseOr enders flow indentless (feed.leaving rest) fuel
    | _ => .ok (.empty, feed)

/-- The items of a list, each behind a dash, up to the end of the block or, without indentation,
up to the first other token. -/
def blockItems (indentless : Bool) (items : List Node) (feed : Feed) :
    Nat → Except Fault (List Node × Feed)
  | 0 => .error .structural
  | fuel + 1 =>
    match feed.tokens with
    | .blockEntry :: rest =>
      let enders := if indentless then [.blockEntry, .key, .value, .blockEnd]
        else [.blockEntry, .blockEnd]
      match parseOr enders false false (feed.leaving rest) fuel with
      | .error fault => .error fault
      | .ok (item, feed) => blockItems indentless (item :: items) feed fuel
    | .blockEnd :: rest => .ok (items.reverse, if indentless then feed else feed.leaving rest)
    | _ => if indentless then .ok (items.reverse, feed) else feed.refuse

def blockEntries (entries : List (Node × Node)) (feed : Feed) :
    Nat → Except Fault (List (Node × Node) × Feed)
  | 0 => .error .structural
  | fuel + 1 =>
    let enders : List Token := [.key, .value, .blockEnd]
    match feed.tokens with
    | .blockEnd :: rest => .ok (entries.reverse, feed.leaving rest)
    | .key :: rest =>
      match parseOr enders false true (feed.leaving rest) fuel with
      | .error fault => .error fault
      | .ok (key, feed) =>
        match parseValue enders false true feed fuel with
        | .error fault => .error fault
        | .ok (value, feed) => blockEntries ((key, value) :: entries) feed fuel
    | _ => feed.refuse

/-- The items of a list in brackets. A key makes a map of one entry. -/
def flowItems (first : Bool) (items : List Node) (feed : Feed) :
    Nat → Except Fault (List Node × Feed)
  | 0 => .error .structural
  | fuel + 1 => do
    let feed ← feed.separated first .flowSequenceEnd
    match feed.tokens with
    | .flowSequenceEnd :: rest => return (items.reverse, feed.leaving rest)
    | .key :: rest =>
      let (key, feed) ←
        parseOr [.value, .flowEntry, .flowSequenceEnd] true false (feed.leaving rest) fuel
      let (value, feed) ← parseValue [.flowEntry, .flowSequenceEnd] true false feed fuel
      flowItems false (.mapping .map [(key, value)] :: items) feed fuel
    | _ =>
      let (item, feed) ← parse true false feed fuel
      flowItems false (item :: items) feed fuel

/-- The entries of a map in brackets. A node without a colon is a key of its own. -/
def flowEntries (first : Bool) (entries : List (Node × Node)) (feed : Feed) :
    Nat → Except Fault (List (Node × Node) × Feed)
  | 0 => .error .structural
  | fuel + 1 => do
    let feed ← feed.separated first .flowMappingEnd
    match feed.tokens with
    | .flowMappingEnd :: rest => return (entries.reverse, feed.leaving rest)
    | .key :: rest =>
      let (key, feed) ←
        parseOr [.value, .flowEntry, .flowMappingEnd] true false (feed.leaving rest) fuel
      let (value, feed) ← parseValue [.flowEntry, .flowMappingEnd] true false feed fuel
      flowEntries false ((key, value) :: entries) feed fuel
    | _ =>
      let (key, feed) ← parse true false feed fuel
      flowEntries false ((key, .empty) :: entries) feed fuel

end

def root (feed : Feed) : Except Fault (Node × Feed) :=
  parse false false feed (8 * feed.tokens.length + 8)

def isOutside : Token → Bool
  | .directive _ | .documentStart | .documentEnd => true
  | _ => false

def afterMarker (feed : Feed) : Except Fault (Node × Feed) :=
  if feed.tokens.isEmpty || feed.tokens.head?.any isOutside then .ok (.empty, feed) else root feed

def commonHandles : Table String := [("!", "!"), ("!!", Tag.commonName)]

def directives (versioned : Bool) (handles : Table String) :
    List Token → Except Fault (Table String × List Token)
  | .directive (.version major) :: rest =>
    if versioned || major != 1 then .error .badDirective else directives true handles rest
  | .directive (.handle name meaning) :: rest =>
    if handles.has name then .error .badDirective
    else directives versioned (handles.put name meaning) rest
  | .directive .other :: rest => directives versioned handles rest
  | rest => .ok (handles, rest)

def close (node : Node) (feed : Feed) : Except Fault Node := do
  match feed.tokens.dropWhile (· == .documentEnd) with
  | [] => return node
  | tokens =>
    match ← directives false [] tokens with
    | (_, .broken fault :: _) => throw fault
    | _ => throw .severalDocuments

/-- The one document of a text; there is none in an empty one. -/
def ofTokens (tokens : List Token) : Except Fault (Option Node) := do
  let feed : Feed := ⟨tokens, commonHandles, []⟩
  if tokens.isEmpty then return none
  else if !tokens.head?.any fun token => isOutside token && token != .documentEnd then
    let (node, feed) ← root feed
    return some (← close node feed)
  else
    let (handles, tokens) ← directives false [] tokens
    let feed : Feed := ⟨tokens, handles ++ commonHandles, []⟩
    match tokens with
    | .documentStart :: rest =>
      let (node, feed) ← afterMarker (feed.leaving rest)
      return some (← close node feed)
    | _ => feed.refuse

end Node

end SubmissionGate.Yaml
