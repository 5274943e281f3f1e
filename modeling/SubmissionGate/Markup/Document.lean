import SubmissionGate.Markup.Element

/-!
# Submitted documents

What the gate wants to know of a document: the scripts it loads and holds, the code in its event
handlers and script addresses, its canvases, and whether it sets a viewport. Every piece of code is
a unit of its own, since a browser parses each one apart.
-/

namespace SubmissionGate.Markup

open SubmissionGate.Text

structure Document where
  elements : List Element
  deriving Repr

def StartTag.attribute? (tag : StartTag) (name : String) : Option (List Char) :=
  List.lookup name tag.attributes

def addressAttributes : List String := ["href", "src", "action", "formaction", "xlink:href"]

def scriptScheme : List Char := "javascript:".toList

def attributeCode? (name : String) (value : List Char) : Option (List Char) :=
  if name.startsWith "on" && !(trim value).isEmpty then some value
  else if addressAttributes.contains name then
    let address := trim value
    if scriptScheme.isPrefixOf (lower address) then some (address.drop scriptScheme.length)
    else none
  else none

def Element.handlerCode (element : Element) : List (List Char) :=
  element.tag.attributes.filterMap fun (name, value) => attributeCode? name value

def Element.scriptSource? (element : Element) : Option (List Char) :=
  if element.tag.name == "script" then (element.tag.attribute? "src").map trim else none

def Element.inlineScript? (element : Element) : Option (List Char) :=
  if element.tag.name == "script" && (element.tag.attribute? "src").isNone then element.rawText
  else none

def Element.canvasId? (element : Element) : Option (List Char) :=
  if element.tag.name == "canvas" then (element.tag.attribute? "id").map trim else none

def Element.isViewport (element : Element) : Bool :=
  element.tag.name == "meta" &&
    ((element.tag.attribute? "name").map fun name => lower (trim name)) == some "viewport".toList

namespace Document

def ofText (text : List Char) : Except Fault Document := (Markup.elements text).map Document.mk

def scriptSources (document : Document) : List (List Char) :=
  document.elements.filterMap Element.scriptSource?

def inlineScripts (document : Document) : List (List Char) :=
  document.elements.filterMap Element.inlineScript?

def handlerCode (document : Document) : List (List Char) :=
  document.elements.flatMap Element.handlerCode

def canvasIds (document : Document) : List (List Char) :=
  document.elements.filterMap Element.canvasId?

def hasViewport (document : Document) : Bool := document.elements.any Element.isViewport

/-- Every piece of code: the inline scripts, then the handlers and script addresses. -/
def codeUnits (document : Document) : List (List Char) :=
  document.inlineScripts ++ document.handlerCode

end Document

def endsTagName (c : Char) : Bool :=
  c == ' ' || c == '\t' || c == '\r' || c == '\n' || c == '\x0c' || c == '>' || c == '/'

/-- Whether a tag opens somewhere in a text; `skip` characters belong to a name that went on. -/
def opensTagFrom (needle : List Char) (skip : Nat) : List Char → Bool
  | [] => false
  | c :: rest =>
    match skip with
    | skip + 1 => opensTagFrom needle skip rest
    | 0 =>
      if needle.isPrefixOf (c :: rest) then
        match (c :: rest).drop needle.length with
        | [] => true
        | next :: _ => endsTagName next || opensTagFrom needle (needle.length - 1) rest
      else opensTagFrom needle 0 rest

def opensTag (tag : String) (lowered : List Char) : Bool :=
  opensTagFrom ('<' :: tag.toList) 0 lowered

def absentTags (text : List Char) (tags : List String) : List String :=
  let lowered := lower text
  tags.filter fun tag => !opensTag tag lowered

end SubmissionGate.Markup
