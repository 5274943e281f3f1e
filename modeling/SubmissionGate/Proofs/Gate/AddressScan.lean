import SubmissionGate.Proofs.Gate.UnitScan
import SubmissionGate.Proofs.Markup.ScriptAddress

/-!
# Code in addresses

What a document holds as code in an address becomes a unit of its own when the document is decoded,
and the stage that looks for forbidden tokens reads it, if the address is written in one piece.
Where a tab or a line break parts the scheme, or another control stands in front of it, the browser
runs code that no stage looks at.
-/

namespace SubmissionGate.Gate

open SubmissionGate.Markup SubmissionGate.Text

open SubmissionGate.Url (isControlOrSpace isTabOrBreak stripped)

variable {context : Context} {text : List Char} {document : Document}

theorem decodeStage_units (hKind : context.resolved.kind = .html)
    (hText : Submission.textOfPayload "Submission" context.submission.payload = .ok text)
    (hDocument : Document.ofText text = .ok document) :
    (decodeStage context).context.units = document.codeUnits.map CodeUnit.mk := by
  unfold decodeStage
  simp [hText, hKind, hDocument, Report.clean]

/-- A piece of code is listed with the handlers of a document, and wherever the units of the
document are scanned, the forbidden tokens in it are reported. -/
structure Scanned (context : Context) (document : Document) (code : List Char) : Prop where
  listed : code ∈ document.handlerCode
  reported : ∀ later : Context, later.units = (decodeStage context).context.units →
    ∀ rule ∈ later.rules.forbiddenRules, rule.needle ≠ [] →
      rule.needle <:+: (CodeUnit.mk code).compact →
        rule.needle ∈ namedNeedles (forbiddenIssues later)

theorem scanned_of_listed (hKind : context.resolved.kind = .html)
    (hText : Submission.textOfPayload "Submission" context.submission.payload = .ok text)
    (hDocument : Document.ofText text = .ok document) {code : List Char}
    (hListed : code ∈ document.handlerCode) : Scanned context document code where
  listed := hListed
  reported := by
    intro later hUnits rule hRule hNonempty hUsed
    refine mem_namedNeedles.mpr ⟨hNonempty, ⟨rule, hRule, rfl⟩, ⟨code⟩, ?_, hUsed⟩
    rw [hUnits, decodeStage_units hKind hText hDocument]
    apply List.mem_map_of_mem
    exact List.mem_append_right _ hListed

theorem mem_handlerCode {element : Element} (hElement : element ∈ document.elements)
    {name : String} {value code : List Char} (hAttribute : (name, value) ∈ element.tag.attributes)
    (hCode : attributeCode? name value = some code) : code ∈ document.handlerCode := by
  apply List.mem_flatMap.mpr
  refine ⟨element, hElement, ?_⟩
  exact List.mem_filterMap.mpr ⟨(name, value), hAttribute, hCode⟩

/-- For every start tag of a document and every attribute that holds an address and is the first of
its name on the tag: an address that a browser takes for code is made up of a lead, a scheme and
that code, and the code is scanned exactly if the address is written in one piece. -/
theorem scriptAddress_scanned (hKind : context.resolved.kind = .html)
    (hText : Submission.textOfPayload "Submission" context.submission.payload = .ok text)
    (hDocument : Document.ofText text = .ok document) {element : Element}
    (hElement : element ∈ document.elements) :
    (∃ rest size, '<' :: rest <:+ text ∧ readStartTag rest = .ok (.tag element.tag size)) ∧
    ∀ rest size, readStartTag rest = .ok (.tag element.tag size) →
      ∀ before raw after, rawAttributes rest = before ++ raw :: after →
        (∀ earlier ∈ before, lower earlier.name ≠ lower raw.name) →
        String.ofList (lower raw.name) ∈ addressAttributes →
        ∃ value, resolveReferences (raw.value.getD []) = .ok value ∧
          (String.ofList (lower raw.name), value) ∈ element.tag.attributes ∧
          (HoldsCode value → ∃ lead written code, AddressParts value lead written code) ∧
          ∀ lead written code, AddressParts value lead written code →
            (InOnePiece lead written →
              attributeCode? (String.ofList (lower raw.name)) value = some (trimEnd code) ∧
                Scanned context document (trimEnd code)) ∧
            (¬InOnePiece lead written →
              attributeCode? (String.ofList (lower raw.name)) value = none) := by
  constructor
  · apply mem_elements _ hElement
    unfold Document.ofText at hDocument
    cases hRead : Markup.elements text with
    | error fault =>
      rw [hRead] at hDocument
      cases hDocument
    | ok elements =>
      rw [hRead] at hDocument
      cases hDocument
      rfl
  · intro rest size hRead before raw after hRaws hFirst hName
    have hResolved := readStartTag_attributes hRead
    rw [hRaws] at hResolved
    obtain ⟨value, hValue, hAttribute⟩ := resolveAttributes_first hResolved (by simp) hFirst
    refine ⟨value, hValue, hAttribute, HoldsCode.parts, ?_⟩
    intro lead written code hParts
    constructor
    · intro hPiece
      have hFound := hParts.found hPiece hName
      exact ⟨hFound, scanned_of_listed hKind hText hDocument
        (mem_handlerCode hElement hAttribute hFound)⟩
    · intro hBroken
      exact hParts.missed hBroken hName

def link (address : List Char) : Element := ⟨⟨"a", [("href", address)], false⟩, none⟩

def shoutedAddress : List Char := " JavaScript:eval(1) ".toList

def shoutedLink : List Char := "<a href=' JavaScript:eval(1) '>".toList

def linkContext : Context :=
  Context.start .standard ⟨(String.ofList shoutedLink).toUTF8, Metadata.default⟩
    ⟨.html, "2d", 0, none, []⟩

def shoutedScheme : List Char := ['J', 'a', 'v', 'a', 'S', 'c', 'r', 'i', 'p', 't', ':']

theorem shoutedAddress_parts :
    AddressParts shoutedAddress [' '] shoutedScheme "eval(1) ".toList where
  spell := by decide
  lead := List.forall_mem_singleton.mpr (by decide)
  scheme := by decide
  first := by
    rintro c ⟨⟩
    rfl
  last := by
    rintro c ⟨⟩
    rfl

theorem shoutedAddress_inOnePiece : InOnePiece [' '] shoutedScheme where
  lead := List.forall_mem_singleton.mpr (by decide)
  written := by
    have hNone : shoutedScheme.all (fun c => !isTabOrBreak c) = true := by decide
    simpa using hNone

set_option maxRecDepth 10000 in
/-- The code of a link is reported, with blanks around it and the scheme in some case. -/
theorem shoutedAddress_scanned :
    linkContext.resolved.kind = .html ∧
      Submission.textOfPayload "Submission" linkContext.submission.payload = .ok shoutedLink ∧
      Document.ofText shoutedLink = .ok ⟨[link shoutedAddress]⟩ ∧
      AddressParts shoutedAddress [' '] shoutedScheme "eval(1) ".toList ∧
      "eval(".toList ∈ namedNeedles (forbiddenIssues (decodeStage linkContext).context) := by
  have hText : Submission.textOfPayload "Submission" linkContext.submission.payload =
      .ok shoutedLink := by decide +kernel
  have hDocument : Document.ofText shoutedLink = .ok ⟨[link shoutedAddress]⟩ := by rfl
  refine ⟨rfl, hText, hDocument, shoutedAddress_parts, ?_⟩
  obtain ⟨-, hTags⟩ := scriptAddress_scanned rfl hText hDocument List.mem_cons_self
  obtain ⟨value, hValue, -, -, hParts⟩ := hTags shoutedLink.tail _ rfl [] _ [] rfl
    (by simp) (by decide +kernel)
  have hSame : resolveReferences shoutedAddress = .ok shoutedAddress := by rfl
  obtain rfl : shoutedAddress = value := Except.ok.inj (hSame.symm.trans hValue)
  obtain ⟨-, hScanned⟩ := (hParts _ _ _ shoutedAddress_parts).1 shoutedAddress_inOnePiece
  have hRule : ⟨"eval(", "dynamic_code"⟩ ∈ (decodeStage linkContext).context.rules.forbiddenRules := by
    rw [(decodeStage_tells linkContext).rules]
    decide +kernel
  exact hScanned.reported _ rfl _ hRule (by decide +kernel) (by decide +kernel)

def brokenAddress : List Char := "java\nscript:eval(1)".toList

def brokenLink : List Char := "<a href='java\nscript:eval(1)'>".toList

def controlAddress : List Char := "\x01javascript:eval(1)".toList

def controlLink : List Char := "<a href='\x01javascript:eval(1)'>".toList

set_option maxRecDepth 10000 in
/-- A browser runs the code in both links, and the documents have no unit of code. -/
theorem addresses_missed :
    (HoldsCode brokenAddress ∧ Document.ofText brokenLink = .ok ⟨[link brokenAddress]⟩ ∧
      Document.codeUnits ⟨[link brokenAddress]⟩ = []) ∧
    HoldsCode controlAddress ∧ Document.ofText controlLink = .ok ⟨[link controlAddress]⟩ ∧
      Document.codeUnits ⟨[link controlAddress]⟩ = [] := by
  have hBroken : scriptScheme.isPrefixOf ((stripped brokenAddress).map Char.toLower) = true := by
    decide
  have hControl : scriptScheme.isPrefixOf ((stripped controlAddress).map Char.toLower) = true := by
    decide
  refine ⟨⟨List.isPrefixOf_iff_prefix.mp hBroken, by rfl, by decide +kernel⟩,
    List.isPrefixOf_iff_prefix.mp hControl, by rfl, by decide +kernel⟩

end SubmissionGate.Gate
