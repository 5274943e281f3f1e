import SubmissionGate.Base64
import SubmissionGate.Gate.Judgement

/-!
# Validation service

The service answers requests for its health, its rule tables and the validation of a submission,
whose content comes in base64. A request body is checked field by field before anything is
validated; numbers are never taken for texts.
-/

namespace SubmissionGate.Service

structure Request where
  method : String
  path : String
  body : Option Value

structure Submitted where
  content : String
  format : Option String
  dimensions : String
  tier : Option String
  libs : List String
  deriving Repr

inductive Response where
  | ok (body : Value)
  | badContent (fault : Base64.Fault)
  | notFound
  | methodNotAllowed
  /-- The names of the fields that are missing or of the wrong type, each once and in order; the
  empty name stands for the whole body. -/
  | unprocessable (fields : List String)
  | timedOut (timeout : Deadline.Timeout)

namespace Response

def status : Response → Nat
  | ok _ => 200
  | badContent _ => 400
  | notFound => 404
  | methodNotAllowed => 405
  | unprocessable _ => 422
  | timedOut _ => 503

def detail (message : String) : Value := .map [(.text "detail", .text message)]

def body : Response → Value
  | ok body => body
  | badContent fault => detail s!"content_base64 is not valid base64: {fault.message}"
  | notFound => detail "Not Found"
  | methodNotAllowed => detail "Method Not Allowed"
  | unprocessable fields => .list (fields.map .text)
  | timedOut timeout => detail timeout.message

end Response

/-- A field that reads to a value, or is left out or of the wrong type. -/
inductive Field (α : Type) where
  | given (value : α)
  | wrong

namespace Field

def text : Option Value → Field String
  | some (.text s) => .given s
  | _ => .wrong

def optionalText : Option Value → Field (Option String)
  | none | some .null => .given none
  | some (.text s) => .given (some s)
  | some _ => .wrong

def textOr (otherwise : String) : Option Value → Field String
  | none => .given otherwise
  | some (.text s) => .given s
  | some _ => .wrong

def texts : Option Value → Field (List String)
  | none => .given []
  | some (.list items) =>
    match items.mapM Metadata.text? with
    | some names => .given names
    | none => .wrong
  | some _ => .wrong

def wrongName {α : Type} (name : String) : Field α → List String
  | given _ => []
  | wrong => [name]

end Field

def Submitted.ofEntries (entries : List (Value × Value)) : Except (List String) Submitted :=
  let field := Value.field? entries
  let content := Field.text (field "content_base64")
  let format := Field.optionalText (field "format")
  let dimensions := Field.textOr "2d" (field "dimensions")
  let tier := Field.optionalText (field "tier")
  let libs := Field.texts (field "libs")
  match content, format, dimensions, tier, libs with
  | .given content, .given format, .given dimensions, .given tier, .given libs =>
    .ok { content, format, dimensions, tier, libs }
  | _, _, _, _, _ =>
    .error (content.wrongName "content_base64" ++ dimensions.wrongName "dimensions"
      ++ format.wrongName "format" ++ libs.wrongName "libs" ++ tier.wrongName "tier")

def Submitted.ofBody : Option Value → Except (List String) Submitted
  | some (.map entries) => ofEntries entries
  | _ => .error [""]

def Submitted.declared (submitted : Submitted) : Gate.Declared :=
  let optional := fun (name : Option String) => (name.map Value.text).getD .null
  .entries [(.text "format", optional submitted.format),
    (.text "dimensions", .text submitted.dimensions), (.text "tier", optional submitted.tier),
    (.text "libs", .list (submitted.libs.map .text))]

def issueValue (issue : Issue) : Value :=
  let detail : Value :=
    if issue.detail.isEmpty then .null
    else .map (issue.detail.map fun (name, value) => (.text name, value))
  .map [(.text "code", .text issue.code.name), (.text "severity", .text issue.severity.name),
    (.text "message", .text issue.message), (.text "detail", detail)]

def verdictValue (verdict : Verdict) : Value :=
  .map [(.text "ok", .bool verdict.ok),
    (.text "error_code", (verdict.errorCode?.map fun code => Value.text code.name).getD .null),
    (.text "errors", .list (verdict.errors.map issueValue)),
    (.text "warnings", .list (verdict.warnings.map issueValue))]

inductive Action where
  | respond (response : Response)
  | validate (intake : Gate.Intake)

def submit (body : Option Value) : Action :=
  match Submitted.ofBody body with
  | .error fields => .respond (.unprocessable fields)
  | .ok submitted =>
    match Base64.decode submitted.content with
    | .error fault => .respond (.badContent fault)
    | .ok content => .validate ⟨content, submitted.declared⟩

def route (path : String) : String :=
  let chars := path.toList.takeWhile (· != '?')
  let trimmed := (chars.reverse.dropWhile (· == '/')).reverse
  String.ofList (if trimmed.isEmpty then chars else trimmed)

def action (rules : RuleTables) (request : Request) : Action :=
  let allow := fun (method : String) (action : Action) =>
    if request.method = method then action else .respond .methodNotAllowed
  match route request.path with
  | "/health" => allow "GET" (.respond (.ok (.map [(.text "status", .text "ok")])))
  | "/rules" =>
    let summary := Value.map (rules.summary.map fun (name, value) => (.text name, value))
    allow "GET" (.respond (.ok summary))
  | "/validate" => allow "POST" (submit request.body)
  | _ => .respond .notFound

def answer : Gate.Judgement → Except Breakdown Response
  | .verdict verdict => .ok (.ok (verdictValue verdict))
  | .timeout timeout => .ok (.timedOut timeout)
  | .breakdown breakdown => .error breakdown

def respond [Platform] (settings : Gate.Settings) (clock : Nat → Number) (request : Request) :
    Except Breakdown Response :=
  match action settings.rules request with
  | .respond response => .ok response
  | .validate intake => answer (Gate.judgeIntake settings clock intake).1

end SubmissionGate.Service
