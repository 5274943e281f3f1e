import SubmissionGate.Json.Printer
import SubmissionGate.RuleTables
import SubmissionGate.Verdict

/-!
# Reports

What the commands print: the verdicts on submissions and the rule tables, for people or as JSON.
-/

namespace SubmissionGate.Cli

structure Judged where
  path : String
  verdict : Verdict

def issueValue (issue : Issue) : Value :=
  let detail := issue.detail.map fun (name, value) => (Value.text name, value)
  .map ([(.text "code", .text issue.code.name), (.text "severity", .text issue.severity.name),
      (.text "message", .text issue.message)]
    ++ (if detail.isEmpty then [] else [(.text "detail", .map detail)]))

def verdictEntries (verdict : Verdict) : List (Value × Value) :=
  [(.text "ok", .bool verdict.ok), (.text "errors", .list (verdict.errors.map issueValue)),
    (.text "warnings", .list (verdict.warnings.map issueValue))]
  ++ (match verdict.incomplete with
    | some reason => [(.text "incomplete", .text reason)]
    | none => [])

def Judged.value (judged : Judged) : Value :=
  let code := (judged.verdict.errorCode?.map fun code => Value.text code.name).getD .null
  .map ([(.text "path", .text judged.path), (.text "error_code", code)]
    ++ verdictEntries judged.verdict)

def jsonReport (judged : List Judged) : String :=
  Json.indented (.list (judged.map Judged.value)) ++ "\n"

def issueLine (label : String) (issue : Issue) : String :=
  s!"  {label} {issue.code.name}: {issue.message}\n"

def Judged.text (judged : Judged) : String :=
  let verdict := judged.verdict
  if verdict.incomplete.isSome then s!"ERROR {judged.path}\n"
  else
    let word := if verdict.ok then "PASS" else "FAIL"
    s!"{word} {judged.path}\n" ++ String.join (verdict.errors.map (issueLine "error  "))
      ++ String.join (verdict.warnings.map (issueLine "warning"))

def textReport (judged : List Judged) : String := String.join (judged.map Judged.text)

def unfinished (judged : List Judged) : List Judged :=
  judged.filter fun judged => judged.verdict.incomplete.any fun reason => !reason.isEmpty

def sizeLines (table : Table Int) : String :=
  String.join (table.map fun (key, size) => s!"  {key}: {size}\n")

def rulesText (rules : RuleTables) : String :=
  let methods := ", ".intercalate (rules.requiredMethods.map (·.name))
  let allowed := ", ".intercalate rules.allowedApis
  s!"Rule tables {rules.version}\n"
    ++ "Size limits (bytes):\n" ++ sizeLines rules.sizeLimits
    ++ "Bundle tiers (bytes):\n" ++ sizeLines rules.tierBudgets
    ++ "Asset limits (bytes):\n" ++ sizeLines rules.assetLimits
    ++ s!"Allowed script host: {rules.cdnHost}\n"
    ++ "Libraries:\n" ++ String.join (rules.libraries.map fun (key, url) => s!"  {key}: {url}\n")
    ++ s!"Required methods: {methods}\n"
    ++ "Forbidden APIs:\n"
    ++ String.join (rules.forbiddenRules.map fun rule => s!"  [{rule.category}] {rule.token}\n")
    ++ s!"Allowed APIs: {allowed}\n"

def rulesJson (rules : RuleTables) : String :=
  Json.indented (.map (rules.summary.map fun (name, value) => (.text name, value))) ++ "\n"

end SubmissionGate.Cli
