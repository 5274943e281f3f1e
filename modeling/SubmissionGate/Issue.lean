import SubmissionGate.Value

/-!
# Issues

An issue is one finding about a submission: its code, its severity, a message for the submitter and
details by name. The codes form a closed set.
-/

namespace SubmissionGate

inductive IssueCode where
  | fileTooLarge
  | missingCanvas
  | missingGameObject
  | missingMethod
  | forbiddenApi
  | invalidHtml
  | invalidExternalScript
  | invalidAssetBundle
  | invalidGameFile
  | consoleUsage
  | dialogUsage
  | missingViewport
  | manifestIgnored
  deriving DecidableEq, Repr

namespace IssueCode

def all : List IssueCode :=
  [fileTooLarge, missingCanvas, missingGameObject, missingMethod, forbiddenApi, invalidHtml,
    invalidExternalScript, invalidAssetBundle, invalidGameFile, consoleUsage, dialogUsage,
    missingViewport, manifestIgnored]

def name : IssueCode → String
  | fileTooLarge => "FILE_TOO_LARGE"
  | missingCanvas => "MISSING_CANVAS"
  | missingGameObject => "MISSING_GAME_OBJECT"
  | missingMethod => "MISSING_METHOD"
  | forbiddenApi => "FORBIDDEN_API"
  | invalidHtml => "INVALID_HTML"
  | invalidExternalScript => "INVALID_EXTERNAL_SCRIPT"
  | invalidAssetBundle => "INVALID_ASSET_BUNDLE"
  | invalidGameFile => "INVALID_GAME_FILE"
  | consoleUsage => "CONSOLE_USAGE"
  | dialogUsage => "DIALOG_USAGE"
  | missingViewport => "MISSING_VIEWPORT"
  | manifestIgnored => "MANIFEST_IGNORED"

def ofName? (name : String) : Option IssueCode := all.find? fun code => code.name == name

end IssueCode

inductive Severity where
  | error
  | warning
  deriving DecidableEq, Repr

def Severity.name : Severity → String
  | error => "error"
  | warning => "warning"

structure Issue where
  code : IssueCode
  severity : Severity
  message : String
  detail : List (String × Value)
  deriving Repr

namespace Issue

def error (code : IssueCode) (message : String) (detail : List (String × Value)) : Issue :=
  ⟨code, .error, message, detail⟩

def warning (code : IssueCode) (message : String) (detail : List (String × Value)) : Issue :=
  ⟨code, .warning, message, detail⟩

def joinedMessage (issues : List Issue) : String :=
  let message := "; ".intercalate (issues.map (·.message))
  if message.isEmpty then "fatal validation failure" else message

end Issue

end SubmissionGate
