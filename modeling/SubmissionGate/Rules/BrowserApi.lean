import SubmissionGate.Issue
import SubmissionGate.Text.Space

/-!
# Browser capabilities

Tokens that a submission must not use, by category, and tokens whose use is only pointed out. A
token is looked for without its blanks. The allowed APIs are published and never looked for.
-/

namespace SubmissionGate.Rules

structure ForbiddenToken where
  token : String
  category : String
  deriving DecidableEq, Repr

def ForbiddenToken.needle (rule : ForbiddenToken) : List Char := Text.collapse rule.token.toList

structure AdvisoryToken where
  token : String
  code : IssueCode
  label : String
  deriving DecidableEq, Repr

def AdvisoryToken.needle (rule : AdvisoryToken) : List Char := Text.collapse rule.token.toList

def forbiddenByCategory : List (String × List String) :=
  [("storage", ["localStorage", "sessionStorage", "indexedDB", "document.cookie"]),
    ("network", ["fetch(", "XMLHttpRequest", "WebSocket", "EventSource", "sendBeacon",
      "RTCPeerConnection"]),
    ("navigation", ["window.location", "document.location", "location.href", "location.assign(",
      "location.replace(", "history.pushState", "history.replaceState"]),
    ("window", ["window.open(", "window.opener", "window.parent", "window.top", "window.frames"]),
    ("device", ["navigator.geolocation", "navigator.mediaDevices", "getUserMedia",
      "navigator.clipboard", "navigator.bluetooth", "navigator.usb", "navigator.serial",
      "navigator.vibrate"]),
    ("messaging", ["postMessage", "BroadcastChannel", "MessageChannel", "SharedWorker",
      "new Worker(", "serviceWorker"]),
    ("dynamic_code", ["eval(", "new Function(", "setTimeout(\"", "setTimeout('", "setInterval(\"",
      "setInterval('", "document.write("]),
    ("module_loading", ["import(", "require(", "importScripts("])]

def forbiddenTokens : List ForbiddenToken :=
  forbiddenByCategory.flatMap fun (category, tokens) => tokens.map fun token => ⟨token, category⟩

def advisoryTokens : List AdvisoryToken :=
  [⟨"console.", .consoleUsage, "console"⟩,
    ⟨"alert(", .dialogUsage, "alert"⟩,
    ⟨"confirm(", .dialogUsage, "confirm"⟩,
    ⟨"prompt(", .dialogUsage, "prompt"⟩]

def allowedApis : List String :=
  ["canvas.getContext", "requestAnimationFrame", "new Audio", "new Image", "Math.random",
    "Date.now", "setTimeout", "setInterval", "addEventListener"]

end SubmissionGate.Rules
