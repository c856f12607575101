import MarkupLint.Protocol.Message
import MarkupLint.Protocol.Parameters
import MarkupLint.Server.Backend

/-! Parameters of messages as what they tell the server. A value that was read by its shape has the
fields that are asked for here. -/
namespace MarkupLint.Server

open Protocol (Refusal)

def field (v : Json) (name : String) : Json := (v.member? name).getD .null

def textOf : Json → String
  | .text s => s
  | _ => ""

def text? : Json → Option String
  | .text s => some s
  | _ => none

def itemsOf : Json → List Json
  | .array items => items
  | _ => []

def integerOf : Json → Int
  | .number (.integer n) => n
  | _ => 0

def url? : Json → Option Url
  | .text s => (Url.parse s).toOption
  | _ => none

def document? (v : Json) : Option Document := do
  let uri ← url? (field v "uri")
  return ⟨uri, textOf (field v "text"), textOf (field v "languageId"),
    some (integerOf (field v "version"))⟩

namespace Introduction

/-- The first workspace folder is the root, else the URL given as such. -/
def ofParams (v : Json) : Introduction where
  pullsSettings :=
    match field (field (field v "capabilities") "workspace") "configuration" with
    | .boolean b => b
    | _ => false
  settings :=
    match field v "initializationOptions" with
    | .null => none
    | options => some options
  root :=
    match itemsOf (field v "workspaceFolders") with
    | folder :: _ => url? (field folder "uri")
    | [] => url? (field v "rootUri")

end Introduction

namespace Notification

def identified? (v : Json) : Option Url := url? (field (field v "textDocument") "uri")

def opened? (v : Json) : Option Notification :=
  (document? (field v "textDocument")).map .opened

def changed? (v : Json) : Option Notification := do
  let version := integerOf (field (field v "textDocument") "version")
  let texts := (itemsOf (field v "contentChanges")).map fun c => textOf (field c "text")
  return .changed (← identified? v) version texts

def saved? (v : Json) : Option Notification := do
  return .saved (← identified? v) (text? (field v "text"))

def closed? (v : Json) : Option Notification := (identified? v).map .closed

def visible? (v : Json) : Option Notification :=
  ((itemsOf (field v "uris")).mapM url?).map .visible

def settingsPushed? (v : Json) : Option Notification := some (.settingsPushed (field v "settings"))

def filesChanged? (v : Json) : Option Notification :=
  ((itemsOf (field v "changes")).mapM fun c => url? (field c "uri")).map .filesChanged

structure Form where
  method : String
  shape : Shape
  make : Json → Option Notification

def forms : List Form :=
  [⟨"textDocument/didOpen", .didOpenParams, opened?⟩,
    ⟨"textDocument/didChange", .didChangeParams, changed?⟩,
    ⟨"textDocument/didSave", .didSaveParams, saved?⟩,
    ⟨"textDocument/didClose", .didCloseParams, closed?⟩,
    ⟨"workspace/didChangeConfiguration", .didChangeConfigurationParams, settingsPushed?⟩,
    ⟨"workspace/didChangeWatchedFiles", .didChangeWatchedFilesParams, filesChanged?⟩,
    ⟨"htmllinter/didChangeVisibleDocuments", .visibleDocumentsParams, visible?⟩]

/-- The notification in a message; badly shaped ones and those of other methods tell nothing. -/
def ofMessage? (method : String) (params : Option Json) : Option Notification := do
  let form ← forms.find? fun f => f.method == method
  let v ← (form.shape.read (← params)).toOption
  form.make v

end Notification

def readParams (s : Shape) : Option Json → Except Refusal Json
  | none => .error .missingParams
  | some v => (s.read v).mapError .badParams

end MarkupLint.Server
