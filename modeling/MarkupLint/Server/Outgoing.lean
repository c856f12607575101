import MarkupLint.Diagnostic
import MarkupLint.Protocol.Message
import MarkupLint.Settings.Basic
import MarkupLint.Url.Basic

/-! What the server sends to the editor on its own. -/
namespace MarkupLint.Server

inductive Outgoing where
  /-- Once the editor has said that it is ready. -/
  | greeting
  | logged (line : String)
  | shown (line : String)
  /-- The diagnostics of a document, in the version they were found in. -/
  | published (uri : Url) (diagnostics : List Diagnostic) (version : Option Int)
  /-- The request of a number for the settings of a document. -/
  | settingsWanted (number : Nat) (uri : Url)

namespace Outgoing

def method : Outgoing → String
  | .greeting => "window/logMessage"
  | .logged _ => "window/logMessage"
  | .shown _ => "window/showMessage"
  | .published _ _ _ => "textDocument/publishDiagnostics"
  | .settingsWanted _ _ => "workspace/configuration"

inductive Weight where
  | warning
  | info
  | log

def Weight.number : Weight → Nat
  | .warning => 2
  | .info => 3
  | .log => 4

def lineJson (w : Weight) (line : String) : Json :=
  .object [("message", .text line), ("type", .natural w.number)]

def greetingLine : String := "htmllinter LSP server initialized!"

def params : Outgoing → Json
  | .greeting => lineJson .info greetingLine
  | .logged line => lineJson .log line
  | .shown line => lineJson .warning line
  | .published uri ds version =>
    .object ([("diagnostics", .array (ds.map Diagnostic.toJson)), ("uri", .text uri.text)] ++
      (version.map fun n => ("version", Json.integer n)).toList)
  | .settingsWanted _ uri =>
    .object [("items", .array [.object
      [("scopeUri", .text uri.text), ("section", .text Settings.sectionName)]])]

def toJson (o : Outgoing) : Json :=
  let id := match o with
    | .settingsWanted n _ => [("id", Json.natural n)]
    | _ => []
  .object (id ++
    [("jsonrpc", .text Protocol.version), ("method", .text o.method), ("params", o.params)])

end Outgoing

end MarkupLint.Server
