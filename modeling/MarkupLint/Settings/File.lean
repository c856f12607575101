import MarkupLint.Commented.Reader
import MarkupLint.Schema.Basic
import MarkupLint.Settings.Decode

/-! Settings in the text of a config file: JSON with comments, held to a schema. -/
namespace MarkupLint.Settings

def levelSchema : Schema := .choice (Rule.Level.names.map Prod.fst)

def ruleSchema : Schema := .oneOf [levelSchema, .boolean, .tuple [levelSchema, .anything]]

def linterSchema : Schema :=
  .record [("command", .text 1), ("args", .arrayOf (.text 0))] ["command"]

/-- The format of config files. -/
def schema : Schema :=
  .record
    [("$schema", .text 0), ("extend", .text 0), ("rules", .mapOf ruleSchema),
      ("linter", linterSchema), ("exclude", .arrayOf (.text 0))]
    []

inductive Fault where
  | syntaxError (f : Commented.Fault)
  | violation (v : Schema.Violation)
  | mismatch (m : Json.Mismatch)

def Fault.message : Fault → String
  | .syntaxError f => "Invalid JSON: " ++ f.message
  | .violation v => "Config validation failed: " ++ v.message
  | .mismatch m => "Invalid config: " ++ m.message

def ofChecked (v : Json) : Except Fault Settings :=
  match schema.check v with
  | some violation => .error (.violation violation)
  | none => (ofJson v).mapError .mismatch

/-- The settings in a config file; one without a value has the defaults. -/
def ofText? (s : String) : Except Fault Settings :=
  match Commented.parse s with
  | .error f => .error (.syntaxError f)
  | .ok v => ofChecked (v.getD .emptyObject)

def ofText (s : String) : Except LintError Settings :=
  (ofText? s).mapError fun f => .configuration f.message

end MarkupLint.Settings
