import MarkupLint.Json.Basic

/-! What the linter reports: a rule, a kind, a message and a place, lines and columns from one. -/
namespace MarkupLint

def pluginName : String := "htmllinter"

inductive Finding.Kind where
  | error
  | warn
  deriving DecidableEq, Repr

structure Finding where
  ruleName : String
  kind : Finding.Kind
  message : String
  line : UInt32
  column : UInt32
  deriving DecidableEq, Repr

namespace Finding

/-- The names a kind can be given by; the first of each is the one it is written with. -/
def Kind.names : List (String × Kind) := [("error", .error), ("warn", .warn), ("warning", .warn)]

def Kind.name : Kind → String
  | .error => "error"
  | .warn => "warn"

def isError (f : Finding) : Bool := f.kind = .error

/-- For instance `htmllinter/tag-close: Tag is not closed [2:1]`. -/
def display (f : Finding) : String :=
  pluginName ++ "/" ++ f.ruleName ++ ": " ++ f.message ++
    " [" ++ toString f.line ++ ":" ++ toString f.column ++ "]"

def toJson (f : Finding) : Json :=
  let location := Json.object [("line", .natural f.line.toNat), ("col", .natural f.column.toNat)]
  .object [("ruleName", .text f.ruleName), ("type", .text f.kind.name),
    ("message", .text f.message), ("node", .object [("location", location)])]

end Finding

end MarkupLint
