import MarkupLint.Json.Canonical
import MarkupLint.LintError
import MarkupLint.Settings.Basic

/-! Settings as JSON. An object or an array of the fields in order is read; fields of other names
are ignored, and all fields may be missing. -/
namespace MarkupLint

open Json (Mismatch)
open Map (Dict)

namespace Json

def asText : Json → Except Mismatch String
  | .text s => .ok s
  | v => .error (.wrongType v.found "a string")

def asItems : Json → Except Mismatch (List Json)
  | .array items => .ok items
  | v => .error (.wrongType v.found "a sequence")

def asTexts (v : Json) : Except Mismatch (List String) := do (← v.asItems).mapM asText

def asOption (f : Json → Except Mismatch α) : Json → Except Mismatch (Option α)
  | .null => .ok none
  | v => (f v).map some

def surplus (items : List Json) : Mismatch := .wrongLength items.length "fewer elements in array"

end Json

namespace LinterCommand

structure Fields where
  command : Option String
  args : Option (List String)

def Fields.member (f : Fields) (key : String) (v : Json) : Except Mismatch Fields :=
  match key with
  | "command" => do return { f with command := some (← v.asText) }
  | "args" => do return { f with args := some (← v.asTexts) }
  | _ => .ok f

def ofJson : Json → Except Mismatch LinterCommand
  | .object members => do
    let f ← members.foldlM (fun f m => Fields.member f m.1 m.2) ⟨none, none⟩
    match f.command with
    | some command => .ok ⟨command, f.args.getD []⟩
    | none => .error (.missingField "command")
  | .array [] => .error (.wrongLength 0 "struct LinterCommand with 2 elements")
  | .array [command] => do return ⟨← command.asText, []⟩
  | .array (command :: args :: rest) => do
    let read : LinterCommand := ⟨← command.asText, ← args.asTexts⟩
    if rest.isEmpty then return read else throw (Json.surplus (command :: args :: rest))
  | v => .error (.wrongType v.found "struct LinterCommand")

def toJson (c : LinterCommand) : Json :=
  .object [("args", .array (c.args.map .text)), ("command", .text c.command)]

end LinterCommand

namespace Settings

def rulesOfJson : Json → Except Mismatch (Dict Rule.Setting)
  | .object members => do
    members.foldlM (fun rules m => do return rules.insert m.1 (← Rule.Setting.ofJson m.2)) ∅
  | v => .error (.wrongType v.found "a map")

def member (s : Settings) (key : String) (v : Json) : Except Mismatch Settings :=
  match key with
  | "extend" => do return { s with base := ← v.asOption Json.asText }
  | "rules" => do return { s with rules := ← rulesOfJson v }
  | "linter" => do return { s with linter := ← v.asOption LinterCommand.ofJson }
  | "exclude" => do return { s with exclude := ← v.asTexts }
  | _ => .ok s

def fieldNames : List String := ["extend", "rules", "linter", "exclude"]

def ofJson : Json → Except Mismatch Settings
  | .object members => members.foldlM (fun s m => s.member m.1 m.2) default
  | .array items => do
    let s ← (fieldNames.zip items).foldlM (fun s m => s.member m.1 m.2) default
    if items.length ≤ fieldNames.length then return s else throw (Json.surplus items)
  | v => .error (.wrongType v.found "struct Settings")

/-- What was set; the directory is no part of it. -/
def toJson (s : Settings) : Json :=
  .object (
    [("exclude", .array (s.exclude.map .text))] ++
    (s.base.map fun b => ("extend", Json.text b)).toList ++
    (s.linter.map fun c => ("linter", c.toJson)).toList ++
    [("rules", Rule.rulesJson s.rules)])

def ofValue (v : Json) : Except LintError Settings :=
  if v.isNull then .ok default
  else (ofJson v).mapError fun m => .configuration ("Invalid settings: " ++ m.message)

end Settings

end MarkupLint
