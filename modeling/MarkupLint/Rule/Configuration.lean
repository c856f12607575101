import MarkupLint.Json.Field
import MarkupLint.Map.Dict
import MarkupLint.Rule.Setting

/-! The rules that the linter applies to one document: a base set and what overrides it. -/
namespace MarkupLint.Rule

open Json (Reader)
open Json.Reader
open Map (Dict)

/-- The base set that is extended when none is named. -/
def defaultBase : String := "@htmllinter/basic-config"

structure Configuration where
  base : String
  rules : Dict Setting

instance : BEq Configuration := ⟨fun a b => a.base == b.base && a.rules == b.rules⟩

def Configuration.default : Configuration := ⟨defaultBase, ∅⟩

instance : Inhabited Configuration := ⟨.default⟩

/-- The overridden rules that are not off, in name order. -/
def Configuration.enabledRules (c : Configuration) : List (String × Setting) :=
  c.rules.entries.filter fun e => e.2.isEnabled

def rulesJson (rules : Dict Setting) : Json :=
  .object (rules.entries.map fun e => (e.1, e.2.toJson))

def Configuration.toJson (c : Configuration) : Json :=
  .object [("extend", .text c.base), ("rules", rulesJson c.rules)]

def readRules (depth : Nat) : Reader (Dict Setting) :=
  mapValue depth fun inner =>
    members ∅ fun name read => do colon; return read.insert name (← Setting.read inner)

structure Partial where
  base : Option String
  rules : Option (Dict Setting)

def Configuration.read (depth : Nat) : Reader Configuration :=
  recordValue depth "struct RuleConfiguration"
    (fun inner => do
      let base ← requiredItem 0 "struct RuleConfiguration with 2 elements" textValue
      let rules ← item? false (readRules inner)
      return ⟨base, rules.getD ∅⟩)
    (fun inner => do
      let read ← members (Partial.mk none none) fun name p =>
        match name with
        | "extend" => do return { p with base := ← fieldOnce name p.base textValue }
        | "rules" => do return { p with rules := ← fieldOnce name p.rules (readRules inner) }
        | _ => do ignoredField; return p
      return ⟨← required "extend" read.base, read.rules.getD ∅⟩)

def Configuration.parse (s : String) : Except Json.Fault Configuration :=
  Reader.run (Configuration.read Json.depthLimit) s.toList

end MarkupLint.Rule
