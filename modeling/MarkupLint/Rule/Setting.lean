import MarkupLint.Json.Canonical

/-! How one rule is set: by a level, by a switch, or by a level with options. -/
namespace MarkupLint.Rule

inductive Level where
  | off
  | warn
  | error
  deriving DecidableEq, Repr

/-- The names a level can be given by; the first of each is the one it is written with. -/
def Level.names : List (String × Level) :=
  [("off", .off), ("warn", .warn), ("warning", .warn), ("error", .error)]

def Level.ofName? (name : String) : Option Level :=
  (Level.names.find? fun e => e.1 == name).map Prod.snd

def Level.name : Level → String
  | .off => "off"
  | .warn => "warn"
  | .error => "error"

/-- A level is its name, or an object with the name as its only key and null as its value. -/
def Level.ofJson? : Json → Option Level
  | .text name => Level.ofName? name
  | .object [(name, .null)] => Level.ofName? name
  | _ => none

inductive Setting where
  | level (l : Level)
  /-- On is an error, off is off. -/
  | enabled (on : Bool)
  | withOptions (l : Level) (options : Json)
  deriving Repr

def Setting.effective : Setting → Level
  | .level l => l
  | .withOptions l _ => l
  | .enabled true => .error
  | .enabled false => .off

def Setting.isEnabled (s : Setting) : Bool := s.effective ≠ .off

instance : BEq Setting where
  beq
    | .level a, .level b => a == b
    | .enabled a, .enabled b => a == b
    | .withOptions a x, .withOptions b y => a == b && x == y
    | _, _ => false

def Setting.ofJson? : Json → Option Setting
  | .boolean on => some (.enabled on)
  | .array [l, options] => do return .withOptions (← Level.ofJson? l) (← options.canonical?)
  | v => (Level.ofJson? v).map .level

def Setting.mismatch : Json.Mismatch := .noVariant "RuleSetting"

def Setting.ofJson (v : Json) : Except Json.Mismatch Setting :=
  match Setting.ofJson? v with
  | some s => .ok s
  | none => .error Setting.mismatch

def Setting.toJson : Setting → Json
  | .level l => .text l.name
  | .enabled on => .boolean on
  | .withOptions l options => .array [.text l.name, options]

open Json (Reader)

def Setting.read (depth : Nat) : Reader Setting := do
  match Setting.ofJson? (← Reader.value none depth) with
  | some s => return s
  | none => Reader.mismatch Setting.mismatch

def Setting.parse (s : String) : Except Json.Fault Setting :=
  Reader.run (Setting.read Json.depthLimit) s.toList

end MarkupLint.Rule
