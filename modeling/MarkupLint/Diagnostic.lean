import MarkupLint.Finding.Basic

/-! Diagnostics in the coordinates of an editor: lines from zero, columns in UTF-16 code units, both
in 32 bits. A finding covers its whole line. -/
namespace MarkupLint

structure Position where
  line : UInt32
  character : UInt32
  deriving DecidableEq, Repr

structure Range where
  start : Position
  stop : Position
  deriving DecidableEq, Repr

inductive Severity where
  | error
  | warning
  deriving DecidableEq, Repr

structure Diagnostic where
  range : Range
  severity : Severity
  code : String
  message : String
  deriving DecidableEq, Repr

/-- The lines of a text, without their line feeds; there is always at least one. -/
def lines : List Char → List (List Char)
  | [] => [[]]
  | c :: rest =>
    if c = '\n' then [] :: lines rest
    else match lines rest with
      | [] => [[c]]
      | line :: others => (c :: line) :: others

def lineContent (line : List Char) : List Char :=
  if line.getLast? = some '\r' then line.dropLast else line

def utf16Length (cs : List Char) : UInt32 :=
  cs.foldr (fun c n => (if c.toNat < 0x10000 then 1 else 2) + n) 0

namespace Range

/-- The range of a line counted from zero; a line past the end is the last one. -/
def ofLine (text : List (List Char)) (line : Nat) : Range :=
  let index := min line (text.length - 1)
  let width := utf16Length (lineContent ((text[index]?).getD []))
  ⟨⟨.ofNat index, 0⟩, ⟨.ofNat index, width⟩⟩

end Range

def Severity.ofKind : Finding.Kind → Severity
  | .error => .error
  | .warn => .warning

def Severity.number : Severity → Nat
  | .error => 1
  | .warning => 2

namespace Diagnostic

/-- The diagnostic of a finding; line zero counts as the first one. -/
def ofFinding (text : List (List Char)) (f : Finding) : Diagnostic where
  range := .ofLine text (f.line.toNat - 1)
  severity := .ofKind f.kind
  code := f.ruleName
  message := f.display

end Diagnostic

def Position.toJson (p : Position) : Json :=
  .object [("character", .natural p.character.toNat), ("line", .natural p.line.toNat)]

def Range.toJson (r : Range) : Json :=
  .object [("end", r.stop.toJson), ("start", r.start.toJson)]

def Diagnostic.toJson (d : Diagnostic) : Json :=
  .object [("code", .text d.code), ("message", .text d.message), ("range", d.range.toJson),
    ("severity", .natural d.severity.number), ("source", .text pluginName)]

end MarkupLint
