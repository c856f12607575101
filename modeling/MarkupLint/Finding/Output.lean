import MarkupLint.Finding.Basic
import MarkupLint.Json.Field
import MarkupLint.LintError
import MarkupLint.Text.Blank

/-! The linter's output: blank, or one JSON array of findings. It is read all or nothing. -/
namespace MarkupLint.Finding

open Json (Reader)
open Json.Reader

structure Location where
  line : UInt32
  column : UInt32

structure PartialLocation where
  line : Option UInt32
  column : Option UInt32

def Location.read (depth : Nat) : Reader Location :=
  recordValue depth "struct Location"
    (fun _ => do
      let line ← requiredItem 0 "struct Location with 2 elements" natural32
      let column ← requiredItem 1 "struct Location with 2 elements" natural32
      return ⟨line, column⟩)
    (fun _ => do
      let read ← members (PartialLocation.mk none none) fun name p =>
        match name with
        | "line" => do return { p with line := ← fieldOnce name p.line natural32 }
        | "col" => do return { p with column := ← fieldOnce name p.column natural32 }
        | _ => do ignoredField; return p
      return ⟨← required "line" read.line, ← required "col" read.column⟩)

/-- Of the node that a finding is attached to, only the location counts. -/
def readNode (depth : Nat) : Reader Location :=
  recordValue depth "struct FindingNode"
    (fun inner => requiredItem 0 "struct FindingNode with 1 element" (Location.read inner))
    (fun inner => do
      let read ← members none fun name p =>
        match name with
        | "location" => fieldOnce name p (Location.read inner)
        | _ => do ignoredField; return p
      required "location" read)

structure PartialFinding where
  ruleName : Option String
  kind : Option Kind
  message : Option String
  node : Option Location

def read (depth : Nat) : Reader Finding :=
  recordValue depth "struct Finding"
    (fun inner => do
      let expected := "struct Finding with 4 elements"
      let ruleName ← requiredItem 0 expected textValue
      let kind ← requiredItem 1 expected (variant inner Kind.names)
      let message ← requiredItem 2 expected textValue
      let node ← requiredItem 3 expected (readNode inner)
      return ⟨ruleName, kind, message, node.line, node.column⟩)
    (fun inner => do
      let read ← members (PartialFinding.mk none none none none) fun name p =>
        match name with
        | "ruleName" => do return { p with ruleName := ← fieldOnce name p.ruleName textValue }
        | "type" => do return { p with kind := ← fieldOnce name p.kind (variant inner Kind.names) }
        | "message" => do return { p with message := ← fieldOnce name p.message textValue }
        | "node" => do return { p with node := ← fieldOnce name p.node (readNode inner) }
        | _ => do ignoredField; return p
      let ruleName ← required "ruleName" read.ruleName
      let kind ← required "type" read.kind
      let message ← required "message" read.message
      let node ← required "node" read.node
      return ⟨ruleName, kind, message, node.line, node.column⟩)

def readAll (depth : Nat) : Reader (List Finding) :=
  listValue depth "a sequence" fun inner => items (Finding.read inner)

/-- The findings in the linter's output. -/
def ofOutput (output : List Char) : Except LintError (List Finding) :=
  match Text.trim output with
  | [] => .ok []
  | cs =>
    match Reader.run (readAll Json.depthLimit) cs with
    | .ok findings => .ok findings
    | .error f => .error (.output f.message)

def listJson (findings : List Finding) : Json := .array (findings.map toJson)

end MarkupLint.Finding
