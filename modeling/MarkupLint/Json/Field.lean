import MarkupLint.Json.Reader

/-! Reading the named fields of a record and the names of variants. -/
namespace MarkupLint.Json.Reader

/-- The value of a field behind its key, unless the field was there before. -/
def fieldOnce (name : String) (seen : Option α) (one : Reader α) : Reader (Option α) := do
  if seen.isSome then mismatch (.duplicateField name)
  colon
  return some (← one)

def ignoredField : Reader Unit := do
  colon
  valueSkipped

def required (name : String) : Option α → Reader α
  | some a => return a
  | none => mismatch (.missingField name)

/-- The item of a field in a record written as an array; `before` items came before it. -/
def requiredItem (before : Nat) (expected : String) (one : Reader α) : Reader α := do
  match ← item? (before = 0) one with
  | some a => return a
  | none => mismatch (.wrongLength before expected)

def natural32 : Reader UInt32 := placed do
  match ← peekToken with
  | none => failAhead .endInValue
  | some c =>
    if c = '-' || c.isDigit then
      match ← number with
      | .integer n =>
        if 0 ≤ n ∧ n ≤ 0xFFFFFFFF then return UInt32.ofNat n.toNat
        else mismatch (.wrongValue (.integer n) "u32")
      | .real x => mismatch (.wrongType (.real x) "u32")
    else wrongTypeAt c "u32"

def variantOf (known : List (String × α)) (name : String) : Reader α :=
  match known.find? fun e => e.1 == name with
  | some e => return e.2
  | none => mismatch (.unknownVariant name (known.map Prod.fst))

/-- A variant: its name, or an object with the name as its key and null as its value. -/
def variant (depth : Nat) (known : List (String × α)) : Reader α := do
  match ← peekToken with
  | none => failAhead .endInValue
  | some '"' => placed do skip; variantOf known (← text)
  | some '{' =>
    if depth ≤ 1 then failAhead .tooDeep
    skip
    let a ← placed do variantOf known (← textFor "variant identifier")
    colon
    placed do
      match ← peekToken with
      | none => failAhead .endInValue
      | some 'n' => skip; word ['u', 'l', 'l']
      | some c => wrongTypeAt c "unit"
    match ← peekToken with
    | some '}' => skip; return a
    | some _ => failHere .expectedValue
    | none => failHere .endInObject
  | some _ => failAhead .expectedValue

end MarkupLint.Json.Reader
