import MarkupLint.Json.Literal

/-! Reading JSON values, whole or member by member. The second argument of most readers is the
nesting that is still allowed. -/
namespace MarkupLint.Json

def depthLimit : Nat := 128

/-- An object whose first key this is stands for the document written in the text of that member. -/
def embeddedKey : String := "$serde_json::private::RawValue"

namespace Reader

def listEnd : Reader Unit := do
  match ← peekToken with
  | some ']' => skip
  | some ',' =>
    skip
    match ← peekToken with
    | some ']' => failAhead .trailingComma
    | _ => failAhead .trailingCharacters
  | some _ => failAhead .trailingCharacters
  | none => failAhead .endInList

def objectEnd : Reader Unit := do
  match ← peekToken with
  | some '}' => skip
  | some ',' => failAhead .trailingComma
  | some _ => failAhead .trailingCharacters
  | none => failAhead .endInObject

/-- Reads between an opening bracket and its end. The end is read even when the body fails, and the
body's fault comes first. -/
def enclosed (depth : Nat) (body : Nat → Reader α) (ending : Reader Unit) : Reader α := do
  match depth with
  | 0 | 1 => failAhead .tooDeep
  | inner + 2 =>
    skip
    let outcome ← attempt (body (inner + 1))
    let closing ← attempt ending
    match outcome, closing with
    | .ok a, .ok () => return a
    | .error f, _ => throw f
    | _, .error f => throw f

def inList (depth : Nat) (body : Nat → Reader α) : Reader α := enclosed depth body listEnd

def inObject (depth : Nat) (body : Nat → Reader α) : Reader α := enclosed depth body objectEnd

def hasItem (first : Bool) : Reader Bool := do
  match ← peekToken with
  | some ']' => return false
  | some c =>
    if first then return true
    else if c = ',' then
      skip
      match ← peekToken with
      | some ']' => failAhead .trailingComma
      | some _ => return true
      | none => failAhead .endInValue
    else failAhead .expectedListEnd
  | none => failAhead .endInList

def hasMember (first : Bool) : Reader Bool := do
  match ← peekToken with
  | some '}' => return false
  | some c =>
    if first then
      if c = '"' then return true else failAhead .keyNotText
    else if c = ',' then
      skip
      match ← peekToken with
      | some '"' => return true
      | some '}' => failAhead .trailingComma
      | some _ => failAhead .keyNotText
      | none => failAhead .endInValue
    else failAhead .expectedObjectEnd
  | none => failAhead .endInObject

def colon : Reader Unit := do
  match ← peekToken with
  | some ':' => skip
  | some _ => failAhead .expectedColon
  | none => failAhead .endInObject

def item? (first : Bool) (one : Reader α) : Reader (Option α) := do
  if ← hasItem first then return some (← one) else return none

def itemsFrom (one : Reader α) (first : Bool) : Nat → Reader (List α)
  | 0 => return []
  | fuel + 1 => do
    match ← item? first one with
    | none => return []
    | some a => return a :: (← itemsFrom one false fuel)

def items (one : Reader α) : Reader (List α) := do itemsFrom one true ((← remaining) + 1)

def membersFrom (one : String → σ → Reader σ) (s : σ) (first : Bool) : Nat → Reader σ
  | 0 => return s
  | fuel + 1 => do
    if ← hasMember first then
      skip
      let key ← text
      membersFrom one (← one key s) false fuel
    else return s

/-- Folds over the members of an object. `one` starts behind the key, before the colon. -/
def members (s : σ) (one : String → σ → Reader σ) : Reader σ := do
  membersFrom one s true ((← remaining) + 1)

/-- The value that starts with `c`, for a complaint about it. Scalars are read, brackets are not. -/
def foundAt (c : Char) : Reader Found := do
  match c with
  | 'n' => skip; word ['u', 'l', 'l']; return .null
  | 't' => skip; word ['r', 'u', 'e']; return .boolean true
  | 'f' => skip; word ['a', 'l', 's', 'e']; return .boolean false
  | '"' => skip; return .text (← text)
  | '[' => return .sequence
  | '{' => return .map
  | c =>
    if c = '-' || c.isDigit then return .ofNumber (← number)
    else failAhead .expectedValue

def wrongTypeAt (c : Char) (expected : String) : Reader α := do
  let f ← foundAt c
  mismatch (.wrongType f expected)

def textFor (expected : String) : Reader String := placed do
  match ← peekToken with
  | none => failAhead .endInValue
  | some '"' => skip; text
  | some c => wrongTypeAt c expected

def textValue : Reader String := textFor "a string"

def listValue (depth : Nat) (expected : String) (body : Nat → Reader α) : Reader α := placed do
  match ← peekToken with
  | none => failAhead .endInValue
  | some '[' => inList depth body
  | some c => wrongTypeAt c expected

def mapValue (depth : Nat) (body : Nat → Reader α) : Reader α := placed do
  match ← peekToken with
  | none => failAhead .endInValue
  | some '{' => inObject depth body
  | some c => wrongTypeAt c "a map"

/-- A value with named fields: an object, or an array of the fields in order. -/
def recordValue (depth : Nat) (expected : String) (asList asObject : Nat → Reader α) :
    Reader α := placed do
  match ← peekToken with
  | none => failAhead .endInValue
  | some '[' => inList depth asList
  | some '{' => inObject depth asObject
  | some c => wrongTypeAt c expected

/-- A value of any kind. Members keep their order; `embedded` reads the text of an embedded
document. -/
def value (embedded : Option (String → Except Fault Json)) : Nat → Reader Json
  | 0 => failAhead .tooDeep
  | depth + 1 => placed do
    match ← peekToken with
    | none => failAhead .endInValue
    | some 'n' => skip; word ['u', 'l', 'l']; return .null
    | some 't' => skip; word ['r', 'u', 'e']; return .boolean true
    | some 'f' => skip; word ['a', 'l', 's', 'e']; return .boolean false
    | some '"' => skip; return .text (← text)
    | some '[' =>
      inList (depth + 1) fun _ => return .array (← items (value embedded depth))
    | some '{' =>
      inObject (depth + 1) fun _ => do
        let member (key : String) (read : List (String × Json)) : Reader (List (String × Json)) :=
          do colon; return (key, ← value embedded depth) :: read
        match embedded with
        | none => return .object (← members [] member).reverse
        | some parse =>
          if ← hasMember true then
            skip
            let key ← text
            if key = embeddedKey then
              colon
              match parse (← textFor "raw value") with
              | .ok v => return v
              | .error f => throw f
            else
              let read ← member key []
              return .ofMembers
                (← membersFrom member read false ((← remaining) + 1)).reverse
          else return .emptyObject
    | some c =>
      if c = '-' || c.isDigit then return .number (← number) else failAhead .expectedValue

inductive Bracket where
  | list
  | object
  deriving DecidableEq, Repr

/-- What is skipped next: a value, or what follows it in the innermost open bracket. A comma may
follow an item, not a bracket just opened. -/
inductive Skipping where
  | value (opened : List Bracket)
  | after (comma : Bool) (bracket : Bracket) (opened : List Bracket)

def Skipping.done : List Bracket → Option Skipping
  | [] => none
  | b :: opened => some (.after true b opened)

def digitsSkipped : Reader Bool := return !(← digits).isEmpty

def exponentSkipped : Reader Unit := do
  let _ ← sign
  if !(← digitsSkipped) then failAhead .invalidNumber

/-- A number of no interest: its form counts, its size does not. -/
def numberSkipped : Reader Unit := do
  match ← peek with
  | some '0' =>
    skip
    match ← peek with
    | some c => if c.isDigit then failAhead .invalidNumber
    | none => return ()
  | _ => if !(← digitsSkipped) then failAhead .invalidNumber
  match ← peek with
  | some '.' =>
    skip
    if !(← digitsSkipped) then failAhead .invalidNumber
    match ← peek with
    | some c => if isExponentLetter c then do skip; exponentSkipped
    | none => return ()
  | some c => if isExponentLetter c then do skip; exponentSkipped
  | none => return ()

/-- A string of no interest, after its opening quote: surrogates need no partner. -/
def textSkipped : Nat → Reader Unit
  | 0 => failHere .endInText
  | fuel + 1 => do
    match ← peek with
    | none => failHere .endInText
    | some '"' => skip
    | some '\\' =>
      skip
      match ← peek with
      | none => failHere .endInText
      | some 'u' => skip; let _ ← hexEscape
      | some c => if (simpleEscape? c).isSome then skip else failAhead .invalidEscape
      textSkipped fuel
    | some c => if c.toNat < 0x20 then failHere .controlCharacter else do skip; textSkipped fuel

/-- The key of a member in an object of no interest, up to its value. -/
def keySkipped : Reader Unit := do
  match ← peekToken with
  | some '"' => skip; textSkipped ((← remaining) + 1)
  | some _ => failAhead .keyNotText
  | none => failAhead .endInObject
  match ← peekToken with
  | some ':' => skip
  | some _ => failAhead .expectedColon
  | none => failAhead .endInObject

def entrySkipped (bracket : Bracket) (opened : List Bracket) : Reader (Option Skipping) := do
  if bracket = .object then keySkipped
  return some (.value (bracket :: opened))

def skipStep : Skipping → Reader (Option Skipping)
  | .value opened => do
    match ← peekToken with
    | none => failAhead .endInValue
    | some 'n' => skip; word ['u', 'l', 'l']; return Skipping.done opened
    | some 't' => skip; word ['r', 'u', 'e']; return Skipping.done opened
    | some 'f' => skip; word ['a', 'l', 's', 'e']; return Skipping.done opened
    | some '-' => skip; numberSkipped; return Skipping.done opened
    | some '"' => skip; textSkipped ((← remaining) + 1); return Skipping.done opened
    | some '[' => skip; return some (.after false .list opened)
    | some '{' => skip; return some (.after false .object opened)
    | some c => if c.isDigit then do numberSkipped; return Skipping.done opened else failAhead .expectedValue
  | .after comma bracket opened => do
    match ← peekToken, bracket with
    | some ']', .list => skip; return Skipping.done opened
    | some '}', .object => skip; return Skipping.done opened
    | some c, _ =>
      if comma then
        if c = ',' then do skip; entrySkipped bracket opened
        else match bracket with
          | .list => failAhead .expectedListEnd
          | .object => failAhead .expectedObjectEnd
      else entrySkipped bracket opened
    | none, .list => failAhead .endInList
    | none, .object => failAhead .endInObject

def skipFrom (s : Skipping) : Nat → Reader Unit
  | 0 => return ()
  | fuel + 1 => do
    match ← skipStep s with
    | none => return ()
    | some next => skipFrom next fuel

/-- A value of no interest, of any depth. -/
def valueSkipped : Reader Unit := placed do
  skipFrom (.value []) (2 * (← remaining) + 2)

end Reader

/-- Reads a document; `levels` bounds how deep documents are embedded in texts of documents. -/
def parseNested : Nat → String → Except Fault Json
  | 0, _ => .error ⟨.endInValue, none⟩
  | levels + 1, s => Reader.run (Reader.value (some (parseNested levels)) depthLimit) s.toList

/-- Reads a document. An embedded document is shorter than the text that holds it, so the length
bounds the levels. -/
def parse (s : String) : Except Fault Json := parseNested (s.length + 1) s

end MarkupLint.Json
