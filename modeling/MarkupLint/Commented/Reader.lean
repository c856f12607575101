import MarkupLint.Commented.Token

/-! Reading a JSON value with comments. Commas between items and members may be left out or
follow the last one; keys need no quotes. -/
namespace MarkupLint.Commented

open MarkupLint.Json (Reader)

/-- The value of a hexadecimal literal after its sign and `0x`, if it is less than `2 ^ 63`. -/
def hexLiteral? (digits : List Char) : Option Nat := do
  let values ← digits.mapM Json.Reader.hexValue?
  let n := values.foldl (fun acc d => acc * 16 + d) 0
  if n < 0x8000000000000000 then some n else none

def numberValue (literal : List Char) : Json :=
  let unsigned := if literal.head?.any isSign then literal.drop 1 else literal
  let negative := literal.head? = some '-'
  let number? : Option Json.Number :=
    match unsigned with
    | '0' :: 'x' :: digits | '0' :: 'X' :: digits =>
      (hexLiteral? digits).map fun n => .integer (if negative then -(n : Int) else n)
    | _ =>
      let decimal := if negative then literal else unsigned
      (Reader.run Json.Reader.number decimal).toOption
  match number? with
  | some n => .number n
  | none => .text (String.ofList literal)

def nextPlace : List Scanned → Place
  | .token _ p :: _ => p
  | .done p :: _ => p
  | .fault f :: _ => f.place
  | [] => Place.start

/-- Fails at what comes next, unless scanning failed there already. -/
def failAt (cause : Cause) : List Scanned → Except Fault α
  | .fault f :: _ => .error f
  | ts => .error ⟨cause, nextPlace ts⟩

def dropComma : List Scanned → List Scanned
  | .token .comma _ :: rest => rest
  | ts => ts

def Token.key? : Token → Option (List Char)
  | .text s => some s
  | .word s => some s
  | .number s => some s
  | _ => none

mutual

def value : Nat → List Scanned → Except Fault (Json × List Scanned)
  | 0, ts => failAt .unexpectedToken ts
  | fuel + 1, ts =>
    match ts with
    | .token .openBrace p :: rest => do
      let (members, rest) ← membersFrom fuel p rest
      .ok (.ofMembers members, rest)
    | .token .openBracket p :: rest => do
      let (items, rest) ← itemsFrom fuel p rest
      .ok (.array items, rest)
    | .token (.text s) _ :: rest => .ok (.text (String.ofList s), rest)
    | .token (.number s) _ :: rest => .ok (numberValue s, rest)
    | .token (.boolean b) _ :: rest => .ok (.boolean b, rest)
    | .token .null _ :: rest => .ok (.null, rest)
    | .token .closeBracket p :: _ => .error ⟨.unexpectedCloseBracket, p⟩
    | .token .closeBrace p :: _ => .error ⟨.unexpectedCloseBrace, p⟩
    | .token .comma p :: _ => .error ⟨.unexpectedComma, p⟩
    | .token .colon p :: _ => .error ⟨.unexpectedColon, p⟩
    | .token (.word _) p :: _ => .error ⟨.unexpectedWord, p⟩
    | ts => failAt .expectedMemberValue ts

def itemsFrom : Nat → Place → List Scanned → Except Fault (List Json × List Scanned)
  | 0, _, ts => failAt .unexpectedToken ts
  | fuel + 1, start, ts =>
    match ts with
    | .token .closeBracket _ :: rest => .ok ([], rest)
    | .done _ :: _ => .error ⟨.unterminatedArray, start⟩
    | ts => do
      let (v, rest) ← value fuel ts
      let (vs, rest) ← itemsFrom fuel start (dropComma rest)
      .ok (v :: vs, rest)

/-- The members up to the closing brace of an object opened at `start`. -/
def membersFrom : Nat → Place → List Scanned → Except Fault (List (String × Json) × List Scanned)
  | 0, _, ts => failAt .unexpectedToken ts
  | fuel + 1, start, ts =>
    match ts with
    | .token .closeBrace _ :: rest => .ok ([], rest)
    | .done _ :: _ => .error ⟨.unterminatedObject, start⟩
    | .token t p :: rest =>
      match t.key? with
      | none => .error ⟨.unexpectedInObject, p⟩
      | some key =>
        match rest with
        | .token .colon _ :: rest => do
          let (v, rest) ← value fuel rest
          let (members, rest) ← membersFrom fuel start (dropComma rest)
          .ok ((String.ofList key, v) :: members, rest)
        | rest => failAt .expectedColon rest
    | ts => failAt .unexpectedInObject ts

end

/-- The value of a text; none where it holds blanks and comments only. -/
def parse (s : String) : Except Fault (Option Json) :=
  let ts := scan s.toList
  match ts with
  | .done _ :: _ => .ok none
  | ts => do
    match ← value (2 * ts.length) ts with
    | (v, .done _ :: _) => .ok (some v)
    | (_, rest) => failAt .severalValues rest

end MarkupLint.Commented
