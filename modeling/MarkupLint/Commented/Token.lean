import MarkupLint.Json.Literal
import MarkupLint.Text.Alphanumeric
import MarkupLint.Text.Blank

/-! Tokens of JSON with comments. Strings stand between quotes of either kind, words need none,
and comments count as blanks. -/
namespace MarkupLint.Commented

/-- A place in a text, both parts from one; columns count characters. -/
structure Place where
  line : Nat
  column : Nat
  deriving DecidableEq, Repr

def Place.start : Place := ⟨1, 1⟩

def Place.after (p : Place) (c : Char) : Place :=
  if c = '\n' then ⟨p.line + 1, 1⟩ else ⟨p.line, p.column + 1⟩

def Place.afterAll (p : Place) (cs : List Char) : Place := cs.foldl Place.after p

inductive Cause where
  | unexpectedToken
  | unterminatedComment
  | unterminatedString
  | invalidEscape
  | escapeInDoubleQuotes
  | escapeInSingleQuotes
  | expectedHexDigits
  | surrogate (digits : List Char) (fault : String)
  | expectedDigit
  | expectedDigitAfterSign
  | expectedExponent
  | severalValues
  | unterminatedArray
  | unterminatedObject
  | unexpectedInObject
  | expectedColon
  | expectedMemberValue
  | unexpectedCloseBracket
  | unexpectedCloseBrace
  | unexpectedColon
  | unexpectedComma
  | unexpectedWord
  deriving DecidableEq, Repr

def Cause.message : Cause → String
  | .unexpectedToken => "Unexpected token"
  | .unterminatedComment => "Unterminated comment block"
  | .unterminatedString => "Unterminated string literal"
  | .invalidEscape => "Invalid escape"
  | .escapeInDoubleQuotes => "Invalid escape in double quote string"
  | .escapeInSingleQuotes => "Invalid escape in single quote string"
  | .expectedHexDigits => "Expected four hex digits"
  | .surrogate digits fault =>
    "Invalid unicode escape sequence. '" ++ String.ofList digits ++ " (" ++ fault ++
      ")' is not a valid UTF8 character"
  | .expectedDigit => "Expected digit"
  | .expectedDigitAfterSign => "Expected digit following negative sign"
  | .expectedExponent => "Expected plus, minus, or digit in number literal"
  | .severalValues => "Text cannot contain more than one JSON value"
  | .unterminatedArray => "Unterminated array"
  | .unterminatedObject => "Unterminated object"
  | .unexpectedInObject => "Unexpected token in object"
  | .expectedColon => "Expected colon after the string or word in object property"
  | .expectedMemberValue => "Expected value after colon in object property"
  | .unexpectedCloseBracket => "Unexpected close bracket"
  | .unexpectedCloseBrace => "Unexpected close brace"
  | .unexpectedColon => "Unexpected colon"
  | .unexpectedComma => "Unexpected comma"
  | .unexpectedWord => "Unexpected word"

structure Fault where
  cause : Cause
  place : Place
  deriving DecidableEq, Repr

def Fault.message (f : Fault) : String :=
  f.cause.message ++ " on line " ++ toString f.place.line ++ " column " ++ toString f.place.column

inductive Token where
  | openBrace
  | closeBrace
  | openBracket
  | closeBracket
  | comma
  | colon
  | null
  | boolean (b : Bool)
  | text (s : List Char)
  | number (literal : List Char)
  | word (s : List Char)
  deriving DecidableEq, Repr

structure Rest where
  place : Place
  chars : List Char

def Rest.drop (r : Rest) (n : Nat) : Rest :=
  ⟨r.place.afterAll (r.chars.take n), r.chars.drop n⟩

def Rest.dropWhile (r : Rest) (p : Char → Bool) : Rest :=
  ⟨r.place.afterAll (r.chars.takeWhile p), r.chars.dropWhile p⟩

def afterBlock : List Char → Option (List Char)
  | '*' :: '/' :: rest => some rest
  | _ :: rest => afterBlock rest
  | [] => none

def Rest.dropTrivia (r : Rest) : Nat → Except Fault Rest
  | 0 => .ok r
  | fuel + 1 =>
    let r := r.dropWhile Text.isBlank
    match r.chars with
    | '/' :: '/' :: _ => (r.dropWhile (· ≠ '\n')).dropTrivia fuel
    | '/' :: '*' :: body =>
      match afterBlock body with
      | some rest => (r.drop (r.chars.length - rest.length)).dropTrivia fuel
      | none => .error ⟨.unterminatedComment, r.place⟩
    | _ => .ok r

/-- Four hexadecimal digits after an escape letter; `start` is the backslash. -/
def hexDigits (start : Place) (r : Rest) : Except Fault ((Nat × List Char) × Rest) :=
  let digits := r.chars.take 4
  match digits.mapM Json.Reader.hexValue? with
  | some [a, b, c, d] => .ok ((a * 4096 + b * 256 + c * 16 + d, digits), r.drop 4)
  | _ => .error ⟨.expectedHexDigits, start⟩

def unicodeEscape (start : Place) (r : Rest) : Except Fault (Char × Rest) := do
  let ((n, digits), r) ← hexDigits start r
  if 0xD800 ≤ n ∧ n ≤ 0xDBFF then
    match r.chars with
    | '\\' :: 'u' :: _ =>
      let ((m, _), r) ← hexDigits start (r.drop 2)
      if 0xDC00 ≤ m ∧ m ≤ 0xDFFF then
        .ok (Char.ofNat ((n - 0xD800) * 1024 + (m - 0xDC00) + 0x10000), r)
      else .error ⟨.surrogate digits "high surrogate not followed by low surrogate", start⟩
    | _ => .error ⟨.surrogate digits "unpaired high surrogate", start⟩
  else if 0xDC00 ≤ n ∧ n ≤ 0xDFFF then
    .error ⟨.surrogate digits "unpaired low surrogate", start⟩
  else .ok (Char.ofNat n, r)

/-- The character of an escape; `r` stands at the backslash and `c` follows it. -/
def escape (quote c : Char) (r : Rest) : Except Fault (Char × Rest) :=
  let after := r.drop 2
  match c with
  | '"' => if quote = '"' then .ok ('"', after) else .error ⟨.escapeInSingleQuotes, r.place⟩
  | '\'' => if quote = '\'' then .ok ('\'', after) else .error ⟨.escapeInDoubleQuotes, r.place⟩
  | '\\' => .ok ('\\', after)
  | '/' => .ok ('/', after)
  | 'b' => .ok ('\x08', after)
  | 'f' => .ok ('\x0c', after)
  | 'n' => .ok ('\n', after)
  | 'r' => .ok ('\r', after)
  | 't' => .ok ('\t', after)
  | 'u' => unicodeEscape r.place after
  | _ => .error ⟨.invalidEscape, r.place⟩

def textTail (start : Place) (quote : Char) (read : List Char) (r : Rest) :
    Nat → Except Fault (List Char × Rest)
  | 0 => .error ⟨.unterminatedString, start⟩
  | fuel + 1 =>
    match r.chars with
    | [] => .error ⟨.unterminatedString, start⟩
    | ['\\'] => .error ⟨.unterminatedString, start⟩
    | '\\' :: c :: _ => do
      let (d, r) ← escape quote c r
      textTail start quote (d :: read) r fuel
    | c :: _ =>
      if c = quote then .ok (read.reverse, r.drop 1)
      else textTail start quote (c :: read) (r.drop 1) fuel

def someDigits (isDigit : Char → Bool) (cause : Cause) (r : Rest) : Except Fault Rest :=
  match r.chars with
  | c :: _ => if isDigit c then .ok (r.dropWhile isDigit) else .error ⟨cause, r.place⟩
  | [] => .error ⟨cause, r.place⟩

def isSign (c : Char) : Bool := c = '-' || c = '+'

def dropSign (r : Rest) : Rest :=
  match r.chars with
  | c :: _ => if isSign c then r.drop 1 else r
  | [] => r

def isHexDigit (c : Char) : Bool := (Json.Reader.hexValue? c).isSome

def numberTail (r : Rest) : Except Fault Rest := do
  let r ←
    match r.chars with
    | '.' :: _ => someDigits Char.isDigit .expectedDigit (r.drop 1)
    | _ => .ok r
  match r.chars with
  | 'e' :: c :: _ | 'E' :: c :: _ =>
    if isSign c then someDigits Char.isDigit .expectedDigit (r.drop 2)
    else someDigits Char.isDigit .expectedExponent (r.drop 1)
  | ['e'] | ['E'] => .error ⟨.expectedExponent, (r.drop 1).place⟩
  | _ => .ok r

/-- Past a number: a sign, then hexadecimal digits after `0x`, or a decimal number in which a zero
stands alone before the point. -/
def numberEnd (r : Rest) : Except Fault Rest :=
  let r := dropSign r
  match r.chars with
  | '0' :: 'x' :: _ | '0' :: 'X' :: _ => someDigits isHexDigit .expectedDigit (r.drop 2)
  | '0' :: _ => numberTail (r.drop 1)
  | _ => do numberTail (← someDigits Char.isDigit .expectedDigitAfterSign r)

/-- The rest behind a word, if the text starts with it and no alphanumeric follows. -/
def Rest.dropWord? (r : Rest) (word : List Char) : Option Rest :=
  if r.chars.take word.length = word then
    match r.chars.drop word.length with
    | c :: _ => if Text.isAlphanumeric c then none else some (r.drop word.length)
    | [] => some (r.drop word.length)
  else none

def endsWord (c : Char) : Bool := Text.isBlank c || c = ':'

def inWord (c : Char) : Bool := Text.isAlphanumeric c || c = '-' || c = '_'

/-- A word runs up to a blank or a colon and holds nothing but word characters. -/
def word (r : Rest) : Except Fault (Token × Rest) :=
  let s := r.chars.takeWhile fun c => !endsWord c
  if s.isEmpty || !s.all inWord then .error ⟨.unexpectedToken, r.place⟩
  else .ok (.word s, r.drop s.length)

/-- The token at a character that is neither blank nor in a comment. -/
def token (c : Char) (r : Rest) : Except Fault (Token × Rest) :=
  match c with
  | '{' => .ok (.openBrace, r.drop 1)
  | '}' => .ok (.closeBrace, r.drop 1)
  | '[' => .ok (.openBracket, r.drop 1)
  | ']' => .ok (.closeBracket, r.drop 1)
  | ',' => .ok (.comma, r.drop 1)
  | ':' => .ok (.colon, r.drop 1)
  | '"' => do
    let (s, rest) ← textTail r.place '"' [] (r.drop 1) (r.chars.length + 1)
    .ok (.text s, rest)
  | '\'' => do
    let (s, rest) ← textTail r.place '\'' [] (r.drop 1) (r.chars.length + 1)
    .ok (.text s, rest)
  | '/' => .error ⟨.unexpectedToken, r.place⟩
  | c =>
    if isSign c || c.isDigit then do
      let rest ← numberEnd r
      .ok (.number (r.chars.take (r.chars.length - rest.chars.length)), rest)
    else match r.dropWord? ['t', 'r', 'u', 'e'] with
      | some rest => .ok (.boolean true, rest)
      | none => match r.dropWord? ['f', 'a', 'l', 's', 'e'] with
        | some rest => .ok (.boolean false, rest)
        | none => match r.dropWord? ['n', 'u', 'l', 'l'] with
          | some rest => .ok (.null, rest)
          | none => word r

/-- A token with its place, the end of the text, or what stops scanning there. -/
inductive Scanned where
  | token (t : Token) (place : Place)
  | done (place : Place)
  | fault (f : Fault)
  deriving DecidableEq, Repr

def scanFrom (r : Rest) : Nat → List Scanned
  | 0 => [.done r.place]
  | fuel + 1 =>
    match r.dropTrivia (r.chars.length + 1) with
    | .error f => [.fault f]
    | .ok r =>
      match r.chars with
      | [] => [.done r.place]
      | c :: _ =>
        match token c r with
        | .error f => [.fault f]
        | .ok (t, rest) => .token t r.place :: scanFrom rest fuel

def scan (cs : List Char) : List Scanned := scanFrom ⟨Place.start, cs⟩ (cs.length + 1)

end MarkupLint.Commented
