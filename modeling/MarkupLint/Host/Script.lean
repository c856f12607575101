import MarkupLint.Host.Tool

/-! Shell scripts: lists of pipelines of commands, read from text. A substitution keeps the text of
the script in it, which is read when it is run. -/
namespace MarkupLint.Host

inductive Piece where
  | text (content : Bytes) (quoted : Bool)
  | variable (name : Bytes) (quoted : Bool)
  | command (script : Bytes) (quoted : Bool)
  deriving Repr

abbrev ScriptWord := List Piece

inductive Redirect where
  /-- Output of a stream to a file. -/
  | toFile (stream : Nat) (file : ScriptWord)
  /-- Output of a stream to where another one goes. -/
  | toStream (stream target : Nat)
  | fromFile (file : ScriptWord)
  /-- Input from the text of the script. -/
  | fromText (text : ScriptWord)
  deriving Repr

structure Command where
  line : Nat
  assignments : List (Bytes × ScriptWord)
  words : List ScriptWord
  redirects : List Redirect
  deriving Repr

structure Pipeline where
  negated : Bool
  commands : List Command
  deriving Repr

inductive Link where
  | always
  | afterSuccess
  | afterFailure
  deriving DecidableEq, Repr

abbrev Script := List (Link × Pipeline)

inductive ScriptFault where
  | unterminated (line : Nat)
  | unexpected (line : Nat) (token : String)
  deriving Repr

def ScriptFault.line : ScriptFault → Nat
  | .unterminated line => line
  | .unexpected line _ => line

def ScriptFault.message : ScriptFault → String
  | .unterminated _ => "Syntax error: Unterminated quoted string"
  | .unexpected _ token => "Syntax error: " ++ token ++ " unexpected"

namespace Script

inductive Token where
  | word (w : ScriptWord)
  | operator (text : String)
  | redirect (stream : Nat) (operator : String)
  | hereText (text : ScriptWord)
  | lineFeed
  deriving Repr

def isNameStart (b : UInt8) : Bool :=
  (0x41 ≤ b && b ≤ 0x5A) || (0x61 ≤ b && b ≤ 0x7A) || b = 0x5F

def isNameByte (b : UInt8) : Bool := isNameStart b || isDigitByte b

/-- The text up to the parenthesis that closes a substitution, and what follows it. `quote` is the
quotation mark that is open, or zero. -/
def untilClosing (depth : Nat) (quote : UInt8) : Bytes → Option (Bytes × Bytes)
  | [] => none
  | 0x5C :: b :: rest =>
    if quote = 0x27 then (untilClosing depth (if b = 0x27 then 0 else quote) rest).map fun (t, r) =>
      (0x5C :: b :: t, r)
    else (untilClosing depth quote rest).map fun (t, r) => (0x5C :: b :: t, r)
  | b :: rest =>
    if quote ≠ 0 then
      (untilClosing depth (if b = quote then 0 else quote) rest).map fun (t, r) => (b :: t, r)
    else if b = 0x27 || b = 0x22 then
      (untilClosing depth b rest).map fun (t, r) => (b :: t, r)
    else if b = 0x28 then (untilClosing (depth + 1) 0 rest).map fun (t, r) => (b :: t, r)
    else if b = 0x29 then
      if depth = 0 then some ([], rest)
      else (untilClosing (depth - 1) 0 rest).map fun (t, r) => (b :: t, r)
    else (untilClosing depth 0 rest).map fun (t, r) => (b :: t, r)

def expansion (quoted : Bool) (rest : Bytes) : Option (Piece × Bytes) :=
  match rest with
  | [] => some (.text [0x24] quoted, [])
  | b :: after =>
    if b = 0x28 then (untilClosing 0 0 after).map fun (t, r) => (.command t quoted, r)
    else if b = 0x7B then
      let name := after.takeWhile (· ≠ 0x7D)
      some (.variable name quoted, after.drop (name.length + 1))
    else if isNameStart b then
      let name := rest.takeWhile isNameByte
      some (.variable name quoted, rest.drop name.length)
    else if isDigitByte b || (bytes "?$#@*").contains b then some (.variable [b] quoted, after)
    else some (.text [0x24] quoted, rest)

def doubleQuoted : Nat → Bytes → Option (ScriptWord × Bytes)
  | 0, _ => none
  | fuel + 1, s =>
    let more (p : Piece) (rest : Bytes) : Option (ScriptWord × Bytes) :=
      (doubleQuoted fuel rest).map fun (w, r) => (p :: w, r)
    match s with
    | [] => none
    | 0x22 :: rest => some ([.text [] true], rest)
    | 0x5C :: b :: rest =>
      if b = 0x0A then more (.text [] true) rest
      else if b = 0x24 || b = 0x60 || b = 0x22 || b = 0x5C then more (.text [b] true) rest
      else more (.text [0x5C, b] true) rest
    | 0x24 :: rest => do
      let (p, rest) ← expansion true rest
      more p rest
    | b :: rest => more (.text [b] true) rest

def endsWord (b : UInt8) : Bool :=
  b = 0x20 || b = 0x09 || (bytes "\n;&|<>()").contains b

def word : Nat → Bytes → Option (ScriptWord × Bytes)
  | 0, _ => none
  | fuel + 1, s =>
    let more (ps : ScriptWord) (rest : Bytes) : Option (ScriptWord × Bytes) :=
      (word fuel rest).map fun (w, r) => (ps ++ w, r)
    match s with
    | [] => some ([], [])
    | 0x27 :: rest =>
      let quoted := rest.takeWhile (· ≠ 0x27)
      if quoted.length = rest.length then none
      else more [.text quoted true] (rest.drop (quoted.length + 1))
    | 0x22 :: rest => do
      let (ps, rest) ← doubleQuoted (rest.length + 1) rest
      more ps rest
    | 0x5C :: 0x0A :: rest => more [] rest
    | 0x5C :: b :: rest => more [.text [b] true] rest
    | 0x24 :: rest => do
      let (p, rest) ← expansion false rest
      more [p] rest
    | b :: rest => if endsWord b then some ([], s) else more [.text [b] false] rest

def hereText : Nat → Bytes → ScriptWord
  | 0, _ => []
  | fuel + 1, s =>
    match s with
    | [] => []
    | 0x5C :: b :: rest =>
      if b = 0x24 || b = 0x5C || b = 0x60 then .text [b] true :: hereText fuel rest
      else .text [0x5C, b] true :: hereText fuel rest
    | 0x24 :: rest =>
      match expansion true rest with
      | some (p, rest) => p :: hereText fuel rest
      | none => .text [0x24] true :: hereText fuel rest
    | b :: rest => .text [b] true :: hereText fuel rest

def delimiterOf (w : ScriptWord) : Bytes × Bool :=
  w.foldl
    (fun (content, quoted) p =>
      match p with
      | .text t q => (content ++ t, quoted || q)
      | .variable n q => (content ++ 0x24 :: n, quoted || q)
      | .command _ q => (content, quoted || q))
    ([], false)

def hereLines (delimiter : Bytes) : Nat → Bytes → Bytes × Nat × Bytes
  | 0, s => ([], 0, s)
  | _, [] => ([], 0, [])
  | fuel + 1, s =>
    let line := s.takeWhile (· ≠ 0x0A)
    let rest := s.drop (line.length + 1)
    if line = delimiter then ([], 1, rest)
    else
      let (text, n, rest') := hereLines delimiter fuel rest
      (line ++ 0x0A :: text, n + 1, rest')

def hereTexts (s : Bytes) : List (Bytes × Bool) → List ScriptWord × Nat × Bytes
  | [] => ([], 0, s)
  | (delimiter, quoted) :: others =>
    let (text, n, rest) := hereLines delimiter (s.length + 1) s
    let w : ScriptWord := if quoted then [.text text true] else hereText (text.length + 1) text
    let (ws, m, rest) := hereTexts rest others
    (w :: ws, n + m, rest)

def fillHere : List (Nat × Token) → List ScriptWord → List (Nat × Token)
  | [], _ => []
  | (n, .hereText _) :: ts, w :: ws => (n, .hereText w) :: fillHere ts ws
  | t :: ts, ws => t :: fillHere ts ws

def operators : List String := ["&&", "||", ";;", ";", "&", "|", "(", ")"]

def startsWith (s : Bytes) (text : String) : Bool := (bytes text).isPrefixOf s

def redirectOf (s : Bytes) : Option (Nat × String × Bytes) :=
  let (stream, rest) :=
    match s with
    | b :: rest => if isDigitByte b then (some (b.toNat - 0x30), rest) else (none, s)
    | [] => (none, s)
  let found := [">>", ">&", ">|", ">", "<<", "<&", "<"].find? (startsWith rest)
  found.map fun op =>
    (stream.getD (if op.startsWith "<" then 0 else 1), op, rest.drop op.length)

def skipBlanks (s : Bytes) : Bytes := s.dropWhile fun b => b = 0x20 || b = 0x09

/-- The tokens of a text, each with its line. Tokens of the current line are held back until the
texts it asks for are read. -/
def tokens (line : Nat) (held : List (Nat × Token)) (wanted : List (Bytes × Bool)) :
    Nat → Bytes → Except ScriptFault (List (Nat × Token))
  | 0, _ => .ok held
  | fuel + 1, s =>
    match skipBlanks s with
    | [] => .ok (fillHere held ((hereTexts [] wanted).1))
    | 0x0A :: rest => do
      let (texts, n, rest) := hereTexts rest wanted
      let others ← tokens (line + 1 + n) [] [] fuel rest
      return fillHere held texts ++ (line, .lineFeed) :: others
    | 0x5C :: 0x0A :: rest => tokens (line + 1) held wanted fuel rest
    | 0x23 :: rest => tokens line held wanted fuel (rest.dropWhile (· ≠ 0x0A))
    | s =>
      match redirectOf s with
      | some (stream, op, rest) =>
        if op = "<<" then
          match word (rest.length + 1) (skipBlanks rest) with
          | none => .error (.unterminated line)
          | some (w, rest) =>
            tokens line (held ++ [(line, .redirect 0 op), (line, .hereText [])])
              (wanted ++ [delimiterOf w]) fuel rest
        else tokens line (held ++ [(line, .redirect stream op)]) wanted fuel rest
      | none =>
        match operators.find? (startsWith s) with
        | some op =>
          tokens line (held ++ [(line, .operator op)]) wanted fuel (s.drop op.length)
        | none =>
          match word (s.length + 1) s with
          | none => .error (.unterminated line)
          | some (w, rest) =>
            let feeds := ((s.take (s.length - rest.length)).filter (· = 0x0A)).length
            tokens (line + feeds) (held ++ [(line, .word w)]) wanted fuel rest

def assignment? (w : ScriptWord) : Option (Bytes × ScriptWord) :=
  let bare := w.takeWhile fun p => match p with
    | .text [b] false => b ≠ 0x3D
    | _ => false
  let name := bare.flatMap fun p => match p with
    | .text t _ => t
    | _ => []
  match name, w.drop bare.length with
  | b :: others, .text [0x3D] false :: value =>
    if isNameStart b && others.all isNameByte then some (name, value) else none
  | _, _ => none

def isNegation (w : ScriptWord) : Bool :=
  match w with
  | [.text [0x21] false] => true
  | _ => false

end Script

def Command.addWord (c : Command) (w : ScriptWord) : Command :=
  match c.words, Script.assignment? w with
  | [], some a => { c with assignments := c.assignments ++ [a] }
  | _, _ => { c with words := c.words ++ [w] }

def Command.isEmpty (c : Command) : Bool :=
  c.words.isEmpty && c.assignments.isEmpty && c.redirects.isEmpty

namespace Script

def redirectTo (stream : Nat) (op : String) (w : ScriptWord) : Redirect :=
  if op = "<" then .fromFile w
  else if op = ">&" then
    match delimiterOf w with
    | ([b], _) => if isDigitByte b then .toStream stream (b.toNat - 0x30) else .toFile stream w
    | _ => .toFile stream w
  else .toFile stream w

def command (c : Command) : List (Nat × Token) → Except ScriptFault (Command × List (Nat × Token))
  | (n, .word w) :: ts =>
    let c := if c.isEmpty then { c with line := n } else c
    command (c.addWord w) ts
  | (_, .redirect _ _) :: (_, .hereText text) :: ts =>
    command { c with redirects := c.redirects ++ [.fromText text] } ts
  | (_, .redirect stream op) :: (_, .word w) :: ts =>
    command { c with redirects := c.redirects ++ [redirectTo stream op w] } ts
  | (n, .redirect _ _) :: (_, .operator op) :: _ => .error (.unexpected n ("\"" ++ op ++ "\""))
  | (n, .redirect _ _) :: (_, .lineFeed) :: _ => .error (.unexpected n "newline")
  | (n, .redirect _ _) :: _ => .error (.unexpected n "end of file")
  | ts => .ok (c, ts)

def skipLineFeeds (ts : List (Nat × Token)) : List (Nat × Token) :=
  ts.dropWhile fun t => match t with
    | (_, .lineFeed) => true
    | _ => false

def Token.shown : Token → String
  | .operator op => "\"" ++ op ++ "\""
  | .lineFeed => "newline"
  | .word _ => "word"
  | .redirect _ _ => "redirection"
  | .hereText _ => "redirection"

def refuse (line : Nat) : List (Nat × Token) → ScriptFault
  | (n, t) :: _ => .unexpected n t.shown
  | [] => .unexpected line "end of file"

def pipeline (line : Nat) (before : List Command) : Nat → List (Nat × Token) →
    Except ScriptFault (List Command × List (Nat × Token))
  | 0, ts => .error (refuse line ts)
  | fuel + 1, ts => do
    let (c, rest) ← command ⟨line, [], [], []⟩ ts
    if c.isEmpty then throw (refuse line rest)
    match rest with
    | (n, .operator "|") :: rest => pipeline n (before ++ [c]) fuel (skipLineFeeds rest)
    | _ => return (before ++ [c], rest)

def pipelines (line : Nat) (link : Link) : Nat → List (Nat × Token) → Except ScriptFault Script
  | 0, _ => .ok []
  | fuel + 1, ts => do
    let ts := if link = .always then skipLineFeeds ts else ts
    if link = .always && ts.isEmpty then return []
    let (negated, ts) := match ts with
      | (n, .word w) :: rest => if isNegation w then (true, rest) else (false, (n, .word w) :: rest)
      | ts => (false, ts)
    let (commands, rest) ← pipeline line [] (ts.length + 1) ts
    let this := (link, Pipeline.mk negated commands)
    match rest with
    | (n, .operator "&&") :: rest =>
      return this :: (← pipelines n .afterSuccess fuel (skipLineFeeds rest))
    | (n, .operator "||") :: rest =>
      return this :: (← pipelines n .afterFailure fuel (skipLineFeeds rest))
    | (n, .operator ";") :: rest => return this :: (← pipelines n .always fuel rest)
    | (n, .operator "&") :: rest => return this :: (← pipelines n .always fuel rest)
    | (n, .lineFeed) :: rest => return this :: (← pipelines n .always fuel rest)
    | [] => return [this]
    | rest => throw (refuse line rest)

def read (s : Bytes) : Except ScriptFault Script := do
  let ts ← tokens 1 [] [] (s.length + 1) s
  pipelines 1 .always (ts.length + 1) ts

end Script

end MarkupLint.Host
