import MarkupLint.Glob.Parse
import MarkupLint.Path

/-! Which paths a glob pattern matches. Matching goes token by token over the bytes of the path
and keeps every rest that can be left. -/
namespace MarkupLint.Glob

open Text (charBytes)

def dropStart? : List UInt8 → List UInt8 → Option (List UInt8)
  | [], s => some s
  | _ :: _, [] => none
  | a :: start, b :: s => if a = b then dropStart? start s else none

def suffixes : List UInt8 → List (List UInt8)
  | [] => [[]]
  | b :: rest => (b :: rest) :: suffixes rest

def behindSlashes (s : List UInt8) : List (List UInt8) :=
  (suffixes s).filterMap fun
    | b :: rest => if b = Path.slash then some rest else none
    | [] => none

/-- A class holds bytes: of a character that has several, each; of a range, those from the last
byte of its first character to the first byte of its last one, and the other bytes of both. -/
def rangeHolds (low high : Char) (b : UInt8) : Bool :=
  let lows := charBytes low
  if low = high then lows.contains b
  else
    let highs := charBytes high
    lows.contains b || highs.contains b ||
      (lows.getLast?.any (· ≤ b) && highs.head?.any (b ≤ ·))

def classHolds (negated : Bool) (ranges : List (Char × Char)) (b : UInt8) : Bool :=
  negated != ranges.any fun (low, high) => rangeHolds low high b

def distinct (rests : List (List UInt8)) : List (List UInt8) :=
  rests.foldl (fun kept r => if kept.any (·.length = r.length) then kept else kept ++ [r]) []

mutual

def allVoid : List Token → Bool
  | [] => true
  | .alternatives branches :: rest => allVoidBranches branches && allVoid rest
  | _ :: _ => false

def allVoidBranches : List (List Token) → Bool
  | [] => true
  | branch :: rest => allVoid branch && allVoidBranches rest

end

mutual

/-- The rests of `s` that a token can leave. -/
def Token.rests : Token → List UInt8 → List (List UInt8)
  | .literal c, s => (dropStart? (charBytes c) s).toList
  | .anyOne, s => s.tail?.toList
  | .anyRun, s => suffixes s
  | .leading, s => s :: behindSlashes s
  | .trailing, s =>
    match s with
    | b :: rest => if b = Path.slash then suffixes rest else []
    | [] => []
  | .between, s =>
    match s with
    | b :: rest => if b = Path.slash then rest :: behindSlashes rest else []
    | [] => []
  | .oneOf negated ranges, s =>
    match s with
    | b :: rest => if classHolds negated ranges b then [rest] else []
    | [] => []
  | .alternatives branches, s =>
    if allVoidBranches branches then [s] else distinct (restsOfBranches branches s)

def restsOfAll : List Token → List (List UInt8) → List (List UInt8)
  | [], rests => rests
  | t :: ts, rests => restsOfAll ts (distinct (rests.flatMap t.rests))

/-- The rests that one of the branches can leave; a branch that says nothing does not count. -/
def restsOfBranches : List (List Token) → List UInt8 → List (List UInt8)
  | [], _ => []
  | branch :: rest, s =>
    (if allVoid branch then [] else restsOfAll branch [s]) ++ restsOfBranches rest s

end

def fits (g : Glob) (s : List UInt8) : Bool :=
  match g.tokens with
  | [.leading] => true
  | tokens => (restsOfAll tokens [s]).any List.isEmpty

def Token.isLiteral : Token → Bool
  | .literal _ => true
  | _ => false

def Token.isPlainLiteral : Token → Bool
  | .literal c => c ≠ '/'
  | _ => false

def Token.isExtensionLiteral : Token → Bool
  | .literal c => c ≠ '/' && c ≠ '.'
  | _ => false

def isName (g : Glob) : Bool :=
  match g.tokens with
  | .leading :: t :: ts => t.isPlainLiteral && ts.all Token.isPlainLiteral
  | _ => false

def isExtension (g : Glob) : Bool :=
  let tail (ts : List Token) : Bool :=
    match ts with
    | .anyRun :: .literal '.' :: ts => ts.all Token.isExtensionLiteral
    | _ => false
  match g.tokens with
  | .leading :: ts => tail ts
  | ts => tail ts

def isStart (g : Glob) : Bool :=
  match g.tokens.reverse with
  | .anyRun :: t :: ts => t.isLiteral && ts.all Token.isLiteral
  | .trailing :: ts => ts.all Token.isLiteral
  | t :: ts => t.isLiteral && ts.all Token.isLiteral
  | [] => false

/-- Patterns of literals behind at most one recursive start and one run, unless these are no more
than a slash. -/
def isEnd (g : Glob) : Bool :=
  let literals (ts : List Token) : Bool := !ts.isEmpty && ts.all Token.isLiteral
  let notSlash (ts : List Token) : Bool :=
    match ts with
    | [.literal c] => c ≠ '/'
    | _ => true
  match g.tokens with
  | .leading :: .anyRun :: ts | .anyRun :: ts => literals ts && notSlash ts
  | .leading :: ts => literals ts
  | ts => literals ts && notSlash ts

def endsInExtension (g : Glob) : Bool :=
  match g.tokens.reverse.dropWhile Token.isExtensionLiteral with
  | .literal c :: _ => c = '.'
  | _ => false

def needsName (g : Glob) : Bool :=
  g.isName || g.isExtension || (endsInExtension g && !g.isStart && !g.isEnd)

def lastPart (s : List UInt8) : List UInt8 := (s.reverse.takeWhile (· ≠ Path.slash)).reverse

def hasName (s : List UInt8) : Bool := lastPart s ≠ [Path.dot, Path.dot]

def isMatch (g : Glob) (p : Path) : Bool :=
  fits g p.bytes && (!g.needsName || hasName p.bytes)

end MarkupLint.Glob
