/-! Basic regular expressions over bytes: literals, the dot, sets in brackets, stars and anchors. -/
namespace MarkupLint.Host

inductive Pattern.Unit where
  | byte (b : UInt8)
  | any
  | set (negated : Bool) (ranges : List (UInt8 × UInt8))
  deriving Repr

structure Pattern where
  fromStart : Bool
  units : List (Pattern.Unit × Bool)
  toEnd : Bool
  deriving Repr

namespace Pattern

def Unit.holds : Unit → UInt8 → Bool
  | .byte a, b => a = b
  | .any, _ => true
  | .set negated ranges, b => negated != ranges.any fun (low, high) => low ≤ b && b ≤ high

/-- The ranges of a set up to its closing bracket. A bracket that comes first is a member. -/
def setFrom (first : Bool) (ranges : List (UInt8 × UInt8)) :
    List UInt8 → Option (List (UInt8 × UInt8) × List UInt8)
  | [] => none
  | b :: 0x2D :: c :: rest =>
    if b = 0x5D && !first then some (ranges, 0x2D :: c :: rest)
    else if c = 0x5D then some (ranges ++ [(b, b), (0x2D, 0x2D)], rest)
    else setFrom false (ranges ++ [(b, c)]) rest
  | b :: rest =>
    if b = 0x5D && !first then some (ranges, rest)
    else setFrom false (ranges ++ [(b, b)]) rest

def starred : List UInt8 → Bool × List UInt8
  | 0x2A :: rest => (true, rest)
  | rest => (false, rest)

def readFrom (p : Pattern) (bytes : List UInt8) : Nat → Pattern
  | 0 => p
  | fuel + 1 =>
    let add (u : Unit) (rest : List UInt8) : Pattern :=
      let (star, rest) := starred rest
      readFrom { p with units := p.units ++ [(u, star)] } rest fuel
    match bytes with
    | [] => p
    | [0x24] => { p with toEnd := true }
    | 0x5C :: 0x6E :: rest => add (.byte 0x0A) rest
    | 0x5C :: b :: rest => add (.byte b) rest
    | 0x2E :: rest => add .any rest
    | 0x5B :: 0x5E :: rest =>
      match setFrom true [] rest with
      | some (ranges, rest) => add (.set true ranges) rest
      | none => add (.byte 0x5B) (0x5E :: rest)
    | 0x5B :: rest =>
      match setFrom true [] rest with
      | some (ranges, rest) => add (.set false ranges) rest
      | none => add (.byte 0x5B) rest
    | b :: rest => add (.byte b) rest

def read (bytes : List UInt8) : Pattern :=
  match bytes with
  | 0x5E :: rest => readFrom ⟨true, [], false⟩ rest (rest.length + 1)
  | rest => readFrom ⟨false, [], false⟩ rest (rest.length + 1)

def matchUnits (toEnd : Bool) : List (Unit × Bool) → List UInt8 → Option Nat
  | [], s => if toEnd && !s.isEmpty then none else some 0
  | (u, false) :: units, s =>
    match s with
    | b :: rest => if u.holds b then (matchUnits toEnd units rest).map (· + 1) else none
    | [] => none
  | (u, true) :: units, s =>
    let run := (s.takeWhile u.holds).length
    let lengths := (List.range (run + 1)).reverse
    lengths.findSome? fun n => (matchUnits toEnd units (s.drop n)).map (· + n)

def matchAt (p : Pattern) (s : List UInt8) : Option Nat := matchUnits p.toEnd p.units s

def occursIn (p : Pattern) (s : List UInt8) : Bool :=
  (p.matchAt s).isSome ||
    match s with
    | [] => false
    | _ :: rest => !p.fromStart && p.occursIn rest

/-- A text with `replacement` in the place of matches: of the first one, or of all. The first `skip`
bytes belong to a match already replaced; an empty match right behind it does not count. -/
def replaceFrom (p : Pattern) (replacement : List UInt8 → List UInt8) (all : Bool)
    (skip : Nat) (behindMatch : Bool) (s : List UInt8) : List UInt8 :=
  let found := if skip = 0 then p.matchAt s else none
  match found, s with
  | none, [] => []
  | some 0, [] => if behindMatch then [] else replacement []
  | some _, [] => []
  | none, b :: rest =>
    if skip = 0 then
      if p.fromStart then b :: rest else b :: replaceFrom p replacement all 0 false rest
    else replaceFrom p replacement all (skip - 1) true rest
  | some n, b :: rest =>
    if n = 0 && behindMatch then b :: replaceFrom p replacement all 0 false rest
    else
      let text := replacement ((b :: rest).take n)
      if !all || p.fromStart then text ++ (b :: rest).drop n
      else if n = 0 then text ++ b :: replaceFrom p replacement all 0 false rest
      else text ++ replaceFrom p replacement all (n - 1) true rest

def replace (p : Pattern) (replacement : List UInt8 → List UInt8) (all : Bool)
    (s : List UInt8) : List UInt8 :=
  p.replaceFrom replacement all 0 false s

end Pattern

end MarkupLint.Host
