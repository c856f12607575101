import MarkupLint.Json.Cursor

/-! The literals of a JSON text: words, numbers and strings. -/
namespace MarkupLint.Json

open MarkupLint.Number (Binary64)

/-- The magnitude `significand * 10 ^ exponent`; a power past 308 is taken off in steps of 308,
each of them rounded. -/
def divideByPowerOfTen (x : Binary64) (k : Nat) : Option Binary64 :=
  if k ≤ 308 then (Binary64.ofPowerOfTen? k).bind x.div
  else if x.isZero then some x
  else do
    let step ← Binary64.ofPowerOfTen? 308
    divideByPowerOfTen (← x.div step) (k - 308)
termination_by k

def realOfParts (negative : Bool) (significand : Nat) (exponent : Int) : Option Binary64 := do
  let whole ← Binary64.ofNat? significand
  let x ←
    if exponent < 0 then divideByPowerOfTen whole (-exponent).toNat
    else if exponent ≤ 308 then (Binary64.ofPowerOfTen? exponent.toNat).bind whole.mul
    else if whole.isZero then some whole
    else none
  return if negative then x.negate else x

/-- Digits read so far: those that fit 64 bits, and the power of ten they stand for. -/
structure Digits where
  significand : Nat
  exponent : Int
  full : Bool

def greatestSignificand : Nat := 0xFFFFFFFFFFFFFFFF

/-- One more digit before the point: it counts while the significand fits. -/
def Digits.whole (d : Digits) (digit : Nat) : Digits :=
  let s := d.significand * 10 + digit
  if d.full || greatestSignificand < s then { d with exponent := d.exponent + 1, full := true }
  else { d with significand := s }

/-- One more digit after the point: it is dropped once the significand does not fit. -/
def Digits.fraction (d : Digits) (digit : Nat) : Digits :=
  let s := d.significand * 10 + digit
  if d.full || greatestSignificand < s then { d with full := true }
  else { d with significand := s, exponent := d.exponent - 1 }

/-- An integer of 64 bits, or a real for a minus sign before zero or beyond the range. -/
def numberOfDigits (negative : Bool) (d : Digits) : Option Json.Number :=
  if d.full then (realOfParts negative d.significand d.exponent).map .real
  else if !negative then some (.integer d.significand)
  else if d.significand = 0 ∨ 0x8000000000000000 < d.significand then
    (Binary64.ofNat? d.significand).map fun x => .real x.negate
  else some (.integer (-(d.significand : Int)))

def digitValue (c : Char) : Nat := c.toNat - '0'.toNat

namespace Reader

def digits : Reader (List Nat) := fun c =>
  let run := c.rest.takeWhile Char.isDigit
  (.ok (run.map digitValue), ⟨run.foldl Place.after c.place, c.rest.dropWhile Char.isDigit⟩)

def word : List Char → Reader Unit
  | [] => return ()
  | expected :: rest => do
    match ← peek with
    | none => failHere .endInValue
    | some c => if c = expected then do skip; word rest else failAhead .expectedWord

def greatestExponent : Nat := 0x7FFFFFFF

/-- The digits of an exponent; none when they pass 31 bits, with the cursor behind the digit that
does. -/
def exponentDigits (acc : Nat) : Nat → Reader (Option Nat)
  | 0 => return some acc
  | fuel + 1 => do
    match ← peek with
    | some c =>
      if c.isDigit then do
        skip
        let next := acc * 10 + digitValue c
        if greatestExponent < next then return none else exponentDigits next fuel
      else return some acc
    | none => return some acc

def sign : Reader Bool := do
  match ← peek with
  | some '-' => skip; return true
  | some '+' => skip; return false
  | _ => return false

def realNumber (negative : Bool) (d : Digits) : Reader Json.Number :=
  match realOfParts negative d.significand d.exponent with
  | some x => return .real x
  | none => failHere .numberOutOfRange

def exponent (negative : Bool) (d : Digits) : Reader Json.Number := do
  let below ← sign
  match ← peek with
  | none => failHere .endInValue
  | some c =>
    if !c.isDigit then failAhead .invalidNumber
    else
      match ← exponentDigits 0 ((← remaining) + 1) with
      | some e =>
        realNumber negative { d with exponent := if below then d.exponent - e else d.exponent + e }
      | none =>
        if d.significand ≠ 0 && !below then failHere .numberOutOfRange
        else
          let _ ← digits
          return .real (Binary64.zero negative)

def isExponentLetter (c : Char) : Bool := c = 'e' || c = 'E'

def numberTail (negative : Bool) (d : Digits) : Reader Json.Number := do
  match ← peek with
  | some '.' =>
    skip
    match ← digits with
    | [] =>
      match ← peek with
      | none => failAhead .endInValue
      | some _ => failAhead .invalidNumber
    | ds =>
      let d := ds.foldl Digits.fraction { d with full := false }
      match ← peek with
      | some c => if isExponentLetter c then do skip; exponent negative d else realNumber negative d
      | none => realNumber negative d
  | some c =>
    if isExponentLetter c then do skip; exponent negative d
    else
      match numberOfDigits negative d with
      | some n => return n
      | none => failHere .numberOutOfRange
  | none =>
    match numberOfDigits negative d with
    | some n => return n
    | none => failHere .numberOutOfRange

/-- A number after its sign. A zero is not followed by a digit. -/
def unsignedNumber (negative : Bool) : Reader Json.Number := do
  match ← peek with
  | none => failHere .endInValue
  | some '0' =>
    skip
    match ← peek with
    | some c => if c.isDigit then failAhead .invalidNumber else numberTail negative ⟨0, 0, false⟩
    | none => numberTail negative ⟨0, 0, false⟩
  | some c =>
    if c.isDigit then
      numberTail negative ((← digits).foldl Digits.whole ⟨0, 0, false⟩)
    else failAhead .invalidNumber

def number : Reader Json.Number := do
  match ← peek with
  | some '-' => skip; unsignedNumber true
  | _ => unsignedNumber false

def hexValue? (c : Char) : Option Nat :=
  if c.isDigit then some (digitValue c)
  else if 'a' ≤ c ∧ c ≤ 'f' then some (c.toNat - 'a'.toNat + 10)
  else if 'A' ≤ c ∧ c ≤ 'F' then some (c.toNat - 'A'.toNat + 10)
  else none

/-- Moves by bytes, also into a character; nothing is read after that but the place. -/
def skipBytes (n : Nat) : Reader Unit := fun c => (.ok (), ⟨c.place.afterBytes n c.rest, []⟩)

def byteCount (cs : List Char) : Nat := cs.foldl (fun n c => n + c.utf8Size) 0

/-- Four hexadecimal digits; otherwise the four bytes in their place are wrong together. -/
def hexEscape : Reader Nat := fun c =>
  match c.rest.take 4 |>.mapM hexValue? with
  | some [a, b, d, e] =>
    (.ok (a * 4096 + b * 256 + d * 16 + e), c.next.next.next.next)
  | _ =>
    if 4 ≤ byteCount (c.rest.take 4) then (do skipBytes 4; failHere .invalidEscape) c
    else (do skipBytes 4; failHere .endInText) c

def simpleEscape? : Char → Option Char
  | '"' => some '"'
  | '\\' => some '\\'
  | '/' => some '/'
  | 'b' => some '\x08'
  | 'f' => some '\x0c'
  | 'n' => some '\n'
  | 'r' => some '\r'
  | 't' => some '\t'
  | _ => none

def escapePart (expected : Char) : Reader Unit := do
  match ← peek with
  | none => failHere .endInText
  | some c => if c = expected then skip else failAhead .endInEscape

/-- The character of a hexadecimal escape; a pair of surrogates is one character. -/
def unicodeEscape : Reader Char := do
  let n ← hexEscape
  if 0xDC00 ≤ n ∧ n ≤ 0xDFFF then failHere .loneSurrogate
  else if n < 0xD800 ∨ 0xDBFF < n then return Char.ofNat n
  else
    escapePart '\\'
    escapePart 'u'
    let m ← hexEscape
    if m < 0xDC00 ∨ 0xDFFF < m then failHere .loneSurrogate
    else return Char.ofNat ((n - 0xD800) * 1024 + (m - 0xDC00) + 0x10000)

def escape : Reader Char := do
  match ← peek with
  | none => failHere .endInText
  | some 'u' => skip; unicodeEscape
  | some c =>
    match simpleEscape? c with
    | some d => skip; return d
    | none => failAhead .invalidEscape

def textTail (read : List Char) : Nat → Reader String
  | 0 => failHere .endInText
  | fuel + 1 => do
    match ← peek with
    | none => failHere .endInText
    | some '"' => skip; return String.ofList read.reverse
    | some '\\' =>
      skip
      let c ← escape
      textTail (c :: read) fuel
    | some c =>
      skip
      if c.toNat < 0x20 then failHere .controlCharacter else textTail (c :: read) fuel

def text : Reader String := do textTail [] ((← remaining) + 1)

end Reader

end MarkupLint.Json
