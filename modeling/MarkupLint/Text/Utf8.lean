/-! UTF-8: the bytes of a text, the text of valid bytes, and the text shown for any bytes, where
each maximal ill-formed piece becomes one replacement character. -/
namespace MarkupLint.Text

def charBytes (c : Char) : List UInt8 :=
  let n := c.toNat
  let tail (shift : Nat) : UInt8 := UInt8.ofNat (0x80 + (n >>> shift) % 64)
  if n < 0x80 then [UInt8.ofNat n]
  else if n < 0x800 then [UInt8.ofNat (0xC0 + n / 64), tail 0]
  else if n < 0x10000 then [UInt8.ofNat (0xE0 + n / 4096), tail 6, tail 0]
  else [UInt8.ofNat (0xF0 + n / 262144), tail 12, tail 6, tail 0]

def bytesOf (cs : List Char) : List UInt8 := cs.flatMap charBytes

def utf8 (s : String) : List UInt8 := bytesOf s.toList

/-- Octets that continue a character: how many are owed, and the range of the next one. -/
structure Continuation where
  owed : Nat
  low : Nat
  high : Nat

def continuation? (b : Nat) : Option Continuation :=
  if 0xC2 ≤ b ∧ b ≤ 0xDF then some ⟨1, 0x80, 0xBF⟩
  else if b = 0xE0 then some ⟨2, 0xA0, 0xBF⟩
  else if b = 0xED then some ⟨2, 0x80, 0x9F⟩
  else if 0xE1 ≤ b ∧ b ≤ 0xEF then some ⟨2, 0x80, 0xBF⟩
  else if b = 0xF0 then some ⟨3, 0x90, 0xBF⟩
  else if 0xF1 ≤ b ∧ b ≤ 0xF3 then some ⟨3, 0x80, 0xBF⟩
  else if b = 0xF4 then some ⟨3, 0x80, 0x8F⟩
  else none

/-- A character, or a piece of bytes that is none. -/
inductive Piece where
  | char (c : Char)
  | broken
  deriving DecidableEq

/-- Reads the bytes as pieces. The second argument is the character under way: its payload so far
and what may continue it. -/
def pieces : List UInt8 → Option (Nat × Continuation) → List Piece
  | [], none => []
  | [], some _ => [.broken]
  | b :: rest, none =>
    let n := b.toNat
    if n < 0x80 then .char (Char.ofNat n) :: pieces rest none
    else match continuation? n with
      | none => .broken :: pieces rest none
      | some k => pieces rest (some (n % (1 <<< (6 - k.owed)), k))
  | b :: rest, some (acc, k) =>
    let n := b.toNat
    if k.low ≤ n ∧ n ≤ k.high then
      let acc := acc * 64 + n % 64
      if k.owed ≤ 1 then .char (Char.ofNat acc) :: pieces rest none
      else pieces rest (some (acc, ⟨k.owed - 1, 0x80, 0xBF⟩))
    else if n < 0x80 then .broken :: .char (Char.ofNat n) :: pieces rest none
    else match continuation? n with
      | none => .broken :: .broken :: pieces rest none
      | some k => .broken :: pieces rest (some (n % (1 <<< (6 - k.owed)), k))

def Piece.shown : Piece → Char
  | .char c => c
  | .broken => '\uFFFD'

/-- The text shown for any bytes. -/
def lossyText (bytes : List UInt8) : List Char := (pieces bytes none).map Piece.shown

def text? (bytes : List UInt8) : Option (List Char) :=
  (pieces bytes none).mapM fun
    | .char c => some c
    | .broken => none

end MarkupLint.Text
