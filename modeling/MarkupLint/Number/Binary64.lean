/-! Finite binary floating-point numbers of 53 bits, with exact rounding: every operation rounds
the true quotient of two naturals to the nearest number, a tie to the even significand. -/
namespace MarkupLint.Number

/-- The number `significand * 2 ^ exponent`, with its sign; zero has both signs. -/
structure Binary64 where
  negative : Bool
  significand : Nat
  exponent : Int
  deriving DecidableEq, Repr

namespace Binary64

def leastExponent : Int := -1074

def greatestExponent : Int := 971

def zero (negative : Bool) : Binary64 := ⟨negative, 0, leastExponent⟩

def isZero (x : Binary64) : Bool := x.significand = 0

/-- Both zeros are one number. -/
instance : BEq Binary64 where
  beq x y := decide (x = y) || (x.isZero && y.isZero)

end Binary64

def roundHalfEven (num den : Nat) : Nat :=
  let q := num / den
  let r := num % den
  if 2 * r < den then q else if den < 2 * r then q + 1 else q + q % 2

def scaleDown (num den : Nat) (e : Int) : Nat × Nat :=
  if 0 ≤ e then (num, den <<< e.toNat) else (num <<< (-e).toNat, den)

namespace Binary64

/-- The exponent that leaves 53 bits before the point, or the least one. -/
def exponentFor (num den : Nat) : Int :=
  let spread : Int := (Nat.log2 num : Int) - (Nat.log2 den : Int)
  let (n, d) := scaleDown num den spread
  max leastExponent (if n < d then spread - 53 else spread - 52)

/-- The number nearest to `num / den`; none where it is too large. -/
def ofRatio (negative : Bool) (num den : Nat) : Option Binary64 :=
  if num = 0 then some (zero negative)
  else
    let e := exponentFor num den
    let (n, d) := scaleDown num den e
    let q := roundHalfEven n d
    let (q, e) := if q = 1 <<< 53 then (1 <<< 52, e + 1) else (q, e)
    if greatestExponent < e then none else some ⟨negative, q, e⟩

def ofNat? (n : Nat) : Option Binary64 := ofRatio false n 1

def magnitude (x : Binary64) : Nat × Nat :=
  if 0 ≤ x.exponent then (x.significand <<< x.exponent.toNat, 1)
  else (x.significand, 1 <<< (-x.exponent).toNat)

def mul (x y : Binary64) : Option Binary64 :=
  let (a, b) := x.magnitude
  let (c, d) := y.magnitude
  ofRatio (x.negative != y.negative) (a * c) (b * d)

def div (x y : Binary64) : Option Binary64 :=
  let (a, b) := x.magnitude
  let (c, d) := y.magnitude
  ofRatio (x.negative != y.negative) (a * d) (b * c)

def negate (x : Binary64) : Binary64 := { x with negative := !x.negative }

def ofPowerOfTen? (k : Nat) : Option Binary64 := ofNat? (Nat.pow 10 k)

end Binary64

end MarkupLint.Number
