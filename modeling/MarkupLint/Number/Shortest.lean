import MarkupLint.Number.Binary64

/-! The shortest decimal text of a binary number: of the decimals with the fewest digits that
round to it, the nearest. -/
namespace MarkupLint.Number

structure Decimal where
  digits : Nat
  exponent : Int
  deriving DecidableEq, Repr

/-- The reals that round to a number, all four over one denominator: least, value, greatest, and
whether the two ends belong. -/
structure RoundingInterval where
  low : Nat
  value : Nat
  high : Nat
  denominator : Nat
  closed : Bool

def Binary64.roundingInterval (x : Binary64) : RoundingInterval :=
  let m := x.significand
  let narrow := m = 1 <<< 52 ∧ Binary64.leastExponent < x.exponent
  let low := if narrow then 4 * m - 1 else 4 * m - 2
  let (scale, denominator) :=
    if 0 ≤ x.exponent then (1 <<< x.exponent.toNat, 4) else (1, 4 <<< (-x.exponent).toNat)
  ⟨low * scale, 4 * m * scale, (4 * m + 2) * scale, denominator, m % 2 = 0⟩

def RoundingInterval.admits (i : RoundingInterval) (d : Decimal) : Bool :=
  let (n, s) :=
    if 0 ≤ d.exponent then (d.digits * Nat.pow 10 d.exponent.toNat * i.denominator, 1)
    else (d.digits * i.denominator, Nat.pow 10 (-d.exponent).toNat)
  if i.closed then i.low * s ≤ n && n ≤ i.high * s else i.low * s < n && n < i.high * s

/-- The multiples of `10 ^ exponent` next to the value, the nearer one first. -/
def RoundingInterval.neighbours (i : RoundingInterval) (exponent : Int) : List Decimal :=
  let (n, d) :=
    if 0 ≤ exponent then (i.value, i.denominator * Nat.pow 10 exponent.toNat)
    else (i.value * Nat.pow 10 (-exponent).toNat, i.denominator)
  let down : Decimal := ⟨n / d, exponent⟩
  let up : Decimal := ⟨n / d + 1, exponent⟩
  let r := n % d
  if 2 * r < d ∨ (2 * r = d ∧ n / d % 2 = 0) then [down, up] else [up, down]

/-- The first hit on coarser to finer grids; `count` grids are left. -/
def RoundingInterval.shortest (i : RoundingInterval) (exponent : Int) : Nat → Option Decimal
  | 0 => none
  | count + 1 =>
    match (i.neighbours exponent).find? (fun d => d.digits ≠ 0 && i.admits d) with
    | some d => some d
    | none => i.shortest (exponent - 1) count

/-- The power of ten of the first digit of `num / den`, searched downwards. -/
def leadingPower (num den : Nat) (e : Int) : Nat → Int
  | 0 => e
  | fuel + 1 =>
    let reached :=
      if 0 ≤ e then den * Nat.pow 10 e.toNat ≤ num else den ≤ num * Nat.pow 10 (-e).toNat
    if reached then e else leadingPower num den (e - 1) fuel

def dropTrailingZeros (digits : Nat) (exponent : Int) : Nat → Decimal
  | 0 => ⟨digits, exponent⟩
  | fuel + 1 =>
    if digits ≠ 0 ∧ digits % 10 = 0 then dropTrailingZeros (digits / 10) (exponent + 1) fuel
    else ⟨digits, exponent⟩

def Binary64.shortest (x : Binary64) : Decimal :=
  let i := x.roundingInterval
  let top := leadingPower i.value i.denominator 309 640
  match i.shortest (top + 1) 19 with
  | some d => dropTrailingZeros d.digits d.exponent 20
  | none => ⟨x.significand, 0⟩

/-- Positional from `1e-5` up to below `1e16`, with at least one digit after the point; otherwise
one digit before the point and a signed exponent. -/
def Binary64.text (x : Binary64) : String :=
  let sign := if x.negative then "-" else ""
  if x.isZero then sign ++ "0.0"
  else
    let d := x.shortest
    let digits := Nat.toDigits 10 d.digits
    let count : Int := digits.length
    let point := count + d.exponent
    let body : List Char :=
      if -5 < point ∧ point ≤ 16 then
        if 0 ≤ d.exponent then digits ++ List.replicate d.exponent.toNat '0' ++ ['.', '0']
        else if 0 < point then
          digits.take point.toNat ++ '.' :: digits.drop point.toNat
        else '0' :: '.' :: List.replicate (-point).toNat '0' ++ digits
      else
        let power := point - 1
        let mark := if power < 0 then ['e', '-'] else ['e', '+']
        let fraction := if digits.length ≤ 1 then [] else '.' :: digits.drop 1
        digits.take 1 ++ fraction ++ mark ++ Nat.toDigits 10 power.natAbs
    sign ++ String.ofList body

end MarkupLint.Number
