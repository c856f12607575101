import MarkupLint.Map.Entries
import MarkupLint.Number.Shortest

/-! JSON values. A reader keeps the members of an object in the order of the text; a canonical
value has them in key order, each key once. -/
namespace MarkupLint

open MarkupLint.Number (Binary64)
open MarkupLint.Map (Entries)

/-- Integers of 64 bits, signed or not, are exact; all other numbers are binary. -/
inductive Json.Number where
  | integer (n : Int)
  | real (x : Binary64)
  deriving DecidableEq, Repr

namespace Json.Number

/-- An integer is not equal to a real; the two zeros of the reals are. -/
instance : BEq Json.Number where
  beq
    | .integer m, .integer n => m == n
    | .real x, .real y => x == y
    | _, _ => false

def leastInteger : Int := -0x8000000000000000

def greatestInteger : Int := 0xFFFFFFFFFFFFFFFF

def text : Json.Number → String
  | .integer n => toString n
  | .real x => x.text

end Json.Number

inductive Json where
  | null
  | boolean (b : Bool)
  | number (n : Json.Number)
  | text (s : String)
  | array (items : List Json)
  | object (members : List (String × Json))
  deriving Inhabited, Repr

namespace Json

def natural (n : Nat) : Json := .number (.integer n)

def integer (n : Int) : Json := .number (.integer n)

def emptyObject : Json := .object []

def ofMembers (members : List (String × Json)) : Json := .object (Entries.ofList members)

def ofOption (f : α → Json) : Option α → Json
  | none => .null
  | some a => f a

def member? (key : String) : Json → Option Json
  | .object members => Entries.get? members key
  | _ => none

def isNull : Json → Bool
  | .null => true
  | _ => false

mutual

def same : Json → Json → Bool
  | .null, .null => true
  | .boolean a, .boolean b => a == b
  | .number a, .number b => a == b
  | .text a, .text b => a == b
  | .array a, .array b => sameItems a b
  | .object a, .object b => sameMembers a b
  | _, _ => false

def sameItems : List Json → List Json → Bool
  | [], [] => true
  | a :: as, b :: bs => same a b && sameItems as bs
  | _, _ => false

def sameMembers : List (String × Json) → List (String × Json) → Bool
  | [], [] => true
  | (k, a) :: as, (l, b) :: bs => k == l && same a b && sameMembers as bs
  | _, _ => false

end

instance : BEq Json := ⟨same⟩

end Json

end MarkupLint
