import MarkupLint.Path
import MarkupLint.Text.Utf8

/-! URLs in parts that are already in their written form, and the file paths that some stand for. -/
namespace MarkupLint

inductive Url.Host where
  /-- No name between the slashes. -/
  | empty
  | domain (name : String)
  | ipv4 (address : Nat)
  /-- Eight groups of sixteen bits. -/
  | ipv6 (groups : List Nat)
  deriving DecidableEq, Repr

structure Url.Authority where
  username : String
  password : Option String
  host : Url.Host
  port : Option Nat
  deriving DecidableEq, Repr

structure Url where
  scheme : String
  authority : Option Url.Authority
  path : String
  query : Option String
  fragment : Option String
  deriving DecidableEq, Repr

namespace Url

def dotted (parts : List Nat) : String := ".".intercalate (parts.map toString)

def hexText (n : Nat) : String := String.ofList (Nat.toDigits 16 n)

/-- The longest run of zero groups, the first of several: its start and its length. -/
def longestZeros : List Nat → Nat → Nat × Nat → Nat × Nat → Nat × Nat
  | [], _, _, best => best
  | g :: rest, i, (start, length), best =>
    let run := if g = 0 then (if length = 0 then (i, 1) else (start, length + 1)) else (0, 0)
    longestZeros rest (i + 1) run (if best.2 < run.2 then run else best)

/-- Two zero groups or more are left out once. -/
def ipv6Text (groups : List Nat) : String :=
  let colons (gs : List Nat) : String := ":".intercalate (gs.map hexText)
  let (start, length) := longestZeros groups 0 (0, 0) (0, 0)
  if length < 2 then colons groups
  else colons (groups.take start) ++ "::" ++ colons (groups.drop (start + length))

def Host.text : Host → String
  | .empty => ""
  | .domain name => name
  | .ipv4 n => dotted [n >>> 24, (n >>> 16) % 256, (n >>> 8) % 256, n % 256]
  | .ipv6 groups => "[" ++ ipv6Text groups ++ "]"

def Authority.userText (a : Authority) : String :=
  let password := (a.password.map (":" ++ ·)).getD ""
  if a.username.isEmpty && a.password.isNone then "" else a.username ++ password ++ "@"

def Authority.text (a : Authority) : String :=
  a.userText ++ a.host.text ++ (a.port.map fun p => ":" ++ toString p).getD ""

/-- Without an authority, a path of two slashes is kept apart from one by a dot. -/
def text (u : Url) : String :=
  let start :=
    match u.authority with
    | some a => "//" ++ a.text
    | none => if u.path.toList.take 2 = ['/', '/'] then "/." else ""
  u.scheme ++ ":" ++ start ++ u.path ++ (u.query.map ("?" ++ ·)).getD "" ++
    (u.fragment.map ("#" ++ ·)).getD ""

def hexByte? (b : UInt8) : Option UInt8 :=
  if 0x30 ≤ b ∧ b ≤ 0x39 then some (b - 0x30)
  else if 0x41 ≤ b ∧ b ≤ 0x46 then some (b - 0x37)
  else if 0x61 ≤ b ∧ b ≤ 0x66 then some (b - 0x57)
  else none

def percentDecode : List UInt8 → List UInt8
  | 0x25 :: a :: b :: rest =>
    match hexByte? a, hexByte? b with
    | some x, some y => (x * 16 + y) :: percentDecode rest
    | _, _ => 0x25 :: percentDecode (a :: b :: rest)
  | b :: rest => b :: percentDecode rest
  | [] => []

def isLetter (b : UInt8) : Bool := (0x41 ≤ b && b ≤ 0x5A) || (0x61 ≤ b && b ≤ 0x7A)

def endsInDrive (bytes : List UInt8) : Bool :=
  match bytes.reverse with
  | mark :: letter :: _ :: _ => isLetter letter && (mark = 0x3A || mark = 0x7C)
  | _ => false

def Host.isLocal : Host → Bool
  | .empty => true
  | .domain name => name = "localhost"
  | _ => false

/-- The file path that the URL stands for, of whatever scheme: there is no other host, and the path
starts with a slash. -/
def filePath? (u : Url) : Option Path :=
  let isLocal := (u.authority.map fun a => a.host.isLocal).getD true
  if isLocal && u.path.toList.head? = some '/' then
    let bytes := percentDecode (Text.utf8 u.path)
    some ⟨if endsInDrive bytes then bytes ++ [Path.slash] else bytes⟩
  else none

end Url

end MarkupLint
