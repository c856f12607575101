import MarkupLint.Url.Basic
import MarkupLint.Url.Encode
import MarkupLint.Url.Punycode

/-! Reading host names: domains, addresses of four and of sixteen bytes. -/
namespace MarkupLint.Url

inductive Fault where
  | relative
  | emptyHost
  | invalidPort
  | invalidDomainName
  | invalidIpv4
  | invalidIpv6
  | invalidDomainCharacter
  deriving DecidableEq, Repr

def Fault.message : Fault → String
  | .relative => "relative URL without a base"
  | .emptyHost => "empty host"
  | .invalidPort => "invalid port number"
  | .invalidDomainName => "invalid international domain name"
  | .invalidIpv4 => "invalid IPv4 address"
  | .invalidIpv6 => "invalid IPv6 address"
  | .invalidDomainCharacter => "invalid domain character"

/-- Splits at every occurrence of a character; there is always at least one part. -/
def splitAt (separator : Char) : List Char → List (List Char)
  | [] => [[]]
  | c :: rest =>
    if c = separator then [] :: splitAt separator rest
    else match splitAt separator rest with
      | [] => [[c]]
      | part :: parts => (c :: part) :: parts

def hexDigit? (c : Char) : Option Nat :=
  if c.isDigit then some (c.toNat - '0'.toNat)
  else if 'a' ≤ c ∧ c ≤ 'f' then some (c.toNat - 'a'.toNat + 10)
  else if 'A' ≤ c ∧ c ≤ 'F' then some (c.toNat - 'A'.toNat + 10)
  else none

def numberIn (base : Nat) (cs : List Char) : Option Nat := do
  let digits ← cs.mapM hexDigit?
  if digits.all (· < base) then
    some (digits.foldl (fun n d => n * base + d) 0)
  else none

/-- A part of an address: hexadecimal after `0x`, octal after `0`, else decimal. -/
def addressPart? : List Char → Option Nat
  | [] => none
  | ['0', 'x'] | ['0', 'X'] => some 0
  | '0' :: 'x' :: digits | '0' :: 'X' :: digits => numberIn 16 digits
  | '0' :: d :: digits => numberIn 8 (d :: digits)
  | digits => numberIn 10 digits

def endsInNumber (name : List Char) : Bool :=
  let isNumber (part : List Char) : Bool :=
    (!part.isEmpty && part.all Char.isDigit) || (addressPart? part).isSome
  match (splitAt '.' name).reverse with
  | [] :: last :: _ => isNumber last
  | last :: _ => isNumber last
  | [] => false

def ipv4? (name : List Char) : Except Fault Nat := do
  let parts := splitAt '.' name
  let parts := if parts.getLast? = some [] then parts.dropLast else parts
  if 4 < parts.length then throw .invalidIpv4
  let numbers ←
    match parts.mapM addressPart? with
    | some numbers => pure numbers
    | none => throw .invalidIpv4
  match numbers.reverse with
  | [] => throw .invalidIpv4
  | last :: before =>
    if 1 <<< (8 * (4 - before.length)) ≤ last || before.any (255 < ·) then throw .invalidIpv4
    let high := (before.reverse.zipIdx).foldl (fun n (d, i) => n + d <<< (8 * (3 - i))) 0
    return high + last

structure Ipv6Draft where
  groups : List Nat
  gap : Option Nat

def Ipv6Draft.push (d : Ipv6Draft) (n : Nat) : Ipv6Draft := { d with groups := d.groups ++ [n] }

def Ipv6Draft.openGap (d : Ipv6Draft) : Ipv6Draft :=
  let d := d.push 0
  { d with gap := some d.groups.length }

def Ipv6Draft.finish (d : Ipv6Draft) : Option (List Nat) :=
  match d.gap with
  | none => if d.groups.length = 8 then some d.groups else none
  | some g =>
    some (d.groups.take g ++ List.replicate (8 - d.groups.length) 0 ++ d.groups.drop g)

def ipv4Piece? (cs : List Char) : Option Nat :=
  match cs with
  | [] => none
  | '0' :: _ :: _ => none
  | cs => (numberIn 10 cs).filter (· ≤ 255)

def ipv4Groups? (cs : List Char) : Option (Nat × Nat) := do
  match ← (splitAt '.' cs).mapM ipv4Piece? with
  | [a, b, c, d] => some (a * 256 + b, c * 256 + d)
  | _ => none

def ipv6From (d : Ipv6Draft) (cs : List Char) : Nat → Option (List Nat)
  | 0 => none
  | fuel + 1 =>
    match cs with
    | [] => d.finish
    | ':' :: rest =>
      if d.groups.length = 8 || d.gap.isSome then none else ipv6From d.openGap rest fuel
    | cs =>
      if d.groups.length = 8 then none
      else
        let digits := (cs.take 4).takeWhile fun c => (hexDigit? c).isSome
        let rest := cs.drop digits.length
        let group := (numberIn 16 digits).getD 0
        match rest with
        | [] => (d.push group).finish
        | '.' :: _ =>
          if digits.isEmpty || 6 < d.groups.length then none
          else do
            let (a, b) ← ipv4Groups? cs
            ((d.push a).push b).finish
        | [':'] => none
        | ':' :: rest => ipv6From (d.push group) rest fuel
        | _ => none

def ipv6? (cs : List Char) : Except Fault (List Nat) :=
  let start : Option (List Nat) :=
    match cs with
    | ':' :: ':' :: rest => ipv6From (Ipv6Draft.openGap ⟨[], none⟩) rest (cs.length + 1)
    | ':' :: _ => none
    | [_] => none
    | [] => none
    | cs => ipv6From ⟨[], none⟩ cs (cs.length + 1)
  match start with
  | some groups => if groups.length = 8 then .ok groups else .error .invalidIpv6
  | none => .error .invalidIpv6

def bracketed? (cs : List Char) : Except Fault Host :=
  if cs.getLast? = some ']' then (ipv6? (cs.drop 1).dropLast).map .ipv6 else .error .invalidIpv6

def forbiddenInHost : List Char :=
  ['\x00', '\t', '\n', '\r', ' ', '#', '/', ':', '<', '>', '?', '@', '[', '\\', ']', '^', '|']

def forbiddenInDomain (c : Char) : Bool :=
  c.toNat < 0x20 || c.toNat = 0x7F || c = '%' || forbiddenInHost.contains c

/-- A domain in its written form: in lower case, labels beyond ASCII encoded. -/
def domainName? (cs : List Char) : Except Fault (List Char) :=
  match Text.text? (percentDecode (Text.bytesOf cs)) with
  | none => .error .invalidDomainName
  | some decoded =>
    let lower := decoded.map Char.toLower
    if lower.any forbiddenInDomain then .error .invalidDomainName
    else .ok ((splitAt '.' lower).map Punycode.label |>.intersperse ['.'] |>.flatten)

def specialHost (cs : List Char) : Except Fault Host :=
  if cs.head? = some '[' then bracketed? cs
  else do
    let name ← domainName? cs
    if name.isEmpty then throw .emptyHost
    if endsInNumber name then return .ipv4 (← ipv4? name)
    return .domain (String.ofList name)

def opaqueHost (cs : List Char) : Except Fault Host :=
  if cs.head? = some '[' then bracketed? cs
  else if cs.any forbiddenInHost.contains then .error .invalidDomainCharacter
  else if cs.isEmpty then .ok .empty
  else .ok (.domain (String.ofList (Part.opaquePath.encode cs)))

end MarkupLint.Url
