import MarkupLint.Text.Utf8

/-! Percent-encoding. Control characters and everything beyond ASCII are encoded in every part of a
URL; each part adds characters of its own. -/
namespace MarkupLint.Url

/-- The ASCII characters that a part encodes besides control characters. -/
structure Part where
  encoded : List Char

namespace Part

def opaquePath : Part := ⟨[]⟩

def fragment : Part := ⟨[' ', '"', '<', '>', '`']⟩

def path : Part := ⟨fragment.encoded ++ ['#', '?', '{', '}']⟩

def userInfo : Part := ⟨path.encoded ++ ['/', ':', ';', '=', '@', '[', '\\', ']', '^', '|']⟩

def query : Part := ⟨[' ', '"', '#', '<', '>']⟩

def specialQuery : Part := ⟨query.encoded ++ ['\'']⟩

def encodes (p : Part) (c : Char) : Bool :=
  c.toNat < 0x20 || 0x7F ≤ c.toNat || p.encoded.contains c

end Part

def hexUpper (n : Nat) : Char := (Nat.digitChar n).toUpper

def encodeByte (b : UInt8) : List Char := ['%', hexUpper (b.toNat / 16), hexUpper (b.toNat % 16)]

def Part.encode (p : Part) (cs : List Char) : List Char :=
  cs.flatMap fun c => if p.encodes c then (Text.charBytes c).flatMap encodeByte else [c]

end MarkupLint.Url
