import MarkupLint.Text.Printable

/-! Quoted texts in messages: between double quotes, with every character that would not be
seen spelled out. -/
namespace MarkupLint.Text

def hexDigits (n : Nat) : List Char := Nat.toDigits 16 n

def escapeUnseen (c : Char) : List Char :=
  match c with
  | '\x00' => ['\\', '0']
  | '\t' => ['\\', 't']
  | '\r' => ['\\', 'r']
  | '\n' => ['\\', 'n']
  | '"' => ['\\', '"']
  | '\\' => ['\\', '\\']
  | c => if isPrintable c then [c] else ['\\', 'u', '{'] ++ hexDigits c.toNat ++ ['}']

def quoted (s : String) : String :=
  String.ofList ('"' :: s.toList.flatMap escapeUnseen ++ ['"'])

end MarkupLint.Text
