import MarkupLint.Json.Basic

/-! The compact text of a JSON value: no spaces, members as they stand, and only quotes,
backslashes and control characters escaped. -/
namespace MarkupLint.Json

def hexDigit (n : Nat) : Char := Nat.digitChar n

def escapeChar (c : Char) : List Char :=
  match c with
  | '"' => ['\\', '"']
  | '\\' => ['\\', '\\']
  | '\n' => ['\\', 'n']
  | '\r' => ['\\', 'r']
  | '\t' => ['\\', 't']
  | '\x08' => ['\\', 'b']
  | '\x0c' => ['\\', 'f']
  | c =>
    if c.toNat < 0x20 then ['\\', 'u', '0', '0', hexDigit (c.toNat / 16), hexDigit (c.toNat % 16)]
    else [c]

def textChars (s : String) : List Char := '"' :: s.toList.flatMap escapeChar ++ ['"']

mutual

def chars : Json → List Char
  | .null => ['n', 'u', 'l', 'l']
  | .boolean true => ['t', 'r', 'u', 'e']
  | .boolean false => ['f', 'a', 'l', 's', 'e']
  | .number n => n.text.toList
  | .text s => textChars s
  | .array items => '[' :: itemChars items
  | .object members => '{' :: memberChars members

def itemChars : List Json → List Char
  | [] => [']']
  | [v] => chars v ++ [']']
  | v :: rest => chars v ++ ',' :: itemChars rest

def memberChars : List (String × Json) → List Char
  | [] => ['}']
  | [(k, v)] => textChars k ++ ':' :: chars v ++ ['}']
  | (k, v) :: rest => textChars k ++ ':' :: chars v ++ ',' :: memberChars rest

end

def compact (v : Json) : String := String.ofList (chars v)

end MarkupLint.Json
