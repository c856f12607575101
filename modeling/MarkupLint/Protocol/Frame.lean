import MarkupLint.Json.Reader
import MarkupLint.Json.Printer
import MarkupLint.Text.Blank
import MarkupLint.Text.Utf8

/-! Messages on a stream: a header with the length of the body in bytes, an empty line, the body. -/
namespace MarkupLint.Protocol.Frame

def lengthField : String := "Content-Length"

def header (length : Nat) : String := lengthField ++ ": " ++ toString length ++ "\r\n\r\n"

def encode (v : Json) : String :=
  let body := v.compact
  header body.utf8ByteSize ++ body

def lengthOf? (line : String) : Option Nat :=
  let cs := line.toList
  let name := cs.takeWhile (· ≠ ':')
  if (String.ofList (Text.trim name)).toLower = lengthField.toLower then
    (String.ofList (Text.trim (cs.drop (name.length + 1)))).toNat?
  else none

end MarkupLint.Protocol.Frame
