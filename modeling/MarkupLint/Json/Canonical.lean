import MarkupLint.Json.Reader

/-! The canonical form of a value: members in key order, the last of several with one key, and
embedded documents in place. -/
namespace MarkupLint.Json

mutual

/-- The canonical form; none where an embedded document cannot be read. -/
def canonical? : Json → Option Json
  | .array items => (canonicalItems? items).map .array
  | .object ((key, .text s) :: rest) =>
    if key = embeddedKey then
      if rest.isEmpty then (parse s).toOption else none
    else (canonicalMembers? rest).map fun read => .ofMembers ((key, .text s) :: read)
  | .object ((key, v) :: rest) =>
    if key = embeddedKey then none
    else do return .ofMembers ((key, ← canonical? v) :: (← canonicalMembers? rest))
  | v => some v

def canonicalItems? : List Json → Option (List Json)
  | [] => some []
  | v :: rest => do return (← canonical? v) :: (← canonicalItems? rest)

def canonicalMembers? : List (String × Json) → Option (List (String × Json))
  | [] => some []
  | (key, v) :: rest => do return (key, ← canonical? v) :: (← canonicalMembers? rest)

end

end MarkupLint.Json
