import MarkupLint.Settings.Decode
import MarkupLint.Url.Parse

/-! Shapes of the values in messages. Reading a value by a shape gives the value with every record
as an object of its known fields, or says what is wrong first: with the members in their order, then
with the fields that are missing. -/
namespace MarkupLint

open Json (Mismatch)

inductive Presence where
  | required
  /-- An object may lack it, an array of fields may not. -/
  | nullable
  | defaulted
  deriving DecidableEq, Repr

inductive Shape where
  | anything
  | text
  | boolean
  | signed32
  | unsigned32
  | url
  | choice (names : List String)
  /-- Null, or a value of the shape. -/
  | optional (s : Shape)
  | listOf (item : Shape)
  | record (name : String) (fields : List (String × Presence × Shape))

namespace Shape

def asInteger (low high : Int) (type : String) (v : Json) : Except Mismatch Json :=
  match v with
  | .number (.integer n) =>
    if low ≤ n ∧ n ≤ high then .ok v else .error (.wrongValue (.integer n) type)
  | v => .error (.wrongType v.found type)

def asUrl : Json → Except Mismatch Json
  | .text s =>
    match Url.parse s with
    | .ok _ => .ok (.text s)
    | .error f => .error (.other (f.message ++ ": " ++ Text.quoted s))
  | v => .error (.wrongType v.found "a string representing an URL")

/-- A name of the choice, or an object with the name as its only key and null as its value. -/
def asChoice (names : List String) : Json → Except Mismatch Json
  | .text s => if names.contains s then .ok (.text s) else .error (.unknownVariant s names)
  | .object [(s, v)] =>
    if !names.contains s then .error (.unknownVariant s names)
    else if v.isNull then .ok (.text s)
    else .error (.wrongType v.found "unit variant")
  | .object _ => .error (.wrongValue .map "map with a single key")
  | v => .error (.wrongType v.found "string or map")

/-- A field as it was read from an object; none where the object lacks it. -/
structure FieldRead where
  name : String
  presence : Presence
  read : Option (Except Mismatch Json)

def firstBad (members : List (String × Json)) (fields : List FieldRead) : Option Mismatch :=
  members.findSome? fun m =>
    match fields.find? fun f => f.name == m.1 with
    | some ⟨_, _, some (.error e)⟩ => some e
    | _ => none

def firstMissing (fields : List FieldRead) : Option Mismatch :=
  (fields.find? fun f => f.presence = .required && f.read.isNone).map fun f => .missingField f.name

def FieldRead.member (f : FieldRead) : String × Json :=
  (f.name, match f.read with
    | some (.ok v) => v
    | _ => .null)

def wholeObject (members : List (String × Json)) (fields : List FieldRead) :
    Except Mismatch Json :=
  match (firstBad members fields).or (firstMissing fields) with
  | some e => .error e
  | none => .ok (.object (fields.map FieldRead.member))

def elements (n : Nat) : String := toString n ++ (if n = 1 then " element" else " elements")

mutual

def read : Shape → Json → Except Mismatch Json
  | .anything, v => .ok v
  | .text, v => v.asText.map .text
  | .boolean, .boolean b => .ok (.boolean b)
  | .boolean, v => .error (.wrongType v.found "a boolean")
  | .signed32, v => asInteger (-0x80000000) 0x7FFFFFFF "i32" v
  | .unsigned32, v => asInteger 0 0xFFFFFFFF "u32" v
  | .url, v => asUrl v
  | .choice names, v => asChoice names v
  | .optional s, v => if v.isNull then .ok .null else s.read v
  | .listOf item, .array items => (items.mapM item.read).map .array
  | .listOf _, v => .error (.wrongType v.found "a sequence")
  | .record _ fields, .object members => wholeObject members (readMembers members fields)
  | .record name fields, .array items => do
    let whole := "struct " ++ name ++ " with " ++ elements fields.length
    let read ← readItems whole 0 items fields
    if items.length ≤ fields.length then return .object read else throw (Json.surplus items)
  | .record name _, v => .error (.wrongType v.found ("struct " ++ name))

def readMembers (members : List (String × Json)) :
    List (String × Presence × Shape) → List FieldRead
  | [] => []
  | (name, presence, s) :: rest =>
    ⟨name, presence, (members.find? fun m => m.1 == name).map fun m => s.read m.2⟩ ::
      readMembers members rest

def readItems (whole : String) (n : Nat) (items : List Json) :
    List (String × Presence × Shape) → Except Mismatch (List (String × Json))
  | [] => .ok []
  | (name, presence, s) :: rest =>
    match items with
    | v :: items => do
      let first ← s.read v
      return (name, first) :: (← readItems whole (n + 1) items rest)
    | [] =>
      if presence = .defaulted then do
        return (name, .null) :: (← readItems whole (n + 1) [] rest)
      else .error (.wrongLength n whole)

end

end Shape

end MarkupLint
