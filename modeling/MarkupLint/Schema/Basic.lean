import MarkupLint.Json.Printer

/-! Schemas of JSON values, and the first violation of a schema in a value: members are looked at
in their order, and missing members after those that are there. -/
namespace MarkupLint

inductive Schema where
  | anything
  | boolean
  /-- A text of at least so many characters. -/
  | text (least : Nat)
  /-- One of some texts. -/
  | choice (names : List String)
  | arrayOf (item : Schema)
  /-- An array of exactly these items. -/
  | tuple (items : List Schema)
  /-- An object with any keys. -/
  | mapOf (value : Schema)
  /-- An object with no other members than these. -/
  | record (known : List (String × Schema)) (required : List String)
  /-- Exactly one of the schemas. -/
  | oneOf (options : List Schema)

namespace Schema

inductive Step where
  | key (name : String)
  | index (n : Nat)
  deriving DecidableEq, Repr

inductive Cause where
  | wrongType (value : Json) (type : String)
  | tooShort (value : Json) (least : Nat)
  | notListed (value : Json)
  | wrongLength (value : Json)
  | unknownMember (name : String)
  | missingMember (name : String)
  | noOption (value : Json)
  | severalOptions (value : Json)

structure Violation where
  cause : Cause
  path : List Step

def Cause.message : Cause → String
  | .wrongType v t => v.compact ++ " is not of type \"" ++ t ++ "\""
  | .tooShort v n =>
    v.compact ++ " is shorter than " ++ toString n ++ (if n = 1 then " character" else " characters")
  | .notListed v => v.compact ++ " is not one of the listed values"
  | .wrongLength v => v.compact ++ " has a wrong number of items"
  | .unknownMember n => "Additional properties are not allowed ('" ++ n ++ "' was unexpected)"
  | .missingMember n => Json.compact (.text n) ++ " is a required property"
  | .noOption v =>
    v.compact ++ " is not valid under any of the schemas listed in the 'oneOf' keyword"
  | .severalOptions v =>
    v.compact ++ " is valid under more than one of the schemas listed in the 'oneOf' keyword"

def escapeStep (name : String) : String :=
  String.ofList (name.toList.flatMap fun c =>
    if c = '~' then ['~', '0'] else if c = '/' then ['~', '1'] else [c])

def Step.text : Step → String
  | .key name => escapeStep name
  | .index n => toString n

def pointer (path : List Step) : String := String.join (path.map fun s => "/" ++ s.text)

def Violation.message (v : Violation) : String := v.cause.message ++ " at " ++ pointer v.path

def Violation.under (s : Step) (v : Violation) : Violation := { v with path := s :: v.path }

def violated (cause : Cause) : Option Violation := some ⟨cause, []⟩

def firstInItems (check : Json → Option Violation) (n : Nat) : List Json → Option Violation
  | [] => none
  | v :: rest => ((check v).map (·.under (.index n))).or (firstInItems check (n + 1) rest)

def firstInMembers (check : String → Json → Option Violation) :
    List (String × Json) → Option Violation
  | [] => none
  | (key, v) :: rest => (check key v).or (firstInMembers check rest)

def firstMissing (members : List (String × Json)) (required : List String) : Option Violation :=
  (required.find? fun name => !members.any fun m => m.1 == name).map fun name =>
    ⟨.missingMember name, []⟩

mutual

def check : Schema → Json → Option Violation
  | .anything, _ => none
  | .boolean, .boolean _ => none
  | .boolean, v => violated (.wrongType v "boolean")
  | .text least, .text s => if s.length < least then violated (.tooShort (.text s) least) else none
  | .text _, v => violated (.wrongType v "string")
  | .choice names, .text s => if names.contains s then none else violated (.notListed (.text s))
  | .choice _, v => violated (.wrongType v "string")
  | .arrayOf item, .array items => firstInItems (check item) 0 items
  | .arrayOf _, v => violated (.wrongType v "array")
  | .tuple schemas, .array items =>
    if items.length = schemas.length then checkTuple schemas 0 items
    else violated (.wrongLength (.array items))
  | .tuple _, v => violated (.wrongType v "array")
  | .mapOf value, .object members =>
    firstInMembers (fun key v => (check value v).map (·.under (.key key))) members
  | .mapOf _, v => violated (.wrongType v "object")
  | .record known required, .object members =>
    (firstInMembers (checkMember known) members).or (firstMissing members required)
  | .record _ _, v => violated (.wrongType v "object")
  | .oneOf options, v =>
    match countValid options v with
    | 0 => violated (.noOption v)
    | 1 => none
    | _ => violated (.severalOptions v)

def checkTuple : List Schema → Nat → List Json → Option Violation
  | [], _, _ => none
  | _, _, [] => none
  | s :: schemas, n, v :: items =>
    ((check s v).map (·.under (.index n))).or (checkTuple schemas (n + 1) items)

def checkMember : List (String × Schema) → String → Json → Option Violation
  | [], key, _ => violated (.unknownMember key)
  | (name, s) :: known, key, v =>
    if key = name then (check s v).map (·.under (.key key)) else checkMember known key v

def countValid : List Schema → Json → Nat
  | [], _ => 0
  | s :: options, v => (if (check s v).isNone then 1 else 0) + countValid options v

end

def accepts (s : Schema) (v : Json) : Bool := (s.check v).isNone

end Schema

end MarkupLint
