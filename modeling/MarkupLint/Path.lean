import MarkupLint.Text.Utf8

/-! File paths: bytes, cut into components by slashes. A path need not be valid text. -/
namespace MarkupLint

structure Path where
  bytes : List UInt8
  deriving DecidableEq, Repr, Inhabited

inductive Path.Component where
  | root
  | current
  | parent
  | name (bytes : List UInt8)
  deriving DecidableEq, Repr

namespace Path

def slash : UInt8 := 0x2F

def dot : UInt8 := 0x2E

def ofText (s : String) : Path := ⟨Text.utf8 s⟩

/-- The path as it is shown; what is not text becomes replacement characters. -/
def text (p : Path) : String := String.ofList (Text.lossyText p.bytes)

def isAbsolute (p : Path) : Bool := p.bytes.head? = some slash

def splitParts : List UInt8 → List (List UInt8)
  | [] => [[]]
  | b :: rest =>
    if b = slash then [] :: splitParts rest
    else match splitParts rest with
      | [] => [[b]]
      | part :: parts => (b :: part) :: parts

def joinParts : List (List UInt8) → List UInt8
  | [] => []
  | [part] => part
  | part :: parts => part ++ slash :: joinParts parts

/-- A part that names nothing: empty, or a dot behind other parts. -/
def isIdle (part : List UInt8) : Bool := part = [] || part = [dot]

def componentOf (part : List UInt8) : Component :=
  if part = [dot, dot] then .parent else .name part

/-- Repeated slashes count once, and a dot counts only at the start of a relative path. -/
def components (p : Path) : List Component :=
  let behind (parts : List (List UInt8)) : List Component :=
    (parts.filter fun part => !isIdle part).map componentOf
  match splitParts p.bytes with
  | [] => []
  | first :: parts =>
    if p.isAbsolute then .root :: behind parts
    else if first = [dot] then .current :: behind parts
    else behind (first :: parts)

def same (p q : Path) : Bool := p.components == q.components

def join (p q : Path) : Path :=
  if q.isAbsolute then q
  else match p.bytes.getLast? with
    | none => q
    | some b => if b = slash then ⟨p.bytes ++ q.bytes⟩ else ⟨p.bytes ++ slash :: q.bytes⟩

/-- Drops idle parts, given from the last one. The part that starts the path stays. -/
def dropIdle : List (List UInt8) → List (List UInt8)
  | [] => []
  | [first] => [first]
  | part :: parts => if isIdle part then dropIdle parts else part :: parts

/-- The path without its last component; none for the root and for the empty path. -/
def parent? (p : Path) : Option Path :=
  match dropIdle (splitParts p.bytes).reverse with
  | [] => none
  | [[]] => none
  | [_] => some ⟨[]⟩
  | _ :: parts =>
    match dropIdle parts with
    | [[]] => some ⟨[slash]⟩
    | parts => some ⟨joinParts parts.reverse⟩

end Path

end MarkupLint
