import MarkupLint.Json.Fault

/-! Reading a text from left to right. A reader may fail, and the cursor stays where it failed. -/
namespace MarkupLint.Json

def Place.after (p : Place) (c : Char) : Place :=
  if c = '\n' then ⟨p.line + 1, 0⟩ else ⟨p.line, p.column + c.utf8Size⟩

def Place.afterBytes (p : Place) : Nat → List Char → Place
  | 0, _ => p
  | _ + 1, [] => p
  | n + 1, c :: rest =>
    if c.utf8Size ≤ n + 1 then (p.after c).afterBytes (n + 1 - c.utf8Size) rest
    else ⟨p.line, p.column + (n + 1)⟩

structure Cursor where
  place : Place
  rest : List Char

def Cursor.start (cs : List Char) : Cursor := ⟨⟨1, 0⟩, cs⟩

def Cursor.next (c : Cursor) : Cursor :=
  match c.rest with
  | [] => c
  | d :: rest => ⟨c.place.after d, rest⟩

def Cursor.ahead (c : Cursor) : Place := c.place.afterBytes 1 c.rest

abbrev Reader := ExceptT Fault (StateM Cursor)

namespace Reader

def failHere (cause : Cause) : Reader α := fun c => (.error ⟨cause, some c.place⟩, c)

def failAhead (cause : Cause) : Reader α := fun c => (.error ⟨cause, some c.ahead⟩, c)

/-- Fails with no place; the value that holds this one gives it a place. -/
def mismatch (m : Mismatch) : Reader α := fun c => (.error ⟨.mismatch m, none⟩, c)

def skip : Reader Unit := fun c => (.ok (), c.next)

def peek : Reader (Option Char) := fun c => (.ok c.rest.head?, c)

def remaining : Reader Nat := fun c => (.ok c.rest.length, c)

def isBlank (c : Char) : Bool := c = ' ' || c = '\n' || c = '\t' || c = '\r'

def Cursor.dropBlanks (c : Cursor) : Cursor :=
  ⟨(c.rest.takeWhile isBlank).foldl Place.after c.place, c.rest.dropWhile isBlank⟩

/-- The next character that is not blank; the blanks before it are gone. -/
def peekToken : Reader (Option Char) := fun c =>
  let d := Cursor.dropBlanks c
  (.ok d.rest.head?, d)

def attempt (r : Reader α) : Reader (Except Fault α) := fun c =>
  let (outcome, d) := r c
  (.ok outcome, d)

def placed (r : Reader α) : Reader α := fun c =>
  match r c with
  | (.error f, d) => (.error ⟨f.cause, f.place.or (some d.place)⟩, d)
  | done => done

/-- Reads a whole text, with nothing but blanks after the value. -/
def run (r : Reader α) (cs : List Char) : Except Fault α :=
  let whole : Reader α := do
    let a ← r
    match ← peekToken with
    | none => return a
    | some _ => failAhead .trailingCharacters
  (whole (Cursor.start cs)).1

end Reader

end MarkupLint.Json
