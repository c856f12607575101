import MarkupLint.Path

/-! A tree of files, and what paths lead to in it. -/
namespace MarkupLint

inductive SystemError where
  | notFound
  | permissionDenied
  | notDirectory
  | isDirectory
  | invalidText
  | nulInArgument
  | nulInPath
  | nameTooLong
  deriving DecidableEq, Repr

def SystemError.message : SystemError → String
  | .notFound => "No such file or directory (os error 2)"
  | .permissionDenied => "Permission denied (os error 13)"
  | .notDirectory => "Not a directory (os error 20)"
  | .isDirectory => "Is a directory (os error 21)"
  | .invalidText => "stream did not contain valid UTF-8"
  | .nulInArgument => "nul byte found in provided data"
  | .nulInPath => "file name contained an unexpected NUL byte"
  | .nameTooLong => "File name too long (os error 36)"

abbrev FileName := List UInt8

inductive FileTree where
  | file (content : List UInt8)
  /-- A file that may not be read. -/
  | sealed
  | directory (entries : List (FileName × FileTree))
  deriving Inhabited

namespace FileTree

def empty : FileTree := .directory []

def child? (entries : List (FileName × FileTree)) (name : FileName) : Option FileTree :=
  (entries.find? fun e => e.1 == name).map Prod.snd

def setEntry (entries : List (FileName × FileTree)) (name : FileName) (t : FileTree) :
    List (FileName × FileTree) :=
  if (entries.find? fun e => e.1 == name).isSome then
    entries.map fun e => if e.1 == name then (name, t) else e
  else entries ++ [(name, t)]

def longestName : Nat := 255

def pathLimit : Nat := 4096

/-- Follows the parts of a path. The trail holds the trees on the way, the innermost first; the
parent of the outermost one is itself. -/
def follow : List FileTree → List FileName → Except SystemError FileTree
  | [], _ => .error .notFound
  | here :: above, parts =>
    match parts with
    | [] => .ok here
    | part :: rest =>
      match here with
      | .file _ => .error .notDirectory
      | .sealed => .error .notDirectory
      | .directory entries =>
        if Path.isIdle part then follow (here :: above) rest
        else if part = [Path.dot, Path.dot] then
          follow (match above with
            | [] => [here]
            | trail => trail) rest
        else match child? entries part with
          | none => .error (if part.length ≤ longestName then .notFound else .nameTooLong)
          | some t => follow (t :: here :: above) rest

def find (root : FileTree) (p : Path) : Except SystemError FileTree :=
  if p.bytes.contains 0 then .error .nulInPath
  else if p.bytes.isEmpty then .error .notFound
  else if pathLimit ≤ p.bytes.length then .error .nameTooLong
  else follow [root] (Path.splitParts p.bytes)

def isFile (root : FileTree) (p : Path) : Bool :=
  match root.find p with
  | .ok (.file _) => true
  | .ok .sealed => true
  | _ => false

def isDirectory (root : FileTree) (p : Path) : Bool :=
  match root.find p with
  | .ok (.directory _) => true
  | _ => false

def readBytes (root : FileTree) (p : Path) : Except SystemError (List UInt8) :=
  match root.find p with
  | .ok (.file content) => .ok content
  | .ok .sealed => .error .permissionDenied
  | .ok (.directory _) => .error .isDirectory
  | .error e => .error e

def readText (root : FileTree) (p : Path) : Except SystemError String := do
  match Text.text? (← root.readBytes p) with
  | some cs => return String.ofList cs
  | none => throw .invalidText

def put (t : FileTree) : FileTree → List FileName → FileTree
  | _, [] => t
  | .file content, _ :: _ => .file content
  | .sealed, _ :: _ => .sealed
  | .directory entries, name :: rest =>
    let below := (child? entries name).getD empty
    .directory (setEntry entries name (put t below rest))

def remove : FileTree → List FileName → FileTree
  | .directory entries, [name] => .directory (entries.filter fun e => e.1 != name)
  | .directory entries, name :: rest =>
    match child? entries name with
    | none => .directory entries
    | some below => .directory (setEntry entries name (remove below rest))
  | t, _ => t
termination_by _ names => names.length

def names (p : Path) : List FileName :=
  p.components.filterMap fun
    | .name bytes => some bytes
    | _ => none

def write (root : FileTree) (p : Path) (content : List UInt8) : FileTree :=
  put (.file content) root (names p)

def makeDirectory (root : FileTree) (p : Path) : FileTree :=
  if root.isDirectory p then root else put empty root (names p)

def delete (root : FileTree) (p : Path) : FileTree := remove root (names p)

end FileTree

structure Workspace where
  files : FileTree
  directory : Path

namespace Workspace

def locate (w : Workspace) (p : Path) : Path :=
  if p.bytes.isEmpty then p else w.directory.join p

def find (w : Workspace) (p : Path) : Except SystemError FileTree := w.files.find (w.locate p)

def isFile (w : Workspace) (p : Path) : Bool := w.files.isFile (w.locate p)

def readBytes (w : Workspace) (p : Path) : Except SystemError (List UInt8) :=
  w.files.readBytes (w.locate p)

def readText (w : Workspace) (p : Path) : Except SystemError String :=
  w.files.readText (w.locate p)

end Workspace

end MarkupLint
