import MarkupLint.Linter.Program
import MarkupLint.Settings.Exclude
import MarkupLint.Settings.Load

/-! Linting files once. The files are taken in order, up to the first one that cannot be read or
linted; what was found before it is printed all the same. -/
namespace MarkupLint.CommandLine

inductive FileResult where
  | excluded
  | unreadable (e : SystemError)
  | failed (e : LintError)
  | linted (findings : List Finding)

inductive Deed where
  | read (file : Path)
  | lint (file : Path)
  deriving DecidableEq, Repr

/-- What linting files needs to know about each. -/
structure Examiner where
  excludes : Path → Bool
  read : Path → Except SystemError String
  lint : String → Reply

namespace Examiner

def examine (x : Examiner) (file : Path) : FileResult :=
  if x.excludes file then .excluded
  else match x.read file with
    | .error e => .unreadable e
    | .ok text =>
      match x.lint text with
      | .error e => .failed e
      | .ok findings => .linted findings

/-- What is done to a file: an excluded one is not even read. -/
def deeds (x : Examiner) (file : Path) : List Deed :=
  if x.excludes file then []
  else match x.read file with
    | .error _ => [.read file]
    | .ok _ => [.read file, .lint file]

end Examiner

def findingLine (file : Path) (f : Finding) : String :=
  file.text ++ ":" ++ toString f.line ++ ":" ++ toString f.column ++ " " ++ f.kind.name ++ " " ++
    f.display

structure Tally where
  lines : List String
  checked : Nat
  issues : Nat
  hasErrors : Bool
  deeds : List Deed
  deriving DecidableEq, Repr

def Tally.empty : Tally := ⟨[], 0, 0, false, []⟩

def Tally.add (t : Tally) (file : Path) (findings : List Finding) : Tally where
  lines := t.lines ++ findings.map (findingLine file)
  checked := t.checked + 1
  issues := t.issues + findings.length
  hasErrors := t.hasErrors || findings.any Finding.isError
  deeds := t.deeds

/-- What has come of the files, and whether one of them ended it. -/
structure LintRun where
  tally : Tally
  completed : Bool
  deriving DecidableEq, Repr

def lintFrom (x : Examiner) (t : Tally) : List Path → LintRun
  | [] => ⟨t, true⟩
  | file :: rest =>
    let t := { t with deeds := t.deeds ++ x.deeds file }
    match x.examine file with
    | .excluded => lintFrom x t rest
    | .unreadable _ => ⟨t, false⟩
    | .failed _ => ⟨t, false⟩
    | .linted findings => lintFrom x (t.add file findings) rest

def lintFiles (x : Examiner) (files : List Path) : LintRun := lintFrom x .empty files

def summary (t : Tally) : String :=
  "Checked " ++ toString t.checked ++ " files, found " ++ toString t.issues ++ " issues"

/-- The lines that are printed: the summary only where no file ended it. -/
def LintRun.lines (r : LintRun) : List String :=
  r.tally.lines ++ (if r.completed then ["", summary r.tally] else [])

def LintRun.status (r : LintRun) : Nat :=
  if !r.completed then 2 else if r.tally.hasErrors then 1 else 0

/-- The settings that the files are linted with: those of a named config file, else of the one in
the current directory, else the defaults. -/
def lintSettings (w : Workspace) (config : Option Path) : Except LintError Settings :=
  match config with
  | some p => Settings.load w p
  | none =>
    match Settings.discover w (.ofText ".") with
    | some p => Settings.load w p
    | none => .ok .default

def Examiner.ofSettings (launch : Launch) (w : Workspace) (s : Settings)
    (excludes : Option (List Glob)) : Examiner where
  excludes file := excludes.any fun set => Settings.matchesAny set file
  read file := w.readText file
  lint text := (LinterProgram.ofCommand s.linterCommand none).lint launch text s.configuration

def lint (launch : Launch) (w : Workspace) (config : Option Path) (files : List Path) :
    Except LintError LintRun := do
  let s ← lintSettings w config
  let excludes ← s.excludeSet
  return lintFiles (.ofSettings launch w s excludes) files

end MarkupLint.CommandLine
