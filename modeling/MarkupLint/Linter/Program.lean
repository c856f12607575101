import MarkupLint.Adapter.Pass
import MarkupLint.Finding.Output
import MarkupLint.Host.Completion
import MarkupLint.Host.FileTree
import MarkupLint.Json.Printer

/-! The linter as a program: it reads one request and prints its findings. A failing program that
printed something is judged by what it printed. -/
namespace MarkupLint

/-- A program to run, with its arguments, in a directory. -/
structure LinterProgram where
  program : String
  args : List String
  workingDir : Option Path
  deriving DecidableEq, Repr

/-- What comes of a program that is started with an input: it ran to its end, or the system refused
to start it. The programs of a system are no part of this one. -/
abbrev Launch := LinterProgram → List UInt8 → Except SystemError Completion

namespace LinterProgram

def ofCommand (c : LinterCommand) (workingDir : Option Path) : LinterProgram :=
  ⟨c.command, c.args, workingDir⟩

def requestJson (source : String) (rules : Rule.Configuration) : Json :=
  .object [("source", .text source), ("config", rules.toJson)]

def request (source : String) (rules : Rule.Configuration) : List UInt8 :=
  Text.bytesOf (requestJson source rules).chars

def failureMessage (c : Completion) : String :=
  String.ofList (Text.trim (Text.lossyText c.stderr)) ++ " (" ++ c.status.text ++ ")"

def judge (c : Completion) : Reply :=
  let output := Text.lossyText c.stdout
  if !c.status.isSuccess && (Text.trim output).isEmpty then .error (.process (failureMessage c))
  else Finding.ofOutput output

/-- The reply of a program that ran or did not start. -/
def reply (l : LinterProgram) : Except SystemError Completion → Reply
  | .ok c => judge c
  | .error e => .error (.spawn l.program e.message)

/-- The program is started for each source, and its input is the request. -/
def lint (launch : Launch) (l : LinterProgram) (source : String) (rules : Rule.Configuration) :
    Reply :=
  l.reply (launch l (request source rules))

end LinterProgram

end MarkupLint
