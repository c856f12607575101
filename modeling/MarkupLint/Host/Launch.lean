import MarkupLint.Host.Shell
import MarkupLint.Linter.Program

/-! What starting a program comes to: it ran, or the system refused it. -/
namespace MarkupLint

namespace Host

def shellProgram (w : Workspace) (name : Bytes) (args : List Bytes) (input : Bytes) : Completion :=
  match args with
  | [] => Shell.run w name [] input []
  | first :: rest =>
    if first = bytes "-c" then
      match rest with
      | [] => ⟨[], name ++ bytes ": 0: -c requires an argument\n", .code 2⟩
      | [script] => Shell.run w name [] script input
      | script :: name :: params => Shell.run w name params script input
    else match w.readBytes ⟨first⟩ with
      | .ok script => Shell.run w first rest script input
      | .error e =>
        let cause := if e = .notFound then "No such file" else complaint e
        ⟨[], name ++ bytes ": 0: cannot open " ++ first ++ bytes (": " ++ cause ++ "\n"), .code 2⟩

def shellNames : List String := ["sh", "/bin/sh", "/usr/bin/sh"]

def runProgram? (w : Workspace) (name : Bytes) (args : List Bytes) (input : Bytes) :
    Option Completion :=
  if shellNames.any fun n => bytes n == name then some (shellProgram w name args input)
  else (Shell.tool? w name).map fun tool =>
    let d := tool args input
    ⟨d.stdout, d.stderr, .code d.status⟩

/-- Why a name that is no program's is refused. A name with a slash is a path; another one is looked
for among the programs, where the names of directories lead to directories. -/
def refusal (w : Workspace) (name : Bytes) : SystemError :=
  if name.contains Path.slash then
    match w.find ⟨name⟩ with
    | .ok _ => .permissionDenied
    | .error e => e
  else if name = bytes "." || name = bytes ".." then .permissionDenied
  else if 255 < name.length then .nameTooLong
  else .notFound

end Host

namespace LinterProgram

open Host (bytes)

def start (l : LinterProgram) (w : Workspace) : Except SystemError Workspace :=
  match l.workingDir with
  | none => .ok w
  | some dir =>
    match w.find dir with
    | .ok (.directory _) => .ok { w with directory := w.locate dir }
    | .ok (.file _) => .error .notDirectory
    | .ok .sealed => .error .notDirectory
    | .error .nulInPath => .error .nulInArgument
    | .error e => .error e

def run (l : LinterProgram) (w : Workspace) (input : List UInt8) : Except SystemError Completion :=
  let texts := bytes l.program :: l.args.map bytes
  if texts.any fun t => t.contains 0 then .error .nulInArgument
  else do
    let w ← l.start w
    match Host.runProgram? w (bytes l.program) (l.args.map bytes) input with
    | some c => .ok c
    | none => .error (Host.refusal w (bytes l.program))

end LinterProgram

/-- The programs that stand for those of a system. -/
def Host.launch (w : Workspace) : Launch := fun l input => l.run w input

end MarkupLint
