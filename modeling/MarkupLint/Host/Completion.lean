/-! How a program ended, and what it printed. -/
namespace MarkupLint

inductive ExitStatus where
  | code (n : Nat)
  | signal (n : Nat)
  deriving DecidableEq, Repr

namespace ExitStatus

def signalNames : List String :=
  ["HUP", "INT", "QUIT", "ILL", "TRAP", "ABRT", "BUS", "FPE", "KILL", "USR1", "SEGV", "USR2",
    "PIPE", "ALRM", "TERM", "STKFLT", "CHLD", "CONT", "STOP", "TSTP", "TTIN", "TTOU", "URG",
    "XCPU", "XFSZ", "VTALRM", "PROF", "WINCH", "IO", "PWR", "SYS"]

def signalOf? (name : String) : Option Nat :=
  (signalNames.zipIdx.find? fun e => e.1 == name).map fun e => e.2 + 1

def isSuccess : ExitStatus → Bool
  | .code n => n = 0
  | .signal _ => false

def text : ExitStatus → String
  | .code n => "exit status: " ++ toString n
  | .signal n =>
    "signal: " ++ toString n ++
      (match signalNames[n - 1]? with
        | some name => " (SIG" ++ name ++ ")"
        | none => "")

end ExitStatus

structure Completion where
  stdout : List UInt8
  stderr : List UInt8
  status : ExitStatus
  deriving Repr

end MarkupLint
