import MarkupLint.CommandLine.Help
import MarkupLint.CommandLine.Lint
import MarkupLint.Host.Launch

/-! What the program prints and returns for its arguments; the server has a session of its own. -/
namespace MarkupLint.CommandLine

structure Exit where
  stdout : String
  status : Nat
  deriving DecidableEq, Repr

/-- Arguments that are refused, settings that are bad, and files that end the run have status 2. -/
def failureStatus : Nat := 2

def printed (lines : List String) : String := String.join (lines.map (· ++ "\n"))

def LintRun.exit (r : LintRun) : Exit := ⟨printed r.lines, r.status⟩

def runLint (launch : Launch) (w : Workspace) (config : Option String) (files : List String) :
    Exit :=
  match lint launch w (config.map Path.ofText) (files.map Path.ofText) with
  | .ok r => r.exit
  | .error _ => ⟨"", failureStatus⟩

/-- The files that arguments name, and the config files that may be looked for. -/
def filesOf (args : List String) : List Path :=
  match Invocation.ofArguments args with
  | .ok (.lint config files) =>
    (match config with
      | some p => [p]
      | none => Settings.fileNames).map Path.ofText ++ files.map Path.ofText
  | _ => []

/-- What the arguments ask for: something to print, or a server with a config file. -/
inductive Start where
  | exit (e : Exit)
  | serve (config : Option Path)

def start (w : Workspace) (args : List String) : Start :=
  match Invocation.ofArguments args with
  | .error _ => .exit ⟨"", failureStatus⟩
  | .ok (.help t) => .exit ⟨t.text, 0⟩
  | .ok .version => .exit ⟨versionText, 0⟩
  | .ok (.lint config files) => .exit (runLint (Host.launch w) w config files)
  | .ok (.serve config) => .serve (config.map Path.ofText)

end MarkupLint.CommandLine
