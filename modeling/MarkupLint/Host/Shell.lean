import MarkupLint.Host.Script

/-! A small shell. It runs pipelines one after another; a substitution or a part of a pipeline runs
in a shell of its own, which shares the input. -/
namespace MarkupLint.Host

structure Shell where
  workspace : Workspace
  /-- The name in front of complaints. -/
  name : Bytes
  params : List Bytes
  assigned : List (Bytes × Bytes)
  status : Nat
  input : Bytes
  stdout : Bytes
  stderr : Bytes
  ended : Option ExitStatus

namespace Shell

def processId : Bytes := bytes "4242"

def valueOf (sh : Shell) (name : Bytes) : Bytes :=
  if name = bytes "?" then number sh.status
  else if name = bytes "$" then processId
  else if name = bytes "#" then number sh.params.length
  else if name = bytes "@" || name = bytes "*" then spaced sh.params
  else match name with
    | [d] =>
      if d = 0x30 then sh.name
      else if isDigitByte d then sh.params[d.toNat - 0x31]?.getD []
      else ((sh.assigned.find? fun v => v.1 == name).map Prod.snd).getD []
    | _ => ((sh.assigned.find? fun v => v.1 == name).map Prod.snd).getD []

def assign (sh : Shell) (name value : Bytes) : Shell :=
  { sh with assigned := (name, value) :: sh.assigned }

def fork (sh : Shell) (input : Bytes) : Shell := { sh with input := input, stdout := [] }

def exitCode (sh : Shell) : Nat :=
  match sh.ended with
  | some (.code n) => n
  | _ => sh.status

/-- Goes on after a fork has ended: its complaints and its status stay, and a signal ends both. -/
def join (sh sub : Shell) (input : Bytes) : Shell :=
  { sh with
    input := input
    stderr := sub.stderr
    status := sub.exitCode
    ended := match sub.ended with
      | some (.signal n) => some (.signal n)
      | _ => sh.ended }

abbrev Runner := Shell → Bytes → Shell

def substitution (run : Runner) (sh : Shell) (script : Bytes) : Shell × Bytes :=
  let sub := run (sh.fork sh.input) script
  let output := (sub.stdout.reverse.dropWhile (· = 0x0A)).reverse
  (sh.join sub sub.input, output)

structure Fields where
  complete : List Bytes
  current : Option Bytes

def Fields.add (f : Fields) (text : Bytes) : Fields :=
  { f with current := some (f.current.getD [] ++ text) }

def Fields.close (f : Fields) : Fields := ⟨f.complete ++ f.current.toList, none⟩

def Fields.addSplit (f : Fields) (text : Bytes) : Fields :=
  text.foldl
    (fun f b => if b = 0x20 || b = 0x09 || b = 0x0A then f.close else f.add [b])
    f

def expandPiece (run : Runner) (sh : Shell) : Piece → Shell × Bytes
  | .text t _ => (sh, t)
  | .variable name _ => (sh, sh.valueOf name)
  | .command script _ => substitution run sh script

def addPiece (f : Fields) (p : Piece) (text : Bytes) : Fields :=
  match p with
  | .text _ _ => f.add text
  | .variable _ quoted => if quoted then f.add text else f.addSplit text
  | .command _ quoted => if quoted then f.add text else f.addSplit text

def fieldsOf (run : Runner) (sh : Shell) (w : ScriptWord) : Shell × List Bytes :=
  let (sh, f) := w.foldl
    (fun (sh, f) p =>
      let (sh, text) := expandPiece run sh p
      (sh, addPiece f p text))
    (sh, ⟨[], none⟩)
  (sh, f.close.complete)

def textOf (run : Runner) (sh : Shell) (w : ScriptWord) : Shell × Bytes :=
  w.foldl
    (fun (sh, text) p =>
      let (sh, more) := expandPiece run sh p
      (sh, text ++ more))
    (sh, [])

def allFields (run : Runner) (sh : Shell) : List ScriptWord → Shell × List Bytes
  | [] => (sh, [])
  | w :: ws =>
    let (sh, fields) := fieldsOf run sh w
    let (sh, others) := allFields run sh ws
    (sh, fields ++ others)

inductive Sink where
  | out
  | error
  | nowhere

structure Streams where
  out : Sink
  error : Sink
  input : Option Bytes

def Streams.sink (s : Streams) (stream : Nat) : Sink :=
  if stream = 1 then s.out else if stream = 2 then s.error else .nowhere

def Streams.set (s : Streams) (stream : Nat) (sink : Sink) : Streams :=
  if stream = 1 then { s with out := sink } else if stream = 2 then { s with error := sink } else s

def redirected (run : Runner) (sh : Shell) (s : Streams) : List Redirect →
    Shell × Except String Streams
  | [] => (sh, .ok s)
  | .toStream stream target :: rest => redirected run sh (s.set stream (s.sink target)) rest
  | .toFile stream w :: rest =>
    let (sh, _) := textOf run sh w
    redirected run sh (s.set stream .nowhere) rest
  | .fromText w :: rest =>
    let (sh, text) := textOf run sh w
    redirected run sh { s with input := some text } rest
  | .fromFile w :: rest =>
    let (sh, file) := textOf run sh w
    if file = nullDevice then redirected run sh { s with input := some [] } rest
    else match sh.workspace.readBytes ⟨file⟩ with
      | .ok content => redirected run sh { s with input := some content } rest
      | .error e =>
        let cause := if e = .notFound then "No such file" else complaint e
        (sh, .error ("cannot open " ++ (Path.mk file).text ++ ": " ++ cause))

def send (sh : Shell) (sink : Sink) (text : Bytes) : Shell :=
  match sink with
  | .out => { sh with stdout := sh.stdout ++ text }
  | .error => { sh with stderr := sh.stderr ++ text }
  | .nowhere => sh

def complain (sh : Shell) (line : Nat) (text : Bytes) : Bytes :=
  sh.name ++ bytes ": " ++ number line ++ bytes ": " ++ text ++ [0x0A]

def signalNumber? (text : Bytes) : Option Nat :=
  if !text.isEmpty && text.all isDigitByte then
    some (text.foldl (fun n d => n * 10 + (d.toNat - 0x30)) 0)
  else match Text.text? text with
    | some cs =>
      let name := String.ofList cs
      ExitStatus.signalOf? (if name.startsWith "SIG" then (name.drop 3).toString else name)
    | none => none

/-- Signals that end nothing: a child changed, go on, urgent input, and a resized window. -/
def harmlessSignals : List Nat := [0, 17, 18, 23, 28]

def killTarget? : List Bytes → Option (Nat × List Bytes)
  | first :: rest =>
    match first with
    | 0x2D :: name =>
      if name = bytes "s" then
        match rest with
        | signal :: targets => (signalNumber? signal).map fun n => (n, targets)
        | [] => none
      else (signalNumber? name).map fun n => (n, rest)
    | _ => some (15, first :: rest)
  | [] => none

def kill (sh : Shell) (args : List Bytes) : Shell :=
  match killTarget? args with
  | none => { sh with status := 2 }
  | some (signal, targets) =>
    if targets.contains processId then
      if harmlessSignals.contains signal then { sh with status := 0 }
      else { sh with status := 0, ended := some (.signal signal) }
    else { sh with status := 1 }

def exit (sh : Shell) (line : Nat) (args : List Bytes) : Shell :=
  match args with
  | [] => { sh with ended := some (.code sh.status) }
  | arg :: _ =>
    if !arg.isEmpty && arg.all isDigitByte then
      let n := arg.foldl (fun n d => n * 10 + (d.toNat - 0x30)) 0
      { sh with ended := some (.code (n % 256)) }
    else
      { sh with
        stderr := sh.stderr ++ sh.complain line (bytes "exit: Illegal number: " ++ arg)
        ended := some (.code 2) }

def bareName (name : Bytes) : Bytes :=
  if Script.startsWith name "/bin/" then name.drop 5
  else if Script.startsWith name "/usr/bin/" then name.drop 9
  else name

def tool? (w : Workspace) (name : Bytes) : Option (List Bytes → Bytes → Done) :=
  let found : List (String × (List Bytes → Bytes → Done)) :=
    [("cat", cat w), ("echo", echo), ("printf", printf), ("wc", wc), ("grep", grep), ("sed", sed),
      ("true", fun _ input => ⟨[], [], 0, input⟩), ("false", fun _ input => ⟨[], [], 1, input⟩)]
  (found.find? fun t => bytes t.1 == bareName name).map Prod.snd

def command (sh : Shell) (line : Nat) (name : Bytes) (args : List Bytes) (input : Bytes) : Done :=
  if name = bytes "echo" then shellEcho args input
  else if name = bytes ":" then ⟨[], [], 0, input⟩
  else match tool? sh.workspace name with
    | some tool => tool args input
    | none =>
      let denied := name.contains Path.slash && (sh.workspace.find ⟨name⟩).isOk
      if denied then ⟨[], sh.complain line (name ++ bytes ": Permission denied"), 126, input⟩
      else ⟨[], sh.complain line (name ++ bytes ": not found"), 127, input⟩

def assignAll (run : Runner) (sh : Shell) : List (Bytes × ScriptWord) → Shell
  | [] => sh
  | (name, w) :: rest =>
    let (sh, value) := textOf run sh w
    assignAll run (sh.assign name value) rest

def runCommand (run : Runner) (sh : Shell) (c : Command) : Shell :=
  let (sh, words) := allFields run sh c.words
  let (sh, streams) := redirected run sh ⟨.out, .error, none⟩ c.redirects
  match streams with
  | .error text =>
    { sh with stderr := sh.stderr ++ sh.complain c.line (bytes text), status := 2 }
  | .ok streams =>
    match words with
    | [] => assignAll run { sh with status := 0 } c.assignments
    | name :: args =>
      if name = bytes "exit" then sh.exit c.line args
      else if name = bytes "kill" then sh.kill args
      else
        let done := sh.command c.line name args (streams.input.getD sh.input)
        let sh := { sh with
          status := done.status
          input := if streams.input.isSome then sh.input else done.input }
        (sh.send streams.error done.stderr).send streams.out done.stdout

def runPiped (run : Runner) (sh : Shell) (input : Bytes) : List Command → Shell × Bytes
  | [] => (sh, input)
  | c :: rest =>
    let sub := runCommand run (sh.fork input) c
    runPiped run (sh.join sub sh.input) sub.stdout rest

def runPipeline (run : Runner) (sh : Shell) (p : Pipeline) : Shell :=
  let sh :=
    match p.commands with
    | [c] => runCommand run sh c
    | [] => sh
    | first :: rest =>
      let sub := runCommand run (sh.fork sh.input) first
      let (sh, output) := runPiped run (sh.join sub sub.input) sub.stdout rest
      { sh with stdout := sh.stdout ++ output }
  if p.negated && sh.ended.isNone then { sh with status := if sh.status = 0 then 1 else 0 } else sh

def runs (sh : Shell) : Link → Bool
  | .always => true
  | .afterSuccess => sh.status = 0
  | .afterFailure => sh.status ≠ 0

def runScript (run : Runner) (sh : Shell) (s : Script) : Shell :=
  s.foldl
    (fun sh (link, p) => if sh.ended.isSome || !sh.runs link then sh else runPipeline run sh p)
    sh

def runText : Nat → Shell → Bytes → Shell
  | 0, sh, _ => sh
  | depth + 1, sh, text =>
    match Script.read text with
    | .ok script => runScript (runText depth) sh script
    | .error f =>
      { sh with
        stderr := sh.stderr ++ sh.complain f.line (bytes f.message)
        ended := some (.code 2) }

def run (w : Workspace) (name : Bytes) (params : List Bytes) (script input : Bytes) : Completion :=
  let sh := runText (script.length + 1) ⟨w, name, params, [], 0, input, [], [], none⟩ script
  ⟨sh.stdout, sh.stderr, sh.ended.getD (.code sh.status)⟩

end Shell

end MarkupLint.Host
