/-! The arguments of the program: a command, options before and behind it, and files. Options stand
for one level, of which the command's is the inner one; none may be given twice at a level. -/
namespace MarkupLint.CommandLine

inductive Topic where
  | program
  | lint
  | serve
  | help
  deriving DecidableEq, Repr

inductive Invocation where
  | help (t : Topic)
  | version
  | lint (config : Option String) (files : List String)
  | serve (config : Option String)
  deriving DecidableEq, Repr

inductive UsageError where
  | missingCommand
  | unknownCommand (name : String)
  | unknownOption (arg : String)
  | unexpectedArgument (arg : String)
  | unexpectedValue (option : String)
  | missingValue (option : String)
  | repeated (option : String)
  | missingFiles
  deriving DecidableEq, Repr

structure Options where
  verbose : Bool
  config : Option String

def Options.none : Options := ⟨false, .none⟩

inductive Effect where
  | help
  | version
  /-- Goes on with these options; the next argument may have to be the value of the last one. -/
  | more (options : Options) (waits : Bool)

inductive Arg where
  /-- Two hyphens alone: only words follow. -/
  | separator
  | long (name : String) (value : Option String)
  | short (letters : List Char)
  | word (w : String)

def Arg.ofString (s : String) : Arg :=
  match s.toList with
  | ['-', '-'] => .separator
  | '-' :: '-' :: rest =>
    let name := rest.takeWhile (· ≠ '=')
    .long (String.ofList name)
      (if name.length = rest.length then none
        else some (String.ofList (rest.drop (name.length + 1))))
  | '-' :: c :: rest => .short (c :: rest)
  | _ => .word s

def setVerbose (o : Options) : Except UsageError Options :=
  if o.verbose then .error (.repeated "verbose") else .ok { o with verbose := true }

/-- A config path is never empty. -/
def setConfig (o : Options) (value : String) : Except UsageError Options :=
  if value.isEmpty then .error (.missingValue "config")
  else if o.config.isSome then .error (.repeated "config")
  else .ok { o with config := some value }

/-- Letters behind one hyphen. What follows the letter of an option with a value is the value, with
or without an equals sign in front. -/
def shortOptions (outer : Bool) (o : Options) : List Char → Except UsageError Effect
  | [] => .ok (.more o false)
  | 'h' :: _ => .ok .help
  | 'V' :: _ => if outer then .ok .version else .error (.unknownOption "V")
  | 'v' :: letters => do shortOptions outer (← setVerbose o) letters
  | ['c'] => .ok (.more o true)
  | 'c' :: '=' :: value => do return .more (← setConfig o (String.ofList value)) false
  | 'c' :: value => do return .more (← setConfig o (String.ofList value)) false
  | c :: _ => .error (.unknownOption (String.singleton c))

def longOption (outer : Bool) (o : Options) (name : String) (value : Option String) :
    Except UsageError Effect :=
  match name, value with
  | "config", some v => do return .more (← setConfig o v) false
  | "config", none => .ok (.more o true)
  | "verbose", none => do return .more (← setVerbose o) false
  | "help", none => .ok .help
  | "version", none => if outer then .ok .version else .error (.unknownOption name)
  | "verbose", some _ => .error (.unexpectedValue name)
  | "help", some _ => .error (.unexpectedValue name)
  | _, _ => .error (.unknownOption name)

/-- What an argument is at a level: an option, which has its effect, a word, or a separator. -/
inductive Reading where
  | effect (e : Effect)
  | word (w : String)
  | separator

/-- Where a value is waited for, only a word will do. -/
def readArgument (outer : Bool) (o : Options) (waits : Bool) (arg : String) :
    Except UsageError Reading :=
  match Arg.ofString arg with
  | .separator => if waits then .error (.missingValue "config") else .ok .separator
  | .long name value =>
    if waits then .error (.missingValue "config")
    else do return .effect (← longOption outer o name value)
  | .short letters =>
    if waits then .error (.missingValue "config")
    else do return .effect (← shortOptions outer o letters)
  | .word w => if waits then do return .effect (.more (← setConfig o w) false) else .ok (.word w)

/-- Options of an inner level count before those of the outer one. -/
def innermost (outer inner : Options) : Option String := inner.config.or outer.config

def addFile (files : List String) (w : String) : Except UsageError (List String) :=
  if w.isEmpty then .error (.missingValue "files") else .ok (files ++ [w])

def lintOf (outer inner : Options) (waits : Bool) (files : List String) :
    Except UsageError Invocation :=
  if waits then .error (.missingValue "config")
  else if files.isEmpty then .error .missingFiles
  else .ok (.lint (innermost outer inner) files)

def readLint (outer o : Options) (waits : Bool) (files : List String) :
    List String → Except UsageError Invocation
  | [] => lintOf outer o waits files
  | arg :: rest => do
    match ← readArgument false o waits arg with
    | .effect .help => return .help .lint
    | .effect .version => return .version
    | .effect (.more o waits) => readLint outer o waits files rest
    | .word w => readLint outer o false (← addFile files w) rest
    | .separator => lintOf outer o false (← rest.foldlM addFile files)

def readServe (outer o : Options) (waits : Bool) : List String → Except UsageError Invocation
  | [] =>
    if waits then .error (.missingValue "config") else .ok (.serve (innermost outer o))
  | arg :: rest => do
    match ← readArgument false o waits arg with
    | .effect .help => return .help .serve
    | .effect .version => return .version
    | .effect (.more o waits) => readServe outer o waits rest
    | .word w => throw (.unexpectedArgument w)
    | .separator =>
      match rest with
      | [] => return .serve (innermost outer o)
      | w :: _ => throw (.unexpectedArgument w)

def Topic.named? : String → Option Topic
  | "lint" => some .lint
  | "lsp" => some .serve
  | "help" => some .help
  | _ => none

/-- The arguments behind the command that explains commands: the name of one at most. -/
def readHelp : List String → Except UsageError Invocation
  | [] => .ok (.help .program)
  | name :: rest =>
    match Topic.named? name, rest with
    | some t, [] => .ok (.help t)
    | some _, other :: _ => .error (.unknownCommand other)
    | none, _ => .error (.unknownCommand name)

def readProgram (o : Options) (waits : Bool) : List String → Except UsageError Invocation
  | [] => .error (if waits then .missingValue "config" else .missingCommand)
  | arg :: rest => do
    match ← readArgument true o waits arg with
    | .effect .help => return .help .program
    | .effect .version => return .version
    | .effect (.more o waits) => readProgram o waits rest
    | .word "lint" => readLint o .none false [] rest
    | .word "lsp" => readServe o .none false rest
    | .word "help" => readHelp rest
    | .word w => throw (.unknownCommand w)
    | .separator =>
      match rest with
      | [] => throw .missingCommand
      | w :: _ => throw (.unexpectedArgument w)

def Invocation.ofArguments (args : List String) : Except UsageError Invocation :=
  readProgram .none false args

end MarkupLint.CommandLine
