import MarkupLint.Host.Completion
import MarkupLint.Host.FileTree
import MarkupLint.Host.Pattern

/-! Small programs that read their input and print: `cat`, `echo`, `printf`, `wc`, `grep`, `sed`,
`true` and `false`. -/
namespace MarkupLint.Host

structure Done where
  stdout : List UInt8
  stderr : List UInt8
  status : Nat
  input : List UInt8

abbrev Bytes := List UInt8

def bytes (s : String) : Bytes := Text.utf8 s

def linesOf : Bytes → List Bytes
  | [] => []
  | b :: rest =>
    if b = 0x0A then [] :: linesOf rest
    else match rest, linesOf rest with
      | [], _ => [[b]]
      | 0x0A :: _, line :: others => (b :: line) :: others
      | _, line :: others => (b :: line) :: others
      | _, [] => [[b]]

def endsInLineFeed (s : Bytes) : Bool := s.getLast? = some 0x0A

def shownName (name : Bytes) : Bytes :=
  let usual (b : UInt8) : Bool :=
    (0x30 ≤ b && b ≤ 0x39) || (0x41 ≤ b && b ≤ 0x5A) || (0x61 ≤ b && b ≤ 0x7A) || 0x80 ≤ b ||
      (bytes "/._-+,:=@%").contains b
  if !name.isEmpty && name.all usual then name else bytes "'" ++ name ++ bytes "'"

def complaint : SystemError → String
  | .notFound => "No such file or directory"
  | .permissionDenied => "Permission denied"
  | .notDirectory => "Not a directory"
  | .isDirectory => "Is a directory"
  | .nameTooLong => "File name too long"
  | _ => "Invalid argument"

def nullDevice : Bytes := bytes "/dev/null"

def cat (w : Workspace) (args : List Bytes) (input : Bytes) : Done :=
  let files := if args.isEmpty then [bytes "-"] else args
  files.foldl
    (fun d name =>
      if name = bytes "-" then { d with stdout := d.stdout ++ d.input, input := [] }
      else if name = nullDevice then d
      else match w.readBytes ⟨name⟩ with
        | .ok content => { d with stdout := d.stdout ++ content }
        | .error e =>
          { d with
            stderr := d.stderr ++ bytes "cat: " ++ shownName name ++ bytes (": " ++ complaint e) ++
              [0x0A]
            status := 1 })
    ⟨[], [], 0, input⟩

def octalDigits (most : Nat) (s : Bytes) : Bytes :=
  (s.take most).takeWhile fun b => 0x30 ≤ b && b ≤ 0x37

def octalValue (digits : Bytes) : UInt8 :=
  UInt8.ofNat (digits.foldl (fun n d => n * 8 + (d.toNat - 0x30)) 0)

/-- Text behind a backslash: the bytes it means and what follows. In an argument a zero may stand
before octal digits. None ends all output. -/
def escapeMeaning (inArgument : Bool) (s : Bytes) : Option (Bytes × Bytes) :=
  match s with
  | [] => some ([0x5C], [])
  | b :: rest =>
    if b = 0x61 then some ([0x07], rest)
    else if b = 0x62 then some ([0x08], rest)
    else if b = 0x63 then none
    else if b = 0x66 then some ([0x0C], rest)
    else if b = 0x6E then some ([0x0A], rest)
    else if b = 0x72 then some ([0x0D], rest)
    else if b = 0x74 then some ([0x09], rest)
    else if b = 0x76 then some ([0x0B], rest)
    else if b = 0x5C then some ([0x5C], rest)
    else
      let s := if inArgument && b = 0x30 && !(octalDigits 1 rest).isEmpty then rest else s
      let digits := octalDigits 3 s
      if digits.isEmpty then some ([0x5C, b], rest)
      else some ([octalValue digits], s.drop digits.length)

def unescape (s : Bytes) : Nat → Bytes × Bool
  | 0 => ([], false)
  | fuel + 1 =>
    match s with
    | [] => ([], false)
    | 0x5C :: rest =>
      match escapeMeaning true rest with
      | none => ([], true)
      | some (meaning, rest) =>
        let (tail, ends) := unescape rest fuel
        (meaning ++ tail, ends)
    | b :: rest =>
      let (tail, ends) := unescape rest fuel
      (b :: tail, ends)

def spaced (args : List Bytes) : Bytes := (args.intersperse [0x20]).flatten

def isEchoOption (arg : Bytes) : Bool :=
  match arg with
  | 0x2D :: letters =>
    !letters.isEmpty && letters.all fun b => b = 0x6E || b = 0x65 || b = 0x45
  | _ => false

def echo (args : List Bytes) (input : Bytes) : Done :=
  let options := (args.takeWhile isEchoOption).flatten
  let words := spaced (args.dropWhile isEchoOption)
  let lineFeed : Bytes := if options.contains 0x6E then [] else [0x0A]
  if options.contains 0x65 then
    let (text, ends) := unescape words (words.length + 1)
    ⟨if ends then text else text ++ lineFeed, [], 0, input⟩
  else ⟨words ++ lineFeed, [], 0, input⟩

def shellEcho (args : List Bytes) (input : Bytes) : Done :=
  let (quiet, words) :=
    match args with
    | first :: rest => if first = bytes "-n" then (true, rest) else (false, args)
    | [] => (false, [])
  let (text, ends) := unescape (spaced words) ((spaced words).length + 1)
  ⟨if ends || quiet then text else text ++ [0x0A], [], 0, input⟩

def isDigitByte (b : UInt8) : Bool := 0x30 ≤ b && b ≤ 0x39

def decimal (arg : Bytes) : Bytes :=
  let (sign, digits) := match arg with
    | 0x2D :: digits => (bytes "-", digits)
    | digits => ([], digits)
  let digits := (digits.takeWhile isDigitByte).dropWhile (· = 0x30)
  if digits.isEmpty then bytes "0" else sign ++ digits

/-- One pass over a format: what is printed, the arguments left, and whether output ends. -/
def formatOnce (format : Bytes) (args : List Bytes) : Nat → Bytes × List Bytes × Bool
  | 0 => ([], args, false)
  | fuel + 1 =>
    let go (printed : Bytes) (rest : Bytes) (args : List Bytes) : Bytes × List Bytes × Bool :=
      let (tail, left, ends) := formatOnce rest args fuel
      (printed ++ tail, left, ends)
    match format with
    | [] => ([], args, false)
    | 0x5C :: rest =>
      match escapeMeaning false rest with
      | none => ([], args, true)
      | some (meaning, rest) => go meaning rest args
    | 0x25 :: 0x25 :: rest => go [0x25] rest args
    | 0x25 :: 0x73 :: rest => go (args.head?.getD []) rest args.tail
    | 0x25 :: 0x64 :: rest => go (decimal (args.head?.getD [])) rest args.tail
    | 0x25 :: 0x63 :: rest => go ((args.head?.getD []).take 1) rest args.tail
    | 0x25 :: 0x62 :: rest =>
      let arg := args.head?.getD []
      let (text, ends) := unescape arg (arg.length + 1)
      if ends then (text, [], true) else go text rest args.tail
    | b :: rest => go [b] rest args

def formatAll (format : Bytes) (args : List Bytes) : Nat → Bytes
  | 0 => []
  | fuel + 1 =>
    let (printed, left, ends) := formatOnce format args (format.length + 1)
    if ends || left.isEmpty || left.length = args.length then printed
    else printed ++ formatAll format left fuel

def printf (args : List Bytes) (input : Bytes) : Done :=
  match args with
  | [] => ⟨[], bytes "printf: missing operand\n", 1, input⟩
  | format :: args => ⟨formatAll format args (args.length + 1), [], 0, input⟩

def number (n : Nat) : Bytes := bytes (toString n)

def wordCount (s : Bytes) : Nat :=
  let blank (b : UInt8) : Bool := b = 0x20 || (0x09 ≤ b && b ≤ 0x0D)
  (s.foldl
    (fun (count, inWord) b =>
      if blank b then (count, false) else (if inWord then count else count + 1, true))
    (0, false)).1

def padded (width : Nat) (n : Nat) : Bytes :=
  let digits := number n
  List.replicate (width - digits.length) 0x20 ++ digits

def wc (args : List Bytes) (input : Bytes) : Done :=
  let lineCount := (input.filter (· = 0x0A)).length
  let counts : List Nat :=
    if args = [bytes "-c"] then [input.length]
    else if args = [bytes "-l"] then [lineCount]
    else if args = [bytes "-w"] then [wordCount input]
    else [lineCount, wordCount input, input.length]
  match counts with
  | [n] => ⟨number n ++ [0x0A], [], 0, []⟩
  | ns => ⟨(ns.map (padded 7)).intersperse [0x20] |>.flatten |> (· ++ [0x0A]), [], 0, []⟩

def grep (args : List Bytes) (input : Bytes) : Done :=
  let isOption (a : Bytes) : Bool := a.head? = some 0x2D && 1 < a.length
  let options := (args.filter isOption).flatten
  match args.filter fun a => !isOption a with
  | [] => ⟨[], bytes "Usage: grep [OPTION]... PATTERNS [FILE]...\n", 2, input⟩
  | text :: _ =>
    let fixed := options.contains 0x46
    let p : Pattern :=
      if fixed then ⟨false, text.map fun b => (.byte b, false), false⟩ else .read text
    let inverted := options.contains 0x76
    let found := (linesOf input).filter fun l => p.occursIn l != inverted
    let status := if found.isEmpty then 1 else 0
    if options.contains 0x71 then ⟨[], [], status, []⟩
    else if options.contains 0x63 then ⟨number found.length ++ [0x0A], [], status, []⟩
    else ⟨found.flatMap (· ++ [0x0A]), [], status, []⟩

inductive Edit where
  | substitute (pattern : Pattern) (replacement : Bytes) (all : Bool)
  | delete
  | print

def untilDelimiter (delimiter : UInt8) : Bytes → Option (Bytes × Bytes)
  | [] => none
  | [b] => if b = delimiter then some ([], []) else none
  | b :: c :: rest =>
    if b = delimiter then some ([], c :: rest)
    else if b = 0x5C then
      (untilDelimiter delimiter rest).map fun (text, rest) =>
        (if c = delimiter then (c :: text, rest) else (b :: c :: text, rest))
    else (untilDelimiter delimiter (c :: rest)).map fun (text, rest) => (b :: text, rest)

def editsOf (script : Bytes) : Nat → Option (List Edit)
  | 0 => none
  | fuel + 1 =>
    match script.dropWhile fun b => b = 0x20 || b = 0x3B || b = 0x0A with
    | [] => some []
    | 0x64 :: rest => do return .delete :: (← editsOf rest fuel)
    | 0x70 :: rest => do return .print :: (← editsOf rest fuel)
    | 0x73 :: delimiter :: rest => do
      let (old, rest) ← untilDelimiter delimiter rest
      let (new, rest) ← untilDelimiter delimiter rest
      let flags := rest.takeWhile fun b => b ≠ 0x3B && b ≠ 0x0A
      let more ← editsOf (rest.drop flags.length) fuel
      return .substitute (.read old) new (flags.contains 0x67) :: more
    | _ => none

def fillIn (found : Bytes) : Bytes → Bytes
  | 0x5C :: 0x6E :: rest => 0x0A :: fillIn found rest
  | 0x5C :: b :: rest => b :: fillIn found rest
  | 0x26 :: rest => found ++ fillIn found rest
  | b :: rest => b :: fillIn found rest
  | [] => []

def editLine (quiet : Bool) (line : Bytes) : List Edit → List Bytes
  | [] => if quiet then [] else [line]
  | .delete :: _ => []
  | .print :: edits => line :: editLine quiet line edits
  | .substitute p replacement all :: edits =>
    editLine quiet (p.replace (fun found => fillIn found replacement) all line) edits

def sed (args : List Bytes) (input : Bytes) : Done :=
  let options := [bytes "-n", bytes "-e"]
  let quiet := args.contains (bytes "-n")
  let scripts := args.filter fun a => !options.contains a
  let script := (scripts.intersperse [0x0A]).flatten
  match editsOf script (script.length + 1) with
  | none => ⟨[], bytes "sed: -e expression #1, char 1: unknown command\n", 1, input⟩
  | some edits =>
    let edited := (linesOf input).flatMap fun l => editLine quiet l edits
    let joined := (edited.intersperse [0x0A]).flatten
    ⟨if endsInLineFeed input && !edited.isEmpty then joined ++ [0x0A] else joined, [], 0, []⟩

end MarkupLint.Host
