import MarkupLint.Url.Host

/-! Reading URLs. Blanks and controls around the text and line breaks in it do not count. The
schemes of the web and of files have a fixed form: their paths start with a slash, and a backslash
is one. -/
namespace MarkupLint.Url

inductive Form where
  | file
  | special (defaultPort : Nat)
  | other
  deriving DecidableEq, Repr

def formOf (scheme : List Char) : Form :=
  match String.ofList scheme with
  | "file" => .file
  | "http" => .special 80
  | "https" => .special 443
  | "ws" => .special 80
  | "wss" => .special 443
  | "ftp" => .special 21
  | _ => .other

def Form.isSpecial : Form → Bool
  | .other => false
  | _ => true

def Form.isSlash (f : Form) (c : Char) : Bool := c = '/' || (f.isSpecial && c = '\\')

def isDoubleDot (segment : List Char) : Bool :=
  let s := (String.ofList segment).toLower
  s = ".." || s = "%2e%2e" || s = ".%2e" || s = "%2e."

def isSingleDot (segment : List Char) : Bool :=
  let s := (String.ofList segment).toLower
  s = "." || s = "%2e"

def isDriveLetter : List Char → Bool
  | [letter, ':'] => letter.isAlpha
  | _ => false

def startsWithDrive : List Char → Bool
  | '/' :: letter :: mark :: rest =>
    letter.isAlpha && (mark = ':' || mark = '|') &&
      (match rest with
        | [] => true
        | c :: _ => c = '/' || c = '\\' || c = '?' || c = '#')
  | _ => false

def lastSegment (path : List Char) : List Char :=
  let tail := (path.reverse.takeWhile (· ≠ '/')).reverse
  if tail.length = path.length then [] else '/' :: tail

structure PathDraft where
  path : List Char
  /-- A drive letter leaves no room for a host. -/
  dropsHost : Bool

/-- The path without its closing slash, unless that is the first one or belongs to a drive. -/
def withoutLastSlash (path : List Char) : List Char :=
  if path.getLast? = some '/' then
    let before := lastSegment path.dropLast
    if before.isEmpty || startsWithDrive (before ++ ['/']) then path else path.dropLast
  else path

/-- The path up to and with its last slash; a drive letter behind it stays. -/
def popSegment (form : Form) (path : List Char) : List Char :=
  let segment := (lastSegment path).drop 1
  if form = .file && isDriveLetter segment then path
  else path.take (path.length - segment.length)

def endWithSlash (path : List Char) : List Char :=
  if path.getLast? = some '/' then path else path ++ ['/']

def PathDraft.add (form : Form) (d : PathDraft) (segment : List Char) (closed : Bool) :
    PathDraft :=
  let s := Part.path.encode segment
  if isDoubleDot s then
    let path := popSegment form (withoutLastSlash d.path)
    { d with path := if closed then endWithSlash path else path }
  else if isSingleDot s then { d with path := endWithSlash d.path }
  else
    let drive := form = .file && d.path.length = 1 && isDriveLetter s
    ⟨d.path ++ s ++ (if closed then ['/'] else []), d.dropsHost || drive⟩

def PathDraft.addAll (form : Form) (d : PathDraft) (segment : List Char) :
    List Char → PathDraft
  | [] => d.add form segment.reverse false
  | c :: rest =>
    if form.isSlash c then (d.add form segment.reverse true).addAll form [] rest
    else d.addAll form (c :: segment) rest

def readPath (form : Form) (start : List Char) (cs : List Char) : PathDraft :=
  let d := PathDraft.addAll form ⟨start, false⟩ [] cs
  if form = .file then { d with path := '/' :: d.path.dropWhile (· = '/') } else d

def readPathAfterHost (form : Form) (cs : List Char) : PathDraft :=
  match form with
  | .file => readPath form [] cs
  | .special _ =>
    match cs with
    | c :: rest => if form.isSlash c then readPath form ['/'] rest else readPath form ['/'] cs
    | [] => readPath form ['/'] []
  | .other =>
    match cs with
    | [] => ⟨[], false⟩
    | '/' :: _ => readPath form [] cs
    | cs => readPath form ['/'] cs

def endsPath (c : Char) : Bool := c = '?' || c = '#'

structure Tail where
  query : Option String
  fragment : Option String

def readTail (form : Form) (cs : List Char) : Tail :=
  let fragment (cs : List Char) : Option String :=
    match cs with
    | '#' :: rest => some (String.ofList (Part.fragment.encode rest))
    | _ => none
  match cs with
  | '?' :: rest =>
    let part := if form.isSpecial then Part.specialQuery else Part.query
    ⟨some (String.ofList (part.encode (rest.takeWhile (· ≠ '#')))),
      fragment (rest.dropWhile (· ≠ '#'))⟩
  | cs => ⟨none, fragment cs⟩

def assemble (scheme : List Char) (form : Form) (authority : Option Authority) (cs : List Char)
    (read : List Char → PathDraft) : Url :=
  let d := read (cs.takeWhile fun c => !endsPath c)
  let tail := readTail form (cs.dropWhile fun c => !endsPath c)
  let authority :=
    if d.dropsHost then authority.map fun a => { a with host := .empty } else authority
  ⟨String.ofList scheme, authority, String.ofList d.path, tail.query, tail.fragment⟩

def endsAuthority (form : Form) (c : Char) : Bool := form.isSlash c || c = '/' || endsPath c

structure UserInfo where
  username : List Char
  password : Option (List Char)

def readUserInfo (cs : List Char) : UserInfo :=
  let name := cs.takeWhile (· ≠ ':')
  let password :=
    match cs.dropWhile (· ≠ ':') with
    | _ :: c :: rest => some (Part.userInfo.encode (c :: rest))
    | _ => none
  ⟨Part.userInfo.encode name, password⟩

/-- The user information before the last at sign of an authority, and the rest. An at sign with
nothing before it needs a host. -/
def splitUserInfo (form : Form) (cs : List Char) : Except Fault (UserInfo × List Char) :=
  let authority := cs.takeWhile fun c => !endsAuthority form c
  if authority.contains '@' then
    let hostLength := (authority.reverse.takeWhile (· ≠ '@')).length
    let userLength := authority.length - hostLength - 1
    let rest := cs.drop (userLength + 1)
    if userLength = 0 then
      if rest.head?.any (endsAuthority form) then .error .emptyHost
      else .ok (⟨[], none⟩, rest)
    else .ok (readUserInfo (cs.take userLength), rest)
  else .ok (⟨[], none⟩, cs)

def hostLength (form : Form) (inBrackets : Bool) : List Char → Nat
  | [] => 0
  | c :: rest =>
    if (c = ':' && !inBrackets) || endsAuthority form c then 0
    else 1 + hostLength form (c = '[' || (inBrackets && c ≠ ']')) rest

def readPort (port : Nat) (any : Bool) : List Char → Except Fault (Option Nat × List Char)
  | [] => .ok (if any then some port else none, [])
  | c :: rest =>
    if c.isDigit then
      let port := port * 10 + (c.toNat - '0'.toNat)
      if 65535 < port then .error .invalidPort else readPort port true rest
    else if c = '/' || c = '\\' || endsPath c then .ok (if any then some port else none, c :: rest)
    else .error .invalidPort

def readHost (form : Form) (cs : List Char) : Except Fault Host :=
  if form.isSpecial then if cs.isEmpty then .error .emptyHost else specialHost cs
  else opaqueHost cs

def defaultPort? : Form → Option Nat
  | .special port => some port
  | _ => none

def readAuthority (form : Form) (cs : List Char) : Except Fault (Authority × List Char) := do
  let (user, rest) ← splitUserInfo form cs
  let length := hostLength form false rest
  let host ← readHost form (rest.take length)
  let rest := rest.drop length
  let (port, rest) ←
    match rest with
    | ':' :: digits => if host = .empty then throw Fault.emptyHost else readPort 0 false digits
    | rest => pure (none, rest)
  let port := if port = defaultPort? form then none else port
  let hasUser := !user.username.isEmpty || user.password.isSome
  if host = .empty && hasUser then throw .emptyHost
  return (⟨String.ofList user.username, user.password.map String.ofList, host, port⟩, rest)

def noUser (host : Host) : Authority := ⟨"", none, host, none⟩

/-- The host of a file URL; a drive letter is none, and this machine is not named. -/
def readFileHost (cs : List Char) : Except Fault (Host × List Char) :=
  let host := cs.takeWhile fun c => !endsAuthority .file c
  match host with
  | [] => .ok (.empty, cs)
  | [letter, mark] =>
    if letter.isAlpha && (mark = ':' || mark = '|') then .ok (.empty, '/' :: cs)
    else do return (← specialHost host, cs.drop 2)
  | host => do
    let read ← specialHost host
    return (if read.isLocal then .empty else read, cs.drop host.length)

def parseFile (scheme : List Char) (cs : List Char) : Except Fault Url :=
  match cs with
  | a :: b :: rest =>
    if Form.file.isSlash a && Form.file.isSlash b then do
      let (host, rest) ← readFileHost rest
      return assemble scheme .file (some (noUser host)) rest (readPathAfterHost .file)
    else if Form.file.isSlash a then
      return assemble scheme .file (some (noUser .empty)) cs (readPath .file [])
    else return assemble scheme .file (some (noUser .empty)) cs (readPath .file ['/'])
  | cs => .ok (assemble scheme .file (some (noUser .empty)) cs (readPath .file ['/']))

def parseAfterScheme (scheme : List Char) (cs : List Char) : Except Fault Url :=
  match formOf scheme with
  | .file => parseFile scheme cs
  | .special port => do
    let form := Form.special port
    let (authority, rest) ← readAuthority form (cs.dropWhile form.isSlash)
    return assemble scheme form (some authority) rest (readPathAfterHost form)
  | .other =>
    match cs with
    | '/' :: '/' :: rest => do
      let (authority, rest) ← readAuthority .other rest
      return assemble scheme .other (some authority) rest (readPathAfterHost .other)
    | '/' :: rest => .ok (assemble scheme .other none rest (readPath .other ['/']))
    | cs => .ok (assemble scheme .other none cs fun cs => ⟨Part.opaquePath.encode cs, false⟩)

def inScheme (c : Char) : Bool := c.isAlphanum || c = '+' || c = '-' || c = '.'

def isTrimmed (c : Char) : Bool := c.toNat ≤ 0x20

def isLineBreak (c : Char) : Bool := c = '\t' || c = '\n' || c = '\r'

def significant (cs : List Char) : List Char :=
  let trimmed := ((cs.dropWhile isTrimmed).reverse.dropWhile isTrimmed).reverse
  trimmed.filter fun c => !isLineBreak c

def parse (s : String) : Except Fault Url :=
  let cs := significant s.toList
  let scheme := cs.takeWhile inScheme
  match cs.drop scheme.length with
  | ':' :: rest =>
    if scheme.head?.any Char.isAlpha then parseAfterScheme (scheme.map Char.toLower) rest
    else .error .relative
  | _ => .error .relative

end MarkupLint.Url
