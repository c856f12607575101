/-! Glob patterns over whole paths. A star, a question mark and a class may match a slash. -/
namespace MarkupLint.Glob

inductive Token where
  | literal (c : Char)
  /-- `?`. -/
  | anyOne
  /-- `*`. -/
  | anyRun
  /-- `**` at the start, with the slash behind it: nothing, or everything up to a slash. -/
  | leading
  /-- `/**` at the end: a slash and everything below. -/
  | trailing
  /-- `/**/`: a slash, or everything between two slashes. -/
  | between
  | oneOf (negated : Bool) (ranges : List (Char × Char))
  | alternatives (branches : List (List Token))
  deriving Repr

inductive Fault where
  | unclosedClass
  | invalidRange (low high : Char)
  | unopenedGroup
  | unclosedGroup
  | danglingEscape
  deriving DecidableEq, Repr

def Fault.message : Fault → String
  | .unclosedClass => "unclosed character class; missing ']'"
  | .invalidRange low high =>
    "invalid range; '" ++ low.toString ++ "' > '" ++ high.toString ++ "'"
  | .unopenedGroup =>
    "unopened alternate group; missing '\x7b' (maybe escape '\x7d' with '[\x7d]'?)"
  | .unclosedGroup =>
    "unclosed alternate group; missing '\x7d' (maybe escape '\x7b' with '[\x7b]'?)"
  | .danglingEscape => "dangling '\\'"

/-- An open group: what stands before it and its finished branches, both from the last one. -/
structure Group where
  before : List Token
  branches : List (List Token)

structure Draft where
  tokens : List Token
  groups : List Group

def Draft.push (d : Draft) (t : Token) : Draft := { d with tokens := t :: d.tokens }

def Draft.inGroup (d : Draft) : Bool := !d.groups.isEmpty

def Draft.openGroup (d : Draft) : Draft := ⟨[], ⟨d.tokens, []⟩ :: d.groups⟩

def Draft.closeGroup (d : Draft) : Except Fault Draft :=
  match d.groups with
  | [] => .error .unopenedGroup
  | g :: groups =>
    let branches := (d.tokens.reverse :: g.branches).reverse
    .ok ⟨.alternatives branches :: g.before, groups⟩

/-- Outside a group a comma is itself. -/
def Draft.comma (d : Draft) : Draft :=
  match d.groups with
  | [] => d.push (.literal ',')
  | g :: groups => ⟨[], { g with branches := d.tokens.reverse :: g.branches } :: groups⟩

def Draft.twoRuns (d : Draft) : Draft := (d.push .anyRun).push .anyRun

/-- Puts a recursive token in the place of the slash before it; next to another one that already
takes in what follows, nothing is added. -/
def Draft.recursive (d : Draft) (t : Token) : Draft :=
  match d.tokens with
  | .leading :: _ => d
  | .trailing :: _ => d
  | _ :: before => { d with tokens := t :: before }
  | [] => { d with tokens := [t] }

/-- Two stars after `previous`, and how many characters of `next` belong to them. -/
def Draft.twoStars (d : Draft) (previous : Option Char) (next : List Char) : Draft × Nat :=
  if d.tokens.isEmpty then
    match next with
    | [] => (d.push .leading, 0)
    | '/' :: _ => (d.push .leading, 1)
    | _ => (d.twoRuns, 0)
  else
    let starts := previous = some '/' || (d.inGroup && (previous = some ',' || previous = some '{'))
    if !starts then (d.twoRuns, 0)
    else
      match next with
      | [] => (d.recursive .trailing, 0)
      | '/' :: _ => (d.recursive .between, 1)
      | c :: _ =>
        if d.inGroup && (c = ',' || c = '}') then (d.recursive .trailing, 0) else (d.twoRuns, 0)

/-- A class read so far; ranges from the last one. `open` says that a range waits for its end. -/
structure ClassDraft where
  ranges : List (Char × Char)
  isOpen : Bool

def ClassDraft.add (d : ClassDraft) (c : Char) : Except Fault ClassDraft :=
  if d.isOpen then
    match d.ranges with
    | (low, _) :: ranges =>
      if c < low then .error (.invalidRange low c) else .ok ⟨(low, c) :: ranges, false⟩
    | [] => .ok ⟨[(c, c)], false⟩
  else .ok ⟨(c, c) :: d.ranges, false⟩

def ClassDraft.finish (d : ClassDraft) : List (Char × Char) :=
  (if d.isOpen then ('-', '-') :: d.ranges else d.ranges).reverse

/-- The ranges of a class up to its closing bracket, and what follows. A bracket or a hyphen in the
first place is itself. -/
def classFrom (first : Bool) (d : ClassDraft) :
    List Char → Except Fault (List (Char × Char) × List Char)
  | [] => .error .unclosedClass
  | c :: rest =>
    if c = ']' && !first then .ok (d.finish, rest)
    else if c = '-' && !first && !d.isOpen then classFrom false { d with isOpen := true } rest
    else do classFrom false (← d.add c) rest

def classToken (cs : List Char) : Except Fault (Token × List Char) :=
  match cs with
  | '!' :: rest | '^' :: rest => do
    let (ranges, rest) ← classFrom true ⟨[], false⟩ rest
    return (.oneOf true ranges, rest)
  | rest => do
    let (ranges, rest) ← classFrom true ⟨[], false⟩ rest
    return (.oneOf false ranges, rest)

def parseFrom (d : Draft) (previous : Option Char) (cs : List Char) : Nat → Except Fault Draft
  | 0 => .ok d
  | fuel + 1 =>
    match cs with
    | [] => .ok d
    | '?' :: rest => parseFrom (d.push .anyOne) (some '?') rest fuel
    | '*' :: '*' :: rest =>
      let (d, taken) := d.twoStars previous rest
      parseFrom d (if taken = 0 then some '*' else some '/') (rest.drop taken) fuel
    | '*' :: rest => parseFrom (d.push .anyRun) (some '*') rest fuel
    | '[' :: rest => do
      let (t, rest) ← classToken rest
      parseFrom (d.push t) (some ']') rest fuel
    | '{' :: rest => parseFrom d.openGroup (some '{') rest fuel
    | '}' :: rest => do parseFrom (← d.closeGroup) (some '}') rest fuel
    | ',' :: rest => parseFrom d.comma (some ',') rest fuel
    | ['\\'] => .error .danglingEscape
    | '\\' :: c :: rest => parseFrom (d.push (.literal c)) (some c) rest fuel
    | c :: rest => parseFrom (d.push (.literal c)) (some c) rest fuel

end MarkupLint.Glob

namespace MarkupLint

structure Glob where
  tokens : List Glob.Token
  deriving Repr

def Glob.parse (pattern : String) : Except Glob.Fault Glob := do
  let cs := pattern.toList
  let d ← Glob.parseFrom ⟨[], []⟩ none cs cs.length
  if d.inGroup then .error .unclosedGroup else .ok ⟨d.tokens.reverse⟩

end MarkupLint
