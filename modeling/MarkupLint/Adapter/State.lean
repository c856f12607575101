import MarkupLint.Diagnostic
import MarkupLint.Document.Cache
import MarkupLint.Document.Snapshot
import MarkupLint.LintError

/-! The lint adapter: what it keeps between the steps of its tasks, and what it does to its
surroundings. Sequence numbers grow over all documents; a pass is current while its number is the
last one issued for its document. One lock, served in order of arrival, guards every update of the
diagnostics. -/
namespace MarkupLint

open Map (Dict)

structure Pass where
  document : Document
  sequence : Nat
  deriving DecidableEq, Repr

/-- What the linter is given for a pass. -/
structure LintCall extends Pass where
  text : String
  deriving DecidableEq, Repr

structure SinkUpdate extends Pass where
  uri : Url
  version : Option Int
  deriving DecidableEq, Repr

def Pass.call (p : Pass) : LintCall := ⟨p, p.document.text⟩

def Pass.update (p : Pass) : SinkUpdate := ⟨p, p.document.uri, p.document.version⟩

@[simp] theorem Pass.call_toPass (p : Pass) : p.call.toPass = p := rfl

@[simp] theorem Pass.update_toPass (p : Pass) : p.update.toPass = p := rfl

inductive Outcome where
  /-- The diagnostics were replaced by so many. -/
  | published (count : Nat)
  /-- A newer pass or a close came before the end. -/
  | stale
  /-- The document is not linted; its diagnostics were emptied. -/
  | excluded
  /-- The linter failed; the diagnostics were left alone. -/
  | failed (reason : String)
  deriving DecidableEq, Repr

abbrev TaskId := Nat

abbrev Reply := Except LintError (List Finding)

inductive Result where
  | outcomes (os : List Outcome)
  | ignored
  | closed
  | config (c : DocumentConfig)

/-- What happened, with the task that did it. `L` stands for linters. -/
inductive Event (L : Type) where
  | issued (pass : Pass)
  /-- A close forgot the passes of the document and dropped its configuration. -/
  | forgotten (task : TaskId) (uri : Url)
  /-- Every configuration was dropped. -/
  | cleared
  | linterSet (linter : L)
  /-- The configuration of a document was asked for. -/
  | resolving (task : TaskId) (uri : Url)
  /-- None was kept, and its settings were asked for. -/
  | settingsRead (task : TaskId) (uri : Url)
  | settingsGiven (task : TaskId) (uri : Url) (settings : Settings)
  | resolved (task : TaskId) (uri : Url) (config : DocumentConfig)
  | logged (task : TaskId) (line : String)
  | shown (task : TaskId) (line : String)
  | lintCalled (task : TaskId) (linter : L) (call : LintCall) (rules : Rule.Configuration)
  | replied (task : TaskId) (pass : Pass) (reply : Reply)
  /-- Whether a pass was the current one of its document, and whether its task held the publish lock
  when it was asked. -/
  | checked (task : TaskId) (pass : Pass) (locked current : Bool)
  | set (task : TaskId) (update : SinkUpdate) (diagnostics : List Diagnostic)
  | deleted (task : TaskId) (uri : Url)
  | ended (pass : Pass) (outcome : Outcome)
  | finished (task : TaskId) (result : Result)

structure Adapter (L : Type) where
  linter : L
  cache : ConfigCache
  issued : Nat
  /-- The current pass of each document, by URL. -/
  latest : Dict Nat
  /-- The holder of the publish lock and those that wait for it. -/
  queue : List TaskId
  /-- The diagnostics of each document, by URL. -/
  sink : Dict (List Diagnostic)
  /-- Everything that happened, the last first. -/
  history : List (Event L)

namespace Adapter

variable {L : Type}

def initial (linter : L) : Adapter L := ⟨linter, .empty, 0, ∅, [], ∅, []⟩

def record (a : Adapter L) (e : Event L) : Adapter L := { a with history := e :: a.history }

def nextPass (a : Adapter L) (d : Document) : Pass := ⟨d, a.issued + 1⟩

def issue (a : Adapter L) (d : Document) : Adapter L :=
  let p := a.nextPass d
  { a with issued := p.sequence, latest := a.latest.insert d.uri.text p.sequence }
    |>.record (.issued p)

def issueAll (a : Adapter L) : List Document → Adapter L × List Pass
  | [] => (a, [])
  | d :: rest =>
    let (b, passes) := (a.issue d).issueAll rest
    (b, a.nextPass d :: passes)

def isCurrent (a : Adapter L) (p : Pass) : Bool :=
  a.latest.get? p.document.uri.text = some p.sequence

/-- Forgets the passes of a document and drops its configuration. -/
def forget (a : Adapter L) (id : TaskId) (uri : Url) : Adapter L :=
  { a with latest := a.latest.erase uri.text, cache := (a.cache.invalidate uri.cacheKey).1 }
    |>.record (.forgotten id uri)

def invalidate (a : Adapter L) : Adapter L := { a with cache := a.cache.clear }.record .cleared

def setLinter (a : Adapter L) (linter : L) : Adapter L :=
  { a with linter := linter }.record (.linterSet linter)

def diagnostics? (a : Adapter L) (uri : Url) : Option (List Diagnostic) := a.sink.get? uri.text

/-- Joins the queue; the lock is taken at once when nobody is in it. -/
def enqueue (a : Adapter L) (id : TaskId) : Adapter L := { a with queue := a.queue ++ [id] }

def release (a : Adapter L) : Adapter L := { a with queue := a.queue.tail }

def holds (a : Adapter L) (id : TaskId) : Bool := a.queue.head? = some id

def check (a : Adapter L) (id : TaskId) (p : Pass) : Adapter L × Bool :=
  (a.record (.checked id p (a.holds id) (a.isCurrent p)), a.isCurrent p)

section History

variable (a : Adapter L) (id : TaskId)

@[simp] theorem record_history (e : Event L) : (a.record e).history = e :: a.history := rfl

@[simp] theorem issue_history (d : Document) :
    (a.issue d).history = .issued (a.nextPass d) :: a.history := rfl

@[simp] theorem forget_history (uri : Url) :
    (a.forget id uri).history = .forgotten id uri :: a.history := rfl

@[simp] theorem invalidate_history : a.invalidate.history = .cleared :: a.history := rfl

@[simp] theorem setLinter_history (linter : L) :
    (a.setLinter linter).history = .linterSet linter :: a.history := rfl

@[simp] theorem enqueue_history : (a.enqueue id).history = a.history := rfl

@[simp] theorem release_history : a.release.history = a.history := rfl

end History

@[simp] theorem record_isCurrent (a : Adapter L) (e : Event L) (p : Pass) :
    (a.record e).isCurrent p = a.isCurrent p := rfl

@[simp] theorem record_holds (a : Adapter L) (e : Event L) (id : TaskId) :
    (a.record e).holds id = a.holds id := rfl

end Adapter

end MarkupLint
