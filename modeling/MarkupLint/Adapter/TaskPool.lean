import MarkupLint.Adapter.Pass

/-! Tasks over one adapter. A step starts a task, lets one go on from where it waits, or is one of
the calls that never wait. Steps come in any order. -/
namespace MarkupLint

inductive Job where
  /-- Lints a document of whatever language. -/
  | lint (d : Document)
  /-- Lints a document that changed, if it is HTML. -/
  | event (d : Document)
  /-- Lints documents in order. -/
  | visible (ds : List Document)
  /-- Runs passes issued before, in order. -/
  | run (passes : List Pass)
  | close (uri : Url)
  /-- Resolves the configuration of a document. -/
  | resolve (uri : Url)

def Job.passes : Job → List Pass
  | .run passes => passes
  | _ => []

inductive Task where
  | ready (job : Job)
  | passing (pass : Pass) (stage : Stage) (rest : List Pass) (outcomes : List Outcome)
  | resolving (uri : Url) (l : Lookup)
  /-- Waits for the lock to delete the diagnostics. -/
  | closing (uri : Url)
  /-- Waits for the deletion to take effect, with the lock held. -/
  | deleting (uri : Url)
  /-- Waits for the end of a deletion that took effect, with the lock held. -/
  | deleted (uri : Url)
  | finished

def Task.passes : Task → List Pass
  | .ready job => job.passes
  | .passing p _ rest _ => p :: rest
  | _ => []

namespace Adapter

variable {L : Type}

def finish (a : Adapter L) (id : TaskId) (r : Result) : Adapter L × Task :=
  (a.record (.finished id r), .finished)

def runPasses (a : Adapter L) (id : TaskId) (outcomes : List Outcome) :
    List Pass → Adapter L × Task
  | [] => a.finish id (.outcomes outcomes)
  | p :: rest =>
    match a.startPass id p with
    | (b, .waits stage) => (b, .passing p stage rest outcomes)
    | (b, .ends o) => (b.record (.ended p o)).runPasses id (outcomes ++ [o]) rest

def continuePasses (id : TaskId) (p : Pass) (rest : List Pass) (outcomes : List Outcome) :
    Adapter L × Progress → Adapter L × Task
  | (a, .waits stage) => (a, .passing p stage rest outcomes)
  | (a, .ends o) => (a.record (.ended p o)).runPasses id (outcomes ++ [o]) rest

def startClose (a : Adapter L) (id : TaskId) (uri : Url) : Adapter L × Task :=
  let b := (a.forget id uri).enqueue id
  (b, if b.holds id then .deleting uri else .closing uri)

def delete (a : Adapter L) (id : TaskId) (uri : Url) : Adapter L :=
  { a with sink := a.sink.erase uri.text }.record (.deleted id uri)

def conclude (id : TaskId) (uri : Url) : Adapter L × Lookup → Adapter L × Task
  | (a, .found config) => a.finish id (.config config)
  | (a, l) => (a, .resolving uri l)

def startJob (a : Adapter L) (id : TaskId) : Job → Adapter L × Task
  | .lint d => (a.issue d).runPasses id [] [a.nextPass d]
  | .event d =>
    if d.isHtml then (a.issue d).runPasses id [] [a.nextPass d] else a.finish id .ignored
  | .visible ds =>
    let (b, passes) := a.issueAll ds
    b.runPasses id [] passes
  | .run passes => a.runPasses id [] passes
  | .close uri => a.startClose id uri
  | .resolve uri => conclude id uri (a.lookUp id uri)

def resumeTask (a : Adapter L) (id : TaskId) (t : Task) (answer : Answer) : Adapter L × Task :=
  match t, answer with
  | .ready job, .done => a.startJob id job
  | .passing p stage rest outcomes, answer =>
    continuePasses id p rest outcomes (a.resumePass id p stage answer)
  | .resolving uri l, answer => conclude id uri (a.resumeLookup id uri l answer)
  | .closing uri, .done => (a, if a.holds id then .deleting uri else t)
  | .deleting uri, .applied => (a.delete id uri, .deleted uri)
  | .deleting uri, .done => (a.delete id uri).release.finish id .closed
  | .deleted _, .done => a.release.finish id .closed
  | t, _ => (a, t)

@[simp] theorem finish_history (a : Adapter L) (id : TaskId) (r : Result) :
    (a.finish id r).1.history = .finished id r :: a.history := rfl

@[simp] theorem finish_task (a : Adapter L) (id : TaskId) (r : Result) :
    (a.finish id r).2 = .finished := rfl

@[simp] theorem delete_history (a : Adapter L) (id : TaskId) (uri : Url) :
    (a.delete id uri).history = .deleted id uri :: a.history := rfl

end Adapter

/-- An adapter with its tasks; a task is named by its place. -/
structure TaskPool (L : Type) where
  adapter : Adapter L
  tasks : List Task

namespace TaskPool

variable {L : Type}

def initial (linter : L) : TaskPool L := ⟨.initial linter, []⟩

inductive Step (L : Type) where
  | spawn (job : Job)
  | resume (id : TaskId) (answer : Answer)
  | issue (d : Document)
  | invalidate
  | setLinter (linter : L)

def resume (s : TaskPool L) (id : TaskId) (answer : Answer) : TaskPool L :=
  match s.tasks[id]? with
  | none => s
  | some t =>
    let (a, t) := s.adapter.resumeTask id t answer
    ⟨a, s.tasks.set id t⟩

def spawn (s : TaskPool L) (job : Job) : TaskPool L := { s with tasks := s.tasks ++ [.ready job] }

def step (s : TaskPool L) : Step L → TaskPool L
  | .spawn job => s.spawn job
  | .resume id answer => s.resume id answer
  | .issue d => { s with adapter := s.adapter.issue d }
  | .invalidate => { s with adapter := s.adapter.invalidate }
  | .setLinter linter => { s with adapter := s.adapter.setLinter linter }

/-- A pass that was issued and is in nobody's hands: no task has it, and it did not end. -/
structure Unclaimed (s : TaskPool L) (p : Pass) : Prop where
  issued : .issued p ∈ s.adapter.history
  unended : ∀ o, .ended p o ∉ s.adapter.history
  free : ∀ t ∈ s.tasks, p ∉ t.passes

/-- A pass is given to one task at most, and only once. -/
def Allowed (s : TaskPool L) : Step L → Prop
  | .spawn job => job.passes.Nodup ∧ ∀ p ∈ job.passes, s.Unclaimed p
  | _ => True

/-- What is reached from a state by steps in any order. -/
inductive Reachable (start : TaskPool L) : TaskPool L → Prop where
  | refl : Reachable start start
  | step {s : TaskPool L} (h : Reachable start s) (e : Step L) (he : s.Allowed e) :
      Reachable start (s.step e)

end TaskPool

end MarkupLint
