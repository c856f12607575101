import MarkupLint.Adapter.TaskPool

/-! A scheduler that serves tasks in the order of their start. Each task has a list of points at
which it is held, and a list of replies that the linter will give it; the settings are the same for
every document and are read when they are asked for. -/
namespace MarkupLint

inductive Point where
  | settings
  | info
  | log
  | shown
  | lint
  | publish
  deriving DecidableEq, Repr

/-- The point a task waits at; the queue for the lock is none. -/
def Task.point? : Task → Option Point
  | .passing _ stage _ _ =>
    match stage with
    | .lookup (.reading _) => some .settings
    | .lookup (.announcing _ _) => some .info
    | .lookup (.found _) => none
    | .linting _ => some .lint
    | .reporting _ _ => some .log
    | .failing _ _ => some .log
    | .showing _ => some .shown
    | .queued _ => none
    | .publishing _ => some .publish
    | .published _ => none
  | .resolving _ (.reading _) => some .settings
  | .resolving _ (.announcing _ _) => some .info
  | .resolving _ (.found _) => none
  | .deleting _ => some .publish
  | _ => none

def Task.isQueued : Task → Bool
  | .passing _ (.queued _) _ _ => true
  | .closing _ => true
  | _ => false

def Task.isFinished : Task → Bool
  | .finished => true
  | _ => false

/-- How one task is served: the points to hold it at, each used once, the replies left, the point it
is held at, and the answer to what it waits for. -/
structure Slot where
  holds : List Point
  replies : List Reply
  held : Option Point
  answer : Answer

def Slot.arrive (slot : Slot) (settings : Settings) (t : Task) : Slot :=
  match t.point? with
  | none => { slot with held := none, answer := .done }
  | some p =>
    let held := if slot.holds.contains p then some p else none
    let holds := slot.holds.erase p
    match p with
    | .settings => ⟨holds, slot.replies, held, .settings settings⟩
    | .lint => ⟨holds, slot.replies.tail, held, .reply (slot.replies.head?.getD (.ok []))⟩
    | _ => ⟨holds, slot.replies, held, .done⟩

structure Schedule (L : Type) where
  pool : TaskPool L
  slots : List Slot
  settings : Settings

namespace Schedule

variable {L : Type}

def initial (linter : L) (settings : Settings) : Schedule L := ⟨.initial linter, [], settings⟩

def spawn (s : Schedule L) (job : Job) (holds : List Point) (replies : List Reply) : Schedule L :=
  { s with
    pool := s.pool.spawn job
    slots := s.slots ++ [⟨holds, replies, none, .done⟩] }

def canResume (s : Schedule L) (id : TaskId) (t : Task) (slot : Slot) : Bool :=
  slot.held.isNone && !t.isFinished && (!t.isQueued || s.pool.adapter.holds id)

def advance? (s : Schedule L) (id : TaskId) : Option (Schedule L) := do
  let t ← s.pool.tasks[id]?
  let slot ← s.slots[id]?
  if s.canResume id t slot then
    let pool := s.pool.resume id slot.answer
    let t ← pool.tasks[id]?
    return { s with pool := pool, slots := s.slots.set id (slot.arrive s.settings t) }
  else none

def poll (s : Schedule L) (id : TaskId) : Nat → Schedule L
  | 0 => s
  | fuel + 1 =>
    match s.advance? id with
    | none => s
    | some t => t.poll id fuel

def isIdle (s : Schedule L) : Bool :=
  (List.range s.pool.tasks.length).all fun id => (s.advance? id).isNone

def settle (s : Schedule L) (steps : Nat) : Nat → Schedule L
  | 0 => s
  | rounds + 1 =>
    if s.isIdle then s
    else
      let ids := List.range s.pool.tasks.length
      (ids.foldl (fun s id => s.poll id steps) s).settle steps rounds

def Job.passCount : Job → Nat
  | .lint _ => 1
  | .event _ => 1
  | .visible ds => ds.length
  | .run ps => ps.length
  | .close _ => 0
  | .resolve _ => 0

/-- A bound on the steps left: a pass takes at most ten, and one for each finding. -/
def stepBound (s : Schedule L) : Nat :=
  let findings (slot : Slot) : Nat :=
    slot.replies.foldr (fun r n => r.toOption.elim n fun fs => fs.length + n) 0
  let waiting (t : Task) : Nat :=
    match t with
    | .ready job => 10 * (Job.passCount job + 1)
    | .passing _ stage rest _ =>
      10 * (rest.length + 1) +
        (match stage with
          | .reporting left _ => left.length
          | _ => 0)
    | _ => 10
  let replied (slot : Slot) : Nat :=
    match slot.answer with
    | .reply (.ok fs) => fs.length
    | _ => 0
  let left := s.slots.foldr (fun slot n => findings slot + replied slot + n) 1
  s.pool.tasks.foldr (fun t n => waiting t + n) left

def run (s : Schedule L) : Schedule L := s.settle s.stepBound s.stepBound

def heldAt? (s : Schedule L) (id : TaskId) : Option Point := do (← s.slots[id]?).held

def release (s : Schedule L) (id : TaskId) : Schedule L :=
  match s.slots[id]? with
  | none => s
  | some slot => { s with slots := s.slots.set id { slot with held := none } }

/-- The unfinished tasks that are not held. -/
def waiting (s : Schedule L) : List TaskId :=
  (List.range s.pool.tasks.length).filter fun id =>
    match s.pool.tasks[id]? with
    | some t => !t.isFinished && (s.heldAt? id).isNone
    | none => false

def held (s : Schedule L) : List (TaskId × Point) :=
  (List.range s.pool.tasks.length).filterMap fun id => (s.heldAt? id).map fun p => (id, p)

end Schedule

end MarkupLint
