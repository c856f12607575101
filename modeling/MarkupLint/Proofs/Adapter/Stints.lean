import MarkupLint.Proofs.Adapter.Steps
import MarkupLint.Proofs.Adapter.Work

/-! Every task of a pool does its own work on a pass: between its call for the configuration and
the end of the pass, what it did is `Work`, whatever the other tasks did meanwhile. -/
namespace MarkupLint

open History

variable {L : Type}

namespace History

def OneTask (id : TaskId) (es : List (Event L)) : Prop := ∀ e ∈ es, ∀ j, e.task? = some j → j = id

theorem OneTask.cons {id : TaskId} {e : Event L} {es : List (Event L)} (one : OneTask id es)
    (own : e.task? = none ∨ e.task? = some id) : OneTask id (e :: es) := by
  refine List.forall_mem_cons.mpr ⟨fun j is => ?_, one⟩
  rcases own with nobody | own
  · simp [nobody] at is
  · simpa [own, eq_comm] using is

end History

theorem Trail.one_task {id : TaskId} {p : Pass} {stage : Stage} {es : List (Event L)}
    (t : Trail id p stage es) : OneTask id es := by
  induction t with
  | lookup => exact OneTask.cons (by simp [OneTask]) (.inl rfl)
  | linting _ _ _ ih => exact ih.cons (.inr rfl)
  | failing _ _ _ _ ih => exact ih.cons (.inr rfl)
  | showing _ ih => exact ih
  | reporting _ _ _ _ ih => exact (ih.cons (.inr rfl)).cons (.inr rfl)
  | found _ ih => exact ih
  | excluded _ ih => exact ih
  | publishing _ ih => exact ih.cons (.inr rfl)
  | published _ _ ih => exact ih.cons (.inr rfl)

theorem Ending.one_task {p : Pass} {o : Outcome} {es : List (Event L)} (t : Ending p o es) :
    ∃ i, OneTask i es := by
  cases t with
  | published t => exact ⟨_, t.one_task.cons (.inl rfl)⟩
  | refused t => exact ⟨_, (t.one_task.cons (.inr rfl)).cons (.inl rfl)⟩
  | dropped t => exact ⟨_, ((t.one_task.cons (.inr rfl)).cons (.inr rfl)).cons (.inl rfl)⟩
  | failed t => exact ⟨_, t.one_task.cons (.inl rfl)⟩

namespace History

def own (id : TaskId) (h : List (Event L)) : List (Event L) := h.filter fun e => e.task? = some id

theorem own_append (id : TaskId) (es h : List (Event L)) :
    own id (es ++ h) = own id es ++ own id h := List.filter_append ..

theorem own_cons (id : TaskId) (e : Event L) (h : List (Event L)) :
    own id (e :: h) = if e.task? = some id then e :: own id h else own id h := by
  simp [own, List.filter_cons]

theorem own_others {id : TaskId} {es : List (Event L)} (others : ∀ e ∈ es, e.task? ≠ some id) :
    own id es = [] := List.filter_eq_nil_iff.mpr (by simpa using others)

/-- The part of a history that a task spent on a pass: what came after it began to resolve the
configuration of the pass, of which nothing was known then but its issue. -/
structure Stretch (id : TaskId) (p : Pass) (span h : List (Event L)) : Prop where
  begun : ∃ before, h = span ++ .resolving id p.document.uri :: before ∧
    trail p before = [.issued p]
  once : ∀ uri, .resolving id uri ∉ span

/-- A stretch in which no other task had to do with the pass. -/
structure Stint (id : TaskId) (p : Pass) (span h : List (Event L)) : Prop
    extends Stretch id p span h where
  alone : OneTask id (trail p span)

/-- A stretch goes on as long as the task begins no other one. -/
theorem Stretch.later {id : TaskId} {p : Pass} {span h : List (Event L)}
    (s : Stretch id p span h) (es : List (Event L))
    (once : ∀ uri, .resolving id uri ∉ own id (es ++ span)) :
    Stretch id p (es ++ span) (es ++ h) := by
  obtain ⟨before, rfl, unstarted⟩ := s.begun
  refine ⟨⟨before, by simp, unstarted⟩, fun uri there => once uri ?_⟩
  exact List.mem_filter.mpr ⟨there, by simp [Event.task?]⟩

def AtWork (id : TaskId) (p : Pass) (stage : Stage) (h : List (Event L)) : Prop :=
  ∃ span, Stretch id p span h ∧ Work id p stage (own id span)

def DidWork (id : TaskId) (p : Pass) (o : Outcome) (h : List (Event L)) : Prop :=
  ∃ span, Stretch id p span h ∧ Worked id p o (own id span)

section Later

variable {id : TaskId} {p : Pass} {stage next : Stage} {h : List (Event L)}

theorem AtWork.more (a : AtWork id p stage h) (es : List (Event L))
    (work : ∀ {done}, Work id p stage done → Work id p next (own id es ++ done)) :
    AtWork id p next (es ++ h) := by
  obtain ⟨span, stretch, w⟩ := a
  have now : Work id p next (own id (es ++ span)) := own_append id es span ▸ work w
  exact ⟨es ++ span, stretch.later es now.unresolving, now⟩

theorem AtWork.later (a : AtWork id p stage h) {es : List (Event L)}
    (others : ∀ e ∈ es, e.task? ≠ some id) : AtWork id p stage (es ++ h) :=
  a.more es fun w => by rwa [own_others others, List.nil_append]

theorem AtWork.ends (a : AtWork id p stage h) {o : Outcome} (es : List (Event L))
    (worked : ∀ {done}, Work id p stage done → Worked id p o (own id es ++ done)) :
    DidWork id p o (es ++ h) := by
  obtain ⟨span, stretch, w⟩ := a
  have now : Worked id p o (own id (es ++ span)) := own_append id es span ▸ worked w
  exact ⟨es ++ span, stretch.later es now.unresolving, now⟩

end Later

def EndFits : Event L → List (Event L) → Prop
  | .ended p o, older => ∃ id, DidWork id p o older
  | _, _ => True

end History

def Task.Works (id : TaskId) (h : List (Event L)) : Task → Prop
  | .passing p stage _ _ => AtWork id p stage h
  | _ => True

theorem Task.Works.later {id : TaskId} {t : Task} {h : List (Event L)} (w : t.Works id h)
    {es : List (Event L)} (others : ∀ e ∈ es, e.task? ≠ some id) : t.Works id (es ++ h) := by
  cases t with
  | passing => exact AtWork.later w others
  | _ => trivial

inductive WorkMove (id : TaskId) (u : Task) (h : List (Event L)) : List (Event L) → Prop where
  | more {h' : List (Event L)} (works : u.Works id h') (es : List (Event L))
      (added : h' = es ++ h) (unended : ∀ e ∈ es, ∀ p o, e ≠ .ended p o) : WorkMove id u h h'
  | stop {p : Pass} {o : Outcome} {rest : List Pass} (es : List (Event L))
      (did : DidWork id p o (es ++ h)) (unended : ∀ e ∈ es, ∀ q o', e ≠ .ended q o')
      (goes : u = .ready (.run rest)) : WorkMove id u h (.ended p o :: (es ++ h))

theorem TaskMove.work {id : TaskId} {x y : Adapter L × Task} (m : TaskMove id x y)
    (outside : x.2.standing = .outside → x.1.holds id = false)
    (f : x.2.Follows id x.1.history) (w : x.2.Works id x.1.history) :
    WorkMove id y.2 x.1.history y.1.history := by
  cases m with
  | ignore => exact .more trivial [_] rfl (by simp)
  | finish => exact .more trivial [_] rfl (by simp)
  | find a asks config =>
    refine .more ?_ [_, _] rfl (by simp)
    cases asks with
    | pass p rest os =>
      have issued : trail p a.history = [.issued p] := f p List.mem_cons_self
      refine ⟨[_], ⟨⟨a.history, rfl, issued⟩, by simp⟩, ?_⟩
      simpa [own, Event.task?] using Work.kept config
    | own => trivial
  | read a asks =>
    refine .more ?_ [_, _] rfl (by simp)
    cases asks with
    | pass p rest os =>
      have issued : trail p a.history = [.issued p] := f p List.mem_cons_self
      refine ⟨[_], ⟨⟨a.history, rfl, issued⟩, by simp⟩, ?_⟩
      simpa [own, Event.task?] using Work.reading a.cache.generation
    | own => trivial
  | announce a asks generation s =>
    refine .more ?_ [_, _] rfl (by simp)
    cases asks with
    | pass p rest os =>
      refine AtWork.more w [_, _] fun w => ?_
      simpa [own, Event.task?, Adapter.announce] using w.announcing s rfl
    | own => trivial
  | keep a asks generation config =>
    refine .more ?_ [_] rfl (by simp)
    cases asks with
    | pass p rest os => exact AtWork.more w [_] fun w => by simpa [own, Event.task?] using w.read
    | own => trivial
  | answer => exact .more trivial [_] rfl (by simp)
  | call a p rest os config linted =>
    refine .more (AtWork.more w [_] fun w => ?_) [_] rfl (by simp)
    simpa [own, Event.task?] using w.linting linted a.linter
  | exclude a p rest os config excluded =>
    exact .more (AtWork.more w [] fun w => w.excluded excluded) [] rfl (by simp)
  | fail a p rest os config e =>
    refine .more (AtWork.more w [_, _] fun w => ?_) [_, _] rfl (by simp)
    simpa [own, Event.task?] using w.failing e (a.isCurrent p) rfl
  | accept a p rest os config fs =>
    refine .more (AtWork.more w [_, _] fun w => ?_) [_, _] rfl (by simp)
    simpa [own, Event.task?, outside rfl] using w.reporting fs rfl (List.nil_append _).symm
  | drop a p rest os config fs =>
    refine .stop [_, _] (AtWork.ends w _ fun w => ?_) (by simp) rfl
    simpa [own, Event.task?, outside rfl] using Worked.dropped w fs
  | report =>
    refine .more (AtWork.more w [_] fun w => ?_) [_] rfl (by simp)
    simpa [own, Event.task?] using w.report
  | arrive => exact .more (AtWork.more w [] fun w => w.found) [] rfl (by simp)
  | grant =>
    refine .more (AtWork.more w [_] fun w => ?_) [_] rfl (by simp)
    simpa [own, Event.task?] using w.publishing
  | refuse =>
    refine .stop [_] (AtWork.ends w _ fun w => ?_) (by simp) rfl
    simpa [own, Event.task?] using Worked.refused w
  | publish =>
    refine .more (AtWork.more w [_] fun w => ?_) [_] rfl (by simp)
    simpa [own, Event.task?] using w.published rfl
  | leave => exact .stop [] (AtWork.ends w [] fun w => .published w rfl) (by simp) rfl
  | shows =>
    refine .more (AtWork.more w [_] fun w => ?_) [_] rfl (by simp)
    simpa [own, Event.task?] using w.showing
  | giveUp => exact .stop [] (AtWork.ends w [] fun w => .failed w) (by simp) rfl
  | cease => exact .stop [] (AtWork.ends w [] fun w => .shown w) (by simp) rfl
  | close => exact .more trivial [_] rfl (by simp)
  | enter => exact .more trivial [] rfl (by simp)
  | delete => exact .more trivial [_] rfl (by simp)
  | depart => exact .more trivial [_] rfl (by simp)

theorem WorkMove.works {id : TaskId} {u : Task} {h h' : List (Event L)} (m : WorkMove id u h h') :
    u.Works id h' := by
  cases m with
  | more works => exact works
  | stop _ _ _ goes => exact goes ▸ trivial

theorem WorkMove.end_fits {id : TaskId} {u : Task} {h h' : List (Event L)}
    (m : WorkMove id u h h') (fit : Justified EndFits h) : Justified EndFits h' := by
  have plain : ∀ {es : List (Event L)}, (∀ e ∈ es, ∀ p o, e ≠ .ended p o) →
      ∀ e ∈ es, ∀ older, EndFits e older := by
    intro es unended e he older
    cases e with
    | ended p o => exact absurd rfl (unended _ he p o)
    | _ => trivial
  cases m with
  | more _ es added unended => exact added ▸ fit.append (plain unended)
  | stop es did unended => exact ⟨⟨id, did⟩, fit.append (plain unended)⟩

namespace TaskPool

structure Working (s : TaskPool L) : Prop where
  works : ∀ {id : TaskId} {t : Task}, s.tasks[id]? = some t → t.Works id s.adapter.history
  ends : Justified EndFits s.adapter.history

variable {linter : L} {s t : TaskPool L}

theorem working_move (h : Working s) (locked : Locked s) (tracked : Tracked s) (m : Move s t) :
    Working t := by
  have work : ∀ {id t u a}, s.tasks[id]? = some t → TaskMove id (s.adapter, t) (a, u) →
      WorkMove id u s.adapter.history a.history := fun here m =>
    m.work (locked.outside here) (tracked.follows here) (h.works here)
  constructor
  · exact m.each (P := Task.Works) h.works (fun w others => w.later others) (fun _ => trivial)
      (fun _ _ _ => trivial) fun here m => (work here m).works
  · cases m with
    | issue => exact ⟨trivial, h.ends⟩
    | invalidate => exact ⟨trivial, h.ends⟩
    | setLinter => exact ⟨trivial, h.ends⟩
    | spawn => exact h.ends
    | claim => exact h.ends
    | task here m => exact (work here m).end_fits h.ends

theorem Arises.working (h : Arises linter s) : Working s := by
  induction h with
  | start => exact ⟨fun here => by simp [initial] at here, trivial⟩
  | move h m ih => exact working_move ih h.locked h.tracked m

theorem Arises.did_work (h : Arises linter s) {newer older : List (Event L)} {p : Pass}
    {o : Outcome} (history : s.adapter.history = newer ++ .ended p o :: older) :
    ∃ id span, Stint id p span older ∧ Worked id p o (own id span) := by
  have ends := h.working.ends
  rw [history] at ends
  obtain ⟨id, span, stretch, worked⟩ := ends.at
  have ended : .ended p o ∈ s.adapter.history := by simp [history]
  obtain ⟨i, all⟩ := (h.tracked.ended ended).one_task
  have one : OneTask i (trail p span) := by
    obtain ⟨before, rfl, _⟩ := stretch.begun
    refine fun e he => all e (mem_trail.mpr ⟨?_, (mem_trail.mp he).2⟩)
    simp [history, (mem_trail.mp he).1]
  obtain ⟨e, he, about⟩ := worked.touches
  obtain ⟨there, mine⟩ := List.mem_filter.mp he
  obtain rfl : id = i := one e (mem_trail.mpr ⟨there, about⟩) id (by simpa using mine)
  exact ⟨id, span, ⟨stretch, one⟩, worked⟩

end TaskPool

end MarkupLint
