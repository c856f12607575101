import MarkupLint.Proofs.Adapter.CloseBarrier
import MarkupLint.Proofs.Adapter.Views
import MarkupLint.Proofs.Adapter.Stints

/-! Every update of the diagnostics belongs to one pass that was published or excluded, or to one
close, and each of these makes one. A pass that fails leaves everything as it was. -/
namespace MarkupLint

open History

variable {L : Type}

inductive SinkCall where
  | set (uri : Url) (diagnostics : List Diagnostic) (version : Option Int)
  | delete (uri : Url)

def Outcome.isUpdate : Outcome → Bool
  | .published _ => true
  | .excluded => true
  | _ => false

namespace Event

def sinkCall? : Event L → Option SinkCall
  | .set _ update ds => some (.set update.uri ds update.version)
  | .deleted _ uri => some (.delete uri)
  | _ => none

def isSuccess : Event L → Bool
  | .ended _ o => o.isUpdate
  | _ => false

def isClosed : Event L → Bool
  | .finished _ .closed => true
  | _ => false

def isShown : Event L → Bool
  | .shown _ _ => true
  | _ => false

end Event

namespace History

def sinkCalls (h : List (Event L)) : List SinkCall := h.filterMap Event.sinkCall?

@[simp] theorem sinkCalls_nil : sinkCalls ([] : List (Event L)) = [] := rfl

@[simp] theorem sinkCalls_cons (e : Event L) (h : List (Event L)) :
    sinkCalls (e :: h) = e.sinkCall?.toList ++ sinkCalls h := by
  cases c : e.sinkCall? <;> simp [sinkCalls, c]

@[simp] theorem sinkCalls_append (es h : List (Event L)) :
    sinkCalls (es ++ h) = sinkCalls es ++ sinkCalls h := List.filterMap_append

@[simp] theorem sinkCalls_reported (id : TaskId) (ds : List Diagnostic) :
    sinkCalls (reported id ds : List (Event L)) = [] := by
  simp [sinkCalls, reported, Event.sinkCall?]

end History

def Pass.Tells (p : Pass) (calls : List SinkCall) : Outcome → Prop
  | .published n => ∃ ds, ds.length = n ∧ calls = [.set p.document.uri ds p.document.version]
  | .excluded => calls = [.set p.document.uri [] p.document.version]
  | .stale => calls = []
  | .failed _ => calls = []

section Pass

variable {id : TaskId} {p : Pass} {o : Outcome} {es : List (Event L)}

theorem Trail.untold {stage : Stage} (t : Trail id p stage es)
    (early : ∀ u, stage ≠ .published u) : sinkCalls es = [] := by
  induction t with
  | published => exact absurd rfl (early _)
  | lookup => rfl
  | _ => simp_all [Event.sinkCall?]

theorem Ending.tells (t : Ending p o es) : p.Tells (sinkCalls es) o := by
  cases t with
  | @published _ u _ t _ is =>
    cases t with
    | published t brought =>
      have none := t.untold (by simp)
      cases u <;> simp [is, brought, none, Pass.Tells, Publication.outcome,
        Publication.diagnostics, Event.sinkCall?, Pass.update]
  | refused t => simp [Pass.Tells, t.untold (by simp), Event.sinkCall?]
  | dropped t => simp [Pass.Tells, t.untold (by simp), Event.sinkCall?]
  | failed t => simp [Pass.Tells, t.untold (by simp), Event.sinkCall?]

theorem LookedUp.untold {uri : Url} {config : DocumentConfig} (looked : LookedUp id uri config es) :
    sinkCalls es = [] := by
  rcases looked with rfl | ⟨s, _, rfl⟩ <;> rfl

theorem Called.untold {config : DocumentConfig} (c : Called id p config es) :
    sinkCalls es = [] := by
  obtain ⟨_, linter, lookup, looked, rfl⟩ := c
  simp [looked.untold, Event.sinkCall?]

theorem Worked.tells (w : Worked id p o es) : p.Tells (sinkCalls es) o := by
  cases o with
  | published n =>
    obtain ⟨fs, config, call, rfl, called, rfl⟩ := w.found
    exact ⟨_, rfl, by simp [called.untold, Event.sinkCall?, Pass.update]⟩
  | excluded =>
    obtain ⟨config, lookup, looked, _, rfl⟩ := w.excluded
    simp [Pass.Tells, looked.untold, Event.sinkCall?, Pass.update]
  | stale =>
    rcases w.stale with ⟨fs, config, call, called, rfl⟩ | ⟨fs, config, call, called, rfl⟩ |
      ⟨config, lookup, looked, _, rfl⟩
    · simp [Pass.Tells, called.untold, Event.sinkCall?]
    · simp [Pass.Tells, called.untold, Event.sinkCall?]
    · simp [Pass.Tells, looked.untold, Event.sinkCall?]
  | failed reason =>
    obtain ⟨e, config, call, shown, _, called, rfl | rfl, rfl⟩ := w.failure <;>
      simp [Pass.Tells, called.untold, Event.sinkCall?]

theorem Called.leaves_all {config : DocumentConfig} (c : Called id p config es) :
    ∀ e ∈ es, ∀ u, e.updates u = false ∧ e.turns u = false := by
  obtain ⟨_, linter, lookup, rfl | ⟨s, _, rfl⟩, rfl⟩ := c <;>
    simp [Event.updates, Event.turns]

theorem Worked.leaves_all {reason : String} (w : Worked id p (.failed reason) es) :
    ∀ e ∈ es, ∀ u, e.updates u = false ∧ e.turns u = false := by
  obtain ⟨e, config, call, shown, _, called, rfl | rfl, rfl⟩ := w.failure <;>
    simpa [Event.updates, Event.turns] using called.leaves_all

theorem Called.unshown {config : DocumentConfig} (c : Called id p config es) :
    es.countP Event.isShown = 0 := by
  obtain ⟨_, linter, lookup, rfl | ⟨s, _, rfl⟩, rfl⟩ := c <;> rfl

/-- A pass that fails says so in one line, after the line about its configuration, and shows it at
most once. -/
theorem Worked.says {reason : String} (w : Worked id p (.failed reason) es) :
    (∃ info config, (info = [] ∨ info = [infoLine p.document.uri.cacheKey config]) ∧
      logLines es = info ++ [failureLine p.document.uri reason]) ∧
    (logLines es).filter complains = [failureLine p.document.uri reason] ∧
    es.countP Event.isShown ≤ 1 := by
  obtain ⟨e, config, call, shown, _, called, shows, rfl⟩ := w.failure
  have lines : logLines (shown ++ .logged id (failureLine p.document.uri reason) ::
      .replied id p (.error e) :: call) = logLines call ++ [failureLine p.document.uri reason] := by
    rcases shows with rfl | rfl <;> simp [Event.line?]
  have info : (logLines call).filter complains = [] := by
    rcases called.lines with none | one
    · simp [none]
    · simp [one]
  refine ⟨⟨logLines call, config, called.lines, lines⟩, by simp [lines, info], ?_⟩
  rcases shows with rfl | rfl <;>
    simp [called.unshown, Event.isShown, List.countP_cons]

end Pass

def Task.isCloser : Task → Bool
  | .ready (.close _) => true
  | t => t.isClose

/-- What a task did when it closes a document, the last event first. -/
inductive CloseWork (id : TaskId) : Task → List (Event L) → Prop where
  | other {t : Task} {es} (different : t.isCloser = false) (unclosed : .finished id .closed ∉ es) :
      CloseWork id t es
  | asked (uri : Url) : CloseWork id (.ready (.close uri)) []
  | closing (uri : Url) : CloseWork id (.closing uri) [.forgotten id uri]
  | deleting (uri : Url) : CloseWork id (.deleting uri) [.forgotten id uri]
  | deleted (uri : Url) : CloseWork id (.deleted uri) [.deleted id uri, .forgotten id uri]
  | finished (uri : Url) :
      CloseWork id .finished [.finished id .closed, .deleted id uri, .forgotten id uri]

theorem CloseWork.start (id : TaskId) (job : Job) :
    CloseWork id (.ready job) ([] : List (Event L)) := by
  cases job with
  | close uri => exact .asked uri
  | _ => exact .other rfl (by simp)

section Close

variable {id : TaskId} {t u : Task} {h h' : List (Event L)}

theorem CloseWork.later {es : List (Event L)} (c : CloseWork id t (own id h))
    (others : ∀ e ∈ es, e.task? ≠ some id) : CloseWork id t (own id (es ++ h)) := by
  rwa [own_append, own_others others, List.nil_append]

theorem CloseWork.of_asked {uri : Url} {es : List (Event L)}
    (c : CloseWork id (.ready (.close uri)) es) : es = [] := by
  cases c with
  | other different => simp [Task.isCloser] at different
  | asked => rfl

theorem CloseWork.of_shutting {uri : Url} {es : List (Event L)} (c : CloseWork id t es)
    (shuts : t.shutting? = some uri) : es = [.forgotten id uri] := by
  cases c with
  | other different =>
    cases t <;> simp [Task.isCloser, Task.isClose, Task.shutting?] at different shuts
  | closing => simpa [Task.shutting?] using shuts
  | deleting => simpa [Task.shutting?] using shuts
  | _ => simp [Task.shutting?] at shuts

theorem CloseWork.of_deleted {uri : Url} {es : List (Event L)}
    (c : CloseWork id (.deleted uri) es) : es = [.deleted id uri, .forgotten id uri] := by
  cases c with
  | other different => simp [Task.isCloser, Task.isClose] at different
  | deleted => rfl

theorem CloseWork.goes_on (c : CloseWork id t (own id h))
    (elsewhere : t.isCloser = false ∧ t ≠ .finished) (after : u.isCloser = false)
    (es : List (Event L)) (added : h' = es ++ h) (unclosed : .finished id .closed ∉ es) :
    CloseWork id u (own id h') := by
  obtain ⟨different, going⟩ := elsewhere
  have before : .finished id .closed ∉ own id h := by
    generalize own id h = done at c
    cases c with
    | other _ unclosed => exact unclosed
    | finished => exact absurd rfl going
    | _ => simp [Task.isCloser, Task.isClose] at different
  refine .other after ?_
  rw [added, own_append, List.mem_append]
  rintro (new | old)
  · exact unclosed (List.mem_filter.mp new).1
  · exact before old

theorem Asks.no_closer {uri : Url} {k : Lookup → Task} (asks : Asks t uri k) :
    (t.isCloser = false ∧ t ≠ .finished) ∧
      ∀ l, (k l).isCloser = false ∧ k l ≠ .finished := by
  cases asks <;> simp [Task.isCloser, Task.isClose]

theorem TaskMove.close_work {x y : Adapter L × Task} (m : TaskMove id x y)
    (c : CloseWork id x.2 (own id x.1.history)) : CloseWork id y.2 (own id y.1.history) := by
  cases m with
  | find _ asks =>
    exact c.goes_on asks.no_closer.1 (asks.no_closer.2 _).1 [_, _] rfl (by simp)
  | read _ asks =>
    exact c.goes_on asks.no_closer.1 (asks.no_closer.2 _).1 [_, _] rfl (by simp)
  | announce _ asks =>
    exact c.goes_on (asks.no_closer.2 _) (asks.no_closer.2 _).1 [_, _] rfl (by simp)
  | keep _ asks =>
    exact c.goes_on (asks.no_closer.2 _) (asks.no_closer.2 _).1 [_] rfl (by simp)
  | close a uri =>
    have done : own id a.history = [] := c.of_asked
    simpa [own_cons, Event.task?, done] using CloseWork.closing uri
  | enter a uri => exact c.of_shutting rfl ▸ .deleting uri
  | delete a uri =>
    have done : own id a.history = [.forgotten id uri] := c.of_shutting rfl
    simpa [own_cons, Event.task?, done] using CloseWork.deleted uri
  | depart a uri =>
    have done : own id a.history = [.deleted id uri, .forgotten id uri] := c.of_deleted
    simpa [own_cons, Event.task?, done] using CloseWork.finished uri
  | fail => exact c.goes_on (by simp [Task.isCloser, Task.isClose]) rfl [_, _] rfl (by simp)
  | accept => exact c.goes_on (by simp [Task.isCloser, Task.isClose]) rfl [_, _] rfl (by simp)
  | drop => exact c.goes_on (by simp [Task.isCloser, Task.isClose]) rfl [_, _, _] rfl (by simp)
  | refuse => exact c.goes_on (by simp [Task.isCloser, Task.isClose]) rfl [_, _] rfl (by simp)
  | exclude => exact c.goes_on (by simp [Task.isCloser, Task.isClose]) rfl [] rfl (by simp)
  | arrive => exact c.goes_on (by simp [Task.isCloser, Task.isClose]) rfl [] rfl (by simp)
  | _ => exact c.goes_on (by simp [Task.isCloser, Task.isClose]) rfl [_] rfl (by simp)

end Close

/-- Whether a task updated the diagnostics for a pass or a close that did not end yet. -/
def Task.owes : Task → Bool
  | .passing _ (.published _) _ _ => true
  | .deleted _ => true
  | _ => false

theorem Asks.owes {t : Task} {uri : Url} {k : Lookup → Task} (asks : Asks t uri k) :
    t.owes = false ∧ ∀ l, (k l).owes = false := by
  cases asks <;> exact ⟨rfl, fun _ => rfl⟩

/-- A move that tells the holder of the diagnostics something leaves its task with an end to come,
and the end takes that away. -/
theorem TaskMove.balance {id : TaskId} {x y : Adapter L × Task} (m : TaskMove id x y) :
    ∃ es, y.1.history = es ++ x.1.history ∧
      (sinkCalls es).length + x.2.owes.toNat =
        es.countP Event.isSuccess + es.countP Event.isClosed + y.2.owes.toNat := by
  cases m with
  | find _ asks => exact ⟨[_, _], rfl, by rw [asks.owes.1, asks.owes.2]; rfl⟩
  | read _ asks => exact ⟨[_, _], rfl, by rw [asks.owes.1, asks.owes.2]; rfl⟩
  | announce _ asks => exact ⟨[_, _], rfl, by rw [asks.owes.2, asks.owes.2]; rfl⟩
  | keep _ asks => exact ⟨[_], rfl, by rw [asks.owes.2, asks.owes.2]; rfl⟩
  | fail => exact ⟨[_, _], rfl, rfl⟩
  | accept => exact ⟨[_, _], rfl, rfl⟩
  | refuse => exact ⟨[_, _], rfl, rfl⟩
  | drop => exact ⟨[_, _, _], rfl, rfl⟩
  | exclude => exact ⟨[], rfl, rfl⟩
  | arrive => exact ⟨[], rfl, rfl⟩
  | enter => exact ⟨[], rfl, rfl⟩
  | leave a p rest os u => exact ⟨[_], rfl, by cases u <;> rfl⟩
  | _ => exact ⟨[_], rfl, rfl⟩

namespace TaskPool

structure Closing (s : TaskPool L) : Prop where
  works : ∀ {id : TaskId} {t : Task}, s.tasks[id]? = some t →
    CloseWork id t (own id s.adapter.history)
  unborn : ∀ {id : TaskId}, s.tasks.length ≤ id → own id s.adapter.history = []

/-- Every update of the diagnostics has the end of a pass or a close, come or to come. -/
def Balanced (s : TaskPool L) : Prop :=
  (sinkCalls s.adapter.history).length =
    s.adapter.history.countP Event.isSuccess + s.adapter.history.countP Event.isClosed +
      s.tasks.countP Task.owes

variable {linter : L} {s t : TaskPool L}

theorem closing_move (h : Closing s) (m : Move s t) : Closing t := by
  constructor
  · refine m.each (P := fun id h t => CloseWork id t (own id h)) h.works CloseWork.later ?_ ?_
      fun here m => m.close_work (h.works here)
    · exact fun job => (h.unborn Nat.le.refl).symm ▸ .start _ job
    · intro id job passes issues c
      refine c.goes_on ?_ rfl [] rfl (by simp)
      cases job <;> simp [Job.issues, Task.isCloser, Task.isClose] at issues ⊢
  · intro j far
    cases m with
    | issue => exact h.unborn far
    | invalidate => exact h.unborn far
    | setLinter => exact h.unborn far
    | spawn job =>
      simp only [spawn, List.length_append, List.length_singleton] at far
      exact h.unborn (Nat.le_of_succ_le far)
    | claim => exact h.unborn (by simpa using far)
    | @task id _ _ a here m =>
      have born : id < s.tasks.length := (List.getElem?_eq_some_iff.mp here).1
      simp only [List.length_set] at far
      obtain ⟨es, added, others⟩ := m.others (Nat.ne_of_gt (Nat.lt_of_lt_of_le born far))
      rw [show a.history = es ++ s.adapter.history from added, own_append, own_others others]
      exact h.unborn far

theorem Arises.closing (h : Arises linter s) : Closing s := by
  induction h with
  | start => exact ⟨fun here => by simp [initial] at here, fun _ => rfl⟩
  | move _ m ih => exact closing_move ih m

/-- A close that ended did nothing but to forget the passes and to delete the diagnostics. -/
theorem Closing.closed (h : Closing s) {c : TaskId}
    (closed : .finished c .closed ∈ s.adapter.history) :
    ∃ uri, own c s.adapter.history =
      [.finished c .closed, .deleted c uri, .forgotten c uri] := by
  have mine : .finished c .closed ∈ own c s.adapter.history :=
    List.mem_filter.mpr ⟨closed, by simp [Event.task?]⟩
  cases at_c : s.tasks[c]? with
  | none => simp [h.unborn (List.getElem?_eq_none_iff.mp at_c)] at mine
  | some t =>
    have work := h.works at_c
    generalize own c s.adapter.history = es at work mine
    cases work with
    | finished uri => exact ⟨uri, rfl⟩
    | other _ unclosed => exact absurd mine unclosed
    | _ => simp at mine

theorem balanced_move (h : Balanced s) (m : Move s t) : Balanced t := by
  cases m with
  | issue d => exact h
  | invalidate => exact h
  | setLinter linter => exact h
  | spawn job => simpa [Balanced, spawn, Task.owes] using h
  | claim passes here =>
    have owed := count_set here (.ready (.run passes)) Task.owes
    simp only [Task.owes, Bool.toNat_false, Nat.add_zero] at owed
    exact h.trans (by rw [owed])
  | @task id t u a here m =>
    obtain ⟨es, added, balance⟩ := m.balance
    have owed := count_set here u Task.owes
    have told := h
    simp only [Balanced, show a.history = es ++ s.adapter.history from added, sinkCalls_append,
      List.length_append, List.countP_append] at told balance ⊢
    omega

theorem Arises.balanced (h : Arises linter s) : Balanced s := by
  induction h with
  | start => rfl
  | move _ m ih => exact balanced_move ih m

end TaskPool

namespace Adapter

theorem resume_lookup_records (a : Adapter L) (id : TaskId) (uri : Url) (l : Lookup)
    (answer : Answer) : records (a.resumeLookup id uri l answer).1 = records a := by
  unfold resumeLookup
  split <;> rfl

/-- Only a pass with the lock in hand updates the diagnostics. -/
theorem resume_pass_records (a : Adapter L) (id : TaskId) (p : Pass) {stage : Stage}
    (early : ∀ u, stage ≠ .publishing u) (answer : Answer) :
    records (a.resumePass id p stage answer).1 = records a := by
  unfold resumePass
  split
  · exact (proceed_view narrow_records id p _).trans (resume_lookup_records a id _ _ answer)
  · exact replied_view narrow_records a id p _
  · exact report_next_view narrow_records a id p _ _
  · split <;> rfl
  · rfl
  · split
    · exact check_current_view narrow_records a id p _
    · rfl
  · exact absurd rfl (early _)
  · exact absurd rfl (early _)
  · rfl
  · rfl

theorem resume_task_records (a : Adapter L) (id : TaskId) {t : Task} {p : Pass}
    (first : t.passes.head? = some p)
    (early : ∀ u rest os, t ≠ .passing p (.publishing u) rest os) (answer : Answer) :
    records (a.resumeTask id t answer).1 = records a := by
  cases t with
  | ready job =>
    cases job with
    | run passes =>
      cases answer with
      | done => exact run_passes_view narrow_records passes id [] a
      | _ => rfl
    | _ => simp [Task.passes, Job.passes] at first
  | passing q stage rest os =>
    obtain rfl : q = p := by simpa [Task.passes] using first
    have step := resume_pass_records a id q (fun u eq => early u rest os (eq ▸ rfl)) answer
    exact (continue_passes_view narrow_records id q rest os _).trans step
  | _ => simp [Task.passes] at first

end Adapter

theorem Ending.failed_unchecked {p : Pass} {reason : String} {es : List (Event L)}
    (t : Ending p (.failed reason) es) (i : TaskId) (locked current : Bool) :
    .checked i p locked current ∉ es := by
  cases t with
  | @published _ u _ _ _ is => cases u <;> simp [Publication.outcome] at is
  | failed t =>
    cases t with
    | failing t =>
      cases t with
      | linting t =>
        cases t
        simp

namespace TaskPool

variable {linter : L} {r s : TaskPool L}

theorem Arises.failed_step (h : Arises linter r) (later : Reachable r s) (after : Arises linter s)
    {id : TaskId} {t : Task} {p : Pass} {reason : String} (here : r.tasks[id]? = some t)
    (first : t.passes.head? = some p) (failed : .ended p (.failed reason) ∈ s.adapter.history)
    (answer : Answer) : (r.resume id answer).adapter.records = r.adapter.records := by
  have early : ∀ u rest os, t ≠ .passing p (.publishing u) rest os := by
    rintro u rest os rfl
    have own : Trail id p (.publishing u) (trail p r.adapter.history) :=
      (h.tracked.follows here).1
    have checked : .checked id p true true ∈ trail p r.adapter.history := by
      generalize trail p r.adapter.history = es at own
      cases own
      exact List.mem_cons_self
    have old := mem_trail.mp checked
    exact (after.tracked.ended failed).failed_unchecked id true true
      (mem_trail.mpr ⟨later.grows.subset old.1, old.2⟩)
  simp only [TaskPool.resume, here]
  exact r.adapter.resume_task_records id first early answer

/-- A pass that was published or excluded updated the diagnostics once, with the version of its
document; one that failed or went stale did not. A pass that failed changed no diagnostics and no
turn at any step, and said so in one line. A close deleted once. So at rest there were as many
updates as passes with one and closes. -/
theorem updates_accounted (h : Reachable (.initial linter) s) :
    (∀ {newer older p o}, s.adapter.history = newer ++ .ended p o :: older →
      p.Tells (sinkCalls (trail p s.adapter.history)) o ∧
      ∃ id span, Stint id p span older ∧ p.Tells (sinkCalls (own id span)) o ∧
        ∀ reason, o = .failed reason →
          (∀ e ∈ own id span, ∀ u, e.updates u = false ∧ e.turns u = false) ∧
          (∃ info config, (info = [] ∨ info = [infoLine p.document.uri.cacheKey config]) ∧
            logLines (own id span) = info ++ [failureLine p.document.uri reason]) ∧
          (logLines (own id span)).filter complains = [failureLine p.document.uri reason] ∧
          (own id span).countP Event.isShown ≤ 1) ∧
    (∀ {r id t p reason}, Reachable (.initial linter) r → Reachable r s →
      r.tasks[id]? = some t → t.passes.head? = some p →
      .ended p (.failed reason) ∈ s.adapter.history → ∀ answer,
      (r.resume id answer).adapter.sink = r.adapter.sink ∧
      (r.resume id answer).adapter.latest = r.adapter.latest) ∧
    (∀ {c}, .finished c .closed ∈ s.adapter.history → ∃ uri,
      own c s.adapter.history = [.finished c .closed, .deleted c uri, .forgotten c uri]) ∧
    ((∀ t ∈ s.tasks, t = .finished) →
      (sinkCalls s.adapter.history).length =
        s.adapter.history.countP Event.isSuccess + s.adapter.history.countP Event.isClosed) := by
  have arises := reachable_arises h
  refine ⟨fun {newer older p o} history => ⟨?_, ?_⟩, ?_, arises.closing.closed, fun finished => ?_⟩
  · have ended : .ended p o ∈ s.adapter.history := by simp [history]
    exact (arises.tracked.ended ended).tells
  · obtain ⟨id, span, stint, worked⟩ := arises.did_work history
    refine ⟨id, span, stint, worked.tells, ?_⟩
    rintro reason rfl
    exact ⟨worked.leaves_all, worked.says⟩
  · intro r id t p reason start later here first failed answer
    have same := (reachable_arises start).failed_step later arises here first failed answer
    exact Prod.mk.injEq .. ▸ same
  · have none : s.tasks.countP Task.owes = 0 :=
      List.countP_eq_zero.mpr fun t ht => by simp [finished t ht, Task.owes]
    have balance := arises.balanced
    rwa [Balanced, none] at balance

def crashSteps : List (Step Unit) :=
  lintSteps 0 (.error (.process "crashed")) ++
    [.resume 0 .done, .spawn (.close emptyPage.uri), .resume 1 .done, .resume 1 .done]

theorem crashed_page_accounted :
    ∃ r s : TaskPool Unit, Reachable (.initial ()) r ∧ Reachable r s ∧
      (∃ id span, Stint id ⟨emptyPage, 1⟩ span (s.adapter.history.drop 5) ∧
        sinkCalls (own id span) = []) ∧
      (r.resume 0 .done).adapter.sink = r.adapter.sink ∧
      (∃ uri, own 1 s.adapter.history =
        [.finished 1 .closed, .deleted 1 uri, .forgotten 1 uri]) ∧
      (sinkCalls s.adapter.history).length =
        s.adapter.history.countP Event.isSuccess + s.adapter.history.countP Event.isClosed := by
  have start : Reachable (initial ()) ((initial ()).play (crashSteps.take 6)) :=
    reachable_play .refl (crashSteps.take 6) rfl
  have later : Reachable ((initial ()).play (crashSteps.take 6)) ((initial ()).play crashSteps) :=
    reachable_play .refl (crashSteps.drop 6) rfl
  have reachable : Reachable (initial ()) ((initial ()).play crashSteps) :=
    reachable_play .refl crashSteps rfl
  have here : ((initial ()).play (crashSteps.take 6)).tasks[0]? =
      some (.passing ⟨emptyPage, 1⟩ (.showing (LintError.process "crashed").message) [] []) := rfl
  have tasks : ((initial ()).play crashSteps).tasks = [.finished, .finished] := rfl
  generalize eq : (initial ()).play crashSteps = s at later reachable tasks
  have history : s.adapter.history = s.adapter.history.take 4 ++
      .ended ⟨emptyPage, 1⟩ (.failed (LintError.process "crashed").message) ::
        s.adapter.history.drop 5 := eq ▸ rfl
  have closed : .finished 1 .closed ∈ s.adapter.history :=
    List.mem_of_getElem? (i := 0) (eq ▸ rfl)
  obtain ⟨passes, steps, closes, rest⟩ := updates_accounted reachable
  obtain ⟨_, id, span, stint, told, _⟩ := passes history
  have failed : .ended ⟨emptyPage, 1⟩ (.failed (LintError.process "crashed").message) ∈
      s.adapter.history := List.mem_of_getElem? (i := 4) (eq ▸ rfl)
  exact ⟨_, s, start, later, ⟨id, span, stint, told⟩,
    (steps start later here rfl failed .done).1, closes closed, rest (by simp [tasks])⟩

end TaskPool

end MarkupLint
