import MarkupLint.Proofs.Adapter.Steps
import MarkupLint.Proofs.Adapter.Work

/-! A task while nobody else is active: nothing comes between the events of a pass, the publish lock
is free when it comes there, and all of it is over once everything that it waits for is given. -/
namespace MarkupLint

open History
open Map (Dict)

variable {L : Type} {id : TaskId} {p : Pass} {latest : Dict Nat} {base es : List (Event L)}

/-- What a task did for a pass stands together in the history, and all that was asked about the
pass has the answer that it has now. -/
structure Together (id : TaskId) (p : Pass) (latest : Dict Nat) (base : List (Event L))
    (a : Adapter L) (es : List (Event L)) : Prop where
  history : a.history = es ++ .resolving id p.document.uri :: base
  latest : a.latest = latest
  checked : ∀ locked current, .checked id p locked current ∈ es → current = a.isCurrent p

theorem Together.record {a : Adapter L} (t : Together id p latest base a es) (e : Event L)
    (checked : ∀ locked current, e = .checked id p locked current → current = a.isCurrent p) :
    Together id p latest base (a.record e) (e :: es) := by
  refine ⟨by rw [Adapter.record_history, t.history, List.cons_append], t.latest, ?_⟩
  intro locked current there
  rcases List.mem_cons.mp there with new | old
  · exact checked locked current new.symm
  · exact t.checked locked current old

theorem Together.quiet {a : Adapter L} (t : Together id p latest base a es) (b : Adapter L)
    (history : b.history = a.history) (same : b.latest = a.latest) :
    Together id p latest base b es := by
  refine ⟨history.trans t.history, same.trans t.latest, fun locked current there => ?_⟩
  rw [t.checked locked current there, Adapter.isCurrent, Adapter.isCurrent, same]

inductive Solo (id : TaskId) (p : Pass) (latest : Dict Nat) (base : List (Event L)) :
    Adapter L × Progress → Prop where
  | waits {a : Adapter L} {stage : Stage} {es : List (Event L)}
      (together : Together id p latest base a es) (work : Work id p stage es)
      (queue : a.queue = if stage.standing = .inside then [id] else [])
      (served : stage.standing ≠ .waiting) : Solo id p latest base (a, .waits stage)
  | ends {a : Adapter L} {o : Outcome} {es : List (Event L)}
      (together : Together id p latest base a es) (worked : Worked id p o es)
      (free : a.queue = []) : Solo id p latest base (a, .ends o)

section Steps

variable {a : Adapter L} {stage : Stage}

theorem Together.outside (t : Together id p latest base a es) (work : Work id p stage es)
    (outside : stage.standing = .outside) (free : a.queue = []) :
    Solo id p latest base (a, .waits stage) :=
  .waits t work (by simp [outside, free]) (by simp [outside])

theorem Together.check_solo (t : Together id p latest base a es) {u : Publication}
    (work : Work id p (.queued u) es) (queue : a.queue = [id]) :
    Solo id p latest base (a.checkCurrent id p u) := by
  have holds : a.holds id = true := by simp [Adapter.holds, queue]
  simp only [Adapter.checkCurrent, Adapter.check, holds]
  cases current : a.isCurrent p with
  | true =>
    refine .waits (t.record _ ?_) work.publishing queue (by simp [Stage.standing])
    simp [current]
  | false =>
    have free : (a.record (.checked id p true false)).release.queue = [] := by
      simp [Adapter.release, Adapter.record, queue]
    have together := t.record (.checked id p true false) (by simp [current])
    exact .ends (together.quiet _ rfl rfl) (.refused work) free

/-- Nobody is in the queue, so the lock is there at once. -/
theorem Together.reach_solo (t : Together id p latest base a es) {u : Publication}
    (work : Work id p (.queued u) es) (free : a.queue = []) :
    Solo id p latest base (a.reachLock id p u) := by
  have queue : (a.enqueue id).queue = [id] := by simp [Adapter.enqueue, free]
  have holds : (a.enqueue id).holds id = true := by simp [Adapter.holds, queue]
  simp only [Adapter.reachLock, holds, if_true]
  exact (t.quiet (a.enqueue id) rfl rfl).check_solo work queue

theorem Together.configured_solo (t : Together id p latest base a es) {config : DocumentConfig}
    (work : Work id p (.lookup (.found config)) es) (free : a.queue = []) :
    Solo id p latest base (a.configured id p config) := by
  unfold Adapter.configured
  split
  · rename_i excluded
    exact t.reach_solo (work.excluded excluded) free
  · rename_i linted
    have calls := work.linting (by simpa using linted) a.linter
    exact (t.record _ (by simp)).outside calls rfl free

theorem Together.proceed_solo (t : Together id p latest base a es) {l : Lookup}
    (work : Work id p (.lookup l) es) (free : a.queue = []) :
    Solo id p latest base (Adapter.proceed id p (a, l)) := by
  cases l with
  | found config => exact t.configured_solo work free
  | reading => exact t.outside work rfl free
  | announcing => exact t.outside work rfl free

theorem start_solo (free : a.queue = []) :
    Solo id p a.latest a.history (a.startPass id p) := by
  simp only [Adapter.startPass, Adapter.lookUp]
  split
  · rename_i config kept
    have t : Together id p a.latest a.history
        (a.record (.resolving id p.document.uri) |>.record (.resolved id p.document.uri config))
        [.resolved id p.document.uri config] := ⟨rfl, rfl, by simp⟩
    exact t.proceed_solo (.kept config) free
  · have t : Together id p a.latest a.history
        (a.record (.resolving id p.document.uri) |>.record (.settingsRead id p.document.uri))
        [.settingsRead id p.document.uri] := ⟨rfl, rfl, by simp⟩
    exact t.proceed_solo (.reading _) free

theorem Together.report_solo (t : Together id p latest base a es) {left all : List Diagnostic}
    (work : Work id p (.reporting left all) es) (free : a.queue = []) :
    Solo id p latest base (a.reportNext id p left all) := by
  cases left with
  | nil => exact t.reach_solo work.found free
  | cons d left => exact (t.record _ (by simp)).outside work.report rfl free

theorem Together.replied_solo (t : Together id p latest base a es) {config : DocumentConfig}
    (work : Work id p (.linting config) es) (free : a.queue = []) (r : Reply) :
    Solo id p latest base (a.replied id p r) := by
  have outside : a.holds id = false := by simp [Adapter.holds, free]
  cases r with
  | error e =>
    have fails := work.failing e (a.isCurrent p) rfl
    exact ((t.record _ (by simp)).record _ (by simp)).outside fails rfl free
  | ok fs =>
    have reply := t.record (.replied id p (.ok fs)) (by simp)
    simp only [Adapter.replied, Adapter.check, Adapter.record_isCurrent, Adapter.record_holds,
      outside]
    cases current : a.isCurrent p with
    | true =>
      have reporting : Work id p (.reporting (p.diagnostics fs) (p.diagnostics fs))
          (.checked id p false true :: .replied id p (.ok fs) :: es) :=
        work.reporting fs rfl (List.nil_append _).symm
      exact (reply.record _ (by simp [current])).report_solo reporting free
    | false => exact .ends (reply.record _ (by simp [current])) (.dropped work fs) free

theorem Solo.resume (s : Solo id p latest base (a, .waits stage)) (answer : Answer) :
    Solo id p latest base (a.resumePass id p stage answer) := by
  have same := s
  cases s with
  | @waits _ _ es t work queue served =>
    have free (outside : stage.standing = .outside) : a.queue = [] := by simpa [outside] using queue
    have held (inside : stage.standing = .inside) : a.queue = [id] := by simpa [inside] using queue
    cases stage with
    | lookup l =>
      cases l with
      | reading generation =>
        cases answer with
        | settings settings =>
          exact ((t.record _ (by simp)).record _ (by simp)).proceed_solo
            (work.announcing settings rfl) (free rfl)
        | _ => exact same
      | announcing generation config =>
        cases answer with
        | done =>
          let kept := (a.cache.insertIfCurrent p.document.uri.cacheKey config generation).1
          have together := (t.quiet { a with cache := kept } rfl rfl).record
            (.resolved id p.document.uri config) (by simp)
          exact together.proceed_solo work.read (free rfl)
        | _ => exact same
      | found config =>
        cases answer <;> exact t.configured_solo work (free rfl)
    | linting config =>
      cases answer with
      | reply r => exact t.replied_solo work (free rfl) r
      | _ => exact same
    | reporting left all =>
      cases answer with
      | done => exact t.report_solo work (free rfl)
      | _ => exact same
    | failing reason shows =>
      cases answer with
      | done =>
        cases shows with
        | true => exact (t.record _ (by simp)).outside work.showing rfl (free rfl)
        | false => exact .ends t (.failed work) (free rfl)
      | _ => exact same
    | showing reason =>
      cases answer with
      | done => exact .ends t (.shown work) (free rfl)
      | _ => exact same
    | queued u => exact absurd rfl served
    | publishing u =>
      let sink := a.sink.insert p.document.uri.text u.diagnostics
      have told := t.quiet { a with sink := sink } rfl rfl
      have updated : Together id p latest base (a.update id p u) (.set id p.update u.diagnostics :: es) :=
        told.record _ (by simp)
      cases answer with
      | applied => exact .waits updated (work.published rfl) queue (by simp [Stage.standing])
      | done =>
        have left : (a.update id p u).release.queue = [] := by
          simp [Adapter.release, Adapter.update, Adapter.record, held rfl]
        exact .ends (updated.quiet _ rfl rfl) (.published (work.published rfl) rfl) left
      | _ => exact same
    | published u =>
      cases answer with
      | done =>
        have left : a.release.queue = [] := by simp [Adapter.release, held rfl]
        exact .ends (t.quiet _ rfl rfl) (.published work rfl) left
      | _ => exact same

end Steps

def Lookup.awaits : Lookup → Answer → Bool
  | .reading _, .settings _ => true
  | .announcing _ _, .done => true
  | .found _, _ => true
  | _, _ => false

def Stage.awaits : Stage → Answer → Bool
  | .lookup l, answer => l.awaits answer
  | .linting _, .reply _ => true
  | .linting _, _ => false
  | .publishing _, .applied => true
  | _, .done => true
  | _, _ => false

section Conclusion

variable {a : Adapter L}

end Conclusion

def Task.awaits : Task → Answer → Bool
  | .ready _, .done => true
  | .passing _ stage _ _, answer => stage.awaits answer
  | .resolving _ l, answer => l.awaits answer
  | .closing _, .done => true
  | .deleting _, .applied => true
  | .deleting _, .done => true
  | .deleted _, .done => true
  | .finished, _ => true
  | _, _ => false

inductive Finishes (id : TaskId) : Adapter L × Task → Prop where
  | finished (a : Adapter L) : Finishes id (a, .finished)
  | goes {x : Adapter L × Task}
      (next : ∀ answer, x.2.awaits answer = true → Finishes id (x.1.resumeTask id x.2 answer)) :
      Finishes id x

theorem Adapter.run_passes_cons (a : Adapter L) (rest : List Pass) (os : List Outcome) :
    a.runPasses id os (p :: rest) = continuePasses id p rest os (a.startPass id p) := by
  rw [runPasses]
  cases a.startPass id p with
  | mk c progress => cases progress <;> rfl

def resumeAll (id : TaskId) (x : Adapter L × Task) (answers : List Answer) : Adapter L × Task :=
  answers.foldl (fun x answer => x.1.resumeTask id x.2 answer) x

theorem Finishes.reached {x : Adapter L × Task} (f : Finishes id x)
    (answers : Nat → Answer)
    (given : ∀ n, (resumeAll id x ((List.range n).map answers)).2.awaits (answers n) = true) :
    ∃ n, (resumeAll id x ((List.range n).map answers)).2 = .finished := by
  induction f generalizing answers with
  | finished => exact ⟨0, rfl⟩
  | @goes x next ih =>
    have later (n : Nat) : (List.range (n + 1)).map answers =
        answers 0 :: (List.range n).map fun k => answers (k + 1) := by
      simp [List.range_succ_eq_map, Function.comp_def]
    obtain ⟨n, finished⟩ := ih (answers 0) (given 0) (fun k => answers (k + 1)) fun n => by
      have given := given (n + 1)
      rwa [later] at given
    exact ⟨n + 1, by rw [later]; exact finished⟩

namespace TaskPool

/-- A task is started and given answers, and nobody else does anything. -/
def alone (s : TaskPool L) (job : Job) (answers : List Answer) : TaskPool L :=
  s.play (.spawn job :: answers.map (.resume s.tasks.length))

variable {s : TaskPool L}

theorem resume_last (ts : List Task) (x : Adapter L × Task) (answer : Answer) :
    resume ⟨x.1, ts ++ [x.2]⟩ ts.length answer =
      ⟨(x.1.resumeTask ts.length x.2 answer).1,
        ts ++ [(x.1.resumeTask ts.length x.2 answer).2]⟩ := by
  simp [resume]

theorem play_last (ts : List Task) (x : Adapter L × Task) (answers : List Answer) :
    play ⟨x.1, ts ++ [x.2]⟩ (answers.map (.resume ts.length)) =
      ⟨(resumeAll ts.length x answers).1, ts ++ [(resumeAll ts.length x answers).2]⟩ := by
  induction answers generalizing x with
  | nil => rfl
  | cons answer answers ih =>
    rw [List.map_cons, play, List.foldl_cons, step, resume_last]
    exact ih _

theorem alone_eq (job : Job) (answers : List Answer) : s.alone job answers =
    ⟨(resumeAll s.tasks.length (s.adapter, .ready job) answers).1,
      s.tasks ++ [(resumeAll s.tasks.length (s.adapter, .ready job) answers).2]⟩ :=
  play_last s.tasks (s.adapter, .ready job) answers

theorem Arises.free {linter : L} (h : Arises linter s) (idle : ∀ t ∈ s.tasks, t = .finished) :
    s.adapter.queue = [] := by
  refine List.eq_nil_iff_forall_not_mem.mpr fun id queued => ?_
  have entered := (h.locked.mem_iff id).mp queued
  cases here : s.tasks[id]? with
  | none => simp [stands, here] at entered
  | some t =>
    rw [stands_eq here, idle t (List.mem_of_getElem? here)] at entered
    exact entered rfl

end TaskPool

end MarkupLint
