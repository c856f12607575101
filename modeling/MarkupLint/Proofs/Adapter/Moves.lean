import Mathlib.Logic.Relation
import MarkupLint.Proofs.Adapter.History

/-! What a task can do in one move, and how steps of the pool are made of moves. A step lets a task
go on from wait to wait; a move is one action on the way. Every invariant is shown for moves. -/
namespace MarkupLint

variable {L : Type}

inductive Asks : Task → Url → (Lookup → Task) → Prop where
  | pass (p : Pass) (rest : List Pass) (os : List Outcome) :
      Asks (.ready (.run (p :: rest))) p.document.uri fun l => .passing p (.lookup l) rest os
  | own (uri : Url) : Asks (.ready (.resolve uri)) uri (.resolving uri)

inductive TaskMove (id : TaskId) : Adapter L × Task → Adapter L × Task → Prop where
  | ignore (a : Adapter L) (d : Document) :
      TaskMove id (a, .ready (.event d)) (a.finish id .ignored)
  | finish (a : Adapter L) (os : List Outcome) :
      TaskMove id (a, .ready (.run [])) (a.finish id (.outcomes os))
  | find {t uri k} (a : Adapter L) (asks : Asks t uri k) (config : DocumentConfig)
      (kept : a.cache.get? uri.cacheKey = some config) :
      TaskMove id (a, t)
        (a.record (.resolving id uri) |>.record (.resolved id uri config), k (.found config))
  | read {t uri k} (a : Adapter L) (asks : Asks t uri k)
      (kept : a.cache.get? uri.cacheKey = none) :
      TaskMove id (a, t)
        (a.record (.resolving id uri) |>.record (.settingsRead id uri),
          k (.reading a.cache.generation))
  | announce {t uri k} (a : Adapter L) (asks : Asks t uri k) (generation : Nat) (s : Settings) :
      TaskMove id (a, k (.reading generation))
        ((a.announce id uri generation s).1, k (a.announce id uri generation s).2)
  | keep {t uri k} (a : Adapter L) (asks : Asks t uri k) (generation : Nat)
      (config : DocumentConfig) :
      TaskMove id (a, k (.announcing generation config))
        ((a.keep id uri generation config).1, k (.found config))
  | answer (a : Adapter L) (uri : Url) (config : DocumentConfig) :
      TaskMove id (a, .resolving uri (.found config)) (a.finish id (.config config))
  | call (a : Adapter L) (p : Pass) (rest os) (config : DocumentConfig)
      (linted : config.excluded = false) :
      TaskMove id (a, .passing p (.lookup (.found config)) rest os)
        (a.record (.lintCalled id a.linter p.call config.rules),
          .passing p (.linting config) rest os)
  | exclude (a : Adapter L) (p : Pass) (rest os) (config : DocumentConfig)
      (excluded : config.excluded = true) :
      TaskMove id (a, .passing p (.lookup (.found config)) rest os)
        (a.enqueue id, .passing p (.queued .excluded) rest os)
  | fail (a : Adapter L) (p : Pass) (rest os) (config : DocumentConfig) (e : LintError) :
      TaskMove id (a, .passing p (.linting config) rest os)
        (a.record (.replied id p (.error e))
            |>.record (.logged id (failureLine p.document.uri e.message)),
          .passing p (.failing e.message (a.isCurrent p)) rest os)
  | accept (a : Adapter L) (p : Pass) (rest os) (config : DocumentConfig) (fs : List Finding)
      (current : a.isCurrent p = true) :
      TaskMove id (a, .passing p (.linting config) rest os)
        (a.record (.replied id p (.ok fs)) |>.record (.checked id p (a.holds id) true),
          .passing p (.reporting (p.diagnostics fs) (p.diagnostics fs)) rest os)
  | drop (a : Adapter L) (p : Pass) (rest os) (config : DocumentConfig) (fs : List Finding)
      (current : a.isCurrent p = false) :
      TaskMove id (a, .passing p (.linting config) rest os)
        (a.record (.replied id p (.ok fs)) |>.record (.checked id p (a.holds id) false)
            |>.record (.ended p .stale),
          .ready (.run rest))
  | report (a : Adapter L) (p : Pass) (rest os) (d : Diagnostic) (left all : List Diagnostic) :
      TaskMove id (a, .passing p (.reporting (d :: left) all) rest os)
        (a.record (.logged id d.message), .passing p (.reporting left all) rest os)
  | arrive (a : Adapter L) (p : Pass) (rest os) (all : List Diagnostic) :
      TaskMove id (a, .passing p (.reporting [] all) rest os)
        (a.enqueue id, .passing p (.queued (.found all)) rest os)
  | grant (a : Adapter L) (p : Pass) (rest os) (u : Publication) (holds : a.holds id = true)
      (current : a.isCurrent p = true) :
      TaskMove id (a, .passing p (.queued u) rest os)
        (a.record (.checked id p true true), .passing p (.publishing u) rest os)
  | refuse (a : Adapter L) (p : Pass) (rest os) (u : Publication) (holds : a.holds id = true)
      (current : a.isCurrent p = false) :
      TaskMove id (a, .passing p (.queued u) rest os)
        ((a.record (.checked id p true false)).release.record (.ended p .stale),
          .ready (.run rest))
  | publish (a : Adapter L) (p : Pass) (rest os) (u : Publication) :
      TaskMove id (a, .passing p (.publishing u) rest os)
        (a.update id p u, .passing p (.published u) rest os)
  | leave (a : Adapter L) (p : Pass) (rest os) (u : Publication) :
      TaskMove id (a, .passing p (.published u) rest os)
        (a.release.record (.ended p u.outcome), .ready (.run rest))
  | shows (a : Adapter L) (p : Pass) (rest os) (reason : String) :
      TaskMove id (a, .passing p (.failing reason true) rest os)
        (a.record (.shown id (failureLine p.document.uri reason)),
          .passing p (.showing reason) rest os)
  | giveUp (a : Adapter L) (p : Pass) (rest os) (reason : String) :
      TaskMove id (a, .passing p (.failing reason false) rest os)
        (a.record (.ended p (.failed reason)), .ready (.run rest))
  | cease (a : Adapter L) (p : Pass) (rest os) (reason : String) :
      TaskMove id (a, .passing p (.showing reason) rest os)
        (a.record (.ended p (.failed reason)), .ready (.run rest))
  | close (a : Adapter L) (uri : Url) :
      TaskMove id (a, .ready (.close uri)) ((a.forget id uri).enqueue id, .closing uri)
  | enter (a : Adapter L) (uri : Url) (holds : a.holds id = true) :
      TaskMove id (a, .closing uri) (a, .deleting uri)
  | delete (a : Adapter L) (uri : Url) :
      TaskMove id (a, .deleting uri) (a.delete id uri, .deleted uri)
  | depart (a : Adapter L) (uri : Url) :
      TaskMove id (a, .deleted uri) (a.release.finish id .closed)

theorem TaskMove.others {id : TaskId} {x y : Adapter L × Task} (m : TaskMove id x y) {j : TaskId}
    (other : j ≠ id) :
    ∃ es, y.1.history = es ++ x.1.history ∧ ∀ e ∈ es, e.task? ≠ some j := by
  cases m with
  | find => exact ⟨[_, _], rfl, by simp [Event.task?, Ne.symm other]⟩
  | read => exact ⟨[_, _], rfl, by simp [Event.task?, Ne.symm other]⟩
  | announce => exact ⟨[_, _], rfl, by simp [Event.task?, Ne.symm other]⟩
  | fail => exact ⟨[_, _], rfl, by simp [Event.task?, Ne.symm other]⟩
  | accept => exact ⟨[_, _], rfl, by simp [Event.task?, Ne.symm other]⟩
  | refuse => exact ⟨[_, _], rfl, by simp [Event.task?, Ne.symm other]⟩
  | drop => exact ⟨[_, _, _], rfl, by simp [Event.task?, Ne.symm other]⟩
  | exclude => exact ⟨[], rfl, by simp⟩
  | arrive => exact ⟨[], rfl, by simp⟩
  | enter => exact ⟨[], rfl, by simp⟩
  | _ => exact ⟨[_], rfl, by simp [Event.task?, Ne.symm other]⟩

/-- What the linter and the sink are given for a pass is what its document has. -/
def Event.Handed : Event L → Prop
  | .lintCalled _ _ call _ => call.text = call.document.text
  | .set _ update _ =>
    update.uri = update.document.uri ∧ update.version = update.document.version
  | _ => True

theorem TaskMove.handed {id : TaskId} {x y : Adapter L × Task} (m : TaskMove id x y)
    (h : ∀ e ∈ x.1.history, e.Handed) : ∀ e ∈ y.1.history, e.Handed := by
  cases m with
  | exclude => exact h
  | arrive => exact h
  | enter => exact h
  | call => exact List.forall_mem_cons.mpr ⟨rfl, h⟩
  | publish => exact List.forall_mem_cons.mpr ⟨⟨rfl, rfl⟩, h⟩
  | _ => simpa [Event.Handed] using h

abbrev TaskMoves (id : TaskId) : Adapter L × Task → Adapter L × Task → Prop :=
  Relation.ReflTransGen (TaskMove id)

namespace Adapter

def afterPass (p : Pass) (rest : List Pass) (os : List Outcome) :
    Adapter L × Progress → Adapter L × Task
  | (a, .waits stage) => (a, .passing p stage rest os)
  | (a, .ends o) => (a.record (.ended p o), .ready (.run rest))

variable {a : Adapter L} {id : TaskId} {p : Pass} {rest : List Pass} {os : List Outcome}

open Relation (ReflTransGen)

theorem check_moves {u : Publication} (holds : a.holds id = true) :
    TaskMoves id (a, .passing p (.queued u) rest os)
      (afterPass p rest os (a.checkCurrent id p u)) := by
  simp only [checkCurrent, check, holds]
  cases current : a.isCurrent p with
  | true => exact .single (.grant a p rest os u holds current)
  | false => exact .single (.refuse a p rest os u holds current)

theorem reach_lock_moves {u : Publication} {t : Task}
    (m : TaskMove id (a, t) (a.enqueue id, .passing p (.queued u) rest os)) :
    TaskMoves id (a, t) (afterPass p rest os (a.reachLock id p u)) := by
  simp only [reachLock]
  split
  · rename_i holds
    exact .head m (check_moves holds)
  · exact .single m

theorem configured_moves (config : DocumentConfig) :
    TaskMoves id (a, .passing p (.lookup (.found config)) rest os)
      (afterPass p rest os (a.configured id p config)) := by
  simp only [configured]
  split
  · rename_i excluded
    exact reach_lock_moves (.exclude a p rest os config excluded)
  · rename_i linted
    exact .single (.call a p rest os config (by simpa using linted))

theorem proceed_moves (l : Lookup) :
    TaskMoves id (a, .passing p (.lookup l) rest os)
      (afterPass p rest os (proceed id p (a, l))) := by
  cases l with
  | found config => exact configured_moves config
  | reading => exact .refl
  | announcing => exact .refl

theorem look_up_move {t : Task} {uri : Url} {k : Lookup → Task} (asks : Asks t uri k) :
    TaskMove id (a, t) ((a.lookUp id uri).1, k (a.lookUp id uri).2) := by
  simp only [lookUp]
  split
  · rename_i config kept
    exact .find a asks config kept
  · rename_i kept
    exact .read a asks kept

theorem resume_lookup_moves {t : Task} {uri : Url} {k : Lookup → Task} (asks : Asks t uri k)
    (l : Lookup) (answer : Answer) :
    TaskMoves id (a, k l)
      ((a.resumeLookup id uri l answer).1, k (a.resumeLookup id uri l answer).2) := by
  unfold resumeLookup
  split
  · exact .single (.announce a asks _ _)
  · exact .single (.keep a asks _ _)
  · exact .refl

theorem start_pass_moves (a : Adapter L) (p : Pass) (rest : List Pass) (os : List Outcome) :
    TaskMoves id (a, .ready (.run (p :: rest))) (afterPass p rest os (a.startPass id p)) :=
  .head (look_up_move (.pass p rest os)) (proceed_moves _)

theorem report_moves (left all : List Diagnostic) :
    TaskMoves id (a, .passing p (.reporting left all) rest os)
      (afterPass p rest os (a.reportNext id p left all)) := by
  cases left with
  | nil => exact reach_lock_moves (.arrive a p rest os all)
  | cons d left => exact .single (.report a p rest os d left all)

theorem replied_moves (config : DocumentConfig) (r : Reply) :
    TaskMoves id (a, .passing p (.linting config) rest os)
      (afterPass p rest os (a.replied id p r)) := by
  cases r with
  | error e => exact .single (.fail a p rest os config e)
  | ok fs =>
    simp only [replied, check, record_isCurrent, record_holds]
    cases current : a.isCurrent p with
    | true => exact .head (.accept a p rest os config fs current) (report_moves _ _)
    | false => exact .single (.drop a p rest os config fs current)

theorem resume_pass_moves (stage : Stage) (answer : Answer) :
    TaskMoves id (a, .passing p stage rest os)
      (afterPass p rest os (a.resumePass id p stage answer)) := by
  unfold resumePass
  split
  · exact (resume_lookup_moves (.pass p rest os) _ _).trans (proceed_moves _)
  · exact replied_moves _ _
  · exact report_moves _ _
  · rename_i reason shows
    cases shows with
    | true => exact .single (.shows a p rest os reason)
    | false => exact .single (.giveUp a p rest os reason)
  · exact .single (.cease a p rest os _)
  · split
    · rename_i holds
      exact check_moves holds
    · exact .refl
  · exact .single (.publish a p rest os _)
  · exact .head (.publish a p rest os _) (.single (.leave _ p rest os _))
  · exact .single (.leave a p rest os _)
  · exact .refl

theorem run_passes_moves (passes : List Pass) (os : List Outcome) (a : Adapter L) :
    TaskMoves id (a, .ready (.run passes)) (a.runPasses id os passes) := by
  induction passes generalizing a os with
  | nil => exact .single (.finish a os)
  | cons p rest ih =>
    have start : TaskMoves id _ _ := start_pass_moves a p rest os
    unfold runPasses
    cases e : a.startPass id p with
    | mk b progress =>
      rw [e] at start
      cases progress with
      | waits stage => exact start
      | ends o => exact start.trans (ih _ _)

theorem continue_passes_moves (x : Adapter L × Progress) :
    TaskMoves id (afterPass p rest os x) (continuePasses id p rest os x) := by
  obtain ⟨a, progress⟩ := x
  cases progress with
  | waits stage => exact .refl
  | ends o => exact run_passes_moves rest _ _

theorem conclude_moves (uri : Url) (l : Lookup) :
    TaskMoves id (a, .resolving uri l) (conclude id uri (a, l)) := by
  cases l with
  | found config => exact .single (.answer a uri config)
  | reading => exact .refl
  | announcing => exact .refl

theorem start_close_moves (uri : Url) :
    TaskMoves id (a, .ready (.close uri)) (a.startClose id uri) := by
  simp only [startClose]
  split
  · rename_i holds
    exact .head (.close a uri) (.single (.enter _ uri holds))
  · exact .single (.close a uri)

theorem resume_task_moves {t : Task} (answer : Answer) (started : ∀ job, t ≠ .ready job) :
    TaskMoves id (a, t) (a.resumeTask id t answer) := by
  unfold resumeTask
  split
  · rename_i job
    exact absurd rfl (started job)
  · exact (resume_pass_moves _ _).trans (continue_passes_moves _)
  · exact (resume_lookup_moves (.own _) _ _).trans (conclude_moves _ _)
  · split
    · rename_i holds
      exact .single (.enter a _ holds)
    · exact .refl
  · exact .single (.delete a _)
  · exact .head (.delete a _) (.single (.depart _ _))
  · exact .single (.depart a _)
  · exact .refl

end Adapter

def Job.issues : Job → Bool
  | .lint _ => true
  | .event _ => true
  | .visible _ => true
  | _ => false

namespace TaskPool

theorem task_cases {ts : List Task} {id j : TaskId} {t u : Task}
    (h : (ts.set id u)[j]? = some t) : j = id ∧ t = u ∨ j ≠ id ∧ ts[j]? = some t := by
  by_cases eq : j = id
  · subst eq
    obtain ⟨_, at_j⟩ := List.getElem?_eq_some_iff.mp h
    exact .inl ⟨rfl, by simpa using at_j.symm⟩
  · exact .inr ⟨eq, by simpa [List.getElem?_set_ne (Ne.symm eq)] using h⟩

theorem spawn_cases {ts : List Task} {j : TaskId} {t u : Task} (h : (ts ++ [u])[j]? = some t) :
    j = ts.length ∧ t = u ∨ j ≠ ts.length ∧ ts[j]? = some t := by
  rcases Nat.lt_trichotomy j ts.length with hj | hj | hj
  · exact .inr ⟨Nat.ne_of_lt hj, by simpa [List.getElem?_append_left hj] using h⟩
  · exact .inl ⟨hj, by simpa [hj] using h.symm⟩
  · simp [List.getElem?_eq_none_iff.mpr (show (ts ++ [u]).length ≤ j by simp; omega)] at h

theorem mem_tasks_set {ts : List Task} {id : TaskId} {t u v : Task} (here : ts[id]? = some t)
    (hv : v ∈ ts) : v = t ∨ v ∈ ts.set id u := by
  obtain ⟨j, at_j⟩ := List.mem_iff_getElem?.mp hv
  by_cases eq : j = id
  · subst eq
    exact .inl (by simpa [here] using at_j.symm)
  · have kept : (ts.set id u)[j]? = some v := by
      rwa [List.getElem?_set_ne (Ne.symm eq)]
    exact .inr (List.mem_of_getElem? kept)

theorem count_set {ts : List Task} {id : TaskId} {t : Task} (here : ts[id]? = some t) (u : Task)
    (ok : Task → Bool) :
    (ts.set id u).countP ok + (ok t).toNat = ts.countP ok + (ok u).toNat := by
  obtain ⟨bound, rfl⟩ := List.getElem?_eq_some_iff.mp here
  rw [List.countP_set bound]
  cases fits : ok ts[id] with
  | false => cases ok u <;> simp
  | true =>
    have counted : 0 < ts.countP ok := List.countP_pos_iff.mpr ⟨_, List.getElem_mem bound, fits⟩
    cases ok u <;> simp only [Bool.false_eq_true, if_true, if_false, Bool.toNat_true,
      Bool.toNat_false] <;> omega

inductive Move : TaskPool L → TaskPool L → Prop where
  | issue (s : TaskPool L) (d : Document) : Move s { s with adapter := s.adapter.issue d }
  | invalidate (s : TaskPool L) : Move s { s with adapter := s.adapter.invalidate }
  | setLinter (s : TaskPool L) (linter : L) :
      Move s { s with adapter := s.adapter.setLinter linter }
  | spawn (s : TaskPool L) (job : Job) (allowed : s.Allowed (.spawn job)) : Move s (s.spawn job)
  | claim (s : TaskPool L) {id : TaskId} {job : Job} (passes : List Pass)
      (here : s.tasks[id]? = some (.ready job)) (issues : job.issues = true)
      (nodup : passes.Nodup) (unclaimed : ∀ p ∈ passes, s.Unclaimed p) :
      Move s ⟨s.adapter, s.tasks.set id (.ready (.run passes))⟩
  | task (s : TaskPool L) {id : TaskId} {t u : Task} {a : Adapter L}
      (here : s.tasks[id]? = some t) (m : TaskMove id (s.adapter, t) (a, u)) :
      Move s ⟨a, s.tasks.set id u⟩

/-- What is known of each task is kept by the moves of a pool if the task keeps it by its own moves,
if it does not depend on what others do, and if it is known of a task that is to begin. -/
theorem Move.each {s t : TaskPool L} (m : Move s t) {P : TaskId → List (Event L) → Task → Prop}
    (each : ∀ {id u}, s.tasks[id]? = some u → P id s.adapter.history u)
    (later : ∀ {id u h es}, P id h u → (∀ e ∈ es, e.task? ≠ some id) → P id (es ++ h) u)
    (begun : ∀ job, P s.tasks.length s.adapter.history (.ready job))
    (claimed : ∀ {id job} passes, job.issues = true → P id s.adapter.history (.ready job) →
      P id s.adapter.history (.ready (.run passes)))
    (moved : ∀ {id u v a}, s.tasks[id]? = some u → TaskMove id (s.adapter, u) (a, v) →
      P id a.history v) :
    ∀ {id u}, t.tasks[id]? = some u → P id t.adapter.history u := by
  intro j v at_j
  cases m with
  | issue => exact @later _ _ _ [_] (each at_j) (by simp [Event.task?])
  | invalidate => exact @later _ _ _ [_] (each at_j) (by simp [Event.task?])
  | setLinter => exact @later _ _ _ [_] (each at_j) (by simp [Event.task?])
  | spawn job =>
    rcases spawn_cases at_j with ⟨rfl, rfl⟩ | ⟨_, old⟩
    · exact begun job
    · exact each old
  | claim passes here issues =>
    rcases task_cases at_j with ⟨rfl, rfl⟩ | ⟨_, old⟩
    · exact claimed passes issues (each here)
    · exact each old
  | @task _ _ _ a here m =>
    rcases task_cases at_j with ⟨rfl, rfl⟩ | ⟨ne, old⟩
    · exact moved here m
    · obtain ⟨es, added, others⟩ := m.others ne
      rw [show a.history = es ++ s.adapter.history from added]
      exact later (each old) others

/-- What arises by moves from an adapter without tasks. -/
inductive Arises (linter : L) : TaskPool L → Prop where
  | start : Arises linter (.initial linter)
  | move {s t : TaskPool L} (h : Arises linter s) (m : Move s t) : Arises linter t

theorem Arises.handed {linter : L} {s : TaskPool L} (h : Arises linter s) :
    ∀ e ∈ s.adapter.history, e.Handed := by
  induction h with
  | start => simp [initial, Adapter.initial]
  | move _ m ih =>
    cases m with
    | issue d => exact List.forall_mem_cons.mpr ⟨trivial, ih⟩
    | invalidate => exact List.forall_mem_cons.mpr ⟨trivial, ih⟩
    | setLinter => exact List.forall_mem_cons.mpr ⟨trivial, ih⟩
    | spawn => exact ih
    | claim => exact ih
    | task _ m => exact m.handed ih

theorem Arises.handed_set {linter : L} {s : TaskPool L} (h : Arises linter s)
    {newer older : List (Event L)} {id : TaskId} {p : Pass} {uri : Url} {version : Option Int}
    {ds : List Diagnostic}
    (history : s.adapter.history = newer ++ .set id ⟨p, uri, version⟩ ds :: older) :
    uri = p.document.uri ∧ version = p.document.version := by
  have there : .set id ⟨p, uri, version⟩ ds ∈ s.adapter.history := by simp [history]
  exact h.handed _ there

theorem Arises.handed_update {linter : L} {s : TaskPool L} (h : Arises linter s) {id : TaskId}
    {u : SinkUpdate} {ds : List Diagnostic} (there : .set id u ds ∈ s.adapter.history) :
    ∃ p : Pass, u = p.update := by
  obtain ⟨p, uri, version⟩ := u
  obtain ⟨rfl, rfl⟩ : uri = p.document.uri ∧ version = p.document.version := h.handed _ there
  exact ⟨p, rfl⟩

theorem Arises.task_moves {linter : L} {s : TaskPool L} (h : Arises linter s) {id : TaskId}
    {t : Task} (here : s.tasks[id]? = some t) {x : Adapter L × Task}
    (ms : TaskMoves id (s.adapter, t) x) : Arises linter ⟨x.1, s.tasks.set id x.2⟩ := by
  obtain ⟨inside, rfl⟩ := List.getElem?_eq_some_iff.mp here
  induction ms with
  | refl => simpa using h
  | @tail y z _ m ih =>
    have now : (s.tasks.set id y.2)[id]? = some y.2 := by simp [inside]
    simpa using ih.move (.task _ now m)

end TaskPool

end MarkupLint
