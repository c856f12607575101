import MarkupLint.Proofs.Adapter.Tracking

/-! Every step of a pool is made of moves, so that whatever holds of all that arises by moves holds
of all that is reached by steps. -/
namespace MarkupLint

open History

variable {L : Type}

namespace Adapter

theorem issue_all_history (a : Adapter L) (ds : List Document) :
    (a.issueAll ds).1.history = ((a.issueAll ds).2.map .issued).reverse ++ a.history := by
  induction ds generalizing a with
  | nil => rfl
  | cons d ds ih =>
    have rest := ih (a.issue d)
    simpa [issueAll, issue, record] using rest

theorem issue_all_passes (a : Adapter L) (ds : List Document) :
    (∀ p ∈ (a.issueAll ds).2, a.issued < p.sequence) ∧ (a.issueAll ds).2.Nodup := by
  induction ds generalizing a with
  | nil => simp [issueAll]
  | cons d ds ih =>
    obtain ⟨above, nodup⟩ := ih (a.issue d)
    have number : (a.nextPass d).sequence = a.issued + 1 := rfl
    have count : (a.issue d).issued = a.issued + 1 := rfl
    rw [count] at above
    constructor
    · intro p hp
      rcases List.mem_cons.mp hp with rfl | hp
      · omega
      · have := above p hp
        omega
    · refine List.nodup_cons.mpr ⟨fun again => ?_, nodup⟩
      have := above _ again
      omega

end Adapter

theorem TaskMoves.grows {id : TaskId} {x y : Adapter L × Task} (ms : TaskMoves id x y) :
    x.1.history <:+ y.1.history := by
  induction ms with
  | refl => exact List.suffix_rfl
  | tail _ m ih =>
    obtain ⟨es, added, _⟩ := m.others (Nat.succ_ne_self id)
    exact ih.trans ⟨es, added.symm⟩

namespace Adapter

variable {id : TaskId}

/-- What holds of a task with its adapter still holds after a step of the task, if moves keep it and
if it stays when the passes of a job are issued. -/
theorem resume_task_keeps {P : Adapter L × Task → Prop} {a : Adapter L} {t : Task}
    (moved : ∀ {x y}, TaskMove id x y → P x → P y)
    (issued : ∀ ds, P (a, t) → P ((a.issueAll ds).1, .ready (.run (a.issueAll ds).2)))
    (answer : Answer) (h : P (a, t)) : P (a.resumeTask id t answer) := by
  have along : ∀ {x y}, TaskMoves id x y → P x → P y := by
    intro x y ms hx
    induction ms with
    | refl => exact hx
    | tail _ m ih => exact moved m ih
  have run : ∀ ds, P ((a.issueAll ds).1.runPasses id [] (a.issueAll ds).2) :=
    fun ds => along (run_passes_moves _ [] _) (issued ds h)
  by_cases ready : ∃ job, t = .ready job
  · obtain ⟨job, rfl⟩ := ready
    cases answer with
    | done =>
      cases job with
      | lint d => exact run [d]
      | event d =>
        simp only [resumeTask, startJob]
        split
        · exact run [d]
        · exact moved (.ignore a d) h
      | visible ds => exact run ds
      | run passes => exact along (run_passes_moves passes [] a) h
      | close uri => exact along (start_close_moves uri) h
      | resolve uri =>
        exact along (.head (look_up_move (.own uri)) (conclude_moves uri _)) h
    | _ => exact h
  · exact along (resume_task_moves answer fun job eq => ready ⟨job, eq⟩) h

theorem resume_task_grows (a : Adapter L) (t : Task) (answer : Answer) :
    a.history <:+ (a.resumeTask id t answer).1.history := by
  refine resume_task_keeps (P := fun x => a.history <:+ x.1.history) ?_ ?_ answer
    List.suffix_rfl
  · intro x y m earlier
    exact earlier.trans (TaskMoves.grows (.single m))
  · intro ds _
    exact ⟨_, (issue_all_history a ds).symm⟩

end Adapter

namespace TaskPool

variable {linter : L} {s : TaskPool L} {id : TaskId}

theorem step_grows (s : TaskPool L) (e : Step L) :
    s.adapter.history <:+ (s.step e).adapter.history := by
  cases e with
  | spawn => exact List.suffix_rfl
  | resume id answer =>
    simp only [step, TaskPool.resume]
    split
    · exact List.suffix_rfl
    · exact s.adapter.resume_task_grows _ answer
  | issue => exact List.suffix_cons _ _
  | invalidate => exact List.suffix_cons _ _
  | setLinter => exact List.suffix_cons _ _

theorem Reachable.grows {start : TaskPool L} (h : Reachable start s) :
    start.adapter.history <:+ s.adapter.history := by
  induction h with
  | refl => exact List.suffix_rfl
  | step _ e _ ih => exact ih.trans (step_grows _ e)

theorem Arises.issue_all (h : Arises linter s) (ds : List Document) :
    Arises linter { s with adapter := (s.adapter.issueAll ds).1 } := by
  induction ds generalizing s with
  | nil => exact h
  | cons d ds ih => exact ih (h.move (.issue s d))

theorem Tracked.unclaimed_all (h : Tracked s) (ds : List Document) {p : Pass}
    (hp : p ∈ (s.adapter.issueAll ds).2) :
    Unclaimed { s with adapter := (s.adapter.issueAll ds).1 } p := by
  have above := (s.adapter.issue_all_passes ds).1 p hp
  have new : .issued p ∉ s.adapter.history := fun old => by
    have := h.bounded p old
    omega
  refine ⟨?_, fun o he => new ?_, fun t ht own => new ?_⟩
  · simp [Adapter.issue_all_history, hp]
  · have old : .ended p o ∈ s.adapter.history := by simpa [Adapter.issue_all_history] using he
    exact (mem_trail.mp (h.ended old).issued).1
  · obtain ⟨_, here⟩ := List.mem_iff_getElem?.mp ht
    exact h.issued here own

theorem Arises.issue_and_run (h : Arises linter s) {job : Job}
    (here : s.tasks[id]? = some (.ready job)) (issues : job.issues = true) (ds : List Document)
    {x : Adapter L × Task}
    (run : (s.adapter.issueAll ds).1.runPasses id [] (s.adapter.issueAll ds).2 = x) :
    Arises linter ⟨x.1, s.tasks.set id x.2⟩ := by
  subst run
  have bound : id < s.tasks.length := (List.getElem?_eq_some_iff.mp here).1
  have claimed := (h.issue_all ds).move (.claim _ _ here issues (s.adapter.issue_all_passes ds).2
    fun p hp => h.tracked.unclaimed_all ds hp)
  have now : (s.tasks.set id (.ready (.run (s.adapter.issueAll ds).2)))[id]? =
      some (.ready (.run (s.adapter.issueAll ds).2)) := by simp [bound]
  simpa using claimed.task_moves now (Adapter.run_passes_moves _ [] _)

theorem Arises.start_job (h : Arises linter s) {job : Job}
    (here : s.tasks[id]? = some (.ready job)) :
    Arises linter
      ⟨(s.adapter.startJob id job).1, s.tasks.set id (s.adapter.startJob id job).2⟩ := by
  cases job with
  | lint d => exact h.issue_and_run here rfl [d] rfl
  | event d =>
    simp only [Adapter.startJob]
    split
    · exact h.issue_and_run here rfl [d] rfl
    · exact h.task_moves here (.single (.ignore _ d))
  | visible ds => exact h.issue_and_run here rfl ds rfl
  | run passes => exact h.task_moves here (Adapter.run_passes_moves passes [] _)
  | close uri => exact h.task_moves here (Adapter.start_close_moves uri)
  | resolve uri =>
    exact h.task_moves here (.head (Adapter.look_up_move (.own uri)) (Adapter.conclude_moves uri _))

theorem Arises.resume (h : Arises linter s) (id : TaskId) (answer : Answer) :
    Arises linter (s.resume id answer) := by
  simp only [TaskPool.resume]
  split
  · exact h
  · rename_i t here
    by_cases ready : ∃ job, t = .ready job
    · obtain ⟨job, rfl⟩ := ready
      cases answer with
      | done => exact h.start_job here
      | _ => exact h.task_moves here .refl
    · exact h.task_moves here (Adapter.resume_task_moves answer fun job eq => ready ⟨job, eq⟩)

theorem reachable_arises (h : Reachable (.initial linter) s) : Arises linter s := by
  induction h with
  | refl => exact .start
  | step _ e allowed ih =>
    cases e with
    | spawn job => exact ih.move (.spawn _ job allowed)
    | resume id answer => exact ih.resume id answer
    | issue d => exact ih.move (.issue _ d)
    | invalidate => exact ih.move (.invalidate _)
    | setLinter linter => exact ih.move (.setLinter _ linter)

def play (s : TaskPool L) (es : List (Step L)) : TaskPool L := es.foldl step s

def Step.free : Step L → Bool
  | .spawn job => job.passes = []
  | _ => true

theorem reachable_play {start s : TaskPool L} (h : Reachable start s) (es : List (Step L))
    (free : es.all Step.free = true) : Reachable start (s.play es) := by
  induction es generalizing s with
  | nil => exact h
  | cons e es ih =>
    obtain ⟨first, rest⟩ := Bool.and_eq_true_iff.mp free
    refine ih (h.step e ?_) rest
    cases e with
    | spawn job =>
      have none : job.passes = [] := by simpa [Step.free] using first
      simp [Allowed, none]
    | _ => trivial

def emptyPage : Document := ⟨⟨"untitled", none, "page", none, none⟩, "", htmlLanguage, none⟩

def lintSteps (id : TaskId) (r : Reply) : List (Step L) :=
  [.spawn (.lint emptyPage), .resume id .done, .resume id (.settings .default), .resume id .done,
    .resume id (.reply r), .resume id .done]

end TaskPool

end MarkupLint
