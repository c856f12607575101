import MarkupLint.Proofs.Adapter.Steps

/-! Orders to the adapter: to issue a pass, to forget a document, to drop configurations, to change
the linter. A task that runs passes carries out orders and gives none. -/
namespace MarkupLint

open History

variable {L : Type}

def Event.isOrder : Event L → Bool
  | .issued _ => true
  | .forgotten _ _ => true
  | .cleared => true
  | .linterSet _ => true
  | _ => false

def Job.isRun : Job → Bool
  | .run _ => true
  | _ => false

def Task.serves : Task → Bool
  | .ready job => job.isRun
  | _ => true

structure Served (x y : Adapter L × Task) : Prop where
  serves : y.2.serves = true
  linter : y.1.linter = x.1.linter
  history : ∃ es, y.1.history = es ++ x.1.history ∧ ∀ e ∈ es, e.isOrder = false

theorem Asks.serves {t : Task} {uri : Url} {k : Lookup → Task} (asks : Asks t uri k) (l : Lookup) :
    (k l).serves = true := by
  cases asks <;> rfl

theorem TaskMove.served {id : TaskId} {x y : Adapter L × Task} (m : TaskMove id x y)
    (serves : x.2.serves = true) : Served x y := by
  cases m with
  | find _ asks => exact ⟨asks.serves _, rfl, [_, _], rfl, by simp [Event.isOrder]⟩
  | read _ asks => exact ⟨asks.serves _, rfl, [_, _], rfl, by simp [Event.isOrder]⟩
  | announce _ asks => exact ⟨asks.serves _, rfl, [_, _], rfl, by simp [Event.isOrder]⟩
  | keep _ asks => exact ⟨asks.serves _, rfl, [_], rfl, by simp [Event.isOrder]⟩
  | fail => exact ⟨rfl, rfl, [_, _], rfl, by simp [Event.isOrder]⟩
  | accept => exact ⟨rfl, rfl, [_, _], rfl, by simp [Event.isOrder]⟩
  | refuse => exact ⟨rfl, rfl, [_, _], rfl, by simp [Event.isOrder]⟩
  | drop => exact ⟨rfl, rfl, [_, _, _], rfl, by simp [Event.isOrder]⟩
  | exclude => exact ⟨rfl, rfl, [], rfl, by simp⟩
  | arrive => exact ⟨rfl, rfl, [], rfl, by simp⟩
  | enter => exact ⟨rfl, rfl, [], rfl, by simp⟩
  | close => simp [Task.serves, Job.isRun] at serves
  | _ => exact ⟨rfl, rfl, [_], rfl, by simp [Event.isOrder]⟩

theorem TaskMoves.served {id : TaskId} {x y : Adapter L × Task} (ms : TaskMoves id x y)
    (serves : x.2.serves = true) : Served x y := by
  induction ms with
  | refl => exact ⟨serves, rfl, [], rfl, by simp⟩
  | tail _ m ih =>
    obtain ⟨es, old, plain⟩ := ih.history
    have last := m.served ih.serves
    obtain ⟨es', new, plain'⟩ := last.history
    refine ⟨last.serves, last.linter.trans ih.linter, es' ++ es, by simp [new, old], fun e he => ?_⟩
    exact (List.mem_append.mp he).elim (plain' e) (plain e)

theorem Adapter.resume_served (a : Adapter L) (id : TaskId) {t : Task} (answer : Answer)
    (serves : t.serves = true) : Served (a, t) (a.resumeTask id t answer) := by
  by_cases ready : ∃ job, t = .ready job
  · obtain ⟨job, rfl⟩ := ready
    cases job with
    | run passes =>
      cases answer with
      | done => exact (run_passes_moves passes [] a).served serves
      | _ => exact ⟨rfl, rfl, [], rfl, by simp⟩
    | _ => simp [Task.serves, Job.isRun] at serves
  · exact (resume_task_moves answer fun job eq => ready ⟨job, eq⟩).served serves

namespace Adapter

theorem issue_all_linter (a : Adapter L) (ds : List Document) :
    (a.issueAll ds).1.linter = a.linter := by
  induction ds generalizing a with
  | nil => rfl
  | cons d ds ih => exact ih (a.issue d)

theorem issue_all_documents (a : Adapter L) (ds : List Document) :
    (a.issueAll ds).2.map Pass.document = ds := by
  induction ds generalizing a with
  | nil => rfl
  | cons d ds ih => exact congrArg (d :: ·) (ih (a.issue d))

end Adapter

theorem History.lastTurn_append (u : String) (es h : List (Event L)) :
    lastTurn u (es ++ h) = (lastTurn u es).or (lastTurn u h) := List.find?_append

theorem Event.isOrder_of_turns {u : String} {e : Event L} (turns : e.turns u = true) :
    e.isOrder = true := by
  cases e <;> simp_all [Event.turns, Event.isOrder]

theorem History.lastTurn_served {es : List (Event L)} (plain : ∀ e ∈ es, e.isOrder = false)
    (u : String) : lastTurn u es = none := by
  refine List.find?_eq_none.mpr fun e he turns => ?_
  have order := Event.isOrder_of_turns turns
  simp [plain e he] at order

namespace TaskPool

variable {linter : L} {s : TaskPool L}

theorem Arises.issue_spawn (h : Arises linter s) (ds : List Document) :
    Arises linter (({ s with adapter := (s.adapter.issueAll ds).1 } : TaskPool L).spawn
      (.run (s.adapter.issueAll ds).2)) :=
  (h.issue_all ds).move (.spawn _ _ ⟨(s.adapter.issue_all_passes ds).2,
    fun _ hp => h.tracked.unclaimed_all ds hp⟩)

end TaskPool

end MarkupLint
