import MarkupLint.Proofs.Adapter.Views

/-! A task is given settings only as the answer to what it waits for, and once by each answer. -/
namespace MarkupLint

variable {L : Type}

open History

namespace Adapter

variable {a b c : Adapter L} {id : TaskId}

def Ungiven (a b : Adapter L) : Prop := givens b.history = givens a.history

def Gives (answer : Answer) (a b : Adapter L) : Prop :=
  Ungiven a b ∨ ∃ s, answer = .settings s ∧ givens b.history = s :: givens a.history

theorem Gives.trans {answer : Answer} (h : Gives answer a b) (k : Ungiven b c) :
    Gives answer a c := by
  rcases h with h | ⟨s, eq, given⟩
  · exact .inl (Eq.trans k h)
  · exact .inr ⟨s, eq, Eq.trans k given⟩

theorem resume_lookup_gives (a : Adapter L) (id : TaskId) (uri : Url) (l : Lookup)
    (answer : Answer) : Gives answer a (a.resumeLookup id uri l answer).1 := by
  unfold resumeLookup
  split
  · exact .inr ⟨_, rfl, rfl⟩
  · exact .inl rfl
  · exact .inl rfl

theorem resume_pass_gives (a : Adapter L) (id : TaskId) (p : Pass) (stage : Stage)
    (answer : Answer) : Gives answer a (a.resumePass id p stage answer).1 := by
  unfold resumePass
  split
  · exact (resume_lookup_gives a id _ _ answer).trans (proceed_view narrow_givens id p _)
  · exact .inl (replied_view narrow_givens a id p _)
  · exact .inl (report_next_view narrow_givens a id p _ _)
  · split <;> exact .inl rfl
  · exact .inl rfl
  · split
    · exact .inl (check_current_view narrow_givens a id p _)
    · exact .inl rfl
  · exact .inl rfl
  · exact .inl rfl
  · exact .inl rfl
  · exact .inl rfl

theorem resume_task_gives (a : Adapter L) (id : TaskId) {t : Task} (answer : Answer)
    (serves : t.serves = true) : Gives answer a (a.resumeTask id t answer).1 := by
  unfold resumeTask
  split
  · rename_i job
    cases job with
    | run passes => exact .inl (run_passes_view narrow_givens passes id [] a)
    | _ => simp [Task.serves, Job.isRun] at serves
  · exact (resume_pass_gives a id _ _ answer).trans (continue_passes_view narrow_givens id _ _ _ _)
  · exact (resume_lookup_gives a id _ _ answer).trans (conclude_view narrow_givens id _ _)
  · exact .inl rfl
  · exact .inl rfl
  · exact .inl rfl
  · exact .inl rfl
  · exact .inl rfl

end Adapter

end MarkupLint
