import MarkupLint.Proofs.Adapter.Orders

/-! Views of the adapter that a task does not change on its way to the next wait: on that way it
records what it does, and comes to the lock or leaves it. -/
namespace MarkupLint

variable {L : Type}

def Event.given? : Event L → Option Settings
  | .settingsGiven _ _ s => some s
  | _ => none

namespace History

def givens (h : List (Event L)) : List Settings := h.filterMap Event.given?

theorem givens_append (es h : List (Event L)) : givens (es ++ h) = givens es ++ givens h :=
  List.filterMap_append

end History

open History

namespace Adapter

structure Narrow {α : Type} (view : Adapter L → α) : Prop where
  record : ∀ a e, e.given? = none → view (a.record e) = view a
  queue : ∀ (a : Adapter L) queue, view { a with queue := queue } = view a

theorem narrow_givens : Narrow fun a : Adapter L => givens a.history := by
  refine ⟨fun a e none => ?_, fun _ _ => rfl⟩
  simp [givens, record, none]

def records (a : Adapter L) : Map.Dict (List Diagnostic) × Map.Dict Nat := (a.sink, a.latest)

theorem narrow_records : Narrow (records (L := L)) := ⟨fun _ _ _ => rfl, fun _ _ => rfl⟩

section Narrow

variable {α : Type} {view : Adapter L → α} (v : Narrow view)
include v

theorem look_up_view (a : Adapter L) (id : TaskId) (uri : Url) :
    view (a.lookUp id uri).1 = view a := by
  have asked : view (a.record (.resolving id uri)) = view a := v.record a _ rfl
  simp only [lookUp]
  split
  · exact (v.record _ _ rfl).trans asked
  · exact (v.record _ _ rfl).trans asked

theorem check_current_view (a : Adapter L) (id : TaskId) (p : Pass) (u : Publication) :
    view (a.checkCurrent id p u).1 = view a := by
  simp only [checkCurrent, check]
  cases a.isCurrent p with
  | true => exact v.record a _ rfl
  | false => exact (v.queue _ _).trans (v.record a _ rfl)

theorem reach_lock_view (a : Adapter L) (id : TaskId) (p : Pass) (u : Publication) :
    view (a.reachLock id p u).1 = view a := by
  have came : view (a.enqueue id) = view a := v.queue a _
  simp only [reachLock]
  split
  · exact (check_current_view v (a.enqueue id) id p u).trans came
  · exact came

theorem configured_view (a : Adapter L) (id : TaskId) (p : Pass) (config : DocumentConfig) :
    view (a.configured id p config).1 = view a := by
  simp only [configured]
  split
  · exact reach_lock_view v a id p .excluded
  · exact v.record a _ rfl

theorem proceed_view (id : TaskId) (p : Pass) (x : Adapter L × Lookup) :
    view (proceed id p x).1 = view x.1 := by
  obtain ⟨a, l⟩ := x
  cases l with
  | found config => exact configured_view v a id p config
  | _ => rfl

theorem start_pass_view (a : Adapter L) (id : TaskId) (p : Pass) :
    view (a.startPass id p).1 = view a :=
  (proceed_view v id p _).trans (look_up_view v a id _)

theorem report_next_view (a : Adapter L) (id : TaskId) (p : Pass) (left all : List Diagnostic) :
    view (a.reportNext id p left all).1 = view a := by
  cases left with
  | nil => exact reach_lock_view v a id p _
  | cons => exact v.record a _ rfl

theorem replied_view (a : Adapter L) (id : TaskId) (p : Pass) (r : Reply) :
    view (a.replied id p r).1 = view a := by
  have said : view (a.record (.replied id p r)) = view a := v.record a _ rfl
  cases r with
  | error => exact (v.record _ _ rfl).trans said
  | ok fs =>
    have checked : ∀ current, view ((a.record (.replied id p (.ok fs))).record
        (.checked id p (a.holds id) current)) = view a :=
      fun current => (v.record _ _ rfl).trans said
    simp only [replied, check, record_holds]
    cases (a.record (.replied id p (.ok fs))).isCurrent p with
    | true => exact (report_next_view v _ id p _ _).trans (checked true)
    | false => exact checked false

theorem run_passes_view (passes : List Pass) (id : TaskId) (os : List Outcome) (a : Adapter L) :
    view (a.runPasses id os passes).1 = view a := by
  induction passes generalizing a os with
  | nil => exact v.record a _ rfl
  | cons p rest ih =>
    have start := start_pass_view v a id p
    unfold runPasses
    cases e : a.startPass id p with
    | mk b progress =>
      rw [e] at start
      cases progress with
      | waits => exact start
      | ends o => exact (ih _ (b.record (.ended p o))).trans ((v.record b _ rfl).trans start)

theorem continue_passes_view (id : TaskId) (p : Pass) (rest : List Pass) (os : List Outcome)
    (x : Adapter L × Progress) : view (continuePasses id p rest os x).1 = view x.1 := by
  obtain ⟨a, progress⟩ := x
  cases progress with
  | waits => rfl
  | ends o => exact (run_passes_view v rest id _ (a.record (.ended p o))).trans (v.record a _ rfl)

theorem conclude_view (id : TaskId) (uri : Url) (x : Adapter L × Lookup) :
    view (conclude id uri x).1 = view x.1 := by
  obtain ⟨a, l⟩ := x
  cases l with
  | found config => exact v.record a _ rfl
  | _ => rfl

end Narrow

end Adapter

end MarkupLint
