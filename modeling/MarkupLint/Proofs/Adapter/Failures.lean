import MarkupLint.Proofs.Adapter.Steps
import MarkupLint.Proofs.Adapter.Turns
import MarkupLint.Proofs.Adapter.Stints

/-! A failure is shown when its pass was current as the linter failed. The line about it is logged
in between, and what supersedes the pass meanwhile does not keep the failure from being shown. -/
namespace MarkupLint

open History

variable {L : Type}

def Event.failed? : Event L → Option Pass
  | .replied _ p (.error _) => some p
  | _ => none

namespace History

/-- The linter failed for a pass, and all that its task did since is to log the failure. -/
def Failed (id : TaskId) (p : Pass) (reason : String) (current : Bool) (h : List (Event L)) :
    Prop :=
  ∃ e mid before, reason = e.message ∧
    h = mid ++ .logged id (failureLine p.document.uri reason) ::
      .replied id p (.error e) :: before ∧
    own id mid = [] ∧ .issued p ∈ before ∧ (current = true ↔ ¬ Superseded p before)

def Showed (id : TaskId) (p : Pass) (reason : String) (h : List (Event L)) : Prop :=
  ∃ mid before, h = mid ++ .shown id (failureLine p.document.uri reason) :: before ∧
    own id mid = [] ∧ Failed id p reason true before

section Later

variable {id : TaskId} {p : Pass} {reason : String} {h es : List (Event L)}

theorem Failed.later {current : Bool} (f : Failed id p reason current h)
    (others : ∀ e ∈ es, e.task? ≠ some id) : Failed id p reason current (es ++ h) := by
  obtain ⟨e, mid, before, said, rfl, idle, turn⟩ := f
  exact ⟨e, es ++ mid, before, said, by simp, by simp [own_append, own_others others, idle], turn⟩

theorem Showed.later (f : Showed id p reason h) (others : ∀ e ∈ es, e.task? ≠ some id) :
    Showed id p reason (es ++ h) := by
  obtain ⟨mid, before, rfl, idle, failed⟩ := f
  exact ⟨es ++ mid, before, by simp, by simp [own_append, own_others others, idle], failed⟩

end Later

/-- Only the failure of a pass that was current is shown, and a pass that ends with a failure
had it shown or was not current. -/
def FailureFits : Event L → List (Event L) → Prop
  | .shown id line, older => ∃ p reason, line = failureLine p.document.uri reason ∧
      Failed id p reason true older
  | .ended p (.failed reason), older =>
    ∃ id, Failed id p reason false older ∨ Showed id p reason older
  | _, _ => True

end History

def Task.Fails (id : TaskId) (h : List (Event L)) : Task → Prop
  | .passing p (.failing reason shows) _ _ => Failed id p reason shows h
  | .passing p (.showing reason) _ _ => Showed id p reason h
  | _ => True

theorem Task.Fails.later {id : TaskId} {t : Task} {h : List (Event L)} (f : t.Fails id h)
    {es : List (Event L)} (others : ∀ e ∈ es, e.task? ≠ some id) : t.Fails id (es ++ h) := by
  cases t with
  | passing p stage rest os =>
    cases stage with
    | failing reason shows => exact Failed.later f others
    | showing reason => exact Showed.later f others
    | _ => trivial
  | _ => trivial

theorem TaskMove.fails {id : TaskId} {x y : Adapter L × Task} (m : TaskMove id x y)
    (turn : ∀ p ∈ x.2.passes, .issued p ∈ x.1.history ∧
      (x.1.isCurrent p = true ↔ ¬ Superseded p x.1.history))
    (f : x.2.Fails id x.1.history) : y.2.Fails id y.1.history := by
  cases m with
  | find _ asks => cases asks <;> trivial
  | read _ asks => cases asks <;> trivial
  | announce _ asks => cases asks <;> trivial
  | keep _ asks => cases asks <;> trivial
  | fail a p _ _ _ e => exact ⟨e, [], a.history, rfl, rfl, rfl, turn p List.mem_cons_self⟩
  | shows a p => exact ⟨[], a.history, rfl, rfl, f⟩
  | _ => trivial

theorem TaskMove.failure_fits {id : TaskId} {x y : Adapter L × Task} (m : TaskMove id x y)
    (f : x.2.Fails id x.1.history) (h : Justified FailureFits x.1.history) :
    Justified FailureFits y.1.history := by
  cases m with
  | shows a p _ _ reason => exact ⟨⟨p, reason, rfl, f⟩, h⟩
  | giveUp => exact ⟨⟨id, .inl f⟩, h⟩
  | cease => exact ⟨⟨id, .inr f⟩, h⟩
  | leave a p _ _ u => cases u <;> exact ⟨trivial, h⟩
  | find => exact ⟨trivial, trivial, h⟩
  | read => exact ⟨trivial, trivial, h⟩
  | announce => exact ⟨trivial, trivial, h⟩
  | fail => exact ⟨trivial, trivial, h⟩
  | accept => exact ⟨trivial, trivial, h⟩
  | drop => exact ⟨trivial, trivial, trivial, h⟩
  | refuse => exact ⟨trivial, trivial, h⟩
  | exclude => exact h
  | arrive => exact h
  | enter => exact h
  | _ => exact ⟨trivial, h⟩

theorem History.superseded_since {p : Pass} {mid before : List (Event L)}
    (current : ¬ Superseded p before) (now : Superseded p (mid ++ before)) :
    ∃ e ∈ mid, e.Supersedes p := by
  obtain ⟨e, supersedes, order⟩ := now
  by_cases new : e ∈ mid
  · exact ⟨e, new, supersedes⟩
  · exact absurd ⟨e, supersedes, before_of_not_mem order new⟩ current

namespace TaskPool

structure Failing (s : TaskPool L) : Prop where
  fails : ∀ {id : TaskId} {t : Task}, s.tasks[id]? = some t → t.Fails id s.adapter.history
  fits : Justified FailureFits s.adapter.history

variable {linter : L} {s t : TaskPool L}

theorem failing_move (h : Failing s) (tracked : Tracked s) (mirrored : s.adapter.Mirrored)
    (m : Move s t) : Failing t := by
  have turn : ∀ {id : TaskId} {t : Task}, s.tasks[id]? = some t → ∀ p ∈ t.passes,
      .issued p ∈ s.adapter.history ∧
        (s.adapter.isCurrent p = true ↔ ¬ Superseded p s.adapter.history) := by
    intro id t here p hp
    have issued := tracked.issued here hp
    have current := tracked.current_iff mirrored issued
    exact ⟨issued, current.trans (turn_iff issued (tracked.issued_once p))⟩
  constructor
  · exact m.each (P := Task.Fails) h.fails (fun f others => f.later others) (fun _ => trivial)
      (fun _ _ _ => trivial) fun here m => m.fails (turn here) (h.fails here)
  · cases m with
    | issue => exact ⟨trivial, h.fits⟩
    | invalidate => exact ⟨trivial, h.fits⟩
    | setLinter => exact ⟨trivial, h.fits⟩
    | spawn => exact h.fits
    | claim => exact h.fits
    | task here m => exact m.failure_fits (h.fails here) h.fits

theorem Arises.failing (h : Arises linter s) : Failing s := by
  induction h with
  | start => exact ⟨fun here => by simp [initial] at here, trivial⟩
  | move h m ih => exact failing_move ih h.tracked h.mirrored m

/-- A failure that is shown is of a pass that was not superseded when the linter failed; what
supersedes it by the time it is shown came while the line about it was being logged. A pass that
ends with a failure had it shown unless it was superseded when the linter failed. -/
theorem failures_told (h : Reachable (.initial linter) s) :
    (∀ {newer older id line}, s.adapter.history = newer ++ .shown id line :: older →
      ∃ p e mid before, line = failureLine p.document.uri e.message ∧ complains line = true ∧
        older = mid ++ .logged id line :: .replied id p (.error e) :: before ∧
        own id mid = [] ∧ .issued p ∈ before ∧ ¬ Superseded p before ∧
        (Superseded p older → ∃ x ∈ mid, x.Supersedes p)) ∧
    ∀ {newer older p reason}, s.adapter.history = newer ++ .ended p (.failed reason) :: older →
      ∃ id e mid before, reason = e.message ∧
        older = mid ++ .logged id (failureLine p.document.uri reason) ::
          .replied id p (.error e) :: before ∧ .issued p ∈ before ∧
        (Superseded p before ∧ own id mid = [] ∨
          ¬ Superseded p before ∧
            own id mid = [.shown id (failureLine p.document.uri reason)]) := by
  have fits := (reachable_arises h).failing.fits
  constructor
  · intro newer older id line history
    rw [history] at fits
    obtain ⟨p, _, rfl, e, mid, before, rfl, rfl, idle, issued, turn⟩ := fits.at
    have current : ¬ Superseded p before := turn.mp rfl
    refine ⟨p, e, mid, before, rfl, complains_failure _ _, rfl, idle, issued, current, fun now => ?_⟩
    rw [List.append_cons, List.append_cons] at now
    obtain ⟨x, there, supersedes⟩ := superseded_since current now
    simp only [List.mem_append, List.mem_singleton] at there
    rcases there with (meanwhile | rfl) | rfl
    · exact ⟨x, meanwhile, supersedes⟩
    · exact supersedes.elim
    · exact supersedes.elim
  · intro newer older p reason history
    rw [history] at fits
    obtain ⟨id, told⟩ := fits.at
    refine ⟨id, ?_⟩
    rcases told with ⟨e, mid, before, said, rfl, idle, issued, turn⟩ |
      ⟨late, _, rfl, still, e, mid, before, said, rfl, idle, issued, turn⟩
    · exact ⟨e, mid, before, said, rfl, issued, .inl ⟨by simpa using turn, idle⟩⟩
    · refine ⟨e, late ++ .shown id (failureLine p.document.uri reason) :: mid, before, said,
        by simp, issued, .inr ⟨turn.mp rfl, ?_⟩⟩
      simp [own_append, own_cons, Event.task?, still, idle]

def lateFailureSteps : List (Step Unit) :=
  (lintSteps 0 (.error (.process "crashed"))).take 5 ++
    [.issue emptyPage, .resume 0 .done, .resume 0 .done]

theorem late_failure_told :
    ∃ s : TaskPool Unit, Reachable (.initial ()) s ∧
      (∃ p e mid before, s.adapter.history.drop 3 = mid ++
          .logged 0 (failureLine emptyPage.uri (LintError.process "crashed").message) ::
            .replied 0 p (.error e) :: before ∧ ¬ Superseded p before) ∧
      ∃ id mid before, s.adapter.history.drop 2 = mid ++
        .logged id (failureLine emptyPage.uri (LintError.process "crashed").message) :: before := by
  have reachable : Reachable (initial ()) ((initial ()).play lateFailureSteps) :=
    reachable_play .refl lateFailureSteps rfl
  generalize eq : (initial ()).play lateFailureSteps = s at reachable
  have shown : s.adapter.history = s.adapter.history.take 2 ++
      .shown 0 (failureLine emptyPage.uri (LintError.process "crashed").message) ::
        s.adapter.history.drop 3 := eq ▸ rfl
  have ended : s.adapter.history = s.adapter.history.take 1 ++
      .ended ⟨emptyPage, 1⟩ (.failed (LintError.process "crashed").message) ::
        s.adapter.history.drop 2 := eq ▸ rfl
  obtain ⟨shows, ends⟩ := failures_told reachable
  obtain ⟨p, e, mid, before, _, _, cut, _, _, current, _⟩ := shows shown
  obtain ⟨id, _, late, _, _, late_cut, _⟩ := ends ended
  exact ⟨s, reachable, ⟨p, e, mid, before, cut, current⟩, id, late, _, late_cut⟩

theorem late_failure_superseded :
    Superseded ⟨emptyPage, 1⟩ (((initial ()).play lateFailureSteps).adapter.history.drop 3) :=
  ⟨.issued ⟨emptyPage, 2⟩, ⟨by decide, rfl⟩,
    before_of_getElem? (i := 0) (j := 9) (by decide) rfl rfl⟩

/-- It is not so that every failure is shown only while its pass is not superseded. -/
theorem superseded_failure_shown :
    ¬ ∀ {s : TaskPool Unit}, Reachable (.initial ()) s →
      ∀ {newer older id line}, s.adapter.history = newer ++ .shown id line :: older →
        ∃ p e, .replied id p (.error e) ∈ older ∧
          line = failureLine p.document.uri e.message ∧ ¬ Superseded p older := by
  intro claim
  have reachable : Reachable (initial ()) ((initial ()).play lateFailureSteps) :=
    reachable_play .refl lateFailureSteps rfl
  have superseded := late_failure_superseded
  have only : (((initial ()).play lateFailureSteps).adapter.history.drop 3).filterMap
      Event.failed? = [⟨emptyPage, 1⟩] := rfl
  generalize eq : (initial ()).play lateFailureSteps = s at reachable superseded only
  have history : s.adapter.history = s.adapter.history.take 2 ++
      .shown 0 (failureLine emptyPage.uri (LintError.process "crashed").message) ::
        s.adapter.history.drop 3 := eq ▸ rfl
  obtain ⟨p, e, replied, _, current⟩ := claim reachable history
  have failed : p ∈ (s.adapter.history.drop 3).filterMap Event.failed? :=
    List.mem_filterMap.mpr ⟨_, replied, rfl⟩
  obtain rfl : p = ⟨emptyPage, 1⟩ := by simpa [only] using failed
  exact current superseded

end TaskPool

end MarkupLint
