import MarkupLint.Proofs.Adapter.LatestResult
import MarkupLint.Proofs.Adapter.Stints

/-! A pass that is published reports all that its linter found, in order, and one that goes stale
reports all of it or nothing. -/
namespace MarkupLint

open History

variable {L : Type}

theorem Ending.whole {p : Pass} {n : Nat} {es : List (Event L)}
    (t : Ending p (.published n) (.ended p (.published n) :: es)) :
    ∃ id fs linter rules, es = [.set id p.update (p.diagnostics fs), .checked id p true true,
      .checked id p false true, .replied id p (.ok fs), .lintCalled id linter p.call rules,
      .issued p] := by
  generalize eq : Event.ended p (.published n) :: es = whole at t
  cases t with
  | @published id u _ t _ is =>
    obtain ⟨_, rfl⟩ := List.cons.inj eq
    cases t with
    | published t brought =>
      cases t with
      | publishing t =>
        cases t with
        | excluded => simp [Publication.outcome] at is
        | found t =>
          cases t with
          | reporting t fs _ converted =>
            cases t with
            | linting t linter config =>
              cases t
              exact ⟨id, fs, linter, _, by rw [brought, ← converted]; rfl⟩

def Event.finds : Event L → Bool
  | .replied _ _ (.ok _) => true
  | _ => false

namespace History

def verdict (id : TaskId) (p : Pass) : Bool → List (Event L)
  | true => [.checked id p false true]
  | false => [.ended p .stale, .checked id p false false]

/-- Everything that was found had its verdict. -/
inductive Judged : List (Event L) → Prop where
  | none : Judged []
  | other {e : Event L} {h} (unfound : e.finds = false) (j : Judged h) : Judged (e :: h)
  | found {h} (id : TaskId) (p : Pass) (fs : List Finding) (current : Bool) (j : Judged h) :
      Judged (verdict id p current ++ .replied id p (.ok fs) :: h)

theorem Judged.at_once {h newer older : List (Event L)} (j : Judged h) {id : TaskId} {p : Pass}
    {fs : List Finding} (cut : h = newer ++ .replied id p (.ok fs) :: older) :
    ∃ late current, newer = late ++ verdict id p current := by
  induction j generalizing newer with
  | none => simp at cut
  | other unfound _ ih =>
    cases newer with
    | nil =>
      obtain ⟨rfl, _⟩ := List.cons.inj cut
      simp [Event.finds] at unfound
    | cons e newer =>
      obtain ⟨late, current, rfl⟩ := ih (List.cons.inj cut).2
      exact ⟨e :: late, current, rfl⟩
  | found i q gs current _ ih =>
    have unreplied : .replied id p (.ok fs) ∉ (verdict i q current : List (Event L)) := by
      cases current <;> simp [verdict]
    rcases List.append_eq_append_iff.mp cut with ⟨mid, rfl, rest⟩ | ⟨mid, same, rest⟩
    · rcases List.cons_eq_append_iff.mp rest with ⟨rfl, first⟩ | ⟨mid, rfl, deeper⟩
      · obtain ⟨⟨rfl, rfl, _⟩, _⟩ := by simpa using first
        exact ⟨[], current, by simp⟩
      · obtain ⟨late, c, rfl⟩ := ih deeper
        exact ⟨verdict i q current ++ .replied i q (.ok gs) :: late, c, by simp⟩
    · rcases List.cons_eq_append_iff.mp rest with ⟨rfl, first⟩ | ⟨mid, rfl, _⟩
      · obtain ⟨⟨rfl, rfl, _⟩, _⟩ := by simpa using first
        exact ⟨[], current, by simpa using same.symm⟩
      · exact absurd (by simp [same]) unreplied

end History

theorem TaskMove.judged {id : TaskId} {x y : Adapter L × Task} (m : TaskMove id x y)
    (outside : x.2.standing = .outside → x.1.holds id = false) (j : Judged x.1.history) :
    Judged y.1.history := by
  cases m with
  | find => exact .other rfl (.other rfl j)
  | read => exact .other rfl (.other rfl j)
  | announce => exact .other rfl (.other rfl j)
  | fail => exact .other rfl (.other rfl j)
  | accept a p _ _ _ fs => simpa [outside rfl, verdict] using Judged.found id p fs true j
  | drop a p _ _ _ fs => simpa [outside rfl, verdict] using Judged.found id p fs false j
  | refuse => exact .other rfl (.other rfl j)
  | exclude => exact j
  | arrive => exact j
  | enter => exact j
  | _ => exact .other rfl j

namespace TaskPool

variable {linter : L} {s : TaskPool L}

theorem Arises.judged (h : Arises linter s) : Judged s.adapter.history := by
  induction h with
  | start => exact .none
  | move h m ih =>
    cases m with
    | issue => exact .other rfl ih
    | invalidate => exact .other rfl ih
    | setLinter => exact .other rfl ih
    | spawn => exact ih
    | claim => exact ih
    | task here m => exact m.judged (h.locked.outside here) ih

/-- A pass that was superseded when its findings came goes stale at once. -/
theorem Arises.dropped (h : Arises linter s) {newer older : List (Event L)} {id : TaskId} {p : Pass}
    {fs : List Finding} (history : s.adapter.history = newer ++ .replied id p (.ok fs) :: older)
    (superseded : Superseded p older) :
    ∃ late, newer = late ++ [.ended p .stale, .checked id p false false] := by
  obtain ⟨late, current, rfl⟩ := h.judged.at_once history
  cases current with
  | false => exact ⟨late, rfl⟩
  | true =>
    have cut : s.adapter.history = late ++ .checked id p false true ::
        .replied id p (.ok fs) :: older := by simpa [verdict] using history
    have known : .issued p ∈ older := superseded.issued
    have current := (h.check_iff cut (List.mem_cons_of_mem _ known)).mp rfl
    exact absurd (superseded.later [_]) current

end TaskPool

end MarkupLint
