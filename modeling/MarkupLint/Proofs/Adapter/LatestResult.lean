import MarkupLint.Proofs.Adapter.CloseBarrier

/-! No result is lost: a pass is dropped only when it was superseded, and at rest the diagnostics of
a document are what its last pass left, or none when it was closed last. -/
namespace MarkupLint

open History

variable {L : Type}

namespace TaskPool

section Decision

variable {linter : L} {s : TaskPool L} {newer older : List (Event L)} {p : Pass} {o : Outcome}

theorem Tracked.ending_at (h : Tracked s)
    (history : s.adapter.history = newer ++ .ended p o :: older) :
    Ending p o (.ended p o :: trail p older) := by
  have ending := h.ended (p := p) (o := o) (by simp [history])
  obtain ⟨rest, whole, none⟩ := ending.first
  have cut : trail p newer ++ .ended p o :: trail p older = .ended p o :: rest := by
    rw [← whole, history]
    simp [trail, Event.concerns]
  cases later : trail p newer with
  | nil =>
    rw [later] at cut
    rw [whole, ← cut] at ending
    exact ending
  | cons e es =>
    rw [later, List.cons_append, List.cons.injEq] at cut
    exact absurd (cut.2 ▸ List.mem_append_right es List.mem_cons_self) (none p o)

/-- The last check of a pass decides: it goes stale when it was superseded by then. -/
theorem Arises.stale_iff (h : Arises linter s)
    (history : s.adapter.history = newer ++ .ended p o :: older)
    (unfailed : ∀ reason, o ≠ .failed reason) :
    ∃ between id locked current before, older = between ++ .checked id p locked current :: before ∧
      (∀ i l c, .checked i p l c ∉ between) ∧ .issued p ∈ before ∧
      (o = .stale ↔ Superseded p before) := by
  obtain ⟨between, id, locked, current, before, own, last, issued, stale⟩ :=
    (h.tracked.ending_at history).decided unfailed
  obtain ⟨between', rest, rfl, rfl, tail⟩ := List.filter_eq_append_iff.mp own
  obtain ⟨skipped, before', rfl, skip, _, rfl⟩ := List.filter_eq_cons_iff.mp tail
  have issued' : .issued p ∈ before' := (List.mem_filter.mp issued).1
  have cut : s.adapter.history = (newer ++ .ended p o :: (between' ++ skipped)) ++
      .checked id p locked current :: before' := by simpa using history
  refine ⟨between' ++ skipped, id, locked, current, before', by simp, ?_, issued', ?_⟩
  · intro i l c checked
    rcases List.mem_append.mp checked with early | early
    · exact last i l c (List.mem_filter.mpr ⟨early, by simp [Event.concerns]⟩)
    · exact skip _ early (by simp [Event.concerns])
  · rw [stale, ← not_iff_not, ← h.check_iff cut issued']
    simp

theorem Arises.stale_superseded (h : Arises linter s)
    (ended : .ended p .stale ∈ s.adapter.history) : Superseded p s.adapter.history := by
  obtain ⟨newer, older, history⟩ := List.append_of_mem ended
  obtain ⟨between, id, locked, current, before, rfl, _, _, stale⟩ := h.stale_iff history (by simp)
  have cut : s.adapter.history = (newer ++ .ended p .stale ::
      (between ++ [.checked id p locked current])) ++ before := by simpa using history
  exact cut ▸ (stale.mp rfl).later _

end Decision

section Rest

variable {linter : L} {s : TaskPool L} {p : Pass}

theorem Arises.published_last (h : Arises linter s)
    (last : lastTurn p.url s.adapter.history = some (.issued p)) {id : TaskId}
    {ds : List Diagnostic} (published : .set id p.update ds ∈ s.adapter.history) :
    s.adapter.sink.get? p.url = some ds := by
  have own : (Event.set id p.update ds : Event L).updates p.url = true := decide_eq_true rfl
  rw [h.mirrored.sink p.url]
  cases update : lastUpdate p.url s.adapter.history with
  | none => exact absurd own (by simpa using List.find?_eq_none.mp update _ published)
  | some e =>
    have there := List.mem_of_find?_eq_some update
    have about := List.find?_some update
    rcases before_find update published own with rfl | later
    · rfl
    · cases e with
      | set j u es =>
        obtain ⟨q, rfl⟩ := h.handed_update there
        have url : q.url = p.url := of_decide_eq_true about
        -- A later update of another pass would be of one issued later, but `p` was issued last.
        have less := h.set_order url.symm later
        rcases issued_before_turn last (h.issued_of_set there) url with rfl | old
        · omega
        · have := h.tracked.issue_order old
          omega
      | deleted c uri =>
        have url : uri.text = p.url := by simpa [Event.updates] using about
        have closed := (h.barred.forgets_first there).1.mem.1
        have deletion := h.new_after published (closed_before_turn last closed url)
        exact absurd later (deletion.precedes (h.barred.deleted_once c uri) h.tracked.set_once).2
      | _ => simp [Event.updates] at about

end Rest

def LeftBefore (a : Adapter L) (p : Pass) : Prop :=
  match lastUpdate p.url a.history with
  | none => a.diagnostics? p.document.uri = none
  | some (.set _ update ds) =>
    a.diagnostics? p.document.uri = some ds ∧
      Before a.history (.issued update.toPass) (.issued p)
  | some (.deleted c uri) =>
    a.diagnostics? p.document.uri = none ∧ Before a.history (.forgotten c uri) (.issued p)
  | some _ => False

/-- What the end of the current pass of a document leaves there. -/
def Leaves (a : Adapter L) (p : Pass) : Outcome → Prop
  | .published n => ∃ id fs, .replied id p (.ok fs) ∈ a.history ∧
      (∀ i r, .replied i p r ∈ a.history → r = .ok fs) ∧ n = fs.length ∧
      a.diagnostics? p.document.uri =
        some (fs.map (Diagnostic.ofFinding (lines p.document.text.toList)))
  | .excluded => a.diagnostics? p.document.uri = some []
  | .failed _ => LeftBefore a p
  | .stale => False

section Rest

variable {linter : L} {s : TaskPool L} {p : Pass}

theorem Arises.left_before (h : Arises linter s)
    (last : lastTurn p.url s.adapter.history = some (.issued p))
    (unset : ∀ i ds, .set i p.update ds ∉ s.adapter.history) : LeftBefore s.adapter p := by
  have sink : s.adapter.diagnostics? p.document.uri = _ := h.mirrored.sink p.url
  unfold LeftBefore
  rw [sink]
  cases update : lastUpdate p.url s.adapter.history with
  | none => rfl
  | some e =>
    have there := List.mem_of_find?_eq_some update
    have about := List.find?_some update
    cases e with
    | set j u es =>
      obtain ⟨q, rfl⟩ := h.handed_update there
      have url : q.url = p.url := of_decide_eq_true about
      refine ⟨rfl, ?_⟩
      rcases issued_before_turn last (h.issued_of_set there) url with rfl | old
      · exact absurd there (unset j es)
      · exact old
    | deleted c uri =>
      have url : uri.text = p.url := by simpa [Event.updates] using about
      exact ⟨rfl, closed_before_turn last (h.barred.forgets_first there).1.mem.1 url⟩
    | _ => simp [Event.updates] at about

theorem Arises.leaves (h : Arises linter s)
    (last : lastTurn p.url s.adapter.history = some (.issued p)) {o : Outcome}
    (ended : .ended p o ∈ s.adapter.history) : Leaves s.adapter p o := by
  have ending := h.tracked.ended ended
  have there : ∀ {e : Event L}, e ∈ trail p s.adapter.history → e ∈ s.adapter.history :=
    fun he => (mem_trail.mp he).1
  cases o with
  | published n =>
    obtain ⟨id, fs, count, set, replied, only⟩ := ending.published_brings
    refine ⟨id, fs, there replied, fun i r said => only i r ?_,
      by simpa [Pass.diagnostics] using count, h.published_last last (there set)⟩
    exact mem_trail.mpr ⟨said, by simp [Event.concerns]⟩
  | excluded =>
    obtain ⟨id, set⟩ := ending.excluded_brings
    exact h.published_last last (there set)
  | failed reason =>
    refine h.left_before last fun i ds set => ending.failed_unset i ds ?_
    exact mem_trail.mpr ⟨set, by simp [Event.concerns]⟩
  | stale =>
    have issued := List.mem_of_find?_eq_some last
    exact (turn_iff issued (h.tracked.issued_once p)).mp last (h.stale_superseded ended)

end Rest

end TaskPool

end MarkupLint
