import MarkupLint.Proofs.Adapter.Tracking

/-! The tracker and the sink are what the history makes of them: the current pass of a document is
the last one issued since its last close, and every check of a pass tells whether it is that one. -/
namespace MarkupLint

open History
open Map (Dict)

variable {L : Type}

namespace History

def turnNumber : Option (Event L) → Option Nat
  | some (.issued p) => some p.sequence
  | _ => none

def content : Option (Event L) → Option (List Diagnostic)
  | some (.set _ _ ds) => some ds
  | _ => none

def CheckFits : Event L → List (Event L) → Prop
  | .checked _ p _ current, older => current = true ↔ lastTurn p.url older = some (.issued p)
  | _, _ => True

theorem lastTurn_cons (u : String) (e : Event L) (h : List (Event L)) :
    lastTurn u (e :: h) = if e.turns u then some e else lastTurn u h := by
  unfold lastTurn
  cases turns : e.turns u <;> simp [turns]

theorem lastUpdate_cons (u : String) (e : Event L) (h : List (Event L)) :
    lastUpdate u (e :: h) = if e.updates u then some e else lastUpdate u h := by
  unfold lastUpdate
  cases updates : e.updates u <;> simp [updates]

theorem turns_cases {u : String} {e : Event L} (turns : e.turns u = true) :
    (∃ p, e = .issued p ∧ p.url = u) ∨ ∃ id uri, e = .forgotten id uri ∧ uri.text = u := by
  cases e <;> simp_all [Event.turns]

theorem closed_before_turn {h : List (Event L)} {p : Pass} {c : TaskId} {uri : Url}
    (last : lastTurn p.url h = some (.issued p)) (closed : .forgotten c uri ∈ h)
    (url : uri.text = p.url) : Before h (.forgotten c uri) (.issued p) :=
  (before_find last closed (by simp [Event.turns, url])).resolve_left (by simp)

theorem issued_before_turn {h : List (Event L)} {p q : Pass}
    (last : lastTurn p.url h = some (.issued p)) (issued : .issued q ∈ h) (url : q.url = p.url) :
    q = p ∨ Before h (.issued q) (.issued p) :=
  (before_find last issued (by simp [Event.turns, url])).imp_left Event.issued.inj

/-- It is the turn of a pass until it is superseded. -/
theorem turn_iff {h : List (Event L)} {p : Pass} (issued : .issued p ∈ h)
    (once : ¬ Before h (.issued p) (.issued p)) :
    lastTurn p.url h = some (.issued p) ↔ ¬ Superseded p h := by
  have own : (Event.issued p : Event L).turns p.url = true := by simp [Event.turns]
  constructor
  · rintro last ⟨e, supersedes, before⟩
    obtain ⟨_, newer, older, rfl, none⟩ := List.find?_eq_some_iff_append.mp last
    have turns : e.turns p.url = true := by
      cases e <;> simp_all [Event.Supersedes, Event.turns]
    have absent : e ∉ newer := fun he => by simpa [turns] using none e he
    rcases (before_cons _ _ _ _).mp (before_of_not_mem before absent) with later | ⟨rfl, _⟩
    · have again : .issued p ∈ older := later.mem.1
      exact once (before_at again)
    · exact supersedes.1 rfl
  · intro current
    cases last : lastTurn p.url h with
    | none => exact absurd own (by simpa using List.find?_eq_none.mp last _ issued)
    | some e =>
      rcases before_find last issued own with rfl | before
      · rfl
      · -- The last turn came after the issue of `p`, so if it is not that issue, it supersedes `p`.
        by_contra ne
        refine current ⟨e, ?_, before⟩
        rcases turns_cases (List.find?_some last) with ⟨q, rfl, same⟩ | ⟨id, uri, rfl, same⟩
        · exact ⟨fun eq => ne (eq ▸ rfl), same⟩
        · exact same

end History

namespace Adapter

/-- The tracker and the sink agree with the history. -/
structure Mirrored (a : Adapter L) : Prop where
  tracker : ∀ u, a.latest.get? u = turnNumber (lastTurn u a.history)
  sink : ∀ u, a.sink.get? u = content (lastUpdate u a.history)

theorem Mirrored.frame {a b : Adapter L} (h : Mirrored a) (latest : b.latest = a.latest)
    (sink : b.sink = a.sink) (turn : ∀ u, lastTurn u b.history = lastTurn u a.history)
    (update : ∀ u, lastUpdate u b.history = lastUpdate u a.history) : Mirrored b := by
  constructor
  · intro u
    rw [latest, turn]
    exact h.tracker u
  · intro u
    rw [sink, update]
    exact h.sink u

theorem Mirrored.issue {a : Adapter L} (h : Mirrored a) (d : Document) : Mirrored (a.issue d) := by
  constructor
  · intro u
    simp only [Adapter.issue, Adapter.record, Dict.get?_insert, lastTurn_cons, Event.turns,
      Pass.url]
    by_cases same : d.uri.text = u
    · simp [nextPass, same, turnNumber]
    · simp [nextPass, same, h.tracker]
  · exact h.sink

theorem Mirrored.forget {a : Adapter L} (h : Mirrored a) (id : TaskId) (uri : Url) :
    Mirrored (a.forget id uri) := by
  constructor
  · intro u
    simp only [Adapter.forget, Adapter.record, Dict.get?_erase, lastTurn_cons, Event.turns]
    by_cases same : uri.text = u
    · simp [same, turnNumber]
    · simp [same, h.tracker]
  · exact h.sink

theorem Mirrored.update {a : Adapter L} (h : Mirrored a) (id : TaskId) (p : Pass)
    (u : Publication) : Mirrored (a.update id p u) := by
  constructor
  · exact h.tracker
  · intro v
    simp only [Adapter.update, Adapter.record, Dict.get?_insert, lastUpdate_cons, Event.updates]
    by_cases same : p.update.uri.text = v
    · simp [same, content]
    · simp [same, h.sink]

theorem Mirrored.delete {a : Adapter L} (h : Mirrored a) (id : TaskId) (uri : Url) :
    Mirrored (a.delete id uri) := by
  constructor
  · exact h.tracker
  · intro v
    simp only [Adapter.delete, Adapter.record, Dict.get?_erase, lastUpdate_cons, Event.updates]
    by_cases same : uri.text = v
    · simp [same, content]
    · simp [same, h.sink]

end Adapter

theorem TaskMove.mirrored {id : TaskId} {x y : Adapter L × Task} (m : TaskMove id x y)
    (h : x.1.Mirrored) : y.1.Mirrored := by
  cases m with
  | publish a p _ _ u => exact h.update id p u
  | close a uri =>
    exact (h.forget id uri).frame rfl rfl (fun _ => rfl) fun _ => rfl
  | delete a uri => exact h.delete id uri
  | _ => exact h.frame rfl rfl (fun _ => rfl) fun _ => rfl

namespace TaskPool

theorem mirrored_move {s t : TaskPool L} (h : s.adapter.Mirrored) (m : Move s t) :
    t.adapter.Mirrored := by
  cases m with
  | issue d => exact h.issue d
  | task _ m => exact m.mirrored h
  | _ => exact h.frame rfl rfl (fun _ => rfl) fun _ => rfl

theorem Arises.mirrored {linter : L} {s : TaskPool L} (h : Arises linter s) :
    s.adapter.Mirrored := by
  induction h with
  | start => exact ⟨fun _ => rfl, fun _ => rfl⟩
  | move _ m ih => exact mirrored_move ih m

theorem Tracked.number_unique {s : TaskPool L} (h : Tracked s) {p q : Pass}
    (hp : .issued p ∈ s.adapter.history) (hq : .issued q ∈ s.adapter.history)
    (same : p.sequence = q.sequence) : p = q := by
  by_contra ne
  have apart : (Event.issued p : Event L) ≠ .issued q := fun eq => ne (Event.issued.inj eq)
  rcases before_total hp hq apart with before | before
  · have := h.issue_order before
    omega
  · have := h.issue_order before
    omega

theorem Tracked.issued_once {s : TaskPool L} (h : Tracked s) (p : Pass) :
    ¬ Before s.adapter.history (.issued p) (.issued p) :=
  fun twice => Nat.lt_irrefl _ (h.issue_order twice)

theorem Tracked.once_since {s : TaskPool L} (h : Tracked s) {recent : List (Event L)} {p : Pass}
    (old : recent <:+ s.adapter.history) : ¬ Before recent (.issued p) (.issued p) :=
  fun twice => h.issued_once p (twice.trans old.sublist)

theorem Tracked.current_iff {s : TaskPool L} (h : Tracked s) (mirrored : s.adapter.Mirrored)
    {p : Pass} (issued : .issued p ∈ s.adapter.history) :
    s.adapter.isCurrent p = true ↔ lastTurn p.url s.adapter.history = some (.issued p) := by
  have tracker := mirrored.tracker p.url
  simp only [Adapter.isCurrent, decide_eq_true_eq]
  rw [← Pass.url, tracker]
  constructor
  · intro number
    cases last : lastTurn p.url s.adapter.history with
    | none => simp [last, turnNumber] at number
    | some e =>
      rcases turns_cases (List.find?_some last) with ⟨q, rfl, _⟩ | ⟨_, _, rfl, _⟩
      · have same : q.sequence = p.sequence := by simpa [last, turnNumber] using number
        rw [h.number_unique (List.mem_of_find?_eq_some last) issued same]
      · simp [last, turnNumber] at number
  · intro last
    rw [last, turnNumber]

theorem checks_move {s t : TaskPool L} (h : Tracked s) (mirrored : s.adapter.Mirrored)
    (fit : Justified CheckFits s.adapter.history) (m : Move s t) :
    Justified CheckFits t.adapter.history := by
  cases m with
  | @task id t u a here m =>
    have turn : ∀ p ∈ t.passes, ∀ current, s.adapter.isCurrent p = current →
        (current = true ↔ lastTurn p.url s.adapter.history = some (.issued p)) := by
      rintro p hp _ rfl
      exact h.current_iff mirrored (h.issued here hp)
    cases m with
    | accept _ p _ _ _ _ now =>
      exact ⟨turn p List.mem_cons_self _ now, trivial, fit⟩
    | drop _ p _ _ _ _ now =>
      exact ⟨trivial, turn p List.mem_cons_self _ now, trivial, fit⟩
    | grant _ p _ _ _ _ now =>
      exact ⟨turn p List.mem_cons_self _ now, fit⟩
    | refuse _ p _ _ _ _ now =>
      exact ⟨trivial, turn p List.mem_cons_self _ now, fit⟩
    | enter => exact fit
    | exclude => exact fit
    | arrive => exact fit
    | find => exact ⟨trivial, trivial, fit⟩
    | read => exact ⟨trivial, trivial, fit⟩
    | announce => exact ⟨trivial, trivial, fit⟩
    | fail => exact ⟨trivial, trivial, fit⟩
    | _ => exact ⟨trivial, fit⟩
  | spawn => exact fit
  | claim => exact fit
  | _ => exact ⟨trivial, fit⟩

theorem Arises.checks {linter : L} {s : TaskPool L} (h : Arises linter s) :
    Justified CheckFits s.adapter.history := by
  induction h with
  | start => trivial
  | move h m ih => exact checks_move h.tracked h.mirrored ih m

theorem Arises.check_fits {linter : L} {s : TaskPool L} (h : Arises linter s)
    {newer older : List (Event L)} {id : TaskId} {p : Pass} {locked current : Bool}
    (history : s.adapter.history = newer ++ .checked id p locked current :: older) :
    current = true ↔ lastTurn p.url older = some (.issued p) := by
  have checks := h.checks
  rw [history] at checks
  exact checks.at

/-- A check finds a pass current until it is superseded. -/
theorem Arises.check_iff {linter : L} {s : TaskPool L} (h : Arises linter s)
    {newer older : List (Event L)} {id : TaskId} {p : Pass} {locked current : Bool}
    (history : s.adapter.history = newer ++ .checked id p locked current :: older)
    (issued : .issued p ∈ older) : current = true ↔ ¬ Superseded p older := by
  have part : older <:+ s.adapter.history :=
    (List.suffix_cons _ older).trans ⟨newer, history.symm⟩
  exact (h.check_fits history).trans (turn_iff issued (h.tracked.once_since part))

end TaskPool

end MarkupLint
