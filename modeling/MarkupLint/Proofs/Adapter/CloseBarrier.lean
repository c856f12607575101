import MarkupLint.Proofs.Adapter.PublishOrder

/-! The close of a document is a barrier: what passes issued before it publish comes before its
deletion, and what passes issued after it publish comes after. A close forgets the passes before it
waits for the lock, and whoever takes a later pass to the lock stands behind it. -/
namespace MarkupLint

open History

variable {L : Type}

def Event.closes (id : TaskId) : Event L → Bool
  | .forgotten i _ => i = id
  | .deleted i _ => i = id
  | .finished i .closed => i = id
  | _ => false

def Task.shutting? : Task → Option Url
  | .closing uri => some uri
  | .deleting uri => some uri
  | _ => none

def Task.isClose : Task → Bool
  | .closing _ => true
  | .deleting _ => true
  | .deleted _ => true
  | _ => false

def Task.isElsewhere (t : Task) : Bool :=
  match t with
  | .finished => false
  | t => !t.isClose

namespace History

def closeTrail (id : TaskId) (h : List (Event L)) : List (Event L) := h.filter (Event.closes id)

theorem closeTrail_cons (id : TaskId) (e : Event L) (h : List (Event L)) :
    closeTrail id (e :: h) = if e.closes id then e :: closeTrail id h else closeTrail id h :=
  List.filter_cons

theorem mem_closeTrail {id : TaskId} {e : Event L} {h : List (Event L)} :
    e ∈ closeTrail id h ↔ e ∈ h ∧ e.closes id = true := List.mem_filter

/-- Every close that came before the issue of the pass deleted its diagnostics. -/
def Behind (p : Pass) (h : List (Event L)) : Prop :=
  ∀ c uri, Before h (.forgotten c uri) (.issued p) → .deleted c uri ∈ h

end History

/-- What a task left of its close, the last event first. -/
inductive CloseTrail (id : TaskId) : Task → List (Event L) → Prop where
  | other {t : Task} (different : t.isClose = false) : CloseTrail id t []
  | closing (uri : Url) : CloseTrail id (.closing uri) [.forgotten id uri]
  | deleting (uri : Url) : CloseTrail id (.deleting uri) [.forgotten id uri]
  | deleted (uri : Url) : CloseTrail id (.deleted uri) [.deleted id uri, .forgotten id uri]
  | finished (uri : Url) :
      CloseTrail id .finished [.finished id .closed, .deleted id uri, .forgotten id uri]

namespace CloseTrail

variable {id : TaskId} {t u : Task} {es : List (Event L)}

theorem empty (c : CloseTrail id t es) (elsewhere : t.isElsewhere = true) : es = [] := by
  cases c with
  | other => rfl
  | _ => simp [Task.isElsewhere, Task.isClose] at elsewhere

theorem stay (c : CloseTrail id t es) (elsewhere : t.isElsewhere = true)
    (after : u.isClose = false) : CloseTrail id u es := by
  rw [c.empty elsewhere]
  exact .other after

theorem of_shutting {uri : Url} (c : CloseTrail id t es) (shuts : t.shutting? = some uri) :
    es = [.forgotten id uri] := by
  cases c with
  | other different => cases t <;> simp [Task.isClose, Task.shutting?] at different shuts
  | closing => simpa [Task.shutting?] using shuts
  | deleting => simpa [Task.shutting?] using shuts
  | _ => simp [Task.shutting?] at shuts

theorem of_deleted {uri : Url} (c : CloseTrail id (.deleted uri) es) :
    es = [.deleted id uri, .forgotten id uri] := by
  cases c with
  | other different => simp [Task.isClose] at different
  | deleted => rfl

/-- A close that did not delete yet is still at it. -/
theorem deleted_or_shutting (c : CloseTrail id t es) {uri : Url} (began : .forgotten id uri ∈ es) :
    .deleted id uri ∈ es ∨ t.shutting? = some uri := by
  cases c with
  | other => simp at began
  | closing => exact .inr (by simpa [Task.shutting?, eq_comm] using began)
  | deleting => exact .inr (by simpa [Task.shutting?, eq_comm] using began)
  | deleted => exact .inl (by simpa using began)
  | finished => exact .inl (by simpa using began)

/-- A close forgets, deletes and finishes, each once and in this order. -/
theorem order (c : CloseTrail id t es) : es.Pairwise fun later earlier => later ≠ earlier := by
  cases c <;> simp

theorem deleted_after (c : CloseTrail id t es) {uri : Url} (deleted : .deleted id uri ∈ es) :
    Before es (.forgotten id uri) (.deleted id uri) := by
  cases c with
  | deleted v => simp_all
  | finished v => simp_all
  | _ => simp at deleted

end CloseTrail

theorem Asks.elsewhere {t : Task} {uri : Url} {k : Lookup → Task} (asks : Asks t uri k) :
    t.isElsewhere = true ∧ ∀ l, (k l).isElsewhere = true ∧ (k l).isClose = false := by
  cases asks <;> exact ⟨rfl, fun _ => ⟨rfl, rfl⟩⟩

theorem TaskMove.close_trail {id : TaskId} {x y : Adapter L × Task} (m : TaskMove id x y)
    (c : CloseTrail id x.2 (closeTrail id x.1.history)) :
    CloseTrail id y.2 (closeTrail id y.1.history) := by
  cases m with
  | find _ asks => exact c.stay asks.elsewhere.1 (asks.elsewhere.2 _).2
  | read _ asks => exact c.stay asks.elsewhere.1 (asks.elsewhere.2 _).2
  | announce _ asks => exact c.stay (asks.elsewhere.2 _).1 (asks.elsewhere.2 _).2
  | keep _ asks => exact c.stay (asks.elsewhere.2 _).1 (asks.elsewhere.2 _).2
  | close a uri =>
    have none : closeTrail id a.history = [] := c.empty rfl
    simpa [closeTrail_cons, Event.closes, none] using CloseTrail.closing uri
  | enter a uri => exact c.of_shutting rfl ▸ .deleting uri
  | delete a uri =>
    have own : closeTrail id a.history = [.forgotten id uri] := c.of_shutting rfl
    simpa [closeTrail_cons, Event.closes, own] using CloseTrail.deleted uri
  | depart a uri =>
    have own : closeTrail id a.history = [.deleted id uri, .forgotten id uri] := c.of_deleted
    simpa [closeTrail_cons, Event.closes, own] using CloseTrail.finished uri
  | _ => exact c.stay rfl rfl

theorem TaskMove.close_trail_eq {id : TaskId} {x y : Adapter L × Task} (m : TaskMove id x y)
    {j : TaskId} (other : j ≠ id) : closeTrail j y.1.history = closeTrail j x.1.history := by
  cases m with
  | close => simp [closeTrail_cons, Event.closes, Ne.symm other]
  | delete => simp [closeTrail_cons, Event.closes, Ne.symm other]
  | depart => simp [closeTrail_cons, Event.closes, Ne.symm other]
  | _ => rfl

/-- A task that has a document to delete had it before, or comes to close it now. -/
theorem TaskMove.shutting {id : TaskId} {x y : Adapter L × Task} (m : TaskMove id x y) {uri : Url}
    (shuts : y.2.shutting? = some uri) : x.2.shutting? = some uri ∨ x.2 = .ready (.close uri) := by
  cases m with
  | find _ asks => cases asks <;> simp [Task.shutting?] at shuts
  | read _ asks => cases asks <;> simp [Task.shutting?] at shuts
  | announce _ asks => cases asks <;> simp [Task.shutting?] at shuts
  | keep _ asks => cases asks <;> simp [Task.shutting?] at shuts
  | close => exact .inr (by simpa [Task.shutting?] using shuts)
  | enter => exact .inl (by simpa [Task.shutting?] using shuts)
  | _ => simp [Task.shutting?] at shuts

theorem TaskMove.first {id : TaskId} {x y : Adapter L × Task} (m : TaskMove id x y) {p : Pass}
    (comes : y.2.standing ≠ .outside) (first : y.2.passes.head? = some p) :
    x.2.passes.head? = some p := by
  cases m with
  | find _ asks => exact absurd (asks.standing.2 _) comes
  | read _ asks => exact absurd (asks.standing.2 _) comes
  | announce _ asks => exact absurd (asks.standing.2 _) comes
  | keep _ asks => exact absurd (asks.standing.2 _) comes
  | exclude => exact first
  | arrive => exact first
  | grant => exact first
  | publish => exact first
  | close => simp [Task.passes] at first
  | enter => simp [Task.passes] at first
  | delete => simp [Task.passes] at first
  | _ => exact absurd rfl comes

theorem TaskMove.before_issued {id : TaskId} {x y : Adapter L × Task} (m : TaskMove id x y)
    {e : Event L} {p : Pass} (before : Before y.1.history e (.issued p)) :
    Before x.1.history e (.issued p) := by
  cases m <;> simpa using before

theorem standing_of_shutting {t : Task} {uri : Url} (shuts : t.shutting? = some uri) :
    t.standing ≠ .outside := by
  cases t <;> simp [Task.shutting?, Task.standing] at shuts ⊢

namespace TaskPool

/-- Each task left the trail of its close, and with a pass that was issued after a close, it stands
behind that close at the lock. -/
structure Barred (s : TaskPool L) : Prop where
  trails : ∀ {id : TaskId} {t : Task}, s.tasks[id]? = some t →
    CloseTrail id t (closeTrail id s.adapter.history)
  unborn : ∀ {id : TaskId}, s.tasks.length ≤ id → closeTrail id s.adapter.history = []
  behind : ∀ {c i : TaskId} {t u : Task} {uri p}, s.tasks[c]? = some t → t.shutting? = some uri →
    s.tasks[i]? = some u → u.standing ≠ .outside → u.passes.head? = some p →
    Before s.adapter.history (.forgotten c uri) (.issued p) → [c, i].Sublist s.adapter.queue
  sets : Justified (OnSet fun _ => Behind) s.adapter.history

namespace Barred

variable {s : TaskPool L} {id : TaskId} {t u : Task} {a : Adapter L}

theorem issue (h : Barred s) (tracked : Tracked s) (d : Document) :
    Barred { s with adapter := s.adapter.issue d } := by
  refine ⟨h.trails, h.unborn, ?_, trivial, h.sets⟩
  intro c i t u uri p at_c shuts at_i comes first before
  rcases (before_cons _ _ _ _).mp before with old | ⟨eq, _⟩
  · exact h.behind at_c shuts at_i comes first old
  · have known := tracked.issued at_i (List.mem_of_head? first)
    rw [Event.issued.inj eq] at known
    exact absurd known (tracked.next_fresh d)

theorem retask (h : Barred s) {ts : List Task} (length : s.tasks.length ≤ ts.length)
    (trails : ∀ {id : TaskId} {t : Task}, ts[id]? = some t →
      CloseTrail id t (closeTrail id s.adapter.history))
    (now : ∀ {id : TaskId} {t : Task}, ts[id]? = some t → t.standing ≠ .outside →
      s.tasks[id]? = some t) :
    Barred ⟨s.adapter, ts⟩ := by
  refine ⟨trails, fun far => h.unborn (Nat.le_trans length far), ?_, h.sets⟩
  intro c i t u uri p at_c shuts at_i comes first before
  exact h.behind (now at_c (standing_of_shutting shuts)) shuts (now at_i comes) comes first before

/-- Who comes to the lock now stands behind every close that is there. -/
theorem behind_move (h : Barred s) (locked : Locked s) (here : s.tasks[id]? = some t)
    (m : TaskMove id (s.adapter, t) (a, u)) {c i : TaskId} {v w : Task} {uri : Url} {p : Pass}
    (at_c : (s.tasks.set id u)[c]? = some v) (shuts : v.shutting? = some uri)
    (at_i : (s.tasks.set id u)[i]? = some w) (comes : w.standing ≠ .outside)
    (first : w.passes.head? = some p)
    (before : Before s.adapter.history (.forgotten c uri) (.issued p)) :
    [c, i].Sublist a.queue := by
  obtain ⟨v', old_c, shuts'⟩ : ∃ v', s.tasks[c]? = some v' ∧ v'.shutting? = some uri := by
    rcases task_cases at_c with ⟨rfl, rfl⟩ | ⟨_, old⟩
    · rcases m.shutting shuts with old | ready
      · exact ⟨t, here, old⟩
      · have none := (h.trails here).empty (by rw [show t = _ from ready]; rfl)
        have own : .forgotten c uri ∈ closeTrail c s.adapter.history :=
          mem_closeTrail.mpr ⟨before.mem.1, by simp [Event.closes]⟩
        simp [none] at own
    · exact ⟨v, old, shuts⟩
  have there : c ∈ s.adapter.queue :=
    (locked.mem_iff c).mpr (stands_eq old_c ▸ standing_of_shutting shuts')
  have lock : LockMove id (s.adapter.queue, s.stands id) (a.queue, u.standing) := by
    simpa [stands_eq here] using m.lock
  refine lock.order locked there ?_ ?_ ?_ ?_
  · rintro rfl
    obtain ⟨_, rfl⟩ | ⟨ne, _⟩ := task_cases at_c
    · exact standing_of_shutting shuts
    · exact absurd rfl ne
  · rintro rfl
    obtain ⟨_, rfl⟩ | ⟨ne, _⟩ := task_cases at_i
    · exact comes
    · exact absurd rfl ne
  · intro stood
    rcases task_cases at_i with ⟨rfl, rfl⟩ | ⟨_, old⟩
    · exact h.behind old_c shuts' here (stands_eq here ▸ stood) (m.first comes first) before
    · exact h.behind old_c shuts' old comes first before
  · intro other
    obtain ⟨same, _⟩ | ⟨_, old⟩ := task_cases at_i
    · exact absurd same other
    · exact stands_eq old ▸ comes

theorem published (h : Barred s) (locked : Locked s) {p : Pass} (here : s.tasks[id]? = some t)
    (inside : t.standing = .inside) (first : t.passes.head? = some p) {c : TaskId} {uri : Url}
    (before : Before s.adapter.history (.forgotten c uri) (.issued p)) :
    .deleted c uri ∈ s.adapter.history := by
  have began : .forgotten c uri ∈ closeTrail c s.adapter.history :=
    mem_closeTrail.mpr ⟨before.mem.1, by simp [Event.closes]⟩
  cases at_c : s.tasks[c]? with
  | none =>
    have none := h.unborn (List.getElem?_eq_none_iff.mp at_c)
    simp [none] at began
  | some v =>
    rcases (h.trails at_c).deleted_or_shutting began with deleted | shuts
    · exact (mem_closeTrail.mp deleted).1
    · have order := h.behind at_c shuts here (by simp [inside]) first before
      have head := locked.first id ((stands_eq here).trans inside)
      obtain ⟨later, queue⟩ := List.head?_eq_some_iff.mp head
      have nodup := locked.nodup
      rw [queue] at order nodup
      have absent := (List.nodup_cons.mp nodup).1
      rcases List.cons_sublist_cons'.mp order with later | ⟨_, later⟩
      · exact absurd (later.subset (by simp)) absent
      · exact absurd (later.subset (by simp)) absent

theorem task (h : Barred s) (locked : Locked s) (here : s.tasks[id]? = some t)
    (m : TaskMove id (s.adapter, t) (a, u)) : Barred ⟨a, s.tasks.set id u⟩ := by
  constructor
  · intro j v at_j
    rcases task_cases at_j with ⟨rfl, rfl⟩ | ⟨ne, old⟩
    · exact m.close_trail (h.trails here)
    · exact m.close_trail_eq ne ▸ h.trails old
  · intro j far
    have ne : j ≠ id := by
      rintro rfl
      have := (List.getElem?_eq_some_iff.mp here).1
      simp only [List.length_set] at far
      omega
    exact (m.close_trail_eq ne).trans (h.unborn (by simpa using far))
  · intro c i v w uri p at_c shuts at_i comes first before
    exact h.behind_move locked here m at_c shuts at_i comes first (m.before_issued before)
  · refine m.on_set h.sets fun p pub c uri before => ?_
    obtain ⟨inside, first⟩ := publishes_inside pub
    exact h.published locked here inside first before

end Barred

theorem barred_move {s t : TaskPool L} (h : Barred s) (locked : Locked s) (tracked : Tracked s)
    (m : Move s t) : Barred t := by
  cases m with
  | issue d => exact h.issue tracked d
  | invalidate =>
    exact ⟨h.trails, h.unborn, fun at_c shuts at_i comes first before =>
      h.behind at_c shuts at_i comes first (by simpa using before), trivial, h.sets⟩
  | setLinter =>
    exact ⟨h.trails, h.unborn, fun at_c shuts at_i comes first before =>
      h.behind at_c shuts at_i comes first (by simpa using before), trivial, h.sets⟩
  | spawn job =>
    refine h.retask (by simp) ?_ ?_
    · intro id t here
      rcases spawn_cases here with ⟨rfl, rfl⟩ | ⟨_, old⟩
      · exact (h.unborn Nat.le.refl).symm ▸ .other rfl
      · exact h.trails old
    · intro id t here comes
      rcases spawn_cases here with ⟨_, rfl⟩ | ⟨_, old⟩
      · exact absurd rfl comes
      · exact old
  | claim passes here =>
    refine h.retask (by simp) ?_ ?_
    · intro j u at_j
      rcases task_cases at_j with ⟨rfl, rfl⟩ | ⟨_, old⟩
      · exact (h.trails here).stay rfl rfl
      · exact h.trails old
    · intro j u at_j comes
      rcases task_cases at_j with ⟨_, rfl⟩ | ⟨_, old⟩
      · exact absurd rfl comes
      · exact old
  | task here m => exact h.task locked here m

theorem Arises.barred {linter : L} {s : TaskPool L} (h : Arises linter s) : Barred s := by
  induction h with
  | start =>
    exact ⟨fun here => by simp [initial] at here, fun _ => rfl,
      fun here => by simp [initial] at here, trivial⟩
  | move h m ih => exact barred_move ih h.locked h.tracked m

theorem Barred.trail {s : TaskPool L} (h : Barred s) (c : TaskId) :
    ∃ t, CloseTrail c t (closeTrail c s.adapter.history) := by
  cases at_c : s.tasks[c]? with
  | none => exact ⟨.finished, h.unborn (List.getElem?_eq_none_iff.mp at_c) ▸ .other rfl⟩
  | some t => exact ⟨t, h.trails at_c⟩

theorem Barred.once {s : TaskPool L} (h : Barred s) {c : TaskId} {e : Event L}
    (own : e.closes c = true) : ¬ Before s.adapter.history e e := by
  intro twice
  obtain ⟨t, trail⟩ := h.trail c
  have both : [e, e].Sublist (closeTrail c s.adapter.history) := by
    simpa [closeTrail, own] using List.Sublist.filter (Event.closes c) twice
  exact List.pairwise_iff_forall_sublist.mp trail.order both rfl

theorem Barred.forgotten_once {s : TaskPool L} (h : Barred s) (c : TaskId) (uri : Url) :
    ¬ Before s.adapter.history (.forgotten c uri) (.forgotten c uri) :=
  h.once (c := c) (by simp [Event.closes])

theorem Barred.deleted_once {s : TaskPool L} (h : Barred s) (c : TaskId) (uri : Url) :
    ¬ Before s.adapter.history (.deleted c uri) (.deleted c uri) :=
  h.once (c := c) (by simp [Event.closes])

theorem Barred.forgets_first {s : TaskPool L} (h : Barred s) {c : TaskId} {uri : Url}
    (deleted : .deleted c uri ∈ s.adapter.history) :
    Precedes s.adapter.history (.forgotten c uri) (.deleted c uri) := by
  obtain ⟨t, trail⟩ := h.trail c
  have own := trail.deleted_after (mem_closeTrail.mpr ⟨deleted, by simp [Event.closes]⟩)
  have before : Before s.adapter.history _ _ := own.trans List.filter_sublist
  exact before.precedes (h.forgotten_once c uri) (h.deleted_once c uri)

section Barrier

variable {linter : L} {s : TaskPool L} {c : TaskId} {uri : Url} {id : TaskId} {p : Pass}
  {ds : List Diagnostic}

theorem Barred.deletes (h : Barred s) (began : .forgotten c uri ∈ s.adapter.history)
    (closed : .finished c .closed ∈ s.adapter.history) : .deleted c uri ∈ s.adapter.history := by
  obtain ⟨t, trail⟩ := h.trail c
  have first : .forgotten c uri ∈ closeTrail c s.adapter.history :=
    mem_closeTrail.mpr ⟨began, by simp [Event.closes]⟩
  have last : .finished c .closed ∈ closeTrail c s.adapter.history :=
    mem_closeTrail.mpr ⟨closed, by simp [Event.closes]⟩
  suffices own : .deleted c uri ∈ closeTrail c s.adapter.history from (mem_closeTrail.mp own).1
  generalize closeTrail c s.adapter.history = es at trail first last ⊢
  cases trail with
  | finished v => simpa using first
  | _ => simp at last

theorem Arises.old_before (h : Arises linter s) (same : p.url = uri.text)
    (old : Before s.adapter.history (.issued p) (.forgotten c uri)) :
    ¬ Before s.adapter.history (.deleted c uri) (.set id p.update ds) := by
  intro late
  have first := h.barred.forgets_first late.mem.1
  have order : Precedes s.adapter.history (.issued p) (.forgotten c uri) :=
    old.precedes (h.tracked.issued_once p) (h.barred.forgotten_once c uri)
  obtain ⟨newer, older, history, deleted⟩ := late.split
  obtain ⟨between, before, rfl, quiet, turn⟩ := h.cleared history
  have deleted_before : .deleted c uri ∈ before := mem_before_check deleted rfl quiet (by simp)
  have cut : s.adapter.history =
      (newer ++ .set id p.update ds :: (between ++ [.checked id p true true])) ++ before := by
    simpa using history
  rw [cut] at first order
  have forgotten := (first.older deleted_before (by simp)).mem.1
  exact order.2 (before_append_left (closed_before_turn turn forgotten same.symm))

theorem Arises.new_after (h : Arises linter s)
    (published : .set id p.update ds ∈ s.adapter.history)
    (new : Before s.adapter.history (.forgotten c uri) (.issued p)) :
    Before s.adapter.history (.deleted c uri) (.set id p.update ds) := by
  have order : Precedes s.adapter.history (.forgotten c uri) (.issued p) :=
    new.precedes (h.barred.forgotten_once c uri) (h.tracked.issued_once p)
  obtain ⟨newer, older, history⟩ := List.append_of_mem published
  obtain ⟨between, before, rfl, _, turn⟩ := h.cleared history
  have issued : .issued p ∈ before := List.mem_of_find?_eq_some turn
  have fits := h.barred.sets
  rw [history] at fits order ⊢
  have began : Before _ _ _ := (show Precedes ((newer ++ [_]) ++ _) _ _ by simpa using order).older
    (by simp [issued]) (by simp)
  -- `Behind` at the update: whoever took `p` to the lock stood behind the close.
  have deleted := fits.at c uri began
  exact before_at deleted

/-- Behind the deletion, the diagnostics of the document are those of a new pass. -/
theorem Arises.content_new (h : Arises linter s) (deleted : .deleted c uri ∈ s.adapter.history)
    (kept : s.adapter.diagnostics? uri = some ds) :
    ∃ id p, p.url = uri.text ∧ .set id p.update ds ∈ s.adapter.history ∧
      Before s.adapter.history (.forgotten c uri) (.issued p) := by
  have sink : content (lastUpdate uri.text s.adapter.history) = some ds :=
    (h.mirrored.sink uri.text).symm.trans kept
  cases last : lastUpdate uri.text s.adapter.history with
  | none => simp [last, content] at sink
  | some e =>
    cases e with
    | set id u es =>
      have published := List.mem_of_find?_eq_some last
      obtain ⟨p, rfl⟩ := h.handed_update published
      have about := List.find?_some last
      have same : p.url = uri.text := of_decide_eq_true about
      obtain rfl : es = ds := by simpa [last, content] using sink
      refine ⟨id, p, same, published, ?_⟩
      have issued : .issued p ∈ s.adapter.history := h.issued_of_set published
      rcases before_total (h.barred.forgets_first deleted).1.mem.1 issued (by simp) with new | old
      · exact new
      · rcases before_find last deleted (by simp [Event.updates]) with eq | late
        · simp at eq
        · exact absurd late (h.old_before same old)
    | _ => simp [last, content] at sink

end Barrier

/-- A close separates the passes of its document: it deletes the diagnostics, after all that passes
issued before it publish, and before all that passes issued after it publish. What is kept once it
deleted is of a pass issued after it. -/
theorem close_barrier {linter : L} {s : TaskPool L} (h : Reachable (.initial linter) s)
    {close : TaskId} {uri : Url} (began : .forgotten close uri ∈ s.adapter.history) :
    (.finished close .closed ∈ s.adapter.history → .deleted close uri ∈ s.adapter.history) ∧
    (.deleted close uri ∈ s.adapter.history → ∀ {id ds} {u : SinkUpdate},
      u.uri.text = uri.text → .set id u ds ∈ s.adapter.history →
      Before s.adapter.history (.issued u.toPass) (.forgotten close uri) →
      Precedes s.adapter.history (.set id u ds) (.deleted close uri)) ∧
    (∀ {id ds} {u : SinkUpdate}, .set id u ds ∈ s.adapter.history →
      Before s.adapter.history (.forgotten close uri) (.issued u.toPass) →
      Precedes s.adapter.history (.deleted close uri) (.set id u ds)) ∧
    (.deleted close uri ∈ s.adapter.history → ∀ ds, s.adapter.diagnostics? uri = some ds →
      ∃ id p, p.url = uri.text ∧ .set id p.update ds ∈ s.adapter.history ∧
        Before s.adapter.history (.forgotten close uri) (.issued p)) := by
  have arises := reachable_arises h
  refine ⟨arises.barred.deletes began, ?_, ?_, fun deleted ds => arises.content_new deleted⟩
  · intro deleted id ds u same published old
    obtain ⟨p, rfl⟩ := arises.handed_update published
    have never : ¬ Before s.adapter.history (.deleted close uri) (.set id p.update ds) :=
      arises.old_before same old
    exact ⟨(before_total published deleted (by simp)).resolve_right never, never⟩
  · intro id ds u published new
    obtain ⟨p, rfl⟩ := arises.handed_update published
    exact (arises.new_after published new).precedes (arises.barred.deleted_once close uri)
      arises.tracked.set_once

def reopenSteps : List (Step Unit) :=
  (lintSteps 0 (.ok [])).dropLast ++ [.spawn (.close emptyPage.uri), .resume 1 .done] ++
    (lintSteps 2 (.ok [])).dropLast ++
    [.resume 0 .done, .resume 1 .done, .resume 1 .done, .resume 2 .done, .resume 2 .done]

theorem reopened_page_separated :
    ∃ s : TaskPool Unit, Reachable (.initial ()) s ∧
      .finished 1 .closed ∈ s.adapter.history ∧ .deleted 1 emptyPage.uri ∈ s.adapter.history ∧
      Precedes s.adapter.history (.set 0 ⟨⟨emptyPage, 1⟩, emptyPage.uri, none⟩ [])
        (.deleted 1 emptyPage.uri) ∧
      Precedes s.adapter.history (.deleted 1 emptyPage.uri)
        (.set 2 ⟨⟨emptyPage, 2⟩, emptyPage.uri, none⟩ []) := by
  have reachable : Reachable (initial ()) ((initial ()).play reopenSteps) :=
    reachable_play .refl reopenSteps rfl
  generalize eq : (initial ()).play reopenSteps = s at reachable
  have began : .forgotten 1 emptyPage.uri ∈ s.adapter.history :=
    List.mem_of_getElem? (i := 18) (eq ▸ rfl)
  have closed : .finished 1 .closed ∈ s.adapter.history :=
    List.mem_of_getElem? (i := 4) (eq ▸ rfl)
  have old : Before s.adapter.history (.issued ⟨emptyPage, 1⟩) (.forgotten 1 emptyPage.uri) :=
    before_of_getElem? (i := 18) (j := 28) (by decide) (eq ▸ rfl) (eq ▸ rfl)
  have new : Before s.adapter.history (.forgotten 1 emptyPage.uri) (.issued ⟨emptyPage, 2⟩) :=
    before_of_getElem? (i := 17) (j := 18) (by decide) (eq ▸ rfl) (eq ▸ rfl)
  obtain ⟨deletes, older, newer, _⟩ := close_barrier reachable began
  exact ⟨s, reachable, closed, deletes closed,
    older (deletes closed) rfl (List.mem_of_getElem? (i := 8) (eq ▸ rfl)) old,
    newer (List.mem_of_getElem? (i := 2) (eq ▸ rfl)) new⟩

end TaskPool

end MarkupLint
