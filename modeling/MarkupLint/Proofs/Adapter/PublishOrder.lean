import MarkupLint.Proofs.Adapter.Steps
import MarkupLint.Proofs.Adapter.Turns

/-! Every update of the diagnostics follows a check of its pass under the same hold of the publish
lock. So updates of a document come in the order in which their passes were issued. -/
namespace MarkupLint

open History

variable {L : Type}

namespace History

/-- The pass was found current by the holder of the lock, and the lock saw nothing else since. -/
def Cleared (id : TaskId) (p : Pass) (h : List (Event L)) : Prop :=
  ∃ between before, h = between ++ .checked id p true true :: before ∧
    ∀ e ∈ between, e.guarded = false

def OnSet (ok : TaskId → Pass → List (Event L) → Prop) : Event L → List (Event L) → Prop
  | .set id update _, older => ok id update.toPass older
  | _, _ => True

theorem OnSet.unguarded {ok : TaskId → Pass → List (Event L) → Prop} {e : Event L}
    (unguarded : e.guarded = false) (older : List (Event L)) : OnSet ok e older := by
  cases e with
  | set => simp [Event.guarded] at unguarded
  | _ => trivial

/-- What the lock guards and saw before an update, it saw before the check of that update. -/
theorem mem_before_check {id : TaskId} {p : Pass} {between before : List (Event L)} {e : Event L}
    (he : e ∈ between ++ .checked id p true true :: before) (guarded : e.guarded = true)
    (quiet : ∀ e ∈ between, e.guarded = false) (ne : e ≠ .checked id p true true) :
    e ∈ before := by
  rcases List.mem_append.mp he with new | old
  · exact absurd guarded (by simp [quiet e new])
  · exact (List.mem_cons.mp old).resolve_left ne

theorem Cleared.later {id : TaskId} {p : Pass} {h : List (Event L)} (c : Cleared id p h)
    {es : List (Event L)} (unguarded : ∀ e ∈ es, e.guarded = false) : Cleared id p (es ++ h) := by
  obtain ⟨between, before, rfl, quiet⟩ := c
  refine ⟨es ++ between, before, by simp, fun e he => ?_⟩
  rcases List.mem_append.mp he with he | he
  · exact unguarded e he
  · exact quiet e he

end History

def Task.publishes (p : Pass) : Task → Prop
  | .passing q (.publishing _) _ _ => q = p
  | _ => False

theorem TaskMove.guarded {id : TaskId} {x y : Adapter L × Task} (m : TaskMove id x y)
    (outside : x.2.standing = .outside → x.1.holds id = false)
    (inside : x.2.standing = .inside → x.1.holds id = true) :
    x.1.holds id = true ∨
      ∃ es, y.1.history = es ++ x.1.history ∧ ∀ e ∈ es, e.guarded = false := by
  cases m with
  | grant _ _ _ _ _ holds => exact .inl holds
  | refuse _ _ _ _ _ holds => exact .inl holds
  | publish => exact .inl (inside rfl)
  | leave => exact .inl (inside rfl)
  | delete => exact .inl (inside rfl)
  | depart => exact .inl (inside rfl)
  | enter _ _ holds => exact .inl holds
  | exclude => exact .inr ⟨[], rfl, by simp⟩
  | arrive => exact .inr ⟨[], rfl, by simp⟩
  | find => exact .inr ⟨[_, _], rfl, by simp [Event.guarded]⟩
  | read => exact .inr ⟨[_, _], rfl, by simp [Event.guarded]⟩
  | announce => exact .inr ⟨[_, _], rfl, by simp [Event.guarded]⟩
  | fail => exact .inr ⟨[_, _], rfl, by simp [Event.guarded]⟩
  | accept => exact .inr ⟨[_, _], rfl, by simp [Event.guarded, outside rfl]⟩
  | drop => exact .inr ⟨[_, _, _], rfl, by simp [Event.guarded, outside rfl]⟩
  | _ => exact .inr ⟨[_], rfl, by simp [Event.guarded]⟩

theorem TaskMove.publishes {id : TaskId} {x y : Adapter L × Task} (m : TaskMove id x y) {p : Pass}
    (pub : y.2.publishes p) : Cleared id p y.1.history := by
  cases m with
  | grant =>
    cases pub
    exact ⟨[], _, rfl, by simp⟩
  | find _ asks => cases asks <;> exact pub.elim
  | read _ asks => cases asks <;> exact pub.elim
  | announce _ asks => cases asks <;> exact pub.elim
  | keep _ asks => cases asks <;> exact pub.elim
  | _ => exact pub.elim

theorem publishes_inside {t : Task} {p : Pass} (pub : t.publishes p) :
    t.standing = .inside ∧ t.passes.head? = some p := by
  cases t with
  | passing q stage rest os =>
    cases stage with
    | publishing u => exact ⟨rfl, congrArg some pub⟩
    | _ => exact pub.elim
  | _ => exact pub.elim

theorem TaskMove.on_set {id : TaskId} {x y : Adapter L × Task} (m : TaskMove id x y)
    {ok : TaskId → Pass → List (Event L) → Prop} (h : Justified (OnSet ok) x.1.history)
    (publishes : ∀ p, x.2.publishes p → ok id p x.1.history) :
    Justified (OnSet ok) y.1.history := by
  cases m with
  | publish a p => exact ⟨publishes p rfl, h⟩
  | enter => exact h
  | exclude => exact h
  | arrive => exact h
  | find => exact ⟨trivial, trivial, h⟩
  | read => exact ⟨trivial, trivial, h⟩
  | announce => exact ⟨trivial, trivial, h⟩
  | fail => exact ⟨trivial, trivial, h⟩
  | accept => exact ⟨trivial, trivial, h⟩
  | drop => exact ⟨trivial, trivial, trivial, h⟩
  | refuse => exact ⟨trivial, trivial, h⟩
  | _ => exact ⟨trivial, h⟩

namespace TaskPool

/-- Who is about to publish holds a check that nothing came after, and whatever was published had
one. -/
structure Secured (s : TaskPool L) : Prop where
  armed : ∀ {id : TaskId} {t : Task} {p}, s.tasks[id]? = some t → t.publishes p →
    Cleared id p s.adapter.history
  sets : Justified (OnSet Cleared) s.adapter.history

theorem Secured.frame {s : TaskPool L} (h : Secured s) {a : Adapter L} {ts : List Task}
    (es : List (Event L)) (history : a.history = es ++ s.adapter.history)
    (unguarded : ∀ e ∈ es, e.guarded = false)
    (now : ∀ {id : TaskId} {t : Task} {p}, ts[id]? = some t → t.publishes p →
      s.tasks[id]? = some t) : Secured ⟨a, ts⟩ := by
  constructor
  · intro id t p here pub
    rw [history]
    exact (h.armed (now here pub) pub).later unguarded
  · rw [history]
    exact h.sets.append fun e he => .unguarded (unguarded e he)

theorem Secured.task {s : TaskPool L} (h : Secured s) (locked : Locked s) {id : TaskId}
    {t u : Task} {a : Adapter L} (here : s.tasks[id]? = some t)
    (m : TaskMove id (s.adapter, t) (a, u)) : Secured ⟨a, s.tasks.set id u⟩ := by
  constructor
  · intro j v p at_j pub
    rcases task_cases at_j with ⟨rfl, rfl⟩ | ⟨ne, old⟩
    · exact m.publishes pub
    · rcases m.guarded (locked.outside here) (locked.inside here) with holds | ⟨es, eq, quiet⟩
      · exact absurd (locked.only old (publishes_inside pub).1 holds) ne
      · rw [show a.history = es ++ s.adapter.history from eq]
        exact (h.armed old pub).later quiet
  · exact m.on_set h.sets fun p pub => h.armed here pub

theorem secured_move {s t : TaskPool L} (h : Secured s) (locked : Locked s) (m : Move s t) :
    Secured t := by
  cases m with
  | issue d => exact h.frame [_] rfl (by simp [Event.guarded]) fun here _ => here
  | invalidate => exact h.frame [_] rfl (by simp [Event.guarded]) fun here _ => here
  | setLinter => exact h.frame [_] rfl (by simp [Event.guarded]) fun here _ => here
  | spawn job =>
    refine h.frame [] rfl (by simp) fun {id t p} here pub => ?_
    rcases spawn_cases here with ⟨_, rfl⟩ | ⟨_, old⟩
    · exact pub.elim
    · exact old
  | claim passes =>
    refine h.frame [] rfl (by simp) fun {j u p} at_j pub => ?_
    rcases task_cases at_j with ⟨_, rfl⟩ | ⟨_, old⟩
    · exact pub.elim
    · exact old
  | task here m => exact h.task locked here m

theorem Arises.secured {linter : L} {s : TaskPool L} (h : Arises linter s) : Secured s := by
  induction h with
  | start => exact ⟨fun here => by simp [initial] at here, trivial⟩
  | move h m ih => exact secured_move ih h.locked m

/-- What was published was checked under the same hold of the lock, and was in turn then. -/
theorem Arises.cleared {linter : L} {s : TaskPool L} (h : Arises linter s)
    {newer older : List (Event L)} {id : TaskId} {p : Pass} {ds : List Diagnostic}
    (history : s.adapter.history = newer ++ .set id p.update ds :: older) :
    ∃ between before, older = between ++ .checked id p true true :: before ∧
      (∀ e ∈ between, e.guarded = false) ∧ lastTurn p.url before = some (.issued p) := by
  have sets := h.secured.sets
  rw [history] at sets
  obtain ⟨between, before, rfl, quiet⟩ := sets.at
  have earlier : s.adapter.history =
      (newer ++ .set id p.update ds :: between) ++ .checked id p true true :: before := by
    simpa using history
  exact ⟨between, before, rfl, quiet, (h.check_fits earlier).mp rfl⟩

theorem Arises.issued_of_set {linter : L} {s : TaskPool L} (h : Arises linter s) {id : TaskId}
    {p : Pass} {ds : List Diagnostic} (published : .set id p.update ds ∈ s.adapter.history) :
    .issued p ∈ s.adapter.history := by
  obtain ⟨newer, older, history⟩ := List.append_of_mem published
  obtain ⟨between, before, rfl, _, turn⟩ := h.cleared history
  have issued : .issued p ∈ before := List.mem_of_find?_eq_some turn
  simp [history, issued]

/-- What a pass publishes was found by its linter, or it is nothing. -/
theorem Arises.set_brings {linter : L} {s : TaskPool L} (h : Arises linter s)
    {newer older : List (Event L)} {id : TaskId} {p : Pass} {ds : List Diagnostic}
    (history : s.adapter.history = newer ++ .set id p.update ds :: older) :
    ds = [] ∨ ∃ fs, ds = p.diagnostics fs ∧ .replied id p (.ok fs) ∈ older := by
  have own : trail p s.adapter.history = trail p newer ++ .set id p.update ds :: trail p older := by
    simp [history, trail, Event.concerns]
  have brings : ds = [] ∨ ∃ fs, ds = p.diagnostics fs ∧ .replied id p (.ok fs) ∈ trail p older := by
    rcases h.tracked.trail_cases p with none | ⟨_, _, t⟩ | ⟨_, t⟩
    · simp [none] at own
    · exact t.set_brings own
    · exact t.set_brings own
  rcases brings with none | ⟨fs, found, replied⟩
  · exact .inl none
  · exact .inr ⟨fs, found, (mem_trail.mp replied).1⟩

theorem Arises.set_order {linter : L} {s : TaskPool L} (h : Arises linter s) {i j : TaskId}
    {p q : Pass} {ds es : List Diagnostic} (same : p.url = q.url)
    (order : Before s.adapter.history (.set i p.update ds) (.set j q.update es)) :
    p.sequence < q.sequence := by
  obtain ⟨newer, older, history, hp⟩ := order.split
  obtain ⟨between, before, rfl, quiet, turn⟩ := h.cleared history
  -- Nothing was published between the check of `q` and its update, so `p` was published before that
  -- check. Then `p` was issued by then, and `q` was the last one issued.
  have set_before : .set i p.update ds ∈ before := mem_before_check hp rfl quiet (by simp)
  obtain ⟨newer', older', rfl⟩ := List.append_of_mem set_before
  have earlier : s.adapter.history =
      (newer ++ .set j q.update es :: (between ++ .checked j q true true :: newer')) ++
        .set i p.update ds :: older' := by simpa using history
  obtain ⟨between', before', rfl, _, turn'⟩ := h.cleared earlier
  have issued : .issued p ∈ before' := List.mem_of_find?_eq_some turn'
  rcases issued_before_turn turn (q := p) (by simp [issued]) same with rfl | issues
  · exact absurd order h.tracked.set_once
  · have later : s.adapter.history =
        (newer ++ .set j q.update es :: (between ++ [.checked j q true true])) ++
          (newer' ++ .set i p.update ds :: (between' ++ .checked i p true true :: before')) := by
      simpa using history
    refine h.tracked.issue_order ?_
    rw [later]
    exact before_append_left issues

/-- Updates of a document come from passes with ever greater numbers, and each pass was the last one
issued for its document, not forgotten, when it was checked under the hold of the lock that the
update came under. -/
theorem publish_order {linter : L} {s : TaskPool L} (h : Reachable (.initial linter) s) :
    (∀ {i j ds es} {u v : SinkUpdate}, u.uri.text = v.uri.text →
      Before s.adapter.history (.set i u ds) (.set j v es) → u.sequence < v.sequence) ∧
    ∀ {newer older id ds} {u : SinkUpdate}, s.adapter.history = newer ++ .set id u ds :: older →
      ∃ between before, older = between ++ .checked id u.toPass true true :: before ∧
        (∀ e ∈ between, e.guarded = false) ∧
        lastTurn u.uri.text before = some (.issued u.toPass) := by
  have arises := reachable_arises h
  constructor
  · intro i j ds es u v same order
    obtain ⟨p, rfl⟩ := arises.handed_update order.mem.1
    obtain ⟨q, rfl⟩ := arises.handed_update order.mem.2
    exact arises.set_order same order
  · intro newer older id ds u history
    obtain ⟨p, rfl⟩ := arises.handed_update (history ▸ List.mem_append_right _ List.mem_cons_self)
    exact arises.cleared history

theorem two_lints_publish_in_order :
    ∃ s : TaskPool Unit, Reachable (.initial ()) s ∧
      Before s.adapter.history (.set 0 ⟨⟨emptyPage, 1⟩, emptyPage.uri, none⟩ [])
        (.set 1 ⟨⟨emptyPage, 2⟩, emptyPage.uri, none⟩ []) ∧
      (Pass.mk emptyPage 1).sequence < (Pass.mk emptyPage 2).sequence := by
  have reachable : Reachable (initial ()) _ :=
    reachable_play .refl (lintSteps 0 (.ok []) ++ lintSteps 1 (.ok [])) rfl
  have order := before_of_getElem? (i := 2) (j := 12) (by decide)
    (h := ((initial ()).play (lintSteps 0 (.ok []) ++ lintSteps 1 (.ok []))).adapter.history)
    (x := .set 0 ⟨⟨emptyPage, 1⟩, emptyPage.uri, none⟩ [])
    (y := .set 1 ⟨⟨emptyPage, 2⟩, emptyPage.uri, none⟩ []) rfl rfl
  exact ⟨_, reachable, order, (publish_order reachable).1 (by rfl) order⟩

end TaskPool

end MarkupLint
