import MarkupLint.Proofs.Adapter.Orders
import MarkupLint.Server.Backend

/-! What a step can do to the server. Its handlers give the orders to the adapter, and tasks carry
them out; so the effects of a notification are few, and each is known from what it adds to the
history. -/
namespace MarkupLint.Server

open History
open TaskPool (Arises)

theorem State.reload_keeps (s : State) (w : Workspace) :
    (s.reload w).1 = { s with fileSettings := (s.reload w).1.fileSettings } := by
  unfold reload
  split
  · rfl
  · rfl
  · split <;> rfl

theorem State.reload_documents (s : State) (w : Workspace) :
    (s.reload w).1.documents = s.documents := by rw [reload_keeps]

theorem State.reload_pulls (s : State) (w : Workspace) :
    (s.reload w).1.pullsSettings = s.pullsSettings := by rw [reload_keeps]

theorem State.reload_root (s : State) (w : Workspace) : (s.reload w).1.root = s.root := by
  rw [reload_keeps]

namespace Backend

variable {b c d : Backend} {linter : LinterProgram}

abbrev history (b : Backend) : List (Event LinterProgram) := b.pool.adapter.history

def play (b : Backend) (es : List Step) : Backend := es.foldl apply b

@[simp] theorem play_nil (b : Backend) : b.play [] = b := rfl

@[simp] theorem play_cons (b : Backend) (e : Step) (es : List Step) :
    b.play (e :: es) = (b.apply e).play es := rfl

@[simp] theorem play_append (b : Backend) (es fs : List Step) :
    b.play (es ++ fs) = (b.play es).play fs := List.foldl_append

theorem play_induction {P : Backend → Prop} (first : P b) (next : ∀ b e, P b → P (b.apply e))
    (es : List Step) : P (b.play es) := by
  induction es generalizing b with
  | nil => exact first
  | cons e es ih => exact ih (next b e first)

def store (b : Backend) (d : Document) : Backend :=
  { b with state := b.state.setDocument d }.startRelevant d

/-- New settings are taken over, and everything is made anew from them. -/
def renew (b : Backend) (s : State) : Backend := { b with state := s }.refresh

inductive Effect (b : Backend) : Backend → Prop where
  | none : Effect b b
  | store (d : Document) : Effect b (b.store d)
  | close (uri : Url) : Effect b (b.close uri)
  | watch (ds : List Document) (known : ∀ d ∈ ds, ∃ uri, b.state.document? uri = some d) :
      Effect b (b.startVisible ds)
  | renew (s : State) (same : s.documents = b.state.documents)
      (pulls : s.pullsSettings = b.state.pullsSettings) (root : s.root = b.state.root) :
      Effect b (b.renew s)

theorem notify_effect (b : Backend) (w : Workspace) (n : Notification) :
    Effect b (b.notify w n) := by
  cases n with
  | opened d => exact .store d
  | changed uri version texts =>
    simp only [notify, change]
    split
    · exact .store _
    · exact .none
  | saved uri text =>
    simp only [notify, save]
    split
    · exact .store _
    · exact .none
  | closed uri => exact .close uri
  | visible uris =>
    refine .watch _ fun d hd => ?_
    obtain ⟨uri, _, known⟩ := List.mem_filterMap.mp hd
    exact ⟨uri, known⟩
  | settingsPushed v => exact .renew (b.state.push v) rfl rfl rfl
  | filesChanged uris =>
    simp only [notify, State.filesChanged]
    split
    · exact .renew _ (b.state.reload_documents w) (b.state.reload_pulls w) (b.state.reload_root w)
    · exact .none

structure Issues (b c : Backend) (ds : List Document) : Prop where
  state : c.state = b.state
  linter : c.pool.adapter.linter = b.pool.adapter.linter
  history : ∃ ps : List Pass, c.history = ps.map .issued ++ b.history ∧
    ps.map Pass.document = ds.reverse

theorem Issues.refl (b : Backend) : Issues b b [] := ⟨rfl, rfl, [], rfl, rfl⟩

theorem Issues.trans {ds es : List Document} (h : Issues b c ds) (k : Issues c d es) :
    Issues b d (ds ++ es) := by
  obtain ⟨ps, early, first⟩ := h.history
  obtain ⟨qs, late, then_⟩ := k.history
  exact ⟨k.state.trans h.state, k.linter.trans h.linter, qs ++ ps, by simp [late, early],
    by simp [first, then_]⟩

theorem start_relevant_issues (b : Backend) (d : Document) :
    Issues b (b.startRelevant d) ([d].filter Document.isHtml) := by
  unfold startRelevant
  split
  · rename_i html
    exact ⟨rfl, rfl, [b.pool.adapter.nextPass d], rfl, by simp [html, Adapter.nextPass]⟩
  · rename_i other
    simpa [other] using Issues.refl b

theorem start_all_issues (b : Backend) (ds : List Document) :
    Issues b (b.startAll ds) (ds.filter Document.isHtml) := by
  induction ds generalizing b with
  | nil => exact .refl b
  | cons d ds ih =>
    have whole := (start_relevant_issues b d).trans (ih (b.startRelevant d))
    rwa [← List.filter_append] at whole

theorem issue_fold (b : Backend) (ds : List Document) :
    ds.foldl (fun b d => b.step (.issue d)) b =
      ⟨b.state, (b.pool.adapter.issueAll ds).1, b.pool.tasks⟩ := by
  induction ds generalizing b with
  | nil => rfl
  | cons d ds ih => exact ih (b.step (.issue d))

theorem start_visible_issues (b : Backend) (ds : List Document) :
    Issues b (b.startVisible ds) ds := by
  unfold startVisible
  split
  · rename_i none
    simpa [List.isEmpty_iff.mp none] using Issues.refl b
  · rw [issue_fold]
    refine ⟨rfl, Adapter.issue_all_linter _ ds, (b.pool.adapter.issueAll ds).2.reverse, ?_, ?_⟩
    · simp [history, step, TaskPool.step, TaskPool.spawn, Adapter.issue_all_history]
    · rw [List.map_reverse, Adapter.issue_all_documents]

theorem store_issues (b : Backend) (d : Document) :
    Issues { b with state := b.state.setDocument d } (b.store d) ([d].filter Document.isHtml) :=
  start_relevant_issues _ d

/-- The linter is set and every configuration is dropped before the passes are issued. -/
theorem renew_issues (b : Backend) (s : State) :
    Issues ⟨s, (b.pool.step (.setLinter s.linter)).step .invalidate⟩ (b.renew s)
      (s.openDocuments.filter Document.isHtml) :=
  start_all_issues _ _

theorem close_pool (b : Backend) (uri : Url) :
    (b.close uri).pool = ⟨(b.pool.adapter.startClose b.pool.tasks.length uri).1,
      b.pool.tasks ++ [(b.pool.adapter.startClose b.pool.tasks.length uri).2]⟩ := by
  simp [close, step, TaskPool.step, TaskPool.spawn, TaskPool.resume, Adapter.resumeTask,
    Adapter.startJob]

theorem close_history (b : Backend) (uri : Url) :
    (b.close uri).history = .forgotten b.pool.tasks.length uri :: b.history := by
  simp [history, close_pool, Adapter.startClose]

theorem introduce_documents (b : Backend) (w : Workspace) (i : Introduction) :
    (b.introduce w i).state.documents = b.state.documents := by
  refine (State.reload_documents _ w).trans ?_
  cases i.settings <;> rfl

theorem introduce_history (b : Backend) (w : Workspace) (i : Introduction) :
    (b.introduce w i).history = .linterSet (b.introduce w i).state.linter :: b.history := rfl

/-- What holds all the time: the adapter arises by its moves, no task gives orders, and documents
are filed under their addresses. -/
structure Sound (linter : LinterProgram) (b : Backend) : Prop where
  arises : Arises linter b.pool
  serving : ∀ {id : TaskId} {t : Task}, b.pool.tasks[id]? = some t → t.serves = true
  filed : ∀ {u d}, b.state.documents.get? u = some d → d.uri.text = u

theorem Sound.spawn (h : Sound linter b) (ds : List Document) {s : State}
    (same : s.documents = b.state.documents) :
    Sound linter ⟨s, ({ b.pool with adapter := (b.pool.adapter.issueAll ds).1 } :
      TaskPool LinterProgram).spawn (.run (b.pool.adapter.issueAll ds).2)⟩ := by
  refine ⟨h.arises.issue_spawn ds, fun here => ?_, fun kept => h.filed (same ▸ kept)⟩
  rcases TaskPool.spawn_cases here with ⟨_, rfl⟩ | ⟨_, old⟩
  · rfl
  · exact h.serving old

theorem Sound.start_relevant (h : Sound linter b) (d : Document) :
    Sound linter (b.startRelevant d) := by
  unfold startRelevant
  split
  · exact h.spawn [d] rfl
  · exact h

theorem Sound.start_all (h : Sound linter b) (ds : List Document) :
    Sound linter (b.startAll ds) := by
  induction ds generalizing b with
  | nil => exact h
  | cons d ds ih => exact ih (h.start_relevant d)

theorem Sound.start_visible (h : Sound linter b) (ds : List Document) :
    Sound linter (b.startVisible ds) := by
  unfold startVisible
  split
  · exact h
  · rw [issue_fold]
    exact h.spawn ds rfl

theorem Sound.resume (h : Sound linter b) (id : TaskId) (x : Arrival) :
    Sound linter (b.resume id x) := by
  refine ⟨h.arises.resume id _, fun {j u} here => ?_, h.filed⟩
  simp only [Backend.resume, step, TaskPool.step, TaskPool.resume] at here
  split at here
  · exact h.serving here
  · rename_i t own
    rcases TaskPool.task_cases here with ⟨_, rfl⟩ | ⟨_, old⟩
    · exact (Adapter.resume_served _ _ _ (h.serving own)).serves
    · exact h.serving old

theorem Sound.close (h : Sound linter b) (uri : Url) : Sound linter (b.close uri) := by
  constructor
  · have none : (Job.close uri).passes = [] := rfl
    have spawned := h.arises.move (.spawn _ (.close uri) ⟨by simp [none], by simp [none]⟩)
    exact spawned.resume _ _
  · intro id t here
    rw [close_pool] at here
    rcases TaskPool.spawn_cases here with ⟨_, rfl⟩ | ⟨_, old⟩
    · simp only [Adapter.startClose]
      split <;> rfl
    · exact h.serving old
  · intro u d kept
    have left : (b.state.documents.erase uri.text).get? u = some d := kept
    rw [Map.Dict.get?_erase] at left
    split at left
    · simp at left
    · exact h.filed left

theorem Sound.setDocument (h : Sound linter b) (d : Document) :
    Sound linter { b with state := b.state.setDocument d } := by
  refine ⟨h.arises, h.serving, fun {u e} kept => ?_⟩
  simp only [State.setDocument, Map.Dict.get?_insert] at kept
  split at kept
  · rename_i same
    rw [← Option.some.inj kept]
    exact same
  · exact h.filed kept

theorem Sound.renew (h : Sound linter b) {s : State} (same : s.documents = b.state.documents) :
    Sound linter (b.renew s) := by
  have arises := (h.arises.move (.setLinter _ s.linter)).move (.invalidate _)
  have cleared : Sound linter ⟨s, (b.pool.step (.setLinter s.linter)).step .invalidate⟩ :=
    ⟨arises, h.serving, fun kept => h.filed (same ▸ kept)⟩
  exact cleared.start_all _

theorem Sound.introduce (h : Sound linter b) (w : Workspace) (i : Introduction) :
    Sound linter (b.introduce w i) := by
  refine ⟨h.arises.move (.setLinter _ _), h.serving, fun kept => h.filed ?_⟩
  rwa [introduce_documents] at kept

theorem Effect.sound (e : Effect b c) (h : Sound linter b) : Sound linter c := by
  cases e with
  | none => exact h
  | store d => exact (h.setDocument d).start_relevant d
  | close uri => exact h.close uri
  | watch ds => exact h.start_visible ds
  | renew s same => exact h.renew same

theorem Sound.after (h : Sound linter b) (e : Step) : Sound linter (b.apply e) := by
  cases e with
  | introduce w i => exact h.introduce w i
  | notify w n => exact (notify_effect b w n).sound h
  | resume id x => exact h.resume id x

theorem initial_sound (config : Option Path) :
    Sound (State.initial config).linter (initial config) :=
  ⟨.start, fun here => by simp [initial, TaskPool.initial] at here,
    fun kept => by simp [initial, State.initial] at kept⟩

theorem play_sound (h : Sound linter b) (es : List Step) : Sound linter (b.play es) :=
  play_induction h (fun _ e sound => sound.after e) es

theorem Sound.resume_served (h : Sound linter b) (id : TaskId) (x : Arrival) :
    (b.resume id x).pool.adapter.linter = b.pool.adapter.linter ∧
      ∃ es, (b.resume id x).history = es ++ b.history ∧ ∀ e ∈ es, e.isOrder = false := by
  simp only [Backend.resume, step, TaskPool.step, TaskPool.resume, history]
  split
  · exact ⟨rfl, [], rfl, by simp⟩
  · rename_i t here
    have served := b.pool.adapter.resume_served id (b.answer x) (h.serving here)
    exact ⟨served.linter, served.history⟩

theorem Issues.orders {ds : List Document} (h : Issues b c ds) :
    ∃ es, c.history = es ++ b.history ∧ ∀ e ∈ es, e.isOrder = true := by
  obtain ⟨ps, added, _⟩ := h.history
  exact ⟨_, added, by simp [Event.isOrder]⟩

theorem Effect.orders (e : Effect b c) :
    ∃ es, c.history = es ++ b.history ∧ ∀ e ∈ es, e.isOrder = true := by
  cases e with
  | none => exact ⟨[], rfl, by simp⟩
  | store d => exact (store_issues b d).orders
  | close uri => exact ⟨[_], close_history b uri, by simp [Event.isOrder]⟩
  | watch ds => exact (start_visible_issues b ds).orders
  | renew s =>
    obtain ⟨es, added, orders⟩ := (renew_issues b s).orders
    refine ⟨es ++ [.cleared, .linterSet s.linter], ?_, fun e he => ?_⟩
    · rw [added, List.append_assoc]
      rfl
    · rcases List.mem_append.mp he with new | new
      · exact orders e new
      · rcases List.mem_pair.mp new with rfl | rfl <;> rfl

/-- A step only gives orders, or it only lets a task go on. -/
theorem apply_orders (b : Backend) (e : Step) :
    (∃ es, (b.apply e).history = es ++ b.history ∧ ∀ e ∈ es, e.isOrder = true) ∨
      ∃ id x, e = .resume id x := by
  cases e with
  | introduce w i => exact .inl ⟨[_], introduce_history b w i, by simp [Event.isOrder]⟩
  | notify w n => exact .inl (notify_effect b w n).orders
  | resume id x => exact .inr ⟨id, x, rfl⟩

/-- An event that happens in a step, behind older ones. -/
def Makes (b : Backend) (e : Step) (x : Event LinterProgram)
    (older : List (Event LinterProgram)) : Prop :=
  (∃ newer, (b.apply e).history = newer ++ x :: older) ∧ b.history <:+ older

theorem Makes.split {e : Step} {x : Event LinterProgram} {older added : List (Event LinterProgram)}
    (m : Makes b e x older) (whole : (b.apply e).history = added ++ b.history) :
    ∃ newer es, added = newer ++ x :: es ∧ older = es ++ b.history := by
  obtain ⟨⟨newer, made⟩, es, rfl⟩ := m
  rw [made] at whole
  exact ⟨newer, es, List.append_cancel_right (by simpa using whole.symm), rfl⟩

theorem Makes.mem {e : Step} {x : Event LinterProgram} {older added : List (Event LinterProgram)}
    (m : Makes b e x older) (whole : (b.apply e).history = added ++ b.history) : x ∈ added := by
  obtain ⟨newer, es, rfl, _⟩ := m.split whole
  simp

/-- What is no order is done by a task, and no order is given in that step. -/
theorem Makes.served {e : Step} {x : Event LinterProgram} {older : List (Event LinterProgram)}
    (m : Makes b e x older) (plain : x.isOrder = false) (h : Sound linter b) :
    (∃ id y, e = .resume id y) ∧
      ∃ es, older = es ++ b.history ∧ ∀ y ∈ es, y.isOrder = false := by
  rcases apply_orders b e with ⟨added, whole, orders⟩ | ⟨id, y, rfl⟩
  · have order := orders x (m.mem whole)
    simp [plain] at order
  · obtain ⟨_, added, whole, served⟩ := h.resume_served id y
    obtain ⟨newer, es, rfl, rfl⟩ := m.split whole
    exact ⟨⟨id, y, rfl⟩, es, rfl, fun z hz => served z (by simp [hz])⟩

theorem Sound.grows (h : Sound linter b) (e : Step) : b.history <:+ (b.apply e).history := by
  rcases apply_orders b e with ⟨added, whole, _⟩ | ⟨id, x, rfl⟩
  · exact ⟨added, whole.symm⟩
  · obtain ⟨_, added, whole, _⟩ := h.resume_served id x
    exact ⟨added, whole.symm⟩

theorem Sound.play_grows (h : Sound linter b) (es : List Step) :
    b.history <:+ (b.play es).history := by
  induction es generalizing b with
  | nil => exact List.suffix_rfl
  | cons e es ih => exact (h.grows e).trans (ih (h.after e))

/-- What happened in a run happened in one of its steps. -/
theorem Sound.made (h : Sound linter b) (es : List Step) {newer older : List (Event LinterProgram)}
    {x : Event LinterProgram} (history : (b.play es).history = newer ++ x :: older)
    (new : b.history <:+ older) :
    ∃ es₀ e es₁, es = es₀ ++ e :: es₁ ∧ Makes (b.play es₀) e x older := by
  induction es generalizing b with
  | nil =>
    have longer := new.length_le
    have length := congrArg List.length history
    simp only [play_nil, List.length_append, List.length_cons] at length
    omega
  | cons e es ih =>
    have next := h.after e
    have here : ∀ newer', (b.apply e).history = newer' ++ x :: older →
        ∃ es₀ f es₁, e :: es = es₀ ++ f :: es₁ ∧ Makes (b.play es₀) f x older :=
      fun newer' made => ⟨[], e, es, rfl, ⟨newer', made⟩, new⟩
    rcases List.suffix_or_suffix_of_suffix (next.play_grows es) ⟨newer, history.symm⟩ with
      late | ⟨newer', early⟩
    · rcases List.suffix_cons_iff.mp late with last | later
      · exact here [] last
      · obtain ⟨es₀, f, es₁, rfl, made⟩ := ih next history later
        exact ⟨e :: es₀, f, es₁, rfl, made⟩
    · exact here newer' early.symm

end Backend

end MarkupLint.Server
