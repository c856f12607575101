import MarkupLint.Proofs.Adapter.CloseBarrier
import MarkupLint.Proofs.Server.SettingsReach

/-! Where diagnostics come from. All that is published is the one empty message of a close, or of a
pass that a notification issued for a document as it was stored then. Nothing comes of a document
that is not open. -/
namespace MarkupLint

open History

variable {L : Type}

def Event.publication? : Event L → Option Server.Outgoing
  | .set _ update ds => some (.published update.uri ds update.version)
  | .deleted _ uri => some (.published uri [] none)
  | _ => none

theorem TaskPool.Barred.deletes_one {s : TaskPool L} (h : Barred s) {c : TaskId} {u v : Url}
    (first : .deleted c u ∈ s.adapter.history) (second : .deleted c v ∈ s.adapter.history) :
    u = v := by
  have own : ∀ {uri}, .deleted c uri ∈ s.adapter.history →
      .deleted c uri ∈ closeTrail c s.adapter.history :=
    fun there => mem_closeTrail.mpr ⟨there, by simp [Event.closes]⟩
  obtain ⟨t, trail⟩ := h.trail c
  have both := And.intro (own first) (own second)
  generalize closeTrail c s.adapter.history = es at trail both
  cases trail <;> simp_all

/-- A close deletes once, after it forgot the passes of the document. -/
theorem TaskPool.Barred.deletion {s : TaskPool L} (h : Barred s) {c : TaskId} {u : Url}
    {newer older : List (Event L)} (history : s.adapter.history = newer ++ .deleted c u :: older) :
    (∀ v, .deleted c v ∉ newer ∧ .deleted c v ∉ older) ∧ .forgotten c u ∈ older := by
  have there : .deleted c u ∈ s.adapter.history := by simp [history]
  have once := h.deleted_once c u
  have order := (h.forgets_first there).1
  rw [history] at once order
  have alone : .deleted c u ∉ newer ∧ .deleted c u ∉ older :=
    ⟨fun late => once (before_of_mem late List.mem_cons_self), fun early => once (before_at early)⟩
  constructor
  · intro v
    constructor
    · intro late
      obtain rfl : u = v := h.deletes_one there (by simp [history, late])
      exact alone.1 late
    · intro early
      obtain rfl : u = v := h.deletes_one there (by simp [history, early])
      exact alone.2 early
  · rcases (before_cons _ _ _ _).mp (before_of_not_mem order alone.1) with again | ⟨_, forgotten⟩
    · exact absurd again.mem.2 alone.2
    · exact forgotten

namespace Server

def Outgoing.isPublication : Outgoing → Bool
  | .published _ _ _ => true
  | _ => false

namespace Session

theorem report_stage (s : Session) (x : Event LinterProgram) : (s.report x).stage = s.stage := by
  unfold report
  split <;> first | rfl | (split <;> rfl)

theorem report_publishes (s : Session) (x : Event LinterProgram) :
    (s.report x).outbox.filter Outgoing.isPublication =
      s.outbox.filter Outgoing.isPublication ++
        if s.stage.isConnected then x.publication?.toList else [] := by
  cases x with
  | settingsRead | logged | shown | set | deleted =>
    simp only [report]
    split <;> simp [send, Event.publication?, Outgoing.isPublication]
  | _ => simp [report, Event.publication?]

theorem reports_publish (s : Session) (es : List (Event LinterProgram)) :
    (es.foldl report s).outbox.filter Outgoing.isPublication =
      s.outbox.filter Outgoing.isPublication ++
        if s.stage.isConnected then es.filterMap Event.publication? else [] := by
  induction es generalizing s with
  | nil => simp
  | cons x es ih =>
    rw [List.foldl_cons, ih, report_stage, report_publishes]
    cases s.stage.isConnected with
    | false => simp
    | true => cases published : x.publication? <;> simp [published]

/-- A step publishes what its events call for, in their order. -/
theorem take_publishes (s : Session) (e : Backend.Step) {new : List (Event LinterProgram)}
    (added : (s.backend.apply e).history = new ++ s.backend.history) :
    (s.take e).outbox.filter Outgoing.isPublication =
      s.outbox.filter Outgoing.isPublication ++
        if s.stage.isConnected then new.reverse.filterMap Event.publication? else [] := by
  have recent : (s.backend.apply e).history.take
      ((s.backend.apply e).history.length - s.backend.history.length) = new := by
    simp [added]
  unfold take
  simp only [recent]
  exact reports_publish _ _

end Session

namespace Backend

variable {b : Backend} {linter : LinterProgram} {e : Step} {x : Event LinterProgram} {u : String}
  {older : List (Event LinterProgram)}

/-- What a pass of a document can be issued for: the document is HTML, and is opened, changed or
saved, or open when settings are taken over; or it is open and listed as visible. -/
inductive Issuing (b : Backend) (d : Document) : Notification → Prop where
  | opened (html : d.isHtml = true) : Issuing b d (.opened d)
  | changed (html : d.isHtml = true) {uri : Url} (same : d.uri.text = uri.text)
      (known : (b.state.document? uri).isSome = true) (version : Int) {texts : List String}
      (brought : texts ≠ []) : Issuing b d (.changed uri version texts)
  | saved (html : d.isHtml = true) {uri : Url} (same : d.uri.text = uri.text)
      (known : (b.state.document? uri).isSome = true) (text : Option String) :
      Issuing b d (.saved uri text)
  | renewed (html : d.isHtml = true) (known : b.state.document? d.uri = some d) {n : Notification}
      (renews : b.state.renews n = true) : Issuing b d n
  | visible {uris : List Url} {uri : Url} (listed : uri ∈ uris) (same : d.uri.text = uri.text)
      (known : b.state.document? uri = some d) : Issuing b d (.visible uris)

/-- What a notification gives a turn for: a close forgets the document in a task of its own, and a
pass is issued for a document as it is stored from then on. -/
inductive Origin (b : Backend) (w : Workspace) : Notification → Event LinterProgram → Prop where
  | close (uri : Url) : Origin b w (.closed uri) (.forgotten b.pool.tasks.length uri)
  | issue {n : Notification} {p : Pass} (issuing : Issuing b p.document n)
      (stored : (b.notify w n).state.document? p.document.uri = some p.document) :
      Origin b w n (.issued p)

theorem Makes.acts (m : Makes b e x older) : b.apply e ≠ b := by
  intro idle
  have whole : (b.apply e).history = [] ++ b.history := congrArg history idle
  simpa using m.mem whole

/-- What gives a turn where passes are issued is the issue of a pass of one of the documents. -/
theorem Makes.issues {c : Backend} {ds : List Document} (m : Makes b e x older)
    (h : Issues c (b.apply e) ds) (rest : List (Event LinterProgram))
    (history : c.history = rest ++ b.history) (turn : x.turns u = true)
    (others : ∀ y ∈ rest, y.turns u = false) : ∃ p, x = .issued p ∧ p.document ∈ ds := by
  obtain ⟨ps, added, documents⟩ := h.history
  have whole : (b.apply e).history = (ps.map .issued ++ rest) ++ b.history := by
    rw [added, history, List.append_assoc]
  rcases List.mem_append.mp (m.mem whole) with issued | other
  · obtain ⟨p, new, rfl⟩ := List.mem_map.mp issued
    have among : p.document ∈ ps.map Pass.document := List.mem_map_of_mem new
    exact ⟨p, rfl, by simpa [documents] using among⟩
  · simp [others x other] at turn

theorem Makes.stored {d : Document} (m : Makes b e x older) (turn : x.turns u = true)
    (step : b.apply e = b.store d) :
    d.isHtml = true ∧ (b.apply e).state.document? d.uri = some d ∧
      ∃ p, x = .issued p ∧ p.document = d := by
  have issues : Issues { b with state := b.state.setDocument d } (b.apply e) _ :=
    step ▸ store_issues b d
  obtain ⟨p, is, among⟩ := m.issues issues [] rfl turn (by simp)
  obtain ⟨rfl, html⟩ : p.document = d ∧ p.document.isHtml = true := by simpa using among
  exact ⟨html, by rw [step, State.document?, store_documents, if_pos rfl], p, is, rfl⟩

/-- Where settings are taken over, an open HTML document gets a pass. -/
theorem Makes.renewed {s : State} (m : Makes b e x older) (sound : Sound linter b)
    (turn : x.turns u = true) (same : s.documents = b.state.documents)
    (step : b.apply e = b.renew s) :
    ∃ p, x = .issued p ∧ p.document.isHtml = true ∧
      b.state.document? p.document.uri = some p.document ∧
      (b.apply e).state.document? p.document.uri = some p.document := by
  have issues := step ▸ renew_issues b s
  obtain ⟨p, is, among⟩ := m.issues issues [.cleared, .linterSet s.linter] rfl turn
    (by simp [Event.turns])
  obtain ⟨open_, html⟩ := List.mem_filter.mp among
  obtain ⟨⟨v, d⟩, there, eq⟩ := List.mem_map.mp open_
  rw [same, Map.Dict.mem_entries_iff] at there
  have known : b.state.document? p.document.uri = some p.document := by
    rw [← eq, State.document?, sound.filed there]
    exact there
  refine ⟨p, is, html, known, ?_⟩
  rw [issues.state, State.document?, same]
  exact known

/-- Turns are given by notifications. -/
theorem Makes.origin (m : Makes b e x older) (sound : Sound linter b) (turn : x.turns u = true) :
    ∃ w n, e = .notify w n ∧ Origin b w n x := by
  cases e with
  | introduce w i =>
    have whole : (b.apply (.introduce w i)).history = [_] ++ b.history := introduce_history b w i
    obtain rfl : x = .linterSet _ := by simpa using m.mem whole
    simp [Event.turns] at turn
  | resume id y =>
    obtain ⟨_, added, whole, served⟩ := sound.resume_served id y
    have plain := served x (m.mem whole)
    simp [Event.isOrder_of_turns turn] at plain
  | notify w n =>
    refine ⟨w, n, rfl, ?_⟩
    by_cases renews : b.state.renews n = true
    · obtain ⟨s, same, step⟩ := renews_renew w renews
      obtain ⟨p, rfl, html, known, stored⟩ := m.renewed sound turn same step
      exact .issue (.renewed html known renews) stored
    · cases n with
      | opened d =>
        obtain ⟨html, stored, p, rfl, rfl⟩ := m.stored turn rfl
        exact .issue (.opened html) stored
      | changed uri version texts =>
        cases known : b.state.document? uri with
        | none => exact absurd (by simp [apply, notify, change, known]) m.acts
        | some d =>
          cases last : texts.getLast? with
          | none => exact absurd (by simp [apply, notify, change, last]) m.acts
          | some text =>
            have step : b.apply (.notify w (.changed uri version texts)) =
                b.store { d with text := text, version := some version } := by
              simp [apply, notify, change, last, known, store]
            obtain ⟨html, stored, p, rfl, is⟩ := m.stored turn step
            have same : p.document.uri.text = uri.text := by rw [is, ← sound.filed known]
            refine .issue (.changed (is ▸ html) same (by simp [known]) version ?_) (is ▸ stored)
            rintro rfl
            simp at last
      | saved uri text =>
        cases known : b.state.document? uri with
        | none => exact absurd (by simp [apply, notify, save, known]) m.acts
        | some d =>
          have step : b.apply (.notify w (.saved uri text)) =
              b.store { d with text := text.getD d.text } := by
            simp [apply, notify, save, known, store]
          obtain ⟨html, stored, p, rfl, is⟩ := m.stored turn step
          have same : p.document.uri.text = uri.text := by rw [is, ← sound.filed known]
          exact .issue (.saved (is ▸ html) same (by simp [known]) text) (is ▸ stored)
      | closed uri =>
        have whole : (b.apply (.notify w (.closed uri))).history = [_] ++ b.history :=
          close_history b uri
        obtain rfl : x = .forgotten _ uri := by simpa using m.mem whole
        exact .close uri
      | visible uris =>
        have issues := start_visible_issues b (uris.filterMap b.state.document?)
        obtain ⟨p, rfl, among⟩ := m.issues issues [] rfl turn (by simp)
        obtain ⟨uri, listed, known⟩ := List.mem_filterMap.mp among
        have same : p.document.uri.text = uri.text := sound.filed known
        have state : (b.notify w (.visible uris)).state = b.state := issues.state
        refine .issue (.visible listed same known) ?_
        rw [state, State.document?, same]
        exact known
      | settingsPushed v => exact absurd rfl renews
      | filesChanged uris =>
        have idle : uris.any b.state.concerns = false := by simpa [State.renews] using renews
        exact absurd (by simp [apply, notify, State.filesChanged, idle]) m.acts

section Run

variable {config : Option Path} {es : List Step} {newer : List (Event LinterProgram)} {id : TaskId}

theorem turn_origin (turn : x.turns u = true)
    (history : ((initial config).play es).history = newer ++ x :: older) :
    ∃ es₀ w n es₁, es = es₀ ++ .notify w n :: es₁ ∧
      Makes ((initial config).play es₀) (.notify w n) x older ∧
      Origin ((initial config).play es₀) w n x := by
  have start := initial_sound config
  obtain ⟨es₀, e, es₁, split, made⟩ := start.made es history List.nil_suffix
  obtain ⟨w, n, rfl, origin⟩ := made.origin (play_sound start es₀) turn
  exact ⟨es₀, w, n, es₁, split, made, origin⟩

theorem deleted_origin {uri : Url}
    (history : ((initial config).play es).history = newer ++ .deleted id uri :: older) :
    (∀ v, .deleted id v ∉ newer ∧ .deleted id v ∉ older) ∧
    ∃ es₀ w es₁ before, es = es₀ ++ .notify w (.closed uri) :: es₁ ∧
      id = ((initial config).play es₀).pool.tasks.length ∧
      Makes ((initial config).play es₀) (.notify w (.closed uri)) (.forgotten id uri) before ∧
      .forgotten id uri :: before <:+ older := by
  obtain ⟨once, forgotten⟩ :=
    (play_sound (initial_sound config) es).arises.barred.deletion history
  obtain ⟨recent, before, rfl⟩ := List.append_of_mem forgotten
  have cut : ((initial config).play es).history =
      (newer ++ .deleted id uri :: recent) ++ .forgotten id uri :: before := by simp [history]
  obtain ⟨es₀, w, n, es₁, split, made, origin⟩ :=
    turn_origin (u := uri.text) (by simp [Event.turns]) cut
  cases origin with
  | close => exact ⟨once, es₀, w, es₁, before, split, rfl, made, List.suffix_append _ _⟩

theorem set_origin {p : Pass} {uri : Url} {version : Option Int} {ds : List Diagnostic}
    (history : ((initial config).play es).history =
      newer ++ .set id ⟨p, uri, version⟩ ds :: older) :
    uri = p.document.uri ∧ version = p.document.version ∧
    ∃ es₀ w n es₁ before, es = es₀ ++ .notify w n :: es₁ ∧
      Makes ((initial config).play es₀) (.notify w n) (.issued p) before ∧
      .issued p :: before <:+ older ∧
      Issuing ((initial config).play es₀) p.document n ∧
      (((initial config).play es₀).notify w n).state.document? p.document.uri = some p.document ∧
      noted p.url (es₀ ++ [.notify w n]) = some p.document := by
  have arises := (play_sound (initial_sound config) es).arises
  obtain ⟨rfl, rfl⟩ := arises.handed_set history
  refine ⟨rfl, rfl, ?_⟩
  obtain ⟨between, checked, rfl, _, last⟩ := arises.cleared history
  have issued : .issued p ∈ checked := List.mem_of_find?_eq_some last
  obtain ⟨recent, before, rfl⟩ := List.append_of_mem issued
  have cut : ((initial config).play es).history =
      (newer ++ .set id p.update ds :: (between ++ .checked id p true true :: recent)) ++
        .issued p :: before := by simp [history, Pass.update]
  obtain ⟨es₀, w, n, es₁, split, made, origin⟩ :=
    turn_origin (u := p.url) (by simp [Event.turns]) cut
  cases origin with
  | issue issuing stored =>
    refine ⟨es₀, w, n, es₁, before, split, made, ?_, issuing, stored, ?_⟩
    · exact ⟨between ++ .checked id p true true :: recent, by simp⟩
    · rw [← play_noted config, play_append]
      exact stored

end Run

theorem notify_unknown (w : Workspace) {uri : Url} (unknown : b.state.document? uri = none) :
    (∀ version texts, b.notify w (.changed uri version texts) = b) ∧
      ∀ text, b.notify w (.saved uri text) = b := by
  constructor
  · intro version texts
    simp [notify, change, unknown]
  · intro text
    simp [notify, save, unknown]

/-- Of the documents that are listed as visible, those that are not open count for nothing. -/
theorem notify_visible (b : Backend) (w : Workspace) (uris : List Url) :
    b.notify w (.visible uris) =
      b.notify w (.visible (uris.filter fun uri => (b.state.document? uri).isSome)) := by
  have same : (uris.filter fun uri => (b.state.document? uri).isSome).filterMap
      b.state.document? = uris.filterMap b.state.document? := by
    rw [List.filterMap_filter]
    congr 1
    funext uri
    cases b.state.document? uri <;> rfl
  rw [notify, notify, same]

/-- What is published in a step is what its events call for. Diagnostics are deleted once for each
close, after it came. All others that are set are of a pass that a notification issued before, for
a document as it was stored then: one that was opened, changed, saved or linted anew as HTML, or was
listed as visible. What is not open is neither changed nor linted. -/
theorem publications_accounted (config : Option Path) (es : List Step) :
    (∀ (s : Session) (e : Step), s.backend = (initial config).play es →
      ∃ new, ((initial config).play (es ++ [e])).history =
          new ++ ((initial config).play es).history ∧
        (s.take e).outbox.filter Outgoing.isPublication =
          s.outbox.filter Outgoing.isPublication ++
            if s.stage.isConnected then new.reverse.filterMap Event.publication? else []) ∧
    (∀ {newer older id uri},
      ((initial config).play es).history = newer ++ .deleted id uri :: older →
      (∀ v, .deleted id v ∉ newer ∧ .deleted id v ∉ older) ∧
      ∃ es₀ w es₁ before, es = es₀ ++ .notify w (.closed uri) :: es₁ ∧
        id = ((initial config).play es₀).pool.tasks.length ∧
        Makes ((initial config).play es₀) (.notify w (.closed uri)) (.forgotten id uri) before ∧
        .forgotten id uri :: before <:+ older) ∧
    (∀ {newer older id p uri version ds},
      ((initial config).play es).history = newer ++ .set id ⟨p, uri, version⟩ ds :: older →
      uri = p.document.uri ∧ version = p.document.version ∧
      ∃ es₀ w n es₁ before, es = es₀ ++ .notify w n :: es₁ ∧
        Makes ((initial config).play es₀) (.notify w n) (.issued p) before ∧
        .issued p :: before <:+ older ∧
        Issuing ((initial config).play es₀) p.document n ∧
        (((initial config).play es₀).notify w n).state.document? p.document.uri =
          some p.document ∧
        noted p.url (es₀ ++ [.notify w n]) = some p.document) ∧
    (∀ w uri, ((initial config).play es).state.document? uri = none →
      (∀ version texts, ((initial config).play es).notify w (.changed uri version texts) =
        (initial config).play es) ∧
      ∀ text, ((initial config).play es).notify w (.saved uri text) = (initial config).play es) ∧
    ∀ w uris,
      (((initial config).play es).notify w (.visible uris)).state =
        ((initial config).play es).state ∧
      ((initial config).play es).notify w (.visible uris) =
        ((initial config).play es).notify w (.visible (uris.filter fun uri =>
          (((initial config).play es).state.document? uri).isSome)) := by
  refine ⟨?_, deleted_origin, set_origin, fun w uri unknown => notify_unknown w unknown, ?_⟩
  · intro s e here
    obtain ⟨new, added⟩ := (play_sound (initial_sound config) es).grows e
    refine ⟨new, by simp [← added], ?_⟩
    exact s.take_publishes e (by rw [here, added])
  · intro w uris
    exact ⟨(start_visible_issues _ _).state, notify_visible _ w uris⟩

def closedPageSteps : List Step :=
  changedPageSteps ++ [.resume 1 .done, .resume 1 .applied, .resume 1 .done,
    .notify emptyWorkspace (.closed changedPage.uri)]

theorem closed_page_accounted :
    (∃ s : Session, s.backend = (initial none).play closedPageSteps ∧
      (s.take (.resume 2 .done)).outbox.filter Outgoing.isPublication =
        [.published changedPage.uri [] none]) ∧
    (∃ es₀ w es₁, closedPageSteps ++ [.resume 2 .done] =
        es₀ ++ .notify w (.closed changedPage.uri) :: es₁ ∧
      2 = ((initial none).play es₀).pool.tasks.length) ∧
    (∃ es₀ w n es₁, closedPageSteps = es₀ ++ .notify w n :: es₁ ∧
      Issuing ((initial none).play es₀) changedPage n) ∧
    ((initial none).play closedPageSteps).notify emptyWorkspace (.saved changedPage.uri none) =
      (initial none).play closedPageSteps := by
  obtain ⟨sent, _, sets, unknown, _⟩ := publications_accounted none closedPageSteps
  obtain ⟨_, deletions, _⟩ :=
    publications_accounted none (closedPageSteps ++ [.resume 2 .done])
  have published : ((initial none).play closedPageSteps).history =
      ((initial none).play closedPageSteps).history.take 3 ++
        .set 1 ⟨⟨changedPage, 2⟩, changedPage.uri, some 2⟩
          (Pass.diagnostics ⟨changedPage, 2⟩ [openTag]) ::
          ((initial none).play closedPageSteps).history.drop 4 := rfl
  have deleted : ((initial none).play (closedPageSteps ++ [.resume 2 .done])).history =
      [.finished 2 .closed] ++ .deleted 2 changedPage.uri ::
        ((initial none).play closedPageSteps).history := rfl
  refine ⟨?_, ?_, ?_, ?_⟩
  · let s : Session := ⟨.initialized, (initial none).play closedPageSteps, [], 0, []⟩
    obtain ⟨new, added, outbox⟩ := sent s (.resume 2 .done) rfl
    refine ⟨s, rfl, ?_⟩
    obtain rfl : new = [.finished 2 .closed, .deleted 2 changedPage.uri] := by
      rw [deleted] at added
      exact (List.append_cancel_right (by simpa using added)).symm
    exact outbox
  · obtain ⟨_, es₀, w, es₁, _, split, own, _⟩ := deletions deleted
    exact ⟨es₀, w, es₁, split, own⟩
  · obtain ⟨_, _, es₀, w, n, es₁, _, split, _, _, issuing, _⟩ := sets published
    exact ⟨es₀, w, n, es₁, split, issuing⟩
  · exact (unknown emptyWorkspace changedPage.uri rfl).2 none

end Backend

end Server

end MarkupLint
