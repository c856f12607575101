import Mathlib.Data.List.Induction
import MarkupLint.Proofs.Adapter.PublishOrder
import MarkupLint.Proofs.Server.Effects
import MarkupLint.Server.Session

/-! What is published for an open HTML document describes its text as it is when the pass is let
through. Every change of the stored text comes with a pass for it, and nothing but the pass that was
issued last is let through. -/
namespace MarkupLint

open History

variable {L : Type}

/-- Among passes issued together, an address has the last one for it. -/
theorem History.lastTurn_issued (u : String) (ps : List Pass) :
    lastTurn u (ps.map .issued : List (Event L)) = (ps.find? fun p => p.url = u).map .issued := by
  induction ps with
  | nil => rfl
  | cons p ps ih =>
    rw [List.map_cons, lastTurn_cons, ih, List.find?_cons]
    by_cases here : p.url = u <;> simp [Event.turns, here]

namespace Server.Backend

variable {b c : Backend} {linter : LinterProgram}

/-- Of every open HTML document, the pass that was issued last since then has its present text. -/
def Covered (base : List (Event LinterProgram)) (b : Backend) : Prop :=
  ∃ new, b.history = new ++ base ∧ ∀ {u d}, b.state.documents.get? u = some d → d.isHtml = true →
    ∃ n, lastTurn u new = some (.issued ⟨d, n⟩)

def Keeps (b c : Backend) : Prop :=
  ∃ added, c.history = added ++ b.history ∧
    ∀ {u d}, c.state.documents.get? u = some d → d.isHtml = true →
      (∃ n, lastTurn u added = some (.issued ⟨d, n⟩)) ∨
        lastTurn u added = none ∧ b.state.documents.get? u = some d

theorem Keeps.covered {base : List (Event LinterProgram)} (k : Keeps b c) (h : Covered base b) :
    Covered base c := by
  obtain ⟨added, history, turn⟩ := k
  obtain ⟨new, old, covered⟩ := h
  refine ⟨added ++ new, by simp [history, old], fun {u d} kept html => ?_⟩
  rw [lastTurn_append]
  rcases turn kept html with ⟨n, last⟩ | ⟨none, before⟩
  · exact ⟨n, by simp [last]⟩
  · simpa [none] using covered before html

/-- Where the documents of passes are those that are open, the last pass for an address has the text
of the document there. -/
theorem Issues.turn {ds : List Document} (h : Issues b c ds) (sound : Sound linter c)
    (known : ∀ d ∈ ds, ∃ u, c.state.documents.get? u = some d) :
    ∃ added, c.history = added ++ b.history ∧ ∀ {u d}, c.state.documents.get? u = some d →
      (∃ n, lastTurn u added = some (.issued ⟨d, n⟩)) ∨ lastTurn u added = none ∧ d ∉ ds := by
  obtain ⟨ps, history, documents⟩ := h.history
  have mem : ∀ d, d ∈ ds ↔ ∃ p ∈ ps, p.document = d := by
    intro d
    rw [← List.mem_reverse, ← documents, List.mem_map]
  refine ⟨ps.map .issued, history, fun {u d} kept => ?_⟩
  rw [lastTurn_issued]
  cases last : ps.find? fun p => p.url = u with
  | none =>
    refine .inr ⟨rfl, fun hd => ?_⟩
    obtain ⟨p, hp, rfl⟩ := (mem d).mp hd
    have other := List.find?_eq_none.mp last p hp
    simp [Pass.url, sound.filed kept] at other
  | some p =>
    have url : p.url = u := by simpa using List.find?_some last
    obtain ⟨v, there⟩ := known p.document ((mem _).mpr ⟨p, List.mem_of_find?_eq_some last, rfl⟩)
    rw [← sound.filed there, ← Pass.url, url, kept] at there
    obtain rfl := Option.some.inj there
    exact .inl ⟨p.sequence, rfl⟩

/-- When settings are taken over, all is dropped, and then every open HTML document gets a pass. -/
theorem renew_turn {s : State} (sound : Sound linter (b.renew s)) :
    ∃ added, (b.renew s).history = added ++ .cleared :: .linterSet s.linter :: b.history ∧
      ∀ {u d}, (b.renew s).state.documents.get? u = some d → d.isHtml = true →
        ∃ n, lastTurn u added = some (.issued ⟨d, n⟩) := by
  have state : (b.renew s).state = s := (renew_issues b s).state
  have filed : ∀ {u d}, (b.renew s).state.documents.get? u = some d ↔
      (u, d) ∈ s.documents.entries := fun {u d} => by rw [state, Map.Dict.mem_entries_iff]
  obtain ⟨added, history, turn⟩ := (renew_issues b s).turn sound (by
    intro d hd
    obtain ⟨open_, _⟩ := List.mem_filter.mp hd
    obtain ⟨⟨u, _⟩, there, rfl⟩ := List.mem_map.mp open_
    exact ⟨u, filed.mpr there⟩)
  refine ⟨added, history, fun {u d} kept html => ?_⟩
  rcases turn kept with last | ⟨_, other⟩
  · exact last
  · have there : d ∈ s.openDocuments := List.mem_map.mpr ⟨_, filed.mp kept, rfl⟩
    exact absurd (List.mem_filter.mpr ⟨there, html⟩) other

theorem Effect.keeps (e : Effect b c) (sound : Sound linter c) : Keeps b c := by
  cases e with
  | none => exact ⟨[], rfl, fun kept _ => .inr ⟨rfl, kept⟩⟩
  | store d =>
    have state := (store_issues b d).state
    have documents : (b.store d).state.documents = b.state.documents.insert d.uri.text d := by
      rw [state]; rfl
    obtain ⟨added, history, turn⟩ := (store_issues b d).turn sound (by
      intro e he
      obtain ⟨eq, _⟩ := List.mem_filter.mp he
      rw [List.mem_singleton.mp eq, documents]
      exact ⟨d.uri.text, by simp⟩)
    refine ⟨added, history, fun {u e} kept html => ?_⟩
    rcases turn kept with last | ⟨still, other⟩
    · exact .inl last
    · rw [documents, Map.Dict.get?_insert] at kept
      split at kept
      · obtain rfl := Option.some.inj kept
        exact absurd (List.mem_filter.mpr ⟨List.mem_singleton.mpr rfl, html⟩) other
      · exact .inr ⟨still, kept⟩
  | close uri =>
    refine ⟨[_], close_history b uri, fun {u d} kept _ => .inr ?_⟩
    have left : (b.state.documents.erase uri.text).get? u = some d := kept
    rw [Map.Dict.get?_erase] at left
    split at left
    · simp at left
    · rename_i other
      exact ⟨by simp [lastTurn, Event.turns, other], left⟩
  | watch ds known =>
    have state := (start_visible_issues b ds).state
    obtain ⟨added, history, turn⟩ := (start_visible_issues b ds).turn sound (by
      intro d hd
      obtain ⟨uri, open_⟩ := known d hd
      exact ⟨uri.text, state ▸ open_⟩)
    refine ⟨added, history, fun {u d} kept _ => ?_⟩
    rcases turn kept with last | ⟨still, _⟩
    · exact .inl last
    · exact .inr ⟨still, state ▸ kept⟩
  | renew s same =>
    obtain ⟨added, history, turn⟩ := renew_turn sound
    refine ⟨added ++ [.cleared, .linterSet s.linter], by simp [history], fun kept html => .inl ?_⟩
    obtain ⟨n, last⟩ := turn kept html
    exact ⟨n, by rw [lastTurn_append, last]; rfl⟩

theorem Sound.keeps (h : Sound linter b) (e : Step) : Keeps b (b.apply e) := by
  cases e with
  | introduce w i =>
    refine ⟨[_], introduce_history b w i, fun kept _ => .inr ⟨by simp [lastTurn, Event.turns], ?_⟩⟩
    rwa [apply, introduce_documents] at kept
  | notify w n => exact (notify_effect b w n).keeps (h.after (.notify w n))
  | resume id x =>
    obtain ⟨_, added, history, plain⟩ := h.resume_served id x
    exact ⟨added, history, fun {u _} kept _ => .inr ⟨lastTurn_served plain u, kept⟩⟩

theorem initial_covered (config : Option Path) : Covered [] (initial config) :=
  ⟨[], rfl, fun kept => by simp [initial, State.initial] at kept⟩

theorem Covered.play {base : List (Event LinterProgram)} (h : Covered base b)
    (sound : Sound linter b) (es : List Step) : Covered base (b.play es) := by
  have both : Sound linter (b.play es) ∧ Covered base (b.play es) := by
    refine play_induction (P := fun b => Sound linter b ∧ Covered base b) ⟨sound, h⟩ ?_ es
    intro b e ⟨sound, covered⟩
    exact ⟨sound.after e, (sound.keeps e).covered covered⟩
  exact both.2

/-- A pass that is let through for an open HTML document is the last one issued for it, and the
document is as it was issued. -/
theorem Covered.check {base : List (Event LinterProgram)} (h : Covered base b)
    (sound : Sound linter b) {e : Step} {id : TaskId} {p : Pass}
    {older : List (Event LinterProgram)} (m : Makes b e (.checked id p true true) older)
    {d : Document} (kept : b.state.documents.get? p.url = some d) (html : d.isHtml = true) :
    p.document = d ∧ ∃ recent, older = recent ++ base ∧ .issued p ∈ recent := by
  obtain ⟨_, es, rfl, plain⟩ := m.served rfl sound
  obtain ⟨⟨newer, made⟩, _⟩ := m
  have turn := ((sound.after e).arises.check_fits made).mp rfl
  obtain ⟨new, old, covered⟩ := h
  obtain ⟨n, last⟩ := covered kept html
  have recent : lastTurn p.url (es ++ b.history) = some (.issued ⟨d, n⟩) := by
    simp [old, lastTurn_append, lastTurn_served plain, last]
  rw [turn] at recent
  obtain rfl : p = ⟨d, n⟩ := by simpa using recent
  refine ⟨rfl, es ++ new, by simp [old], List.mem_append_right _ ?_⟩
  exact List.mem_of_find?_eq_some last

def note (u : String) (known : Option Document) : Step → Option Document
  | .notify _ (.opened d) => if d.uri.text = u then some d else known
  | .notify _ (.changed uri version texts) =>
    if uri.text = u then
      match texts.getLast? with
      | some text => known.map fun d => { d with text := text, version := some version }
      | none => known
    else known
  | .notify _ (.saved uri text) =>
    if uri.text = u then known.map fun d => { d with text := text.getD d.text } else known
  | .notify _ (.closed uri) => if uri.text = u then none else known
  | _ => known

/-- The document at an address as the steps of a run tell it: as it was opened last, with the text
and the version of each change since then that had any, and with the text of each save that had
one. -/
def noted (u : String) (es : List Step) : Option Document := es.foldl (note u) none

theorem store_documents (b : Backend) (d : Document) (u : String) :
    (b.store d).state.documents.get? u =
      if d.uri.text = u then some d else b.state.documents.get? u := by
  rw [(store_issues b d).state]
  exact Map.Dict.get?_insert _ _ _ _

theorem Sound.revise (h : Sound linter b) (u : String) {uri : Url} {d : Document}
    (known : b.state.document? uri = some d) (f : Document → Document)
    (same : (f d).uri = d.uri) :
    (b.store (f d)).state.documents.get? u =
      if uri.text = u then (b.state.documents.get? u).map f else b.state.documents.get? u := by
  rw [store_documents, same, h.filed known]
  split
  · rename_i here
    rw [← here, show b.state.documents.get? uri.text = some d from known]
    rfl
  · rfl

theorem unknown_stays {uri : Url} (unknown : b.state.document? uri = none) (u : String)
    (f : Document → Document) :
    (if uri.text = u then (b.state.documents.get? u).map f else b.state.documents.get? u) =
      b.state.documents.get? u := by
  split
  · rename_i here
    rw [← here, show b.state.documents.get? uri.text = none from unknown]
    rfl
  · rfl

theorem Sound.note_step (h : Sound linter b) (u : String) (e : Step) :
    (b.apply e).state.documents.get? u = note u (b.state.documents.get? u) e := by
  cases e with
  | introduce w i =>
    change (b.introduce w i).state.documents.get? u = _
    rw [introduce_documents]
    rfl
  | resume => rfl
  | notify w n =>
    cases n with
    | opened d => exact store_documents b d u
    | changed uri version texts =>
      simp only [apply, notify, change, note]
      cases texts.getLast? with
      | none => simp
      | some text =>
        cases known : b.state.document? uri with
        | none => exact (unknown_stays known u _).symm
        | some d =>
          exact h.revise u known (fun d => { d with text := text, version := some version }) rfl
    | saved uri text =>
      simp only [apply, notify, save, note]
      cases known : b.state.document? uri with
      | none => exact (unknown_stays known u _).symm
      | some d => exact h.revise u known (fun d => { d with text := text.getD d.text }) rfl
    | closed uri => exact Map.Dict.get?_erase _ _ _
    | visible uris =>
      change (b.startVisible _).state.documents.get? u = _
      rw [(start_visible_issues b _).state]
      rfl
    | settingsPushed v =>
      change (b.renew _).state.documents.get? u = _
      rw [(renew_issues b _).state]
      rfl
    | filesChanged uris =>
      simp only [apply, notify, State.filesChanged, note]
      split
      · change (b.renew _).state.documents.get? u = _
        rw [(renew_issues b _).state, State.reload_documents]
      · rfl

theorem play_noted (config : Option Path) (u : String) (es : List Step) :
    ((initial config).play es).state.documents.get? u = noted u es := by
  induction es using List.reverseRecOn with
  | nil => rfl
  | append_singleton es e ih =>
    have sound := play_sound (initial_sound config) es
    have step := sound.note_step u e
    rw [ih] at step
    simpa [noted] using step

/-- A pass is let through for an open HTML document only with the text and the version that are
stored then, so that what it publishes is sent with that version and with ranges in that text. All
that is published was let through before, and was found by the linter or is empty. -/
theorem diagnostics_current (config : Option Path) (es : List Step) :
    (∀ uri, ((initial config).play es).state.document? uri = noted uri.text es) ∧
    (∀ {e id p older}, Makes ((initial config).play es) e (.checked id p true true) older →
      noted p.url (es ++ [e]) = noted p.url es ∧
        ∀ {d}, noted p.url es = some d → d.isHtml = true → p.document = d ∧
          ∀ (fs : List Finding) (s : Session), s.stage.isConnected = true →
            s.report (.set id ⟨p, d.uri, d.version⟩ (p.diagnostics fs)) = s.send
              (.published d.uri (fs.map (.ofFinding (lines d.text.toList))) d.version)) ∧
    ∀ {newer older id p uri version ds},
      ((initial config).play es).history = newer ++ .set id ⟨p, uri, version⟩ ds :: older →
      uri = p.document.uri ∧ version = p.document.version ∧
      ∃ es₀ e es₁ between before fs, es = es₀ ++ e :: es₁ ∧
        older = between ++ .checked id p true true :: before ∧
        (∀ x ∈ between, x.guarded = false) ∧
        Makes ((initial config).play es₀) e (.checked id p true true) before ∧
        ds = p.diagnostics fs ∧ (fs = [] ∨ .replied id p (.ok fs) ∈ older) := by
  have start := initial_sound config
  have sound := play_sound start es
  refine ⟨fun uri => play_noted config uri.text es, fun {e id p older} made => ⟨?_, ?_⟩,
    fun {newer older id p uri version ds} history => ?_⟩
  · obtain ⟨⟨i, x, rfl⟩, _⟩ := made.served rfl sound
    rw [← play_noted config, ← play_noted config, play_append]
    rfl
  · intro d known html
    rw [← play_noted config] at known
    obtain ⟨rfl, _⟩ := ((initial_covered config).play start es).check sound made known html
    exact ⟨rfl, fun fs s connected => by simp [Session.report, connected, Pass.diagnostics]⟩
  · obtain ⟨rfl, rfl⟩ := sound.arises.handed_set history
    refine ⟨rfl, rfl, ?_⟩
    obtain ⟨between, before, rfl, quiet, _⟩ := sound.arises.cleared history
    have cut : ((initial config).play es).history =
        (newer ++ .set id p.update ds :: between) ++ .checked id p true true :: before := by
      simpa [Pass.update] using history
    obtain ⟨es₀, e, es₁, split, made⟩ := start.made es cut List.nil_suffix
    rcases sound.arises.set_brings history with rfl | ⟨fs, found, replied⟩
    · exact ⟨es₀, e, es₁, between, before, [], split, rfl, quiet, made, rfl, .inl rfl⟩
    · exact ⟨es₀, e, es₁, between, before, fs, split, rfl, quiet, made, found, .inr replied⟩

def emptyWorkspace : Workspace := ⟨.empty, ⟨[]⟩⟩

def changedPage : Document := { TaskPool.emptyPage with text := "<p>\n<b>", version := some 2 }

def openTag : Finding := ⟨"tag-pair", .error, "not closed", 2, 1⟩

def changedPageSteps : List Step :=
  [.notify emptyWorkspace (.opened { TaskPool.emptyPage with text := "<p>", version := some 1 }),
    .notify emptyWorkspace (.changed changedPage.uri 2 ["<a>", "<p>\n<b>"]),
    .resume 1 .done, .resume 1 (.editorSettings none), .resume 1 .done,
    .resume 1 (.linterReply (.ok [openTag]))]

theorem changed_page_current :
    (∃ older, Makes ((initial none).play changedPageSteps) (.resume 1 .done)
      (.checked 1 ⟨changedPage, 2⟩ true true) older) ∧
    (∀ s : Session, s.stage.isConnected = true →
      s.report (.set 1 ⟨⟨changedPage, 2⟩, changedPage.uri, some 2⟩
        (Pass.diagnostics ⟨changedPage, 2⟩ [openTag])) = s.send
        (.published changedPage.uri [⟨⟨⟨1, 0⟩, ⟨1, 3⟩⟩, .error, "tag-pair", openTag.display⟩]
          (some 2))) ∧
    ∃ es₀ e es₁ older, changedPageSteps ++ [.resume 1 .done, .resume 1 .applied] = es₀ ++ e :: es₁ ∧
      Makes ((initial none).play es₀) e (.checked 1 ⟨changedPage, 2⟩ true true) older := by
  have made : Makes ((initial none).play changedPageSteps) (.resume 1 .done)
      (.checked 1 ⟨changedPage, 2⟩ true true) ((initial none).play changedPageSteps).history :=
    ⟨⟨[], rfl⟩, List.suffix_rfl⟩
  have current := ((diagnostics_current none changedPageSteps).2.1 made).2 rfl rfl
  refine ⟨⟨_, made⟩, current.2 [openTag], ?_⟩
  have history : ((initial none).play
      (changedPageSteps ++ [.resume 1 .done, .resume 1 .applied])).history =
      [] ++ .set 1 ⟨⟨changedPage, 2⟩, changedPage.uri, some 2⟩
        (Pass.diagnostics ⟨changedPage, 2⟩ [openTag]) :: .checked 1 ⟨changedPage, 2⟩ true true ::
          ((initial none).play changedPageSteps).history := rfl
  obtain ⟨_, _, es₀, e, es₁, _, older, _, split, _, _, made, _⟩ :=
    (diagnostics_current none _).2.2 history
  exact ⟨es₀, e, es₁, older, split, made⟩

end Server.Backend

end MarkupLint
