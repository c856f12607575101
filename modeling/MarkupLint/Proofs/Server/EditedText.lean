import MarkupLint.Proofs.Server.SettingsReach

/-! An edit takes the turn from every pass of the document that was issued before, as long as the
document is HTML. An edit of another document issues no pass: a pass that was issued when such a
document became visible keeps its turn, and publishes what it found in the replaced text. -/
namespace MarkupLint

open History

variable {L : Type}

namespace History

theorem lastTurn_earlier {new old : List (Event L)} {u : String} {p : Pass}
    (issued : .issued p ∈ old) (once : ¬ Before (new ++ old) (.issued p) (.issued p)) :
    lastTurn u (new ++ old) = some (.issued p) ↔
      lastTurn u old = some (.issued p) ∧ lastTurn u new = none := by
  rw [lastTurn_append]
  cases last : lastTurn u new with
  | none => simp
  | some e =>
    have there : e ∈ new := List.mem_of_find?_eq_some last
    constructor
    · intro eq
      obtain rfl : e = .issued p := by simpa using eq
      exact absurd (before_of_mem there issued) once
    · rintro ⟨_, none⟩
      contradiction

theorem suffix_of_not_mem {es h before : List (Event L)} {x : Event L}
    (s : x :: before <:+ es ++ h) (absent : x ∉ es) : x :: before <:+ h := by
  obtain ⟨newer, eq⟩ := s
  rcases List.append_eq_append_iff.mp eq with ⟨late, split, cut⟩ | ⟨late, _, rfl⟩
  · cases late with
    | nil => exact cut ▸ List.suffix_rfl
    | cons y late =>
      obtain ⟨rfl, _⟩ := List.cons.inj cut
      exact absurd (by simp [split]) absent
  · exact List.suffix_append late _

end History

namespace Server

def Notification.edits (uri : Url) : Notification → Bool
  | .changed u _ texts => u = uri && !texts.isEmpty
  | .saved u text => u = uri && text.isSome
  | _ => false

namespace Backend

variable {b : Backend} {linter : LinterProgram} {n : Notification} {uri : Url} {d : Document}

theorem edits_store (w : Workspace) (edit : n.edits uri = true)
    (known : b.state.document? uri = some d) :
    ∃ e : Document, b.apply (.notify w n) = b.store e ∧ e.uri = d.uri ∧ e.isHtml = d.isHtml := by
  cases n with
  | changed u version texts =>
    simp only [Notification.edits, Bool.and_eq_true, decide_eq_true_eq] at edit
    obtain ⟨rfl, some_⟩ := edit
    cases last : texts.getLast? with
    | none => simp [List.getLast?_eq_none_iff.mp last] at some_
    | some text =>
      refine ⟨{ d with text := text, version := some version }, ?_, rfl, rfl⟩
      simp [apply, notify, change, last, known, store]
  | saved u text =>
    simp only [Notification.edits, Bool.and_eq_true, decide_eq_true_eq] at edit
    obtain ⟨rfl, _⟩ := edit
    refine ⟨{ d with text := text.getD d.text }, ?_, rfl, rfl⟩
    simp [apply, notify, save, known, store]
  | _ => simp [Notification.edits] at edit

/-- An edit issues a pass for the document if it is HTML, and does nothing more if it is not. -/
theorem Sound.edit_history (sound : Sound linter b) (w : Workspace) (edit : n.edits uri = true)
    (known : b.state.document? uri = some d) :
    ∃ ps : List Pass, (b.apply (.notify w n)).history = ps.map .issued ++ b.history ∧
      (∀ p ∈ ps, p.url = uri.text) ∧ (d.isHtml = true ↔ ps ≠ []) := by
  obtain ⟨e, stored, place, same⟩ := edits_store w edit known
  obtain ⟨ps, history, documents⟩ := (store_issues b e).history
  refine ⟨ps, by rw [stored]; exact history, ?_, ?_⟩
  · intro p hp
    have brought : p.document ∈ ([e].filter Document.isHtml).reverse :=
      documents ▸ List.mem_map_of_mem hp
    simp only [List.mem_reverse, List.mem_filter, List.mem_singleton] at brought
    rw [Pass.url, brought.1, place]
    exact sound.filed known
  · cases html : e.isHtml with
    | true => simp [← same, html, ← List.map_eq_nil_iff (f := Pass.document), documents]
    | false => simp [← same, html, ← List.map_eq_nil_iff (f := Pass.document), documents]

/-- What a pass from before an edit needs to have the turn after it. -/
theorem Sound.turn_after_edit (sound : Sound linter b) (w : Workspace) (edit : n.edits uri = true)
    (known : b.state.document? uri = some d) {p : Pass} (url : p.url = uri.text)
    (issued : .issued p ∈ b.history) {since : List (Event LinterProgram)}
    (grown : (b.apply (.notify w n)).history <:+ since)
    (once : ¬ Before since (.issued p) (.issued p)) :
    ∃ new, since = new ++ b.history ∧ (lastTurn p.url since = some (.issued p) ↔
      d.isHtml = false ∧ lastTurn p.url b.history = some (.issued p) ∧
        lastTurn p.url new = none) := by
  obtain ⟨ps, history, own, html⟩ := sound.edit_history w edit known
  obtain ⟨late, rfl⟩ := grown
  rw [history, ← List.append_assoc] at once ⊢
  refine ⟨late ++ ps.map .issued, rfl, ?_⟩
  rw [lastTurn_earlier issued once]
  constructor
  · rintro ⟨old, none⟩
    refine ⟨?_, old, none⟩
    cases plain : d.isHtml with
    | false => rfl
    | true =>
      obtain ⟨q, hq⟩ := List.exists_mem_of_ne_nil ps (html.mp plain)
      have turns : (Event.issued q : Event LinterProgram).turns p.url = true := by
        simp [Event.turns, url, own q hq]
      have absent := List.find?_eq_none.mp none (.issued q) (by simp [hq])
      contradiction
  · rintro ⟨_, old, none⟩
    exact ⟨old, none⟩

/-- A pass from before an edit is let through after it just when the document is not HTML and
nothing was issued or closed for it since the pass. So what is published for an HTML document from
such a pass was let through before the edit. -/
theorem edits_supersede {config : Option Path} (h : Reachable (initial config) b) (w : Workspace)
    (edit : n.edits uri = true) (known : b.state.document? uri = some d) :
    (∀ more {e id p locked current older},
      Makes ((b.apply (.notify w n)).play more) e (.checked id p locked current) older →
      p.url = uri.text → .issued p ∈ b.history →
      ∃ new, older = new ++ b.history ∧
        (current = true ↔ d.isHtml = false ∧ lastTurn p.url b.history = some (.issued p) ∧
          lastTurn p.url new = none)) ∧
    ∀ more {newer older id p place version ds}, d.isHtml = true →
      ((b.apply (.notify w n)).play more).history =
        newer ++ .set id ⟨p, place, version⟩ ds :: older →
      p.url = uri.text → .issued p ∈ b.history →
      ∃ between before, older = between ++ .checked id p true true :: before ∧
        (∀ x ∈ between, x.guarded = false) ∧ .checked id p true true :: before <:+ b.history := by
  have sound := reachable_sound h
  have edited := sound.after (.notify w n)
  have turn := fun {p : Pass} => sound.turn_after_edit w edit known (p := p)
  constructor
  · intro more e id p locked current older made url issued
    have arises := ((play_sound edited more).after e).arises
    obtain ⟨⟨newer, whole⟩, recent⟩ := made
    have part : older <:+ (((b.apply (.notify w n)).play more).apply e).history :=
      (List.suffix_cons _ older).trans ⟨newer, whole.symm⟩
    rw [arises.check_fits whole]
    exact turn url issued ((edited.play_grows more).trans recent) (arises.tracked.once_since part)
  · intro more newer older id p place version ds html whole url issued
    have arises := (play_sound edited more).arises
    obtain ⟨rfl, rfl⟩ := arises.handed_set whole
    obtain ⟨between, before, rfl, quiet, last⟩ := arises.cleared whole
    refine ⟨between, before, rfl, quiet, ?_⟩
    have part : .checked id p true true :: before <:+ ((b.apply (.notify w n)).play more).history :=
      ⟨newer ++ .set id p.update ds :: between, by simp [whole, Pass.update]⟩
    have once : ¬ Before before (.issued p) (.issued p) :=
      arises.tracked.once_since ((List.suffix_cons _ _).trans part)
    obtain ⟨ps, history, _⟩ := sound.edit_history w edit known
    have absent : .checked id p true true ∉ ps.map (Event.issued (L := LinterProgram)) := by simp
    have late : ¬ (b.apply (.notify w n)).history <:+ before := by
      intro grown
      obtain ⟨new, _, current⟩ := turn url issued grown once
      have plain := (current.mp last).1
      simp [html] at plain
    rcases List.suffix_or_suffix_of_suffix part (edited.play_grows more) with early | grown
    · exact suffix_of_not_mem (history ▸ early) absent
    · rcases List.suffix_cons_iff.mp grown with same | grown
      · exact suffix_of_not_mem (history ▸ same ▸ List.suffix_rfl) absent
      · exact absurd grown late

def lintedPage : Backend := heldPage.play [.resume 0 (.editorSettings none), .resume 0 .done]

def clearedPage : Backend := lintedPage.apply (.resume 0 (.linterReply (.ok [])))

def savedText : Notification := .saved changedPage.uri (some "<i>")

/-- Saved before the linter replies, the page takes the turn from its pass; saved after the check
under the lock, it comes too late. -/
theorem saved_page_supersedes :
    savedText.edits changedPage.uri = true ∧
    lintedPage.state.document? changedPage.uri = some changedPage ∧
    (∃ older, Makes (lintedPage.apply (.notify emptyWorkspace savedText))
        (.resume 0 (.linterReply (.ok []))) (.checked 0 ⟨changedPage, 1⟩ false false) older ∧
      ∃ new, older = new ++ lintedPage.history ∧ (false = true ↔ changedPage.isHtml = false ∧
        lastTurn changedPage.uri.text lintedPage.history = some (.issued ⟨changedPage, 1⟩) ∧
          lastTurn changedPage.uri.text new = none)) ∧
    ∃ older, (clearedPage.play [.notify emptyWorkspace savedText, .resume 0 .applied]).history =
        .set 0 ⟨⟨changedPage, 1⟩, changedPage.uri, some 2⟩ [] :: older ∧
      ∃ between before, older = between ++ .checked 0 ⟨changedPage, 1⟩ true true :: before ∧
        (∀ x ∈ between, x.guarded = false) ∧
        .checked 0 ⟨changedPage, 1⟩ true true :: before <:+ clearedPage.history := by
  have linted : Reachable (initial none) lintedPage :=
    play_reachable (play_reachable .refl _) _
  have cleared : Reachable (initial none) clearedPage := linted.step _
  have edit : savedText.edits changedPage.uri = true := rfl
  have known : lintedPage.state.document? changedPage.uri = some changedPage := rfl
  have still : clearedPage.state.document? changedPage.uri = some changedPage := rfl
  have made : Makes (lintedPage.apply (.notify emptyWorkspace savedText))
      (.resume 0 (.linterReply (.ok []))) (.checked 0 ⟨changedPage, 1⟩ false false)
      (.replied 0 ⟨changedPage, 1⟩ (.ok []) ::
        (lintedPage.apply (.notify emptyWorkspace savedText)).history) :=
    ⟨⟨[_, _], rfl⟩, [_], rfl⟩
  have early : .issued ⟨changedPage, 1⟩ ∈ lintedPage.history := List.mem_of_getElem? (i := 6) rfl
  have old : .issued ⟨changedPage, 1⟩ ∈ clearedPage.history := List.mem_of_getElem? (i := 9) rfl
  have published :
      (clearedPage.play [.notify emptyWorkspace savedText, .resume 0 .applied]).history =
        [] ++ .set 0 ⟨⟨changedPage, 1⟩, changedPage.uri, some 2⟩ [] ::
          (clearedPage.apply (.notify emptyWorkspace savedText)).history := rfl
  have turn := (edits_supersede linted emptyWorkspace edit known).1 [] made rfl early
  have before := (edits_supersede cleared emptyWorkspace edit still).2 [.resume 0 .applied] rfl
    published rfl old
  exact ⟨edit, known, ⟨_, made, turn⟩, _, published, before⟩

def plainPage : Document := { changedPage with language := "xml" }

def visiblePage : Backend :=
  (initial none).play [.notify emptyWorkspace (.opened plainPage),
    .notify emptyWorkspace (.visible [plainPage.uri])]

def editedPage : Backend :=
  visiblePage.play [.notify emptyWorkspace savedText, .resume 0 .done,
    .resume 0 (.editorSettings none), .resume 0 .done, .resume 0 (.linterReply (.ok [openTag]))]

/-- The pass of a visible page of another language is let through after the page was saved with
another text, and publishes what the linter found in the text before. -/
theorem visible_pass_outlives_edit :
    Reachable (initial none) visiblePage ∧ savedText.edits plainPage.uri = true ∧
    visiblePage.state.document? plainPage.uri = some plainPage ∧
    .issued ⟨plainPage, 1⟩ ∈ visiblePage.history ∧
    editedPage.state.document? plainPage.uri = some { plainPage with text := "<i>" } ∧
    Makes editedPage (.resume 0 .done) (.checked 0 ⟨plainPage, 1⟩ true true) editedPage.history ∧
    .set 0 ⟨⟨plainPage, 1⟩, plainPage.uri, some 2⟩ (Pass.diagnostics ⟨plainPage, 1⟩ [openTag]) ∈
      (editedPage.play [.resume 0 .done, .resume 0 .applied]).history := by
  refine ⟨play_reachable .refl _, rfl, rfl, List.mem_of_getElem? (i := 0) rfl, rfl, ?_, ?_⟩
  · exact ⟨⟨[], rfl⟩, List.suffix_rfl⟩
  · exact List.mem_of_getElem? (i := 0) rfl

end Backend

end Server

end MarkupLint
