import MarkupLint.Proofs.Adapter.Usage
import MarkupLint.Proofs.Server.CurrentText

/-! A change of the settings reaches every open HTML document: each gets one pass, and whatever is
let through for it later was issued since then, and used nothing from before the change. -/
namespace MarkupLint.Server

open History
open TaskPool (Arises)

def State.renews (s : State) : Notification → Bool
  | .settingsPushed _ => true
  | .filesChanged uris => uris.any s.concerns
  | _ => false

namespace Backend

variable {b c : Backend} {linter : LinterProgram}

theorem renews_renew (w : Workspace) {n : Notification} (renews : b.state.renews n = true) :
    ∃ s, s.documents = b.state.documents ∧ b.apply (.notify w n) = b.renew s := by
  cases n with
  | settingsPushed v => exact ⟨b.state.push v, rfl, rfl⟩
  | filesChanged uris =>
    have concerned : uris.any b.state.concerns = true := renews
    refine ⟨(b.state.reload w).1, b.state.reload_documents w, ?_⟩
    simp [apply, notify, State.filesChanged, concerned, renew]
  | _ => simp [State.renews] at renews

theorem Sound.open_at (h : Sound linter b) (u : String) :
    b.state.openDocuments.filter (fun d => d.uri.text = u) =
      (b.state.documents.get? u).toList := by
  have keyed : ∀ e ∈ b.state.documents.entries, decide (e.2.uri.text = u) = (e.1 == u) := by
    intro e he
    rw [h.filed ((b.state.documents.mem_entries_iff e.1 e.2).mp he)]
    rfl
  have only := b.state.documents.sorted.filter_key u
  rw [State.openDocuments, List.filter_map, Function.comp_def, List.filter_congr keyed, only]
  rw [List.map_map]
  exact List.map_id _

theorem renew_history (b : Backend) (s : State) :
    ∃ ps : List Pass, (b.renew s).history =
        ps.map .issued ++ .cleared :: .linterSet s.linter :: b.history ∧
      ps.map Pass.document = (s.openDocuments.filter Document.isHtml).reverse :=
  (renew_issues b s).history

/-- Every open HTML document gets one pass, and no other document gets any. -/
theorem renew_passes (sound : Sound linter b) {s : State}
    (same : s.documents = b.state.documents) :
    ∃ new, (b.renew s).history = new ++ b.history ∧
      ∀ u, ((issuedPasses new).filter fun p => p.url = u).map Pass.document =
        (b.state.documents.get? u).toList.filter Document.isHtml := by
  obtain ⟨ps, history, documents⟩ := renew_history b s
  refine ⟨ps.map .issued ++ [.cleared, .linterSet s.linter], by simp [history], fun u => ?_⟩
  have issued : issuedPasses (ps.map .issued ++ [.cleared, .linterSet s.linter]) = ps := by
    simp [issuedPasses, List.filterMap_map, Function.comp_def, Event.issued?]
  have open_ : s.openDocuments = b.state.openDocuments := by
    rw [State.openDocuments, same, State.openDocuments]
  calc ((issuedPasses (ps.map .issued ++ [.cleared, .linterSet s.linter])).filter
        fun p => p.url = u).map Pass.document
    _ = (ps.map Pass.document).filter fun d => d.uri.text = u := by
      rw [issued, List.filter_map]
      rfl
    _ = ((b.state.openDocuments.filter fun d => d.uri.text = u).filter
        Document.isHtml).reverse := by
      rw [documents, List.filter_reverse, List.filter_comm, open_]
    _ = ((b.state.documents.get? u).toList.filter Document.isHtml).reverse := by
      rw [sound.open_at]
    _ = (b.state.documents.get? u).toList.filter Document.isHtml := by
      cases b.state.documents.get? u with
      | none => rfl
      | some d => cases html : d.isHtml <;> simp [html]

theorem renew_covered {s : State} (sound : Sound linter (b.renew s)) :
    Covered (.cleared :: .linterSet s.linter :: b.history) (b.renew s) := renew_turn sound

theorem reachable_sound {config : Option Path} (h : Reachable (initial config) b) :
    Sound (State.initial config).linter b := by
  induction h with
  | refl => exact initial_sound config
  | step _ e ih => exact ih.after e

theorem installed_renewed (since older : List (Event LinterProgram)) (l : LinterProgram) :
    installed? (since ++ .cleared :: .linterSet l :: older) =
      some ((installed? since).getD l) := by
  have last : installed? (.cleared :: .linterSet l :: older) = some l := rfl
  rw [installed?, List.findSome?_append, ← installed?, ← installed?, last]
  cases installed? since <;> rfl

theorem Sound.check_renewed (sound : Sound linter b) {s : State}
    (same : s.documents = b.state.documents) (more : List Step) {e : Step} {id : TaskId} {p : Pass}
    {older : List (Event LinterProgram)} {d : Document}
    (made : Makes ((b.renew s).play more) e (.checked id p true true) older)
    (kept : ((b.renew s).play more).state.documents.get? p.url = some d)
    (html : d.isHtml = true) :
    ∃ recent, older = recent ++ b.history ∧ .issued p ∈ recent ∧
      (∀ {i called text rules}, .lintCalled i called ⟨p, text⟩ rules ∈ older →
        text = p.document.text ∧ ∃ late since,
          recent = late ++ .lintCalled i called ⟨p, text⟩ rules :: since ∧
          installed? since = some called) ∧
      ∃ used, Uses id p used older ∧ Resolved p.document.uri.cacheKey used recent := by
  have renewed := sound.renew same
  have played := play_sound renewed more
  obtain ⟨_, recent, rfl, issued⟩ := ((renew_covered renewed).play renewed more).check played made
    kept html
  obtain ⟨⟨newer, history⟩, _⟩ := made
  have arises := (played.after e).arises
  refine ⟨recent ++ [.cleared, .linterSet s.linter], by simp, List.mem_append_left _ issued,
    fun {i called text rules} call => ?_, ?_⟩
  · have there : .lintCalled i called ⟨p, text⟩ rules ∈
        (((b.renew s).play more).apply e).history := by
      rw [history]
      exact List.mem_append_right _ (List.mem_cons_of_mem _ call)
    obtain rfl : text = p.document.text := arises.handed _ there
    have whole : (((b.renew s).play more).apply e).pool.adapter.history =
        (newer ++ [.checked id p true true]) ++
          (recent ++ .cleared :: .linterSet s.linter :: b.history) := by simpa using history
    obtain ⟨late, since, rfl, last⟩ := arises.called_since whole issued call
    refine ⟨rfl, late, since ++ [.cleared, .linterSet s.linter], by simp [Pass.call], ?_⟩
    rw [installed_renewed, last, installed_renewed, Option.getD_some]
  · obtain ⟨used, uses, resolved⟩ := arises.configured_since history issued
    exact ⟨used, uses, resolved.earlier _⟩

/-- When settings are pushed or a config file changes, each open HTML document gets one pass and no
other document gets any. Whatever is let through later for a document that is open as HTML then was
issued since that change; it called no linter but one installed since then, and used a configuration
from settings that were read since then. And all that is published was let through before. -/
theorem settings_reach {config : Option Path} {b : Backend} (h : Reachable (initial config) b)
    (w : Workspace) {n : Notification} (renews : b.state.renews n = true) :
    (∃ new, (b.apply (.notify w n)).history = new ++ b.history ∧
      ∀ u, ((issuedPasses new).filter fun p => p.url = u).map Pass.document =
        (b.state.documents.get? u).toList.filter Document.isHtml) ∧
    (∀ more {e id p older d},
      Makes ((b.apply (.notify w n)).play more) e (.checked id p true true) older →
      ((b.apply (.notify w n)).play more).state.documents.get? p.url = some d → d.isHtml = true →
      ∃ recent, older = recent ++ b.history ∧ .issued p ∈ recent ∧
        (∀ {i called text rules}, .lintCalled i called ⟨p, text⟩ rules ∈ older →
          text = p.document.text ∧ ∃ late since,
            recent = late ++ .lintCalled i called ⟨p, text⟩ rules :: since ∧
            installed? since = some called) ∧
        ∃ used, Uses id p used older ∧ Resolved p.document.uri.cacheKey used recent) ∧
    ∀ more {newer older id p uri version ds},
      ((b.apply (.notify w n)).play more).history =
        newer ++ .set id ⟨p, uri, version⟩ ds :: older →
      uri = p.document.uri ∧ version = p.document.version ∧
      ∃ between before, older = between ++ .checked id p true true :: before ∧
        (∀ x ∈ between, x.guarded = false) ∧
        ((b.apply (.notify w n)).history <:+ before → ∃ more₀ e more₁, more = more₀ ++ e :: more₁ ∧
          Makes ((b.apply (.notify w n)).play more₀) e (.checked id p true true) before) := by
  have sound := reachable_sound h
  obtain ⟨s, same, step⟩ := renews_renew w renews
  rw [step]
  have renewed := sound.renew same
  refine ⟨renew_passes sound same, sound.check_renewed same, ?_⟩
  intro more newer _ id p uri version ds history
  have arises := (play_sound renewed more).arises
  obtain ⟨rfl, rfl⟩ := arises.handed_set history
  refine ⟨rfl, rfl, ?_⟩
  obtain ⟨between, before, rfl, quiet, _⟩ := arises.cleared history
  have cut : ((b.renew s).play more).history =
      (newer ++ .set id p.update ds :: between) ++ .checked id p true true :: before := by
    simpa [Pass.update] using history
  exact ⟨between, before, rfl, quiet, renewed.made more cut⟩

theorem play_reachable {start : Backend} (h : Reachable start b) (es : List Step) :
    Reachable start (b.play es) := by
  induction es generalizing b with
  | nil => exact h
  | cons e es ih => exact ih (h.step e)

def heldPage : Backend :=
  (initial none).play [.notify emptyWorkspace (.opened changedPage), .resume 0 .done]

def strictSettings : Json := .object [("extend", .text "strict")]

def pushedPage : Backend :=
  heldPage.apply (.notify emptyWorkspace (.settingsPushed strictSettings))

def heldSteps : List Step :=
  [.resume 0 (.editorSettings none), .resume 0 .done, .resume 1 .done,
    .resume 1 (.editorSettings none), .resume 1 .done]

theorem held_page_reached :
    heldPage.state.renews (.settingsPushed strictSettings) = true ∧
    (∃ new, pushedPage.history = new ++ heldPage.history ∧
      ((issuedPasses new).filter fun p => p.url = changedPage.uri.text).map Pass.document =
        [changedPage]) ∧
    (∃ older recent used, Makes (pushedPage.play heldSteps) (.resume 1 (.linterReply (.ok [])))
        (.checked 1 ⟨changedPage, 2⟩ true true) older ∧
      older = recent ++ heldPage.history ∧ Uses 1 ⟨changedPage, 2⟩ used older ∧
      Resolved changedPage.uri.cacheKey used recent ∧
      ∃ called rules late since, recent = late ++
        .lintCalled 1 called ⟨⟨changedPage, 2⟩, changedPage.text⟩ rules :: since ∧ installed? since = some called) ∧
    ∃ more e older,
      Makes (pushedPage.play more) e (.checked 1 ⟨changedPage, 2⟩ true true) older := by
  have reached : Reachable (initial none) heldPage := play_reachable .refl _
  have renews : heldPage.state.renews (.settingsPushed strictSettings) = true := rfl
  obtain ⟨⟨new, history, passes⟩, checks, sets⟩ := settings_reach reached emptyWorkspace renews
  refine ⟨renews, ⟨new, history, passes _⟩, ?_, ?_⟩
  · have made : Makes (pushedPage.play heldSteps) (.resume 1 (.linterReply (.ok [])))
        (.checked 1 ⟨changedPage, 2⟩ true true)
        (.checked 1 ⟨changedPage, 2⟩ false true :: .replied 1 ⟨changedPage, 2⟩ (.ok []) ::
          (pushedPage.play heldSteps).history) := ⟨⟨[], rfl⟩, [_, _], rfl⟩
    obtain ⟨recent, cut, _, calls, used, uses, resolved⟩ := checks heldSteps made rfl rfl
    obtain ⟨_, late, since, call⟩ := calls (i := 1) (List.mem_of_getElem? (i := 2) rfl)
    exact ⟨_, recent, used, made, cut, uses, resolved, _, _, late, since, call⟩
  · have published : (pushedPage.play (heldSteps ++ [.resume 1 (.linterReply (.ok [])),
        .resume 1 .applied])).history = [] ++
          .set 1 ⟨⟨changedPage, 2⟩, changedPage.uri, some 2⟩ [] ::
          .checked 1 ⟨changedPage, 2⟩ true true :: .checked 1 ⟨changedPage, 2⟩ false true ::
            .replied 1 ⟨changedPage, 2⟩ (.ok []) :: (pushedPage.play heldSteps).history := rfl
    obtain ⟨_, _, between, before, cut, quiet, reach⟩ := sets _ published
    cases between with
    | nil =>
      obtain ⟨_, rfl⟩ := List.cons.inj cut
      have sound : Sound _ pushedPage := reachable_sound (reached.step _)
      have later := sound.play_grows heldSteps
      obtain ⟨more, e, _, _, made⟩ := reach (later.trans (List.suffix_append [_, _] _))
      exact ⟨more, e, _, made⟩
    | cons x between =>
      obtain ⟨rfl, _⟩ := List.cons.inj cut
      simp [Event.guarded] at quiet

end Backend

end MarkupLint.Server
