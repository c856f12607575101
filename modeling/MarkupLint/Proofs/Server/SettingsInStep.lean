import MarkupLint.Proofs.Adapter.ConfigurationFreshness
import MarkupLint.Proofs.Adapter.GivenSettings
import MarkupLint.Proofs.Server.CurrentText
import MarkupLint.Proofs.Server.Reload
import MarkupLint.Proofs.Url.FilePath

/-! The settings of the file and those that were pushed, the linter made from them, and the kept
configurations resolved from them stay in step, as long as the editor is not asked for settings. -/
namespace MarkupLint

open History
open Map (Dict)

variable {L : Type}

def Event.isClear : Event L → Bool
  | .cleared => true
  | _ => false

namespace History

def sinceClear (h : List (Event L)) : List (Event L) := h.takeWhile fun e => !e.isClear

theorem sinceClear_append {es : List (Event L)} (h : List (Event L))
    (kept : ∀ e ∈ es, e.isClear = false) : sinceClear (es ++ h) = es ++ sinceClear h :=
  List.takeWhile_append_of_pos (by simpa using kept)

theorem mem_sinceClear (key : String) {h : List (Event L)} {e : Event L}
    (he : e ∈ sinceDrop key h) : e ∈ sinceClear h := by
  induction h with
  | nil => simp [sinceDrop] at he
  | cons x h ih =>
    cases drops : x.dropsKey key with
    | true => simp [sinceDrop, drops] at he
    | false =>
      have keeps : x.isClear = false := by
        cases x with
        | cleared => simp [Event.dropsKey] at drops
        | _ => rfl
      have cut : sinceClear (x :: h) = x :: sinceClear h := by simp [sinceClear, keeps]
      rw [sinceDrop, List.takeWhile_cons, drops] at he
      rw [cut]
      rcases List.mem_cons.mp he with rfl | he
      · exact List.mem_cons_self
      · exact List.mem_cons_of_mem _ (ih he)

end History

namespace Settings

def named (s : Settings) : LinterCommand := s.linter.getD ⟨"htmllinter-run", []⟩

/-- What is run for settings in a directory: the command that they name with its arguments. The path
of a program is taken from the directory of the config file, where there is one and the path is
relative; a bare name is left as it is. -/
structure Runs (s : Settings) (directory : Option Path) (l : LinterProgram) : Prop where
  args : l.args = s.named.args
  directory : l.workingDir = directory
  beside : ∀ base, s.baseDir = some base → (Path.ofText s.named.command).isAbsolute = false →
    1 < (Path.ofText s.named.command).components.length →
    l.program = (base.join (.ofText s.named.command)).text
  plain : s.baseDir = none ∨ (Path.ofText s.named.command).isAbsolute = true ∨
    (Path.ofText s.named.command).components.length ≤ 1 → l.program = s.named.command

variable {s : Settings} {base : Path}

theorem linterCommand_alone (alone : s.baseDir = none) : s.linterCommand = s.named := by
  simp only [linterCommand, alone]
  rfl

theorem linterCommand_beside (config : s.baseDir = some base) :
    s.linterCommand =
      if !(Path.ofText s.named.command).isAbsolute &&
          1 < (Path.ofText s.named.command).components.length then
        { s.named with command := (base.join (.ofText s.named.command)).text }
      else s.named := by
  simp only [linterCommand, config]
  rfl

theorem linter_command_runs (s : Settings) (directory : Option Path) :
    s.Runs directory (.ofCommand s.linterCommand directory) := by
  cases config : s.baseDir with
  | none =>
    rw [linterCommand_alone config]
    exact ⟨rfl, rfl, fun base given => by simp [config] at given, fun _ => rfl⟩
  | some base =>
    rw [linterCommand_beside config]
    split
    · rename_i inside
      simp only [Bool.and_eq_true, Bool.not_eq_true', decide_eq_true_eq] at inside
      refine ⟨rfl, rfl, fun other given _ _ => ?_, ?_⟩
      · obtain rfl : base = other := Option.some.inj (config.symm.trans given)
        rfl
      · rintro (alone | absolute | bare)
        · simp [config] at alone
        · simp [inside.1] at absolute
        · exact absurd inside.2 (Nat.not_lt.mpr bare)
    · rename_i outside
      exact ⟨rfl, rfl, fun _ _ relative inside => by simp [relative, inside] at outside,
        fun _ => rfl⟩

end Settings

namespace Server

/-- The settings of the file, or the default ones, with those that were pushed on top, or the
default ones where these are bad. -/
def State.merged (s : State) : Settings :=
  (s.fileSettings.getD .default).layer ((Settings.ofValue s.pushed).toOption.getD .default)

namespace Backend

variable {b c : Backend} {linter : LinterProgram} {root : Option Path}

def Step.Fits (b : Backend) : Step → Prop
  | .introduce _ _ => False
  | .resume _ (.editorSettings (some _)) => b.state.pullsSettings = true
  | _ => True

inductive Introduced (start : Backend) : Backend → Prop where
  | refl : Introduced start start
  | step {b : Backend} (h : Introduced start b) (e : Step) (fits : e.Fits b) :
      Introduced start (b.apply e)

structure InStep (root : Option Path) (b : Backend) : Prop where
  pushes : b.state.pullsSettings = false
  root : b.state.root = root
  linter : b.pool.adapter.linter = b.state.linter
  given : ∀ s ∈ givens (sinceClear b.history), s = b.state.merged

/-- Where the settings stay as they are, nothing is dropped and nothing but them is given, all stays
in step. -/
theorem InStep.frame (h : InStep root b) (documents : Dict Document)
    (state : c.state = { b.state with documents := documents })
    (linter : c.pool.adapter.linter = b.pool.adapter.linter)
    (es : List (Event LinterProgram)) (history : c.history = es ++ b.history)
    (kept : ∀ e ∈ es, e.isClear = false) (given : ∀ s ∈ givens es, s = b.state.merged) :
    InStep root c := by
  constructor
  · rw [state]
    exact h.pushes
  · rw [state]
    exact h.root
  · rw [state, linter]
    exact h.linter
  · intro s hs
    have merged : c.state.merged = b.state.merged := by rw [state]; rfl
    rw [history, sinceClear_append _ kept, givens_append] at hs
    rw [merged]
    exact (List.mem_append.mp hs).elim (given s) (h.given s)

theorem InStep.issues (h : InStep root b) {ds : List Document} (i : Issues b c ds) : InStep root c := by
  obtain ⟨ps, history, _⟩ := i.history
  exact h.frame b.state.documents i.state i.linter _ history (by simp [Event.isClear])
    (by simp [givens, Event.given?])

theorem InStep.renew (h : InStep root b) {s : State} (pulls : s.pullsSettings = b.state.pullsSettings)
    (rooted : s.root = b.state.root) :
    InStep root (b.renew s) := by
  have cleared : InStep root ⟨s, (b.pool.step (.setLinter s.linter)).step .invalidate⟩ := by
    refine ⟨pulls.trans h.pushes, rooted.trans h.root, rfl, fun t ht => ?_⟩
    have none : sinceClear (Event.cleared :: .linterSet s.linter :: b.history) = [] := rfl
    simp [history, TaskPool.step, none, givens] at ht
  exact cleared.issues (renew_issues b s)

theorem Effect.in_step (e : Effect b c) (h : InStep root b) : InStep root c := by
  cases e with
  | none => exact h
  | store d =>
    have stored : InStep root { b with state := b.state.setDocument d } :=
      ⟨h.pushes, h.root, h.linter, h.given⟩
    exact stored.issues (store_issues b d)
  | close uri =>
    refine h.frame (b.state.documents.erase uri.text) rfl ?_ [_] (close_history b uri) ?_ ?_
    · rw [close_pool]
      rfl
    · simp [Event.isClear]
    · simp [givens, Event.given?]
  | watch ds => exact h.issues (start_visible_issues b ds)
  | renew s same pulls rooted => exact h.renew pulls rooted

theorem Sound.resume_gives (h : Sound linter b) (id : TaskId) (x : Arrival) :
    Adapter.Gives (b.answer x) b.pool.adapter (b.resume id x).pool.adapter := by
  simp only [Backend.resume, step, TaskPool.step, TaskPool.resume]
  split
  · exact .inl rfl
  · rename_i t here
    exact b.pool.adapter.resume_task_gives id (b.answer x) (h.serving here)

/-- An editor that is not asked lets the settings be as they are. -/
theorem InStep.answer (h : InStep root b) {id : TaskId} {x : Arrival}
    (fits : (Step.resume id x).Fits b) {s : Settings} (answer : b.answer x = .settings s) :
    s = b.state.merged := by
  cases x with
  | editorSettings values =>
    cases values with
    | none => exact (Answer.settings.inj answer).symm
    | some values =>
      have pulls : b.state.pullsSettings = true := fits
      simp [h.pushes] at pulls
  | _ => simp [Backend.answer] at answer

theorem InStep.resume (h : InStep root b) (sound : Sound linter b) (id : TaskId) {x : Arrival}
    (fits : (Step.resume id x).Fits b) : InStep root (b.resume id x) := by
  obtain ⟨same, es, history, plain⟩ := sound.resume_served id x
  have parts : givens (b.resume id x).history = givens es ++ givens b.history := by
    rw [history, givens_append]
  have given : ∀ s ∈ givens es, s = b.state.merged := by
    rcases sound.resume_gives id x with none | ⟨t, answer, one⟩
    · have empty : givens es = [] := List.append_left_eq_self.mp (parts.symm.trans none)
      simp [empty]
    · have only : givens es = [t] := by
        have whole : givens es ++ givens b.history = [t] ++ givens b.history := parts.symm.trans one
        exact List.append_cancel_right whole
      simpa [only] using h.answer fits answer
  refine h.frame b.state.documents rfl same es history (fun e he => ?_) given
  have order := plain e he
  cases e with
  | cleared => simp [Event.isOrder] at order
  | _ => rfl

theorem InStep.after (h : InStep root b) (sound : Sound linter b) {e : Step} (fits : e.Fits b) :
    InStep root (b.apply e) := by
  cases e with
  | introduce w i => exact fits.elim
  | notify w n => exact (notify_effect b w n).in_step h
  | resume id x => exact h.resume sound id fits

theorem introduced_in_step {start : Backend} (h : Introduced start b) (sound : Sound linter start)
    (first : InStep root start) : Sound linter b ∧ InStep root b := by
  induction h with
  | refl => exact ⟨sound, first⟩
  | step _ e fits ih => exact ⟨ih.1.after e, ih.2.after ih.1 fits⟩

theorem introduction_in_step (config : Option Path) (w : Workspace) {i : Introduction}
    (pushes : i.pullsSettings = false) :
    InStep (i.root.bind Url.filePath?) ((initial config).introduce w i) := by
  refine ⟨?_, ?_, rfl, fun s hs => ?_⟩
  · refine (State.reload_pulls _ w).trans ?_
    cases i.settings <;> exact pushes
  · refine (State.reload_root _ w).trans ?_
    cases i.settings <;> exact Option.or_none
  · have none : givens (sinceClear ((initial config).introduce w i).history) = [] := rfl
    simp [none] at hs

/-- With an editor that is not asked for settings, the linter always runs the command that the
settings of the file name, with those that were pushed last on top, in the root of the workspace;
and what is kept for a key was resolved from these settings for a document of that key. -/
theorem settings_in_step {config : Option Path} {w : Workspace} {i : Introduction} {b : Backend}
    (h : Introduced ((initial config).introduce w i) b) (pushes : i.pullsSettings = false) :
    b.state.root = i.root.bind Url.filePath? ∧
      b.state.merged.Runs b.state.root b.pool.adapter.linter ∧
      ∀ {key used}, b.pool.adapter.cache.get? key = some used →
        ∃ uri : Url, uri.cacheKey = key ∧ used = DocumentConfig.resolve b.state.merged uri := by
  obtain ⟨sound, inStep⟩ := introduced_in_step h ((initial_sound config).introduce w i)
    (introduction_in_step config w pushes)
  refine ⟨inStep.root, ?_, fun {key used} kept => ?_⟩
  · rw [inStep.linter]
    exact b.state.merged.linter_command_runs b.state.root
  · obtain ⟨id, uri, s, same, computed, newer, mid, older, whole, _⟩ :=
      sound.arises.fresh.adapter.entries kept
    have given : .settingsGiven id uri s ∈ sinceClear b.history :=
      mem_sinceClear key (by simp [history, whole])
    have now := inStep.given s (List.mem_filterMap.mpr ⟨_, given, rfl⟩)
    exact ⟨uri, same, by rw [computed, now]⟩

def toolWorkspace : Workspace :=
  srvWorkspace ".htmllinterrc.json"
    "\x7b\"linter\":\x7b\"command\":\"bin/lint\",\"args\":[\"-q\"]\x7d\x7d"

def strictIntroduction : Introduction :=
  ⟨false, some (.object [("extend", .text "strict")]), some (fileUrl "/srv")⟩

def strictServer : Backend := (initial none).introduce toolWorkspace strictIntroduction

theorem strict_page_in_step :
    ∃ b used, Introduced strictServer b ∧ strictIntroduction.pullsSettings = false ∧
      b.pool.adapter.cache.get? changedPage.uri.cacheKey = some used ∧
      used.rules.base = "strict" ∧
      b.pool.adapter.linter = ⟨"/srv/bin/lint", ["-q"], some (.ofText "/srv")⟩ ∧
      b.state.root = (some (fileUrl "/srv")).bind Url.filePath? ∧
      b.state.merged.Runs b.state.root b.pool.adapter.linter ∧
      ∃ uri : Url, uri.cacheKey = changedPage.uri.cacheKey ∧
        used = DocumentConfig.resolve b.state.merged uri := by
  let b := strictServer.play [.notify emptyWorkspace (.opened changedPage), .resume 0 .done,
    .resume 0 (.editorSettings none), .resume 0 .done]
  have introduced : Introduced strictServer b :=
    (((Introduced.refl.step (.notify emptyWorkspace (.opened changedPage)) trivial).step
      (.resume 0 .done) trivial).step (.resume 0 (.editorSettings none)) trivial).step
      (.resume 0 .done) trivial
  obtain ⟨rooted, runs, resolved⟩ := settings_in_step introduced rfl
  have kept : (b.pool.adapter.cache.get? changedPage.uri.cacheKey).map (fun c => c.rules.base) =
      some "strict" := by decide +kernel
  obtain ⟨used, here, base⟩ := Option.map_eq_some_iff.mp kept
  exact ⟨b, used, introduced, rfl, here, base, by decide +kernel, rooted, runs, resolved here⟩

end Backend

end Server

end MarkupLint
