import MarkupLint.Proofs.Adapter.History

/-! What a task does for one pass, from the call for its configuration to its end. Whatever other
tasks do comes in between and is left out here. -/
namespace MarkupLint

open History

variable {L : Type}

def announces (line : String) : Bool := "INFO: Linting for".toList.isPrefixOf line.toList

def complains (line : String) : Bool := "ERROR: Linting".toList.isPrefixOf line.toList

section Lines

variable (key reason : String) (config : DocumentConfig) (uri : Url) (f : Finding)

@[simp] theorem announces_info : announces (infoLine key config) = true := by
  unfold announces infoLine
  simp only [String.toList_append]
  simp [List.isPrefixOf]

@[simp] theorem announces_failure : announces (failureLine uri reason) = false := by
  unfold announces failureLine
  simp only [String.toList_append]
  simp [List.isPrefixOf]

@[simp] theorem announces_finding : announces f.display = false := by
  simp [announces, Finding.display, pluginName, List.isPrefixOf]

@[simp] theorem complains_failure : complains (failureLine uri reason) = true := by
  unfold complains failureLine
  simp only [String.toList_append]
  simp [List.isPrefixOf]

@[simp] theorem complains_info : complains (infoLine key config) = false := by
  unfold complains infoLine
  simp only [String.toList_append]
  simp [List.isPrefixOf]

end Lines

def Event.line? : Event L → Option String
  | .logged _ line => some line
  | _ => none

namespace History

def logLines (es : List (Event L)) : List String := (es.filterMap Event.line?).reverse

@[simp] theorem logLines_nil : logLines ([] : List (Event L)) = [] := rfl

@[simp] theorem logLines_cons (e : Event L) (es : List (Event L)) :
    logLines (e :: es) = logLines es ++ e.line?.toList := by
  cases h : e.line? <;> simp [logLines, h]

@[simp] theorem logLines_append (es h : List (Event L)) :
    logLines (es ++ h) = logLines h ++ logLines es := by
  simp [logLines]

def reported (id : TaskId) (ds : List Diagnostic) : List (Event L) :=
  (ds.map fun d => .logged id d.message).reverse

@[simp] theorem reported_nil (id : TaskId) : (reported id [] : List (Event L)) = [] := rfl

@[simp] theorem logLines_reported (id : TaskId) (ds : List Diagnostic) :
    logLines (reported id ds : List (Event L)) = ds.map Diagnostic.message := by
  simp [logLines, reported, List.filterMap_reverse, Function.comp_def, Event.line?]

end History

/-- What a task did for a pass up to a stage, the last event first. -/
inductive Work (id : TaskId) (p : Pass) : Stage → List (Event L) → Prop where
  | reading (generation : Nat) :
      Work id p (.lookup (.reading generation)) [.settingsRead id p.document.uri]
  | announcing {generation : Nat} {es} (w : Work id p (.lookup (.reading generation)) es)
      (s : Settings) {config : DocumentConfig} (computed : config = .resolve s p.document.uri) :
      Work id p (.lookup (.announcing generation config))
        (.logged id (infoLine p.document.uri.cacheKey config) ::
          .settingsGiven id p.document.uri s :: es)
  | read {generation : Nat} {config : DocumentConfig} {es}
      (w : Work id p (.lookup (.announcing generation config)) es) :
      Work id p (.lookup (.found config)) (.resolved id p.document.uri config :: es)
  | kept (config : DocumentConfig) :
      Work id p (.lookup (.found config)) [.resolved id p.document.uri config]
  | linting {config : DocumentConfig} {es} (w : Work id p (.lookup (.found config)) es)
      (linted : config.excluded = false) (linter : L) :
      Work id p (.linting config) (.lintCalled id linter p.call config.rules :: es)
  | failing {config : DocumentConfig} {es} (w : Work id p (.linting config) es) (e : LintError)
      (shows : Bool) {reason : String} (said : reason = e.message) :
      Work id p (.failing reason shows)
        (.logged id (failureLine p.document.uri reason) :: .replied id p (.error e) :: es)
  | showing {reason : String} {es} (w : Work id p (.failing reason true) es) :
      Work id p (.showing reason) (.shown id (failureLine p.document.uri reason) :: es)
  | reporting {config : DocumentConfig} {es} (w : Work id p (.linting config) es)
      (fs : List Finding) {all : List Diagnostic} (converted : all = p.diagnostics fs)
      {done left : List Diagnostic} (whole : all = done ++ left) :
      Work id p (.reporting left all)
        (reported id done ++ .checked id p false true :: .replied id p (.ok fs) :: es)
  | found {all : List Diagnostic} {es} (w : Work id p (.reporting [] all) es) :
      Work id p (.queued (.found all)) es
  | excluded {config : DocumentConfig} {es} (w : Work id p (.lookup (.found config)) es)
      (excluded : config.excluded = true) : Work id p (.queued .excluded) es
  | publishing {u : Publication} {es} (w : Work id p (.queued u) es) :
      Work id p (.publishing u) (.checked id p true true :: es)
  | published {u : Publication} {es} (w : Work id p (.publishing u) es) {ds : List Diagnostic}
      (brought : ds = u.diagnostics) : Work id p (.published u) (.set id p.update ds :: es)

def LookedUp (id : TaskId) (uri : Url) (config : DocumentConfig) (es : List (Event L)) : Prop :=
  es = [] ∨ ∃ s, config = .resolve s uri ∧
    es = [.logged id (infoLine uri.cacheKey config), .settingsGiven id uri s, .settingsRead id uri]

theorem LookedUp.lines {id : TaskId} {uri : Url} {config : DocumentConfig} {es : List (Event L)}
    (looked : LookedUp id uri config es) :
    logLines es = [] ∨ logLines es = [infoLine uri.cacheKey config] := by
  rcases looked with rfl | ⟨s, _, rfl⟩
  · exact .inl rfl
  · exact .inr rfl

def Called (id : TaskId) (p : Pass) (config : DocumentConfig) (es : List (Event L)) : Prop :=
  config.excluded = false ∧ ∃ linter lookup, LookedUp id p.document.uri config lookup ∧
    es = .lintCalled id linter p.call config.rules :: .resolved id p.document.uri config :: lookup

theorem Called.lines {id : TaskId} {p : Pass} {config : DocumentConfig} {call : List (Event L)}
    (c : Called id p config call) : logLines call = [] ∨
      logLines call = [infoLine p.document.uri.cacheKey config] := by
  obtain ⟨_, linter, lookup, looked, rfl⟩ := c
  simpa [Event.line?] using looked.lines

/-- What a task did for a pass that ended. -/
inductive Worked (id : TaskId) (p : Pass) : Outcome → List (Event L) → Prop where
  | published {u : Publication} {es} (w : Work id p (.published u) es) {o : Outcome}
      (is : o = u.outcome) : Worked id p o es
  | refused {u : Publication} {es} (w : Work id p (.queued u) es) :
      Worked id p .stale (.checked id p true false :: es)
  | dropped {config : DocumentConfig} {es} (w : Work id p (.linting config) es)
      (fs : List Finding) :
      Worked id p .stale (.checked id p false false :: .replied id p (.ok fs) :: es)
  | failed {reason : String} {es} (w : Work id p (.failing reason false) es) :
      Worked id p (.failed reason) es
  | shown {reason : String} {es} (w : Work id p (.showing reason) es) :
      Worked id p (.failed reason) es

namespace Work

variable {id : TaskId} {p : Pass} {stage : Stage} {es : List (Event L)}

theorem report {d : Diagnostic} {left all : List Diagnostic}
    (w : Work id p (.reporting (d :: left) all) es) :
    Work id p (.reporting left all) (.logged id d.message :: es) := by
  cases w with
  | @reporting config es w fs _ converted done _ whole =>
    have more : all = (done ++ [d]) ++ left := by simpa using whole
    simpa [reported] using w.reporting fs converted more

theorem looked_up {config : DocumentConfig} (w : Work id p (.lookup (.found config)) es) :
    ∃ lookup, LookedUp id p.document.uri config lookup ∧
      es = .resolved id p.document.uri config :: lookup := by
  cases w with
  | read w =>
    cases w with
    | announcing w s computed =>
      cases w
      exact ⟨_, .inr ⟨s, computed, rfl⟩, rfl⟩
  | kept => exact ⟨[], .inl rfl, rfl⟩

theorem called {config : DocumentConfig} (w : Work id p (.linting config) es) :
    Called id p config es := by
  cases w with
  | linting w linted linter =>
    obtain ⟨lookup, looked, rfl⟩ := w.looked_up
    exact ⟨linted, linter, lookup, looked, rfl⟩

theorem excluded_lookup (w : Work id p (.queued .excluded) es) :
    ∃ config lookup, LookedUp id p.document.uri config lookup ∧ config.excluded = true ∧
      es = .resolved id p.document.uri config :: lookup := by
  cases w with
  | excluded w excluded =>
    obtain ⟨lookup, looked, rfl⟩ := w.looked_up
    exact ⟨_, lookup, looked, excluded, rfl⟩

theorem found_findings {all : List Diagnostic} (w : Work id p (.queued (.found all)) es) :
    ∃ fs config call, all = p.diagnostics fs ∧ Called id p config call ∧
      es = reported id all ++ .checked id p false true :: .replied id p (.ok fs) :: call := by
  cases w with
  | found w =>
    cases w with
    | reporting w fs converted whole =>
      rw [List.append_nil] at whole
      exact ⟨fs, _, _, converted, w.called, whole ▸ rfl⟩

theorem failure {reason : String} {shows : Bool} (w : Work id p (.failing reason shows) es) :
    ∃ e config call, reason = e.message ∧ Called id p config call ∧
      es = .logged id (failureLine p.document.uri reason) :: .replied id p (.error e) :: call := by
  cases w with
  | failing w e _ said => exact ⟨e, _, _, said, w.called, rfl⟩

theorem unresolving (w : Work id p stage es) (uri : Url) : .resolving id uri ∉ es := by
  induction w <;> simp_all [reported]

end Work

namespace Worked

variable {id : TaskId} {p : Pass} {es : List (Event L)}

theorem unresolving {o : Outcome} (w : Worked id p o es) (uri : Url) : .resolving id uri ∉ es := by
  cases w with
  | published w => exact w.unresolving uri
  | refused w => simp [w.unresolving]
  | dropped w => simp [w.unresolving]
  | failed w => exact w.unresolving uri
  | shown w => exact w.unresolving uri

theorem found {n : Nat} (w : Worked id p (.published n) es) :
    ∃ fs config call, n = (p.diagnostics fs).length ∧ Called id p config call ∧
      es = .set id p.update (p.diagnostics fs) :: .checked id p true true ::
        (reported id (p.diagnostics fs) ++
          .checked id p false true :: .replied id p (.ok fs) :: call) := by
  cases w with
  | @published u _ w _ is =>
    cases w with
    | published w brought =>
      cases w with
      | publishing w =>
        cases u with
        | excluded => simp [Publication.outcome] at is
        | found all =>
          obtain ⟨fs, config, call, rfl, called, rfl⟩ := w.found_findings
          exact ⟨fs, config, call, by simpa [Publication.outcome] using is, called, brought ▸ rfl⟩

theorem excluded (w : Worked id p .excluded es) :
    ∃ config lookup, LookedUp id p.document.uri config lookup ∧ config.excluded = true ∧
      es = .set id p.update [] :: .checked id p true true ::
        .resolved id p.document.uri config :: lookup := by
  cases w with
  | @published u _ w _ is =>
    cases w with
    | published w brought =>
      cases w with
      | publishing w =>
        cases u with
        | found => simp [Publication.outcome] at is
        | excluded =>
          obtain ⟨config, lookup, looked, excluded, rfl⟩ := w.excluded_lookup
          exact ⟨config, lookup, looked, excluded, brought ▸ rfl⟩

theorem stale (w : Worked id p .stale es) :
    (∃ fs config call, Called id p config call ∧
      es = .checked id p false false :: .replied id p (.ok fs) :: call) ∨
    (∃ fs config call, Called id p config call ∧
      es = .checked id p true false :: (reported id (p.diagnostics fs) ++
        .checked id p false true :: .replied id p (.ok fs) :: call)) ∨
    ∃ config lookup, LookedUp id p.document.uri config lookup ∧ config.excluded = true ∧
      es = .checked id p true false :: .resolved id p.document.uri config :: lookup := by
  cases w with
  | @published u _ _ _ is => cases u <;> simp [Publication.outcome] at is
  | dropped w fs => exact .inl ⟨fs, _, _, w.called, rfl⟩
  | @refused u _ w =>
    cases u with
    | found all =>
      obtain ⟨fs, config, call, rfl, called, rfl⟩ := w.found_findings
      exact .inr (.inl ⟨fs, config, call, called, rfl⟩)
    | excluded =>
      obtain ⟨config, lookup, looked, excluded, rfl⟩ := w.excluded_lookup
      exact .inr (.inr ⟨config, lookup, looked, excluded, rfl⟩)

theorem failure {reason : String} (w : Worked id p (.failed reason) es) :
    ∃ e config call shown, reason = e.message ∧ Called id p config call ∧
      (shown = [] ∨ shown = [.shown id (failureLine p.document.uri reason)]) ∧
      es = shown ++ .logged id (failureLine p.document.uri reason) ::
        .replied id p (.error e) :: call := by
  cases w with
  | @published u _ _ _ is => cases u <;> simp [Publication.outcome] at is
  | failed w =>
    obtain ⟨e, config, call, said, called, rfl⟩ := w.failure
    exact ⟨e, config, call, [], said, called, .inl rfl, rfl⟩
  | shown w =>
    cases w with
    | showing w =>
      obtain ⟨e, config, call, said, called, rfl⟩ := w.failure
      exact ⟨e, config, call, [_], said, called, .inr rfl, rfl⟩

theorem touches {o : Outcome} (w : Worked id p o es) : ∃ e ∈ es, e.concerns p = true := by
  have reply : ∀ {reason : String}, Worked id p (.failed reason) es →
      ∃ e ∈ es, e.concerns p = true := by
    intro reason w
    obtain ⟨e, config, call, shown, _, _, _, rfl⟩ := w.failure
    exact ⟨.replied id p (.error e), by simp, by simp [Event.concerns]⟩
  cases w with
  | published w =>
    cases w with
    | published => exact ⟨_, List.mem_cons_self, by simp [Event.concerns]⟩
  | refused => exact ⟨_, List.mem_cons_self, by simp [Event.concerns]⟩
  | dropped => exact ⟨_, List.mem_cons_self, by simp [Event.concerns]⟩
  | failed w => exact reply (.failed w)
  | shown w => exact reply (.shown w)

end Worked

end MarkupLint
