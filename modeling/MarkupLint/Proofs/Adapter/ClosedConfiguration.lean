import MarkupLint.Proofs.Adapter.ConfigurationFreshness

/-! A close drops the configuration of a document. A call that was under way then does not bring it
back, wherever it waited; only a call that starts after the close does, and passes from before it
may still make one. -/
namespace MarkupLint

open History

variable {L : Type}

namespace History

def ReadFits : Event L → List (Event L) → Prop
  | .settingsRead id uri, older => older.head? = some (.resolving id uri)
  | _, _ => True

theorem sinceDrop_before {key : String} {newer older : List (Event L)} {e : Event L}
    (drops : e.dropsKey key = true) :
    ∃ dropped, newer = sinceDrop key (newer ++ e :: older) ++ dropped := by
  induction newer with
  | nil => exact ⟨[], by simp [sinceDrop, drops]⟩
  | cons x newer ih =>
    obtain ⟨dropped, cut⟩ := ih
    cases again : x.dropsKey key with
    | true => exact ⟨x :: newer, by simp [sinceDrop, again]⟩
    | false =>
      have longer : sinceDrop key (x :: (newer ++ e :: older)) =
          x :: sinceDrop key (newer ++ e :: older) := by simp [sinceDrop, again]
      refine ⟨dropped, ?_⟩
      rw [List.cons_append, longer, List.cons_append, ← cut]

end History

theorem TaskMove.read_fits {id : TaskId} {x y : Adapter L × Task} (m : TaskMove id x y)
    (fit : Justified ReadFits x.1.history) : Justified ReadFits y.1.history := by
  cases m with
  | find => exact ⟨trivial, trivial, fit⟩
  | read => exact ⟨rfl, trivial, fit⟩
  | announce => exact ⟨trivial, trivial, fit⟩
  | fail => exact ⟨trivial, trivial, fit⟩
  | accept => exact ⟨trivial, trivial, fit⟩
  | refuse => exact ⟨trivial, trivial, fit⟩
  | drop => exact ⟨trivial, trivial, trivial, fit⟩
  | exclude => exact fit
  | arrive => exact fit
  | enter => exact fit
  | _ => exact ⟨trivial, fit⟩

namespace TaskPool

variable {linter : L} {s t : TaskPool L}

theorem read_fits_move (fit : Justified ReadFits s.adapter.history) (m : Move s t) :
    Justified ReadFits t.adapter.history := by
  cases m with
  | task _ m => exact m.read_fits fit
  | spawn => exact fit
  | claim => exact fit
  | _ => exact ⟨trivial, fit⟩

theorem Arises.read_fits (h : Arises linter s) : Justified ReadFits s.adapter.history := by
  induction h with
  | start => trivial
  | move _ m ih => exact read_fits_move ih m

/-- What is kept for the key of a closed document comes from a call that started, asked for settings
and got them after the close. -/
theorem Arises.kept_since_close (h : Arises linter s) {newer older : List (Event L)} {id : TaskId}
    {uri : Url} (closed : s.adapter.history = newer ++ .forgotten id uri :: older)
    {config : DocumentConfig} (kept : s.adapter.cache.get? uri.cacheKey = some config) :
    ∃ i v given late mid early, v.cacheKey = uri.cacheKey ∧ config = .resolve given v ∧
      newer = late ++ .settingsGiven i v given ::
        (mid ++ .settingsRead i v :: .resolving i v :: early) := by
  have drops : (Event.forgotten id uri : Event L).dropsKey uri.cacheKey = true := by
    simp [Event.dropsKey]
  obtain ⟨dropped, cut⟩ : ∃ dropped, newer =
      sinceDrop uri.cacheKey (newer ++ .forgotten id uri :: older) ++ dropped :=
    sinceDrop_before drops
  obtain ⟨i, v, given, same, computed, late, mid, before, since, _⟩ := h.fresh.adapter.entries kept
  rw [← closed, since] at cut
  have reads : s.adapter.history = (late ++ .settingsGiven i v given :: mid) ++
      .settingsRead i v :: (before ++ dropped ++ .forgotten id uri :: older) := by
    rw [closed, cut]
    simp
  have fit := h.read_fits
  rw [reads] at fit
  have started : (before ++ dropped ++ .forgotten id uri :: older).head? =
      some (.resolving i v) := fit.at
  cases rest : before ++ dropped with
  | nil => simp [rest] at started
  | cons e early =>
    obtain rfl : e = .resolving i v := by simpa [rest] using started
    exact ⟨i, v, given, late, mid, early, same, computed, by rw [cut, ← rest]; simp⟩

/-- After a close nothing is kept for the key of the document until a call for the key starts; and
what is kept later comes from settings that such a call asked for and got after the close. -/
theorem close_unkept {newer older : List (Event L)} {id : TaskId} {uri : Url}
    (h : Reachable (.initial linter) s)
    (closed : s.adapter.history = newer ++ .forgotten id uri :: older) :
    ((∀ i v, .resolving i v ∈ newer → v.cacheKey ≠ uri.cacheKey) →
      s.adapter.cache.get? uri.cacheKey = none) ∧
    ∀ {config}, s.adapter.cache.get? uri.cacheKey = some config →
      ∃ i v given late mid early, v.cacheKey = uri.cacheKey ∧ config = .resolve given v ∧
        newer = late ++ .settingsGiven i v given ::
          (mid ++ .settingsRead i v :: .resolving i v :: early) := by
  have arises := reachable_arises h
  refine ⟨fun unasked => ?_, arises.kept_since_close closed⟩
  cases kept : s.adapter.cache.get? uri.cacheKey with
  | none => rfl
  | some config =>
    obtain ⟨i, v, _, _, _, _, same, _, cut⟩ := arises.kept_since_close closed kept
    exact absurd same (unasked i v (by simp [cut]))

def overtakenRead : TaskPool Unit :=
  (initial ()).play [.spawn (.resolve emptyPage.uri), .resume 0 .done,
    .spawn (.close emptyPage.uri), .resume 1 .done, .resume 0 (.settings .default), .resume 0 .done]

def closedPage : TaskPool Unit :=
  (initial ()).play [.issue emptyPage, .spawn (.close emptyPage.uri), .resume 0 .done]

def earlyPassSteps : List (Step Unit) :=
  [.spawn (.run [⟨emptyPage, 1⟩]), .resume 1 .done, .resume 1 (.settings .default), .resume 1 .done]

theorem early_pass_reachable : Reachable (initial ()) (closedPage.play earlyPassSteps) := by
  have closed : Reachable (initial ()) closedPage := reachable_play .refl _ rfl
  have unclaimed : closedPage.Unclaimed ⟨emptyPage, 1⟩ := by
    refine ⟨List.mem_of_getElem? (i := 1) rfl, ?_, ?_⟩
    · intro o ended
      have history : closedPage.adapter.history =
          [.forgotten 0 emptyPage.uri, .issued ⟨emptyPage, 1⟩] := rfl
      simp [history] at ended
    · intro t ht
      have tasks : closedPage.tasks = [.deleting emptyPage.uri] := rfl
      simp only [tasks, List.mem_singleton] at ht
      simp [ht, Task.passes]
  have handed : closedPage.Allowed (.spawn (.run [⟨emptyPage, 1⟩])) := by
    refine ⟨by simp [Job.passes], fun p hp => ?_⟩
    rw [List.mem_singleton.mp hp]
    exact unclaimed
  exact reachable_play (closed.step _ handed) _ rfl

theorem overtaken_read_unkept :
    Reachable (initial ()) overtakenRead ∧
    (∃ newer older,
      overtakenRead.adapter.history = newer ++ .forgotten 1 emptyPage.uri :: older ∧
      (∀ i v, .resolving i v ∈ newer → v.cacheKey ≠ emptyPage.uri.cacheKey) ∧
      overtakenRead.adapter.cache.get? emptyPage.uri.cacheKey = none) ∧
    ∃ newer older config,
      (closedPage.play earlyPassSteps).adapter.history =
        newer ++ .forgotten 0 emptyPage.uri :: older ∧
      (closedPage.play earlyPassSteps).adapter.cache.get? emptyPage.uri.cacheKey = some config ∧
      ∃ i v given late mid early, v.cacheKey = emptyPage.uri.cacheKey ∧
        config = .resolve given v ∧ newer = late ++ .settingsGiven i v given ::
          (mid ++ .settingsRead i v :: .resolving i v :: early) := by
  have reachable : Reachable (initial ()) overtakenRead := reachable_play .refl _ rfl
  let config : DocumentConfig := .resolve .default emptyPage.uri
  have overtaken : overtakenRead.adapter.history =
      [.finished 0 (.config config), .resolved 0 emptyPage.uri config,
        .logged 0 (infoLine emptyPage.uri.cacheKey config),
        .settingsGiven 0 emptyPage.uri .default] ++
      .forgotten 1 emptyPage.uri :: overtakenRead.adapter.history.drop 5 := rfl
  have refilled : (closedPage.play earlyPassSteps).adapter.history =
      (closedPage.play earlyPassSteps).adapter.history.take 6 ++
        .forgotten 0 emptyPage.uri :: [.issued ⟨emptyPage, 1⟩] := rfl
  have kept : (closedPage.play earlyPassSteps).adapter.cache.get? emptyPage.uri.cacheKey =
      some config := rfl
  refine ⟨reachable, ⟨_, _, overtaken, by simp, (close_unkept reachable overtaken).1 (by simp)⟩,
    _, _, config, refilled, kept, ?_⟩
  exact (close_unkept early_pass_reachable refilled).2 kept

def Step.asks : Step L → Bool
  | .issue _ => true
  | .spawn (.lint _) => true
  | .spawn (.event _) => true
  | .spawn (.visible _) => true
  | .spawn (.resolve _) => true
  | _ => false

/-- A pass that was issued before the close and starts after it has the configuration kept again,
though nothing was issued and no configuration called for since then. -/
theorem early_pass_refills :
    Reachable (initial ()) closedPage ∧
      closedPage.adapter.history = [.forgotten 0 emptyPage.uri, .issued ⟨emptyPage, 1⟩] ∧
      Reachable (initial ()) (closedPage.play earlyPassSteps) ∧
      (∀ e ∈ earlyPassSteps, e.asks = false) ∧
      (closedPage.play earlyPassSteps).adapter.cache.get? emptyPage.uri.cacheKey =
        some (.resolve .default emptyPage.uri) := by
  refine ⟨reachable_play .refl _ rfl, rfl, early_pass_reachable, ?_, rfl⟩
  simp [earlyPassSteps, Step.asks]

end TaskPool

end MarkupLint
