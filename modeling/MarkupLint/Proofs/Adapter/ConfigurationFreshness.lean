import MarkupLint.Proofs.Adapter.Steps

/-! No configuration outlives its invalidation: what is kept for a key was resolved from settings
that were read since the key was last dropped. A read that was overtaken by a drop carries an old
generation, and the cache refuses what comes of it. -/
namespace MarkupLint

open History
open Map (Dict)

variable {L : Type}

namespace Event

def drops : Event L → Bool
  | .cleared => true
  | .forgotten _ _ => true
  | _ => false

def dropsKey (key : String) : Event L → Bool
  | .cleared => true
  | .forgotten _ uri => uri.cacheKey = key
  | _ => false

def asks (id : TaskId) : Event L → Bool
  | .resolving i _ => i = id
  | .settingsRead i _ => i = id
  | _ => false

theorem asks_of_task {id : TaskId} {e : Event L} (other : e.task? ≠ some id) :
    e.asks id = false := by
  cases e <;> simp_all [asks, task?]

theorem drops_of_dropsKey {key : String} {e : Event L} (d : e.dropsKey key = true) :
    e.drops = true := by
  cases e <;> simp_all [drops, dropsKey]

end Event

namespace History

/-- What happened since the configuration of a key was last dropped. -/
def sinceDrop (key : String) (h : List (Event L)) : List (Event L) :=
  h.takeWhile fun e => !e.dropsKey key

def dropCount (h : List (Event L)) : Nat := h.countP Event.drops

theorem dropCount_cons (e : Event L) (h : List (Event L)) :
    dropCount (e :: h) = dropCount h + if e.drops then 1 else 0 := List.countP_cons

def ReadIn (id : TaskId) (uri : Url) (s : Settings) (h : List (Event L)) : Prop :=
  ∃ newer mid older,
    h = newer ++ .settingsGiven id uri s :: (mid ++ .settingsRead id uri :: older) ∧
      ∀ e ∈ mid, e.asks id = false

/-- A configuration was resolved for a key from settings that were read. -/
def Resolved (key : String) (config : DocumentConfig) (h : List (Event L)) : Prop :=
  ∃ id uri s, uri.cacheKey = key ∧ config = DocumentConfig.resolve s uri ∧ ReadIn id uri s h

theorem Resolved.later {key : String} {config : DocumentConfig} {h : List (Event L)}
    (r : Resolved key config h) (es : List (Event L)) : Resolved key config (es ++ h) := by
  obtain ⟨id, uri, s, same, computed, newer, mid, older, rfl, quiet⟩ := r
  exact ⟨id, uri, s, same, computed, es ++ newer, mid, older, by simp, quiet⟩

theorem sinceDrop_append {key : String} {es : List (Event L)} (h : List (Event L))
    (kept : ∀ e ∈ es, e.dropsKey key = false) :
    sinceDrop key (es ++ h) = es ++ sinceDrop key h :=
  List.takeWhile_append_of_pos (by simpa using kept)

theorem kept_of_dropCount {es h : List (Event L)} (count : dropCount (es ++ h) = dropCount h)
    (key : String) : ∀ e ∈ es, e.dropsKey key = false := by
  intro e he
  have none : es.countP Event.drops = 0 := by
    simp only [dropCount, List.countP_append] at count
    omega
  cases d : e.dropsKey key with
  | false => rfl
  | true => exact absurd (Event.drops_of_dropsKey d) (List.countP_eq_zero.mp none e he)

def ReturnFits : Event L → List (Event L) → Prop
  | .resolved id uri config, older => ∃ mid before, older = mid ++ .resolving id uri :: before ∧
      (∀ v, .resolving id v ∉ mid) ∧
      Resolved uri.cacheKey config (mid ++ .resolving id uri :: sinceDrop uri.cacheKey before)
  | _, _ => True

end History

def Task.lookup? : Task → Option (Url × Lookup)
  | .passing p (.lookup l) _ _ => some (p.document.uri, l)
  | .resolving uri l => some (uri, l)
  | _ => none

/-- The call that a task is in: it started and asked for settings in a generation that is counted
in drops, and once they were given, they made the configuration. -/
inductive LookupTrail (id : TaskId) (uri : Url) : Lookup → List (Event L) → Prop where
  | reading (mid before : List (Event L)) (quiet : ∀ e ∈ mid, e.asks id = false) :
      LookupTrail id uri (.reading (dropCount before))
        (mid ++ .settingsRead id uri :: .resolving id uri :: before)
  | announcing (late mid before : List (Event L)) (s : Settings)
      (quiet : ∀ e ∈ late, e.asks id = false) (still : ∀ e ∈ mid, e.asks id = false) :
      LookupTrail id uri (.announcing (dropCount before) (DocumentConfig.resolve s uri))
        (late ++ .settingsGiven id uri s ::
          (mid ++ .settingsRead id uri :: .resolving id uri :: before))
  | found (config : DocumentConfig) (h : List (Event L)) : LookupTrail id uri (.found config) h

theorem LookupTrail.later {id : TaskId} {uri : Url} {l : Lookup} {h : List (Event L)}
    (c : LookupTrail id uri l h) {es : List (Event L)} (quiet : ∀ e ∈ es, e.asks id = false) :
    LookupTrail id uri l (es ++ h) := by
  have both : ∀ {mid : List (Event L)}, (∀ e ∈ mid, e.asks id = false) →
      ∀ e ∈ es ++ mid, e.asks id = false := fun still e he =>
    (List.mem_append.mp he).elim (quiet e) (still e)
  cases c with
  | reading mid before still =>
    have longer : LookupTrail id uri _ _ := .reading (es ++ mid) before (both still)
    simpa using longer
  | announcing late mid before s quiet still =>
    have longer : LookupTrail id uri _ _ := .announcing (es ++ late) mid before s (both quiet) still
    simpa using longer
  | found config => exact .found config _

namespace Adapter

structure Fresh (a : Adapter L) : Prop where
  counted : a.cache.generation = dropCount a.history
  entries : ∀ {key config}, a.cache.get? key = some config →
    Resolved key config (sinceDrop key a.history)
  returns : Justified ReturnFits a.history

namespace Fresh

variable {a b : Adapter L}

theorem frame (h : Fresh a) (es : List (Event L)) (history : b.history = es ++ a.history)
    (cache : b.cache = a.cache)
    (other : ∀ e ∈ es, e.drops = false ∧ ∀ i u c, e ≠ .resolved i u c) : Fresh b := by
  constructor
  · have none : es.countP Event.drops = 0 :=
      List.countP_eq_zero.mpr fun e he => by simp [(other e he).1]
    rw [cache, history, h.counted]
    simp [dropCount, none]
  · intro key config kept
    have still : ∀ e ∈ es, e.dropsKey key = false := by
      intro e he
      cases d : e.dropsKey key with
      | false => rfl
      | true => simpa [(other e he).1] using Event.drops_of_dropsKey d
    rw [history, sinceDrop_append _ still]
    exact (h.entries (cache ▸ kept)).later es
  · rw [history]
    refine h.returns.append fun e he older => ?_
    cases e with
    | resolved i u c => exact absurd rfl ((other _ he).2 i u c)
    | _ => trivial

theorem forget (h : Fresh a) (id : TaskId) (uri : Url) : Fresh (a.forget id uri) := by
  constructor
  · simp [Adapter.forget, Adapter.record, ConfigCache.invalidate, dropCount_cons, Event.drops,
      h.counted]
  · intro key config kept
    simp only [Adapter.forget, Adapter.record, ConfigCache.invalidate, ConfigCache.get?,
      Dict.get?_erase] at kept
    split at kept
    · simp at kept
    · rename_i other
      simpa [Adapter.forget, Adapter.record, sinceDrop, Event.dropsKey, other] using
        (h.entries kept).later [.forgotten id uri]
  · exact ⟨trivial, h.returns⟩

theorem invalidate (h : Fresh a) : Fresh a.invalidate := by
  constructor
  · simp [Adapter.invalidate, Adapter.record, ConfigCache.clear, dropCount_cons, Event.drops,
      h.counted]
  · intro key config kept
    simp [Adapter.invalidate, Adapter.record, ConfigCache.clear, ConfigCache.get?] at kept
  · exact ⟨trivial, h.returns⟩

/-- What a call made of settings that no drop overtook is kept, all else is refused. -/
theorem keep (h : Fresh a) {id : TaskId} {uri : Url} {generation : Nat} {config : DocumentConfig}
    (call : LookupTrail id uri (.announcing generation config) a.history) :
    Fresh (a.keep id uri generation config).1 := by
  generalize eq : a.history = history at call
  cases call with
  | announcing late mid before s quiet still =>
    let span : List (Event L) :=
      late ++ .settingsGiven id uri s :: (mid ++ [.settingsRead id uri, .resolving id uri])
    have cut : a.history = span ++ before := by simp [eq, span]
    have read : ∀ rest, ReadIn id uri s (span ++ rest) := fun rest =>
      ⟨late, mid, .resolving id uri :: rest, by simp [span], still⟩
    have unaffected : ∀ key config, a.cache.get? key = some config →
        Resolved key config (sinceDrop key (.resolved id uri (.resolve s uri) :: a.history)) :=
      fun key config kept => (h.entries kept).later [_]
    refine ⟨?_, ?_, ?_, h.returns⟩
    · simp [Adapter.keep, Adapter.record, dropCount_cons, Event.drops, h.counted]
    · intro key config kept
      rcases ConfigCache.get?_insertIfCurrent kept with ⟨current, rfl, rfl⟩ | old
      · -- The entry is new: the generation is the one at the start, so nothing was dropped since.
        have count : dropCount (span ++ before) = dropCount before := by
          rw [← cut, ← h.counted, current]
        have whole : sinceDrop uri.cacheKey a.history = span ++ sinceDrop uri.cacheKey before := by
          rw [cut]
          exact sinceDrop_append before (kept_of_dropCount count uri.cacheKey)
        have resolved : Resolved uri.cacheKey (.resolve s uri) (sinceDrop uri.cacheKey a.history) :=
          ⟨id, uri, s, rfl, rfl, whole ▸ read _⟩
        exact resolved.later [_]
      · exact unaffected key config old
    · refine ⟨late ++ .settingsGiven id uri s :: (mid ++ [.settingsRead id uri]), before,
        by simp [eq], ?_, id, uri, s, rfl, rfl, ?_⟩
      · intro v asked
        simp only [List.mem_append, List.mem_cons, reduceCtorEq, List.not_mem_nil, or_false,
          false_or] at asked
        rcases asked with asked | asked
        · simpa [Event.asks] using quiet _ asked
        · simpa [Event.asks] using still _ asked
      · simpa [span] using read (sinceDrop uri.cacheKey before)

end Fresh

end Adapter

theorem Asks.lookup {t : Task} {uri : Url} {k : Lookup → Task} (asks : Asks t uri k) (l : Lookup) :
    (k l).lookup? = some (uri, l) := by
  cases asks <;> rfl

theorem TaskMove.lookup {id : TaskId} {x y : Adapter L × Task} (m : TaskMove id x y)
    (fresh : x.1.Fresh)
    (calls : ∀ {uri l}, x.2.lookup? = some (uri, l) → LookupTrail id uri l x.1.history) {uri : Url}
    {l : Lookup} (asked : y.2.lookup? = some (uri, l)) : LookupTrail id uri l y.1.history := by
  cases m with
  | find a asks config =>
    obtain ⟨rfl, rfl⟩ : _ ∧ _ := by simpa [asks.lookup] using asked
    exact .found config _
  | read a asks =>
    obtain ⟨rfl, rfl⟩ : _ ∧ _ := by simpa [asks.lookup] using asked
    rw [fresh.counted]
    exact .reading [] a.history (by simp)
  | announce a asks generation s =>
    obtain ⟨rfl, rfl⟩ : _ ∧ _ := by simpa [asks.lookup] using asked
    have call := calls (asks.lookup (.reading generation))
    rw [Adapter.announce_history]
    generalize a.history = history at call
    cases call with
    | reading mid before quiet =>
      exact .announcing [_] mid before s (by simp [Event.asks]) quiet
  | keep a asks generation config =>
    obtain ⟨rfl, rfl⟩ : _ ∧ _ := by simpa [asks.lookup] using asked
    exact .found config _
  | _ => simp [Task.lookup?, Adapter.finish] at asked

theorem TaskMove.fresh {id : TaskId} {x y : Adapter L × Task} (m : TaskMove id x y)
    (h : x.1.Fresh)
    (calls : ∀ {uri l}, x.2.lookup? = some (uri, l) → LookupTrail id uri l x.1.history) :
    y.1.Fresh := by
  cases m with
  | @find _ uri _ a asks config kept =>
    have asked := h.frame (b := a.record (.resolving id uri)) [_] rfl rfl (by simp [Event.drops])
    refine ⟨?_, fun old => (asked.entries old).later [_], ?_⟩
    · simpa [Adapter.record, dropCount_cons, Event.drops] using h.counted
    · exact ⟨⟨[], a.history, rfl, by simp, (h.entries kept).later [_]⟩, asked.returns⟩
  | keep a asks generation config => exact h.keep (calls (asks.lookup _))
  | close a uri => exact (h.forget id uri).frame [] rfl rfl (by simp)
  | read => exact h.frame [_, _] rfl rfl (by simp [Event.drops])
  | announce => exact h.frame [_, _] rfl rfl (by simp [Event.drops])
  | fail => exact h.frame [_, _] rfl rfl (by simp [Event.drops])
  | accept => exact h.frame [_, _] rfl rfl (by simp [Event.drops])
  | refuse => exact h.frame [_, _] rfl rfl (by simp [Event.drops])
  | drop => exact h.frame [_, _, _] rfl rfl (by simp [Event.drops])
  | exclude => exact h.frame [] rfl rfl (by simp)
  | arrive => exact h.frame [] rfl rfl (by simp)
  | enter => exact h.frame [] rfl rfl (by simp)
  | _ => exact h.frame [_] rfl rfl (by simp [Event.drops])

namespace TaskPool

structure Fresh (s : TaskPool L) : Prop where
  adapter : s.adapter.Fresh
  calls : ∀ {id : TaskId} {t : Task} {uri l}, s.tasks[id]? = some t →
    t.lookup? = some (uri, l) → LookupTrail id uri l s.adapter.history

theorem fresh_move {s t : TaskPool L} (h : Fresh s) (m : Move s t) : Fresh t := by
  constructor
  · cases m with
    | issue => exact h.adapter.frame [_] rfl rfl (by simp [Event.drops])
    | invalidate => exact h.adapter.invalidate
    | setLinter => exact h.adapter.frame [_] rfl rfl (by simp [Event.drops])
    | spawn => exact h.adapter
    | claim => exact h.adapter
    | task here m => exact m.fresh h.adapter (h.calls here)
  · intro id u uri l here
    refine m.each (P := fun id h t => ∀ {uri l}, t.lookup? = some (uri, l) →
      LookupTrail id uri l h) (fun here => h.calls here) ?_ ?_ ?_
      (fun here m => m.lookup h.adapter (h.calls here)) here
    · exact fun calls others uri l asked =>
        (calls asked).later fun e he => Event.asks_of_task (others e he)
    · exact fun job uri l asked => by simp [Task.lookup?] at asked
    · exact fun passes issues calls uri l asked => by simp [Task.lookup?] at asked

theorem Arises.fresh {linter : L} {s : TaskPool L} (h : Arises linter s) : Fresh s := by
  induction h with
  | start =>
    refine ⟨⟨rfl, fun kept => ?_, trivial⟩, fun here => by simp [initial] at here⟩
    simp [initial, Adapter.initial, ConfigCache.empty, ConfigCache.get?] at kept
  | move _ m ih => exact fresh_move ih m

/-- What is kept for a key was resolved from settings read since the key was last dropped; and what
a call returns, from settings read since the last drop of its key before the call. -/
theorem configuration_fresh {linter : L} {s : TaskPool L} (h : Reachable (.initial linter) s) :
    (∀ {key config}, s.adapter.cache.get? key = some config →
      Resolved key config (sinceDrop key s.adapter.history)) ∧
    ∀ {newer older id uri config}, s.adapter.history = newer ++ .resolved id uri config :: older →
      ∃ mid before, older = mid ++ .resolving id uri :: before ∧ (∀ v, .resolving id v ∉ mid) ∧
        Resolved uri.cacheKey config
          (mid ++ .resolving id uri :: sinceDrop uri.cacheKey before) := by
  have fresh := (reachable_arises h).fresh.adapter
  refine ⟨fresh.entries, fun history => ?_⟩
  have returns := fresh.returns
  rw [history] at returns
  exact returns.at

def heldReadSteps (late early : Settings) : List (Step Unit) :=
  [.spawn (.resolve emptyPage.uri), .resume 0 .done, .invalidate, .spawn (.resolve emptyPage.uri),
    .resume 1 .done, .resume 1 (.settings late), .resume 1 .done, .resume 0 (.settings early),
    .resume 0 .done]

theorem held_read_not_kept :
    ∃ s : TaskPool Unit, ∃ config, Reachable (.initial ()) s ∧ config.rules.base = "new" ∧
      s.adapter.cache.get? emptyPage.uri.cacheKey = some config ∧
      Resolved emptyPage.uri.cacheKey config
        (sinceDrop emptyPage.uri.cacheKey s.adapter.history) ∧
      ∃ mid before, s.adapter.history.drop 6 = mid ++ .resolving 1 emptyPage.uri :: before ∧
        (∀ v, .resolving 1 v ∉ mid) ∧
        Resolved emptyPage.uri.cacheKey config
          (mid ++ .resolving 1 emptyPage.uri :: sinceDrop emptyPage.uri.cacheKey before) := by
  let late : Settings := { Settings.default with base := some "new" }
  have reachable : Reachable (initial ()) ((initial ()).play (heldReadSteps late .default)) :=
    reachable_play .refl (heldReadSteps late .default) rfl
  generalize eq : (initial ()).play (heldReadSteps late .default) = s at reachable
  have kept : s.adapter.cache.get? emptyPage.uri.cacheKey =
      some (.resolve late emptyPage.uri) := eq ▸ rfl
  have history : s.adapter.history = s.adapter.history.take 5 ++
      .resolved 1 emptyPage.uri (.resolve late emptyPage.uri) :: s.adapter.history.drop 6 :=
    eq ▸ rfl
  obtain ⟨entries, returns⟩ := configuration_fresh reachable
  exact ⟨s, _, reachable, rfl, kept, entries kept, returns history⟩

end TaskPool

end MarkupLint
