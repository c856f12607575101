import MarkupLint.Proofs.Adapter.ClosedConfiguration
import MarkupLint.Proofs.Adapter.Stints

/-! Settings are read once. Where calls come one after another, a call for a configuration reads
settings just when none was resolved for its key since the key was last dropped, and returns what
the last read made otherwise. However tasks take turns, each read is announced by one line. -/
namespace MarkupLint

open History

variable {L : Type}

namespace Event

def resolves (key : String) : Event L → Bool
  | .resolved _ uri _ => uri.cacheKey = key
  | _ => false

def reads (key : String) : Event L → Bool
  | .settingsRead _ uri => uri.cacheKey = key
  | _ => false

def consults : Event L → Bool
  | .cleared => true
  | .forgotten _ _ => true
  | .resolving _ _ => true
  | .settingsRead _ _ => true
  | .resolved _ _ _ => true
  | _ => false

def isRead : Event L → Bool
  | .settingsRead _ _ => true
  | _ => false

def isAnnouncement : Event L → Bool
  | .logged _ line => announces line
  | _ => false

theorem apart_of_consults {e : Event L} (apart : e.consults = false) (key : String) :
    e.dropsKey key = false ∧ e.resolves key = false ∧ e.reads key = false := by
  cases e <;> simp_all [consults, dropsKey, resolves, reads]

end Event

namespace History

def Unresolved (key : String) (h : List (Event L)) : Prop :=
  ∀ e ∈ sinceDrop key h, e.resolves key = false

/-- A configuration was made of the settings that were read last for a key. -/
def LastRead (key : String) (config : DocumentConfig) (h : List (Event L)) : Prop :=
  ∃ newer id uri s older, h = newer ++ .settingsGiven id uri s :: .settingsRead id uri :: older ∧
    uri.cacheKey = key ∧ config = .resolve s uri ∧ ∀ e ∈ newer, e.reads key = false

/-- What a call for a configuration does at once: it reads settings, since nothing is there for the
key, or returns what the last read made. -/
inductive Answers (id : TaskId) (uri : Url) (before : List (Event L)) : Event L → Prop where
  | read (unresolved : Unresolved uri.cacheKey before) :
      Answers id uri before (.settingsRead id uri)
  | recall {config : DocumentConfig} (resolved : ¬ Unresolved uri.cacheKey before)
      (last : LastRead uri.cacheKey config before) :
      Answers id uri before (.resolved id uri config)

structure MemoFits (e : Event L) (older : List (Event L)) : Prop where
  answers : ∀ {id uri before}, older = .resolving id uri :: before → Answers id uri before e
  returns : ∀ {id uri config}, e = .resolved id uri config → LastRead uri.cacheKey config older
  result : ∀ {id config}, e = .finished id (.config config) →
    ∃ uri, older.head? = some (.resolved id uri config)

section Lemmas

variable {key : String} {config : DocumentConfig} {e : Event L} {h : List (Event L)}

theorem unresolved_cons (kept : e.dropsKey key = false) :
    Unresolved key (e :: h) ↔ e.resolves key = false ∧ Unresolved key h := by
  simp [Unresolved, sinceDrop, kept]

theorem unresolved_of_drop (dropped : e.dropsKey key = true) : Unresolved key (e :: h) := by
  simp [Unresolved, sinceDrop, dropped]

theorem LastRead.later (l : LastRead key config h) (unread : e.reads key = false) :
    LastRead key config (e :: h) := by
  obtain ⟨newer, id, uri, s, older, rfl, same, computed, none⟩ := l
  refine ⟨e :: newer, id, uri, s, older, rfl, same, computed, ?_⟩
  exact List.forall_mem_cons.mpr ⟨unread, none⟩

end Lemmas

end History

/-- What is kept for a key is what the last read made, and something is kept just when something
was resolved since the last drop. Every call for a configuration was answered. -/
structure ConfigCache.Remembers (c : ConfigCache) (h : List (Event L)) : Prop where
  entries : ∀ {key config}, c.get? key = some config → LastRead key config h
  unkept : ∀ {key}, c.get? key = none ↔ Unresolved key h
  fits : Justified MemoFits h
  answered : ∀ id uri, h.head? ≠ some (.resolving id uri)

namespace ConfigCache.Remembers

variable {c : ConfigCache} {h : List (Event L)} {id : TaskId} {uri : Url} {config : DocumentConfig}

theorem unasked (m : c.Remembers h) {e : Event L} {i : TaskId} {v : Url} {before : List (Event L)}
    (asked : h = .resolving i v :: before) : Answers i v before e := by
  refine absurd ?_ (m.answered i v)
  simp [asked]

theorem cons (m : c.Remembers h) {e : Event L} (apart : e.consults = false)
    (result : ∀ {i config}, e = .finished i (.config config) →
      ∃ uri, h.head? = some (.resolved i uri config)) : c.Remembers (e :: h) := by
  have others := Event.apart_of_consults apart
  constructor
  · intro key config kept
    exact (m.entries kept).later (others key).2.2
  · intro key
    rw [m.unkept, unresolved_cons (others key).1]
    exact (and_iff_right (others key).2.1).symm
  · refine ⟨⟨m.unasked, ?_, result⟩, m.fits⟩
    rintro i uri config rfl
    simp [Event.consults] at apart
  · intro i uri first
    obtain rfl : e = .resolving i uri := by simpa using first
    simp [Event.consults] at apart

theorem find (m : c.Remembers h) (kept : c.get? uri.cacheKey = some config) :
    c.Remembers (.resolved id uri config :: .resolving id uri :: h) := by
  have last := m.entries kept
  have resolved : ¬ Unresolved uri.cacheKey h := by
    rw [← m.unkept, kept]
    simp
  constructor
  · intro key config there
    exact ((m.entries there).later rfl).later rfl
  · intro key
    rw [unresolved_cons rfl, unresolved_cons rfl, ← m.unkept]
    by_cases same : uri.cacheKey = key
    · simp [← same, kept]
    · simp [Event.resolves, same]
  · refine ⟨⟨?_, ?_, by simp⟩, ⟨m.unasked, by simp, by simp⟩, m.fits⟩
    · rintro _ _ _ ⟨⟩
      exact .recall resolved last
    · rintro _ _ _ ⟨⟩
      exact last.later rfl
  · simp

theorem read (m : c.Remembers h) (kept : c.get? uri.cacheKey = none) :
    c.Remembers (.settingsRead id uri :: .resolving id uri :: h) := by
  constructor
  · intro key config there
    have other : uri.cacheKey ≠ key := by
      rintro rfl
      simp [kept] at there
    exact ((m.entries there).later rfl).later (by simpa [Event.reads] using other)
  · intro key
    rw [unresolved_cons rfl, unresolved_cons rfl, m.unkept]
    simp [Event.resolves]
  · refine ⟨⟨?_, by simp, by simp⟩, ⟨m.unasked, by simp, by simp⟩, m.fits⟩
    rintro _ _ _ ⟨⟩
    exact .read (m.unkept.mp kept)
  · simp

/-- What a call made of the last settings is kept, as its generation is the present one. -/
theorem keep (m : c.Remembers h) (last : LastRead uri.cacheKey config h) :
    (c.insertIfCurrent uri.cacheKey config c.generation).1.Remembers
      (.resolved id uri config :: h) := by
  constructor
  · intro key config kept
    rcases get?_insertIfCurrent kept with ⟨_, rfl, rfl⟩ | old
    · exact last.later rfl
    · exact (m.entries old).later rfl
  · intro key
    rw [unresolved_cons rfl, ← m.unkept]
    by_cases same : uri.cacheKey = key
    · simp [insertIfCurrent, get?, Event.resolves, same]
    · simp [insertIfCurrent, get?, Event.resolves, same]
  · refine ⟨⟨m.unasked, ?_, by simp⟩, m.fits⟩
    rintro _ _ _ ⟨⟩
    exact last
  · simp

/-- After a drop nothing is kept for its keys, and nothing changes for the others. -/
theorem drop (m : c.Remembers h) {d : ConfigCache} {e : Event L} (drops : e.drops = true)
    (dropped : ∀ key, e.dropsKey key = true → d.get? key = none)
    (spared : ∀ key, e.dropsKey key = false → d.get? key = c.get? key) :
    d.Remembers (e :: h) := by
  have others : (∀ key, e.resolves key = false ∧ e.reads key = false) ∧
      (∀ i u, e ≠ .resolving i u) ∧ (∀ i u k, e ≠ .resolved i u k) ∧
      ∀ i r, e ≠ .finished i r := by
    cases e <;> simp_all [Event.drops, Event.resolves, Event.reads]
  obtain ⟨quiet, unasking, unresolving, going⟩ := others
  constructor
  · intro key config kept
    cases of : e.dropsKey key with
    | true => simp [dropped key of] at kept
    | false => exact (m.entries (spared key of ▸ kept)).later (quiet key).2
  · intro key
    cases of : e.dropsKey key with
    | true => exact iff_of_true (dropped key of) (unresolved_of_drop of)
    | false =>
      rw [spared key of, m.unkept, unresolved_cons of]
      exact (and_iff_right (quiet key).1).symm
  · exact ⟨⟨m.unasked, fun eq => absurd eq (unresolving _ _ _), fun eq => absurd eq (going _ _)⟩,
      m.fits⟩
  · intro i u first
    exact unasking i u (by simpa using first)

theorem forget (m : c.Remembers h) (id : TaskId) (uri : Url) :
    (c.invalidate uri.cacheKey).1.Remembers (.forgotten id uri :: h) := by
  refine m.drop rfl ?_ ?_
  · intro key same
    simp_all [Event.dropsKey, invalidate, get?]
  · intro key other
    simp_all [Event.dropsKey, invalidate, get?]

theorem clear (m : c.Remembers h) : c.clear.Remembers (.cleared :: h) := by
  refine m.drop rfl ?_ (by simp [Event.dropsKey])
  intro key _
  simp [ConfigCache.clear, get?]

theorem issue_all {a : Adapter L} (m : a.cache.Remembers a.history) (ds : List Document) :
    (a.issueAll ds).1.cache.Remembers (a.issueAll ds).1.history := by
  induction ds generalizing a with
  | nil => exact m
  | cons d ds ih => exact ih (a := a.issue d) (m.cons rfl (by simp))

end ConfigCache.Remembers

def Lookup.Uninterrupted (id : TaskId) (uri : Url) (c : ConfigCache) (h : List (Event L)) :
    Lookup → Prop
  | .reading generation => generation = c.generation ∧ h.head? = some (.settingsRead id uri)
  | .announcing generation config =>
    generation = c.generation ∧ LastRead uri.cacheKey config h
  | .found config => h.head? = some (.resolved id uri config)

structure Recalls (id : TaskId) (x : Adapter L × Task) : Prop where
  remembers : x.1.cache.Remembers x.1.history
  looks : ∀ {uri l}, x.2.lookup? = some (uri, l) →
    l.Uninterrupted id uri x.1.cache x.1.history

theorem Recalls.idle {id : TaskId} {a : Adapter L} {t : Task} (m : a.cache.Remembers a.history)
    (none : t.lookup? = none) : Recalls id (a, t) :=
  ⟨m, fun asked => by simp [none] at asked⟩

theorem TaskMove.recalls {id : TaskId} {x y : Adapter L × Task} (m : TaskMove id x y)
    (r : Recalls id x) : Recalls id y := by
  have remembers := r.remembers
  cases m with
  | find a asks config kept =>
    refine ⟨remembers.find kept, fun asked => ?_⟩
    obtain ⟨rfl, rfl⟩ : _ ∧ _ := by simpa [asks.lookup] using asked
    rfl
  | read a asks kept =>
    refine ⟨remembers.read kept, fun asked => ?_⟩
    obtain ⟨rfl, rfl⟩ : _ ∧ _ := by simpa [asks.lookup] using asked
    exact ⟨rfl, rfl⟩
  | @announce _ uri _ a asks generation s =>
    refine ⟨(remembers.cons rfl (by simp)).cons rfl (by simp), fun asked => ?_⟩
    obtain ⟨rfl, rfl⟩ : _ ∧ _ := by simpa [asks.lookup] using asked
    obtain ⟨current, first⟩ := r.looks (asks.lookup _)
    obtain ⟨older, cut⟩ := List.head?_eq_some_iff.mp first
    have given : LastRead uri.cacheKey (.resolve s uri) (.settingsGiven id uri s :: a.history) :=
      ⟨[], id, uri, s, older, congrArg _ cut, rfl, rfl, by simp⟩
    exact ⟨current, given.later rfl⟩
  | keep a asks generation config =>
    obtain ⟨current, last⟩ := r.looks (asks.lookup _)
    refine ⟨current ▸ remembers.keep last, fun asked => ?_⟩
    obtain ⟨rfl, rfl⟩ : _ ∧ _ := by simpa [asks.lookup] using asked
    rfl
  | answer a uri config =>
    refine .idle (remembers.cons rfl ?_) rfl
    rintro _ _ ⟨⟩
    exact ⟨uri, r.looks rfl⟩
  | fail => exact .idle ((remembers.cons rfl (by simp)).cons rfl (by simp)) rfl
  | accept => exact .idle ((remembers.cons rfl (by simp)).cons rfl (by simp)) rfl
  | refuse => exact .idle ((remembers.cons rfl (by simp)).cons rfl (by simp)) rfl
  | drop => exact .idle (((remembers.cons rfl (by simp)).cons rfl (by simp)).cons rfl (by simp)) rfl
  | exclude => exact .idle remembers rfl
  | arrive => exact .idle remembers rfl
  | enter => exact .idle remembers rfl
  | close a uri => exact .idle (remembers.forget id uri) rfl
  | _ => exact .idle (remembers.cons rfl (by simp)) rfl

section Lines

def Task.isReading (t : Task) : Bool :=
  match t.lookup? with
  | some (_, .reading _) => true
  | _ => false

variable {id : TaskId}

theorem Asks.isReading {t : Task} {uri : Url} {k : Lookup → Task} (asks : Asks t uri k) :
    t.isReading = false ∧ (∀ n, (k (.reading n)).isReading = true) ∧
      (∀ n config, (k (.announcing n config)).isReading = false) ∧
      ∀ config, (k (.found config)).isReading = false := by
  cases asks <;> exact ⟨rfl, fun _ => rfl, fun _ _ => rfl, fun _ => rfl⟩

theorem History.AtWork.messages {p : Pass} {left all : List Diagnostic} {h : List (Event L)}
    (w : AtWork id p (.reporting left all) h) :
    ∀ d ∈ left, ∃ f : Finding, d.message = f.display := by
  obtain ⟨span, _, w⟩ := w
  generalize own id span = es at w
  cases w with
  | reporting w fs converted whole =>
    intro d hd
    have found : d ∈ p.diagnostics fs := by simp [← converted, whole, hd]
    obtain ⟨f, _, rfl⟩ := List.mem_map.mp found
    exact ⟨f, rfl⟩

/-- A move that reads settings leaves its task with a line to come, and the line takes that away. -/
theorem TaskMove.tally {x y : Adapter L × Task} (m : TaskMove id x y)
    (w : x.2.Works id x.1.history) :
    ∃ es, y.1.history = es ++ x.1.history ∧
      es.countP Event.isRead + x.2.isReading.toNat =
        es.countP Event.isAnnouncement + y.2.isReading.toNat := by
  cases m with
  | find _ asks =>
    obtain ⟨start, _, _, found⟩ := asks.isReading
    exact ⟨[_, _], rfl, by rw [start, found]; rfl⟩
  | read _ asks =>
    obtain ⟨start, reading, _, _⟩ := asks.isReading
    exact ⟨[_, _], rfl, by rw [start, reading]; rfl⟩
  | announce _ asks =>
    obtain ⟨_, reading, announcing, _⟩ := asks.isReading
    refine ⟨[_, _], rfl, ?_⟩
    simp [Adapter.announce, reading, announcing, Event.isRead, Event.isAnnouncement]
  | keep _ asks =>
    obtain ⟨_, _, announcing, found⟩ := asks.isReading
    exact ⟨[_], rfl, by rw [announcing, found]; rfl⟩
  | fail a p rest os config e =>
    refine ⟨[_, _], rfl, ?_⟩
    simp [Event.isRead, Event.isAnnouncement, Task.isReading, Task.lookup?]
  | report a p rest os d left all =>
    obtain ⟨f, said⟩ := History.AtWork.messages w d List.mem_cons_self
    refine ⟨[_], rfl, ?_⟩
    simp [said, Event.isRead, Event.isAnnouncement, Task.isReading, Task.lookup?]
  | accept => exact ⟨[_, _], rfl, rfl⟩
  | refuse => exact ⟨[_, _], rfl, rfl⟩
  | drop => exact ⟨[_, _, _], rfl, rfl⟩
  | exclude => exact ⟨[], rfl, rfl⟩
  | arrive => exact ⟨[], rfl, rfl⟩
  | enter => exact ⟨[], rfl, rfl⟩
  | _ => exact ⟨[_], rfl, rfl⟩

end Lines

namespace TaskPool

variable {linter : L} {s t : TaskPool L}

/-- What is reached when every call is over before the next one starts. -/
inductive InTurn (linter : L) : TaskPool L → Prop where
  | start : InTurn linter (.initial linter)
  | resume {s : TaskPool L} (h : InTurn linter s) (id : TaskId) (answer : Answer) :
      InTurn linter (s.resume id answer)
  | call {s : TaskPool L} (h : InTurn linter s) (ended : ∀ t ∈ s.tasks, t = .finished)
      (e : Step L) (allowed : s.Allowed e) : InTurn linter (s.step e)

theorem InTurn.reachable (h : InTurn linter s) : Reachable (.initial linter) s := by
  induction h with
  | start => exact .refl
  | resume _ id answer ih => exact ih.step (.resume id answer) trivial
  | call _ _ e allowed ih => exact ih.step e allowed

structure Recalling (s : TaskPool L) : Prop where
  remembers : s.adapter.cache.Remembers s.adapter.history
  looks : ∀ {id : TaskId} {t : Task} {uri l}, s.tasks[id]? = some t →
    t.lookup? = some (uri, l) → l.Uninterrupted id uri s.adapter.cache s.adapter.history
  alone : ∀ {i j : TaskId} {t u : Task}, s.tasks[i]? = some t → s.tasks[j]? = some u →
    t ≠ .finished → u ≠ .finished → i = j

theorem Recalling.resume (r : Recalling s) (id : TaskId) (answer : Answer) :
    Recalling (s.resume id answer) := by
  simp only [TaskPool.resume]
  split
  · exact r
  · rename_i t here
    by_cases ended : t = .finished
    · subst ended
      obtain ⟨bound, eq⟩ := List.getElem?_eq_some_iff.mp here
      have nothing : s.adapter.resumeTask id .finished answer = (s.adapter, .finished) := by
        cases answer <;> rfl
      rwa [nothing, ← eq, List.set_getElem_self]
    · -- No other task can be in a call, so nothing depends on what this step does.
      have others : ∀ {j : TaskId} {u : Task}, j ≠ id → s.tasks[j]? = some u → u = .finished := by
        intro j u ne there
        by_contra going
        exact ne (r.alone there here going ended)
      have moved : Recalls id (s.adapter.resumeTask id t answer) := by
        refine Adapter.resume_task_keeps TaskMove.recalls ?_ answer ⟨r.remembers, r.looks here⟩
        intro ds _
        exact .idle (r.remembers.issue_all ds) rfl
      constructor
      · exact moved.remembers
      · intro j u uri l at_j asked
        rcases task_cases at_j with ⟨rfl, rfl⟩ | ⟨ne, old⟩
        · exact moved.looks asked
        · simp [others ne old, Task.lookup?] at asked
      · intro i j u v at_i at_j going also
        rcases task_cases at_i with ⟨rfl, _⟩ | ⟨ne, old⟩
        · rcases task_cases at_j with ⟨rfl, _⟩ | ⟨ne, old⟩
          · rfl
          · exact absurd (others ne old) also
        · exact absurd (others ne old) going

theorem Recalling.call (r : Recalling s) (ended : ∀ t ∈ s.tasks, t = .finished) (e : Step L) :
    Recalling (s.step e) := by
  have idle : ∀ {id : TaskId} {t : Task}, s.tasks[id]? = some t → t = .finished :=
    fun here => ended _ (List.mem_of_getElem? here)
  have quiet : ∀ {a : Adapter L}, a.cache.Remembers a.history → Recalling ⟨a, s.tasks⟩ := by
    intro a remembers
    refine ⟨remembers, ?_, r.alone⟩
    intro id t uri l here asked
    simp [idle here, Task.lookup?] at asked
  cases e with
  | spawn job =>
    constructor
    · exact r.remembers
    · intro id t uri l here asked
      rcases spawn_cases here with ⟨_, rfl⟩ | ⟨_, old⟩
      · simp [Task.lookup?] at asked
      · exact r.looks old asked
    · intro i j t u at_i at_j going also
      rcases spawn_cases at_i with ⟨rfl, _⟩ | ⟨_, old⟩
      · rcases spawn_cases at_j with ⟨rfl, _⟩ | ⟨_, old⟩
        · rfl
        · exact absurd (idle old) also
      · exact absurd (idle old) going
  | resume id answer => exact r.resume id answer
  | issue d => exact quiet (r.remembers.cons rfl (by simp))
  | invalidate => exact quiet r.remembers.clear
  | setLinter linter => exact quiet (r.remembers.cons rfl (by simp))

theorem InTurn.recalling (h : InTurn linter s) : Recalling s := by
  induction h with
  | start =>
    refine ⟨⟨?_, ?_, trivial, by simp [initial, Adapter.initial]⟩, ?_, ?_⟩
    · simp [initial, Adapter.initial, ConfigCache.empty, ConfigCache.get?]
    · simp [initial, Adapter.initial, ConfigCache.empty, ConfigCache.get?, Unresolved, sinceDrop]
    · simp [initial]
    · simp [initial]
  | resume _ id answer ih => exact ih.resume id answer
  | call _ ended e _ ih => exact ih.call ended e

/-- Every read of settings has its line, logged or to come. -/
theorem Arises.tally (h : Arises linter s) :
    s.adapter.history.countP Event.isRead =
      s.adapter.history.countP Event.isAnnouncement + s.tasks.countP Task.isReading := by
  induction h with
  | start => rfl
  | @move s t h m ih =>
    cases m with
    | issue => exact ih
    | invalidate => exact ih
    | setLinter => exact ih
    | spawn job => simpa [spawn, Task.isReading, Task.lookup?] using ih
    | claim passes here =>
      have count := count_set here (.ready (.run passes)) Task.isReading
      simp only [Task.isReading, Task.lookup?, Bool.toNat_false, Nat.add_zero] at count
      exact ih.trans (by rw [← count])
    | @task id t u a here m =>
      obtain ⟨es, added, tally⟩ := m.tally (h.working.works here)
      have count := count_set here u Task.isReading
      simp only [show a.history = es ++ s.adapter.history from added, List.countP_append] at tally ⊢
      omega

/-- Where calls come one after another, a call for a configuration reads settings just when none
was resolved for its key since the key was last dropped, no settings are read but by such a call,
and what any call returns was made of the settings that were read last for its key. And in whatever
order tasks take turns, when all are over there are as many lines about configurations as reads. -/
theorem settings_read_once :
    (∀ {s : TaskPool L}, InTurn linter s →
      (∀ {newer older id uri}, s.adapter.history = newer ++ .resolving id uri :: older →
        ∃ late next, newer = late ++ [next] ∧ Answers id uri older next) ∧
      (∀ {newer older id uri}, s.adapter.history = newer ++ .settingsRead id uri :: older →
        older.head? = some (.resolving id uri)) ∧
      (∀ {newer older id uri config},
        s.adapter.history = newer ++ .resolved id uri config :: older →
          LastRead uri.cacheKey config older) ∧
      ∀ {newer older id config},
        s.adapter.history = newer ++ .finished id (.config config) :: older →
          ∃ uri, older.head? = some (.resolved id uri config)) ∧
    ∀ {s : TaskPool L}, Reachable (.initial linter) s → (∀ t ∈ s.tasks, t = .finished) →
      s.adapter.history.countP Event.isAnnouncement = s.adapter.history.countP Event.isRead := by
  constructor
  · intro s inTurn
    obtain ⟨_, _, fits, answered⟩ := inTurn.recalling.remembers
    have reads := (reachable_arises inTurn.reachable).read_fits
    refine ⟨?_, ?_, ?_, ?_⟩
    · intro newer older id uri history
      rcases List.eq_nil_or_concat newer with rfl | ⟨late, next, rfl⟩
      · simp [history] at answered
      · have cut : s.adapter.history = late ++ next :: .resolving id uri :: older := by
          simp [history]
        rw [cut] at fits
        exact ⟨late, next, List.concat_eq_append, fits.at.answers rfl⟩
    · intro newer older id uri history
      rw [history] at reads
      exact reads.at
    · intro newer older id uri config history
      rw [history] at fits
      exact fits.at.returns rfl
    · intro newer older id config history
      rw [history] at fits
      exact fits.at.result rfl
  · intro s h ended
    have none : s.tasks.countP Task.isReading = 0 :=
      List.countP_eq_zero.mpr fun t ht => by simp [ended t ht, Task.isReading, Task.lookup?]
    have tally := (reachable_arises h).tally
    omega

theorem InTurn.serve (h : InTurn linter s) (n : Nat) (ended : s.tasks = .replicate n .finished)
    (job : Job) (free : job.passes = []) (answers : List Answer) :
    InTurn linter (s.play (.spawn job :: answers.map (.resume n))) := by
  have idle : ∀ t ∈ s.tasks, t = .finished := by
    rw [ended]
    exact fun t => List.eq_of_mem_replicate
  have called : InTurn linter (s.spawn job) :=
    h.call idle (.spawn job) ⟨by simp [free], by simp [free]⟩
  show InTurn linter ((s.spawn job).play (answers.map (.resume n)))
  generalize s.spawn job = pool at called
  induction answers generalizing pool with
  | nil => exact called
  | cons answer answers ih => exact ih _ (called.resume n answer)

def relinted : TaskPool Unit :=
  ((((initial ()).play (lintSteps 0 (.ok []))).play (lintSteps 1 (.ok []))).play
    [.spawn (.close emptyPage.uri), .resume 2 .done, .resume 2 .done]).play (lintSteps 3 (.ok []))

theorem relinted_in_turn : InTurn () relinted := by
  have first : InTurn () ((initial ()).play (lintSteps 0 (.ok []))) :=
    InTurn.start.serve 0 rfl (.lint emptyPage) rfl [_, _, _, _, _]
  have again : InTurn () (((initial ()).play (lintSteps 0 (.ok []))).play (lintSteps 1 (.ok []))) :=
    first.serve 1 rfl (.lint emptyPage) rfl [_, _, _, _, _]
  have closed := again.serve 2 rfl (.close emptyPage.uri) rfl [.done, .done]
  exact closed.serve 3 rfl (.lint emptyPage) rfl [_, _, _, _, _]

/-- The second pass gets what was made of the settings that the first one read, and the last one
reads them anew. -/
theorem relinted_reads_twice :
    InTurn () relinted ∧
    (∃ newer older config, relinted.adapter.history =
        newer ++ .resolved 1 emptyPage.uri config :: .resolving 1 emptyPage.uri :: older ∧
      Answers 1 emptyPage.uri older (.resolved 1 emptyPage.uri config)) ∧
    (∃ newer older, relinted.adapter.history =
        newer ++ .settingsRead 3 emptyPage.uri :: .resolving 3 emptyPage.uri :: older ∧
      Answers 3 emptyPage.uri older (.settingsRead 3 emptyPage.uri)) ∧
    Reachable (initial ()) relinted ∧ relinted.tasks = .replicate 4 .finished ∧
    relinted.adapter.history.countP Event.isAnnouncement = 2 := by
  have inTurn := relinted_in_turn
  obtain ⟨sequential, interleaved⟩ := @settings_read_once Unit ()
  obtain ⟨calls, _⟩ := sequential inTurn
  have answers : ∀ {newer older id uri e},
      relinted.adapter.history = newer ++ e :: .resolving id uri :: older →
        Answers id uri older e := by
    intro newer older id uri e history
    have whole : relinted.adapter.history = (newer ++ [e]) ++ .resolving id uri :: older := by
      simp [history]
    obtain ⟨late, next, cut, answers⟩ := calls whole
    obtain ⟨_, same⟩ := List.append_inj' cut rfl
    obtain rfl : e = next := by simpa using same
    exact answers
  have recalled : relinted.adapter.history = relinted.adapter.history.take 23 ++
      .resolved 1 emptyPage.uri (.resolve .default emptyPage.uri) ::
        .resolving 1 emptyPage.uri :: relinted.adapter.history.drop 25 := rfl
  have reread : relinted.adapter.history = relinted.adapter.history.take 10 ++
      .settingsRead 3 emptyPage.uri :: .resolving 3 emptyPage.uri ::
        relinted.adapter.history.drop 12 := rfl
  have tasks : relinted.tasks = .replicate 4 .finished := rfl
  have ended : ∀ t ∈ relinted.tasks, t = .finished := by
    rw [tasks]
    exact fun t => List.eq_of_mem_replicate
  have reads : relinted.adapter.history.countP Event.isRead = 2 := rfl
  exact ⟨inTurn, ⟨_, _, _, recalled, answers recalled⟩, ⟨_, _, reread, answers reread⟩,
    inTurn.reachable, tasks, (interleaved inTurn.reachable ended).trans reads⟩

end TaskPool

end MarkupLint
