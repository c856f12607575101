import MarkupLint.Proofs.Adapter.ConfigurationFreshness
import MarkupLint.Proofs.Adapter.Turns

/-! The linter that a pass calls is the one installed last, and the configuration that it uses is
one that its task asked for after the pass was issued: it decides whether a linter is called, and
with which rules. -/
namespace MarkupLint

open History

variable {L : Type}

namespace Event

def installs? : Event L → Option L
  | .linterSet linter => some linter
  | _ => none

def seeks (id : TaskId) : Event L → Bool
  | .resolving i _ => i = id
  | _ => false

def looks (id : TaskId) : Event L → Bool
  | .resolving i _ => i = id
  | .resolved i _ _ => i = id
  | _ => false

theorem looks_of_task {id : TaskId} {e : Event L} (other : e.task? ≠ some id) :
    e.looks id = false := by
  cases e <;> simp_all [looks, task?]

theorem seeks_of_looks {id : TaskId} {e : Event L} (quiet : e.looks id = false) :
    e.seeks id = false := by
  cases e with
  | resolving => exact quiet
  | _ => rfl

theorem seeks_of_not_mem {id : TaskId} {h : List (Event L)} (quiet : ∀ v, .resolving id v ∉ h) :
    ∀ e ∈ h, e.seeks id = false := by
  intro e he
  cases e with
  | resolving i v =>
    have other : i ≠ id := fun same => quiet v (same ▸ he)
    simpa [seeks] using other
  | _ => rfl

def call? (p : Pass) : Event L → Option (L × Rule.Configuration)
  | .lintCalled _ linter call rules => if call.toPass = p then some (linter, rules) else none
  | _ => none

end Event

namespace History

def installed? (h : List (Event L)) : Option L := h.findSome? Event.installs?

def calls (p : Pass) (h : List (Event L)) : List (L × Rule.Configuration) :=
  h.filterMap (Event.call? p)

def Sought (id : TaskId) (p : Pass) (h : List (Event L)) : Prop :=
  ∃ mid before, h = mid ++ .resolving id p.document.uri :: before ∧ .issued p ∈ before ∧
    ∀ e ∈ mid, e.looks id = false

def Got (id : TaskId) (p : Pass) (config : DocumentConfig) (h : List (Event L)) : Prop :=
  ∃ late older, h = late ++ .resolved id p.document.uri config :: older ∧ Sought id p older ∧
    ∀ e ∈ late, e.looks id = false

/-- The configuration of a pass decides whether its linter is called, and with which rules. -/
def Uses (id : TaskId) (p : Pass) (config : DocumentConfig) (h : List (Event L)) : Prop :=
  Got id p config h ∧
    ∃ linter, calls p h = if config.excluded then [] else [(linter, config.rules)]

/-- A linter that is called is the one installed last, and a pass that is checked used a
configuration. -/
def UseFits (linter : L) : Event L → List (Event L) → Prop
  | .lintCalled _ called call _, older =>
    called = (installed? older).getD linter ∧ .issued call.toPass ∈ older
  | .checked id p _ _, older => ∃ config, Uses id p config older
  | _, _ => True

section Later

variable {id : TaskId} {p : Pass} {config : DocumentConfig} {h : List (Event L)}

theorem calls_append (p : Pass) (es h : List (Event L)) :
    calls p (es ++ h) = calls p es ++ calls p h := List.filterMap_append

theorem calls_trail (p : Pass) (h : List (Event L)) : calls p (trail p h) = calls p h := by
  unfold calls trail
  rw [List.filterMap_filter]
  congr 1
  funext e
  cases e <;> simp [Event.concerns, Event.call?]

theorem Sought.later (s : Sought id p h) (es : List (Event L))
    (quiet : ∀ e ∈ es, e.looks id = false) : Sought id p (es ++ h) := by
  obtain ⟨mid, before, rfl, issued, still⟩ := s
  exact ⟨es ++ mid, before, by simp, issued, List.forall_mem_append.mpr ⟨quiet, still⟩⟩

theorem Got.later (g : Got id p config h) (es : List (Event L))
    (quiet : ∀ e ∈ es, e.looks id = false) : Got id p config (es ++ h) := by
  obtain ⟨late, older, rfl, sought, still⟩ := g
  exact ⟨es ++ late, older, by simp, sought, List.forall_mem_append.mpr ⟨quiet, still⟩⟩

/-- What came after an event that happened once came in the part of a history that has it. -/
theorem after_once {recent base newer older : List (Event L)} {x y : Event L}
    (cut : recent ++ base = newer ++ x :: older) (later : y ∈ older) (there : y ∈ recent)
    (once : ¬ Before (recent ++ base) y y) :
    ∃ mid, recent = newer ++ x :: mid ∧ older = mid ++ base := by
  have absent : y ∉ base := fun again => once (before_of_mem there again)
  rcases List.append_eq_append_iff.mp cut with ⟨mid, _, old⟩ | ⟨mid, rfl, whole⟩
  · exact absurd (by simp [old, later]) absent
  · cases mid with
    | nil =>
      rw [List.nil_append] at whole
      exact absurd (by simp [← whole, later]) absent
    | cons e mid =>
      obtain ⟨rfl, rfl⟩ := List.cons.inj whole
      exact ⟨mid, rfl, rfl⟩

theorem last_cut (ok : Event L → Bool) {mid mid' before before' : List (Event L)} {x x' : Event L}
    (cut : mid ++ x :: before = mid' ++ x' :: before') (here : ok x = true) (here' : ok x' = true)
    (quiet : ∀ e ∈ mid, ok e = false) (quiet' : ∀ e ∈ mid', ok e = false) :
    mid = mid' ∧ before = before' := by
  rcases List.append_eq_append_iff.mp cut with ⟨c, rfl, whole⟩ | ⟨c, rfl, whole⟩
  · cases c with
    | nil => exact ⟨by simp, (List.cons.inj whole).2⟩
    | cons e c =>
      obtain ⟨rfl, _⟩ := List.cons.inj whole
      simp [quiet' x (by simp)] at here
  · cases c with
    | nil => exact ⟨by simp, (List.cons.inj whole).2.symm⟩
    | cons e c =>
      obtain ⟨rfl, _⟩ := List.cons.inj whole
      simp [quiet x' (by simp)] at here'

theorem Resolved.earlier {key : String} (r : Resolved key config h) (es : List (Event L)) :
    Resolved key config (h ++ es) := by
  obtain ⟨id, uri, s, same, computed, newer, mid, older, rfl, quiet⟩ := r
  exact ⟨id, uri, s, same, computed, newer, mid, older ++ es, by simp, quiet⟩

/-- Nothing is kept since a drop of everything but what happened since then. -/
theorem sinceDrop_cleared (key : String) (es h : List (Event L)) :
    ∃ rest, es = sinceDrop key (es ++ .cleared :: h) ++ rest := by
  induction es with
  | nil => exact ⟨[], by simp [sinceDrop, Event.dropsKey]⟩
  | cons e es ih =>
    obtain ⟨rest, cut⟩ := ih
    cases drops : e.dropsKey key with
    | true => exact ⟨e :: es, by simp [sinceDrop, drops]⟩
    | false =>
      refine ⟨rest, ?_⟩
      have kept : sinceDrop key (e :: es ++ .cleared :: h) =
          e :: sinceDrop key (es ++ .cleared :: h) := by simp [sinceDrop, drops]
      rw [kept, List.cons_append, ← cut]

theorem Uses.later (u : Uses id p config h) (es : List (Event L))
    (quiet : ∀ e ∈ es, e.looks id = false) (none : calls p es = []) :
    Uses id p config (es ++ h) := by
  obtain ⟨got, linter, called⟩ := u
  exact ⟨got.later es quiet, linter, by rw [calls_append, none, List.nil_append, called]⟩

end Later

end History

theorem Trail.uncalled {id : TaskId} {p : Pass} {l : Lookup} {h : List (Event L)}
    (t : Trail id p (.lookup l) (trail p h)) : calls p h = [] := by
  rw [← calls_trail]
  generalize trail p h = es at t
  cases t
  rfl

def Stage.Uses (id : TaskId) (p : Pass) (h : List (Event L)) : Stage → Prop
  | .lookup (.found config) => Got id p config h
  | .lookup _ => Sought id p h
  | _ => ∃ config, History.Uses id p config h

def Task.Uses (id : TaskId) (h : List (Event L)) : Task → Prop
  | .passing p stage _ _ => stage.Uses id p h
  | _ => True

theorem Task.Uses.later {id : TaskId} {t : Task} {h : List (Event L)} (u : t.Uses id h)
    (es : List (Event L)) (quiet : ∀ e ∈ es, e.looks id = false)
    (none : ∀ p ∈ t.passes, calls p es = []) : t.Uses id (es ++ h) := by
  cases t with
  | passing p stage rest os =>
    have uncalled := none p List.mem_cons_self
    simp only [Task.Uses] at *
    unfold Stage.Uses at *
    split at u
    · exact Got.later u es quiet
    · exact Sought.later u es quiet
    · obtain ⟨config, uses⟩ := u
      exact ⟨config, uses.later es quiet uncalled⟩
  | _ => trivial

theorem TaskMove.uses {id : TaskId} {x y : Adapter L × Task} (m : TaskMove id x y)
    (f : x.2.Follows id x.1.history) (u : x.2.Uses id x.1.history) :
    y.2.Uses id y.1.history := by
  have onward : ∀ {p h} (es : List (Event L)), (∃ config, History.Uses id p config h) →
      (∀ e ∈ es, e.looks id = false) → calls p es = [] →
      ∃ config, History.Uses id p config (es ++ h) :=
    fun es ⟨config, uses⟩ quiet none => ⟨config, uses.later es quiet none⟩
  cases m with
  | find a asks config =>
    cases asks with
    | pass p rest os =>
      have issued : .issued p ∈ a.history := Task.Follows.issued f List.mem_cons_self
      exact ⟨[], _, rfl, ⟨[], a.history, rfl, issued, by simp⟩, by simp⟩
    | own => trivial
  | read a asks =>
    cases asks with
    | pass p rest os =>
      have issued : .issued p ∈ a.history := Task.Follows.issued f List.mem_cons_self
      exact ⟨[_], a.history, rfl, issued, by simp [Event.looks]⟩
    | own => trivial
  | announce a asks =>
    cases asks with
    | pass p rest os => exact Sought.later u [_, _] (by simp [Event.looks])
    | own => trivial
  | keep a asks =>
    cases asks with
    | pass p rest os => exact ⟨[], _, rfl, u, by simp⟩
    | own => trivial
  | call a p rest os config linted =>
    have none : calls p a.history = [] := f.1.uncalled
    have call : calls p (.lintCalled id a.linter p.call config.rules :: a.history) =
        [(a.linter, config.rules)] := by
      rw [← List.singleton_append, calls_append, none]
      simp [calls, Event.call?]
    exact ⟨config, Got.later u [_] (by simp [Event.looks]), a.linter, by simpa [linted] using call⟩
  | exclude a p rest os config excluded =>
    exact ⟨config, u, a.linter, by rw [excluded]; exact f.1.uncalled⟩
  | fail => exact onward [_, _] u (by simp [Event.looks]) rfl
  | accept => exact onward [_, _] u (by simp [Event.looks]) rfl
  | report => exact onward [_] u (by simp [Event.looks]) rfl
  | arrive => exact u
  | grant => exact onward [_] u (by simp [Event.looks]) rfl
  | publish => exact onward [_] u (by simp [Event.looks]) rfl
  | shows => exact onward [_] u (by simp [Event.looks]) rfl
  | _ => trivial

theorem TaskMove.uses_other {id : TaskId} {x y : Adapter L × Task} (m : TaskMove id x y)
    {j : TaskId} {t : Task} (other : j ≠ id) (apart : ∀ p ∈ t.passes, p ∉ x.2.passes)
    (u : t.Uses j x.1.history) : t.Uses j y.1.history := by
  obtain ⟨es, added, others⟩ := m.others other
  rw [added]
  refine u.later es (fun e he => Event.looks_of_task (others e he)) fun p hp => ?_
  have same := m.trail_eq (q := p) fun first => apart p hp (List.mem_of_head? first)
  have called : calls p (es ++ x.1.history) = calls p x.1.history := by
    rw [← added, ← calls_trail, same, calls_trail]
  rw [calls_append] at called
  exact List.append_left_eq_self.mp called

theorem TaskMove.use_fits {id : TaskId} {x y : Adapter L × Task} (m : TaskMove id x y) {linter : L}
    (installed : x.1.linter = (installed? x.1.history).getD linter)
    (f : x.2.Follows id x.1.history) (u : x.2.Uses id x.1.history)
    (h : Justified (UseFits linter) x.1.history) : Justified (UseFits linter) y.1.history := by
  cases m with
  | call a p => exact ⟨⟨installed, f.issued List.mem_cons_self⟩, h⟩
  | accept a p rest os config fs =>
    obtain ⟨config, uses⟩ := u
    exact ⟨⟨config, uses.later [.replied id p (.ok fs)] (by simp [Event.looks]) rfl⟩, trivial, h⟩
  | drop a p rest os config fs =>
    obtain ⟨config, uses⟩ := u
    exact ⟨trivial, ⟨config, uses.later [.replied id p (.ok fs)] (by simp [Event.looks]) rfl⟩,
      trivial, h⟩
  | grant => exact ⟨u, h⟩
  | refuse => exact ⟨trivial, u, h⟩
  | find => exact ⟨trivial, trivial, h⟩
  | read => exact ⟨trivial, trivial, h⟩
  | announce => exact ⟨trivial, trivial, h⟩
  | fail => exact ⟨trivial, trivial, h⟩
  | exclude => exact h
  | arrive => exact h
  | enter => exact h
  | _ => exact ⟨trivial, h⟩

theorem TaskMove.installed {id : TaskId} {x y : Adapter L × Task} (m : TaskMove id x y) :
    installed? y.1.history = installed? x.1.history ∧ y.1.linter = x.1.linter := by
  cases m <;> exact ⟨rfl, rfl⟩

namespace TaskPool

/-- The linter is the one installed last, and so was each that was called; every pass keeps to the
configuration that its task has for it. -/
structure Using (linter : L) (s : TaskPool L) : Prop where
  installed : s.adapter.linter = (installed? s.adapter.history).getD linter
  uses : ∀ {id : TaskId} {t : Task}, s.tasks[id]? = some t → t.Uses id s.adapter.history
  fits : Justified (UseFits linter) s.adapter.history

variable {linter : L} {s t : TaskPool L}

theorem Using.frame (h : Using linter s) {a : Adapter L} {ts : List Task} (e : Event L)
    (history : a.history = e :: s.adapter.history) (tasks : ts = s.tasks)
    (installed : a.linter = (installed? a.history).getD linter)
    (quiet : ∀ id, e.looks id = false) (uncalled : ∀ p, e.call? p = none)
    (fits : UseFits linter e s.adapter.history) : Using linter ⟨a, ts⟩ := by
  refine ⟨installed, fun here => ?_, by rw [history]; exact ⟨fits, h.fits⟩⟩
  rw [history]
  refine (h.uses (tasks ▸ here)).later [e] (by simp [quiet]) fun p _ => ?_
  simp [calls, uncalled]

theorem Using.spawn (h : Using linter s) {ts : List Task}
    (now : ∀ {id : TaskId} {t : Task}, ts[id]? = some t →
      (∃ job, t = .ready job) ∨ s.tasks[id]? = some t) : Using linter ⟨s.adapter, ts⟩ := by
  refine ⟨h.installed, fun here => ?_, h.fits⟩
  rcases now here with ⟨job, rfl⟩ | old
  · trivial
  · exact h.uses old

theorem using_move (h : Using linter s) (tracked : Tracked s) (m : Move s t) : Using linter t := by
  cases m with
  | issue d =>
    exact h.frame (.issued _) rfl rfl h.installed (fun _ => rfl) (fun _ => rfl) trivial
  | invalidate => exact h.frame .cleared rfl rfl h.installed (fun _ => rfl) (fun _ => rfl) trivial
  | setLinter l => exact h.frame (.linterSet l) rfl rfl rfl (fun _ => rfl) (fun _ => rfl) trivial
  | spawn job =>
    exact h.spawn fun here => (spawn_cases here).imp (fun ⟨_, eq⟩ => ⟨job, eq⟩) And.right
  | claim passes =>
    exact h.spawn fun here => (task_cases here).imp (fun ⟨_, eq⟩ => ⟨_, eq⟩) And.right
  | @task id t u a here m =>
    have follows := tracked.follows here
    obtain ⟨same, kept⟩ := m.installed
    refine ⟨?_, fun {j v} at_j => ?_, m.use_fits h.installed follows (h.uses here) h.fits⟩
    · calc a.linter
        _ = s.adapter.linter := kept
        _ = (installed? s.adapter.history).getD linter := h.installed
        _ = (installed? a.history).getD linter := by rw [show installed? a.history = _ from same]
    · rcases task_cases at_j with ⟨rfl, rfl⟩ | ⟨ne, old⟩
      · exact m.uses follows (h.uses here)
      · exact m.uses_other ne (fun p hp own => ne (tracked.once old here hp own)) (h.uses old)

theorem Arises.using (h : Arises linter s) : Using linter s := by
  induction h with
  | start => exact ⟨rfl, fun here => by simp [initial] at here, trivial⟩
  | move h m ih => exact using_move ih h.tracked m

section Since

variable {newer recent base : List (Event L)} {id : TaskId} {p : Pass}

/-- A linter is called for a pass after its issue, and is the one installed last then. -/
theorem Arises.called_since (h : Arises linter s)
    (history : s.adapter.history = newer ++ (recent ++ base)) (issued : .issued p ∈ recent)
    {i : TaskId} {called : L} {rules : Rule.Configuration}
    (call : .lintCalled i called p.call rules ∈ recent ++ base) :
    ∃ late since, recent = late ++ .lintCalled i called p.call rules :: since ∧
      called = (installed? (since ++ base)).getD linter := by
  obtain ⟨late, older, cut⟩ := List.append_of_mem call
  have fits := h.using.fits
  rw [history, cut, ← List.append_assoc] at fits
  obtain ⟨last, before⟩ := fits.at
  obtain ⟨since, rfl, rfl⟩ :=
    after_once cut before issued (h.tracked.once_since ⟨newer, history.symm⟩)
  exact ⟨late, since, rfl, last⟩

/-- A pass that was issued since everything was dropped, and is checked, used a configuration from
settings that were read since then. -/
theorem Arises.configured_since (h : Arises linter s) {locked current : Bool}
    (history : s.adapter.history =
      newer ++ .checked id p locked current :: (recent ++ .cleared :: base))
    (issued : .issued p ∈ recent) :
    ∃ config, Uses id p config (recent ++ .cleared :: base) ∧
      Resolved p.document.uri.cacheKey config recent := by
  have fits := h.using.fits
  rw [history] at fits
  obtain ⟨config, uses⟩ := fits.at
  obtain ⟨late, older, cut, ⟨mid, before, rfl, old, still⟩, _⟩ := uses.1
  have whole : recent ++ .cleared :: base =
      (late ++ .resolved id p.document.uri config :: mid) ++
        .resolving id p.document.uri :: before := by simpa using cut
  have once : ¬ Before (recent ++ .cleared :: base) (.issued p) (.issued p) :=
    h.tracked.once_since ⟨newer ++ [.checked id p locked current], by simpa using history.symm⟩
  obtain ⟨since, rfl, rfl⟩ := after_once whole old issued once
  refine ⟨config, uses, ?_⟩
  have returns := h.fresh.adapter.returns
  rw [history, cut, ← List.cons_append, ← List.append_assoc] at returns
  obtain ⟨mid', before', asked, quiet, resolved⟩ := returns.at
  have own : ∀ v, (Event.resolving id v : Event L).seeks id = true := by simp [Event.seeks]
  obtain ⟨rfl, rfl⟩ := last_cut (Event.seeks id) asked (own _) (own _)
    (fun e he => Event.seeks_of_looks (still e he)) (Event.seeks_of_not_mem quiet)
  obtain ⟨rest, kept⟩ := sinceDrop_cleared p.document.uri.cacheKey since base
  have parts : late ++ .resolved id p.document.uri config :: mid ++
      .resolving id p.document.uri :: since =
      (late ++ [.resolved id p.document.uri config]) ++ ((mid ++ .resolving id p.document.uri ::
        sinceDrop p.document.uri.cacheKey (since ++ .cleared :: base)) ++ rest) := by
    simp [← kept]
  rw [parts]
  exact (resolved.earlier rest).later _

end Since

end TaskPool

end MarkupLint
