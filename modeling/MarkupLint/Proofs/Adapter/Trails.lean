import MarkupLint.Proofs.Adapter.Lock

/-! The trail of each pass: what happened to it follows its stage, and a pass that ended left one of
four trails. -/
namespace MarkupLint

open History

variable {L : Type}

/-- What happened to a pass up to a stage, the last event first. -/
inductive Trail (id : TaskId) (p : Pass) : Stage → List (Event L) → Prop where
  | lookup (l : Lookup) : Trail id p (.lookup l) [.issued p]
  | linting {l : Lookup} {es} (t : Trail id p (.lookup l) es) (linter : L)
      (config : DocumentConfig) :
      Trail id p (.linting config) (.lintCalled id linter p.call config.rules :: es)
  | failing {config : DocumentConfig} {es} (t : Trail id p (.linting config) es) (e : LintError)
      (shows : Bool) {reason : String} (said : reason = e.message) :
      Trail id p (.failing reason shows) (.replied id p (.error e) :: es)
  | showing {reason : String} {es} (t : Trail id p (.failing reason true) es) :
      Trail id p (.showing reason) es
  | reporting {config : DocumentConfig} {es} (t : Trail id p (.linting config) es)
      (fs : List Finding) (left : List Diagnostic) {all : List Diagnostic}
      (converted : all = p.diagnostics fs) :
      Trail id p (.reporting left all)
        (.checked id p false true :: .replied id p (.ok fs) :: es)
  | found {left all : List Diagnostic} {es} (t : Trail id p (.reporting left all) es) :
      Trail id p (.queued (.found all)) es
  | excluded {l : Lookup} {es} (t : Trail id p (.lookup l) es) :
      Trail id p (.queued .excluded) es
  | publishing {u : Publication} {es} (t : Trail id p (.queued u) es) :
      Trail id p (.publishing u) (.checked id p true true :: es)
  | published {u : Publication} {es} (t : Trail id p (.publishing u) es) {ds : List Diagnostic}
      (brought : ds = u.diagnostics) :
      Trail id p (.published u) (.set id p.update ds :: es)

inductive Ending (p : Pass) : Outcome → List (Event L) → Prop where
  | published {id : TaskId} {u : Publication} {es} (t : Trail id p (.published u) es)
      {o : Outcome} (is : o = u.outcome) : Ending p o (.ended p o :: es)
  | refused {id : TaskId} {u : Publication} {es} (t : Trail id p (.queued u) es) :
      Ending p .stale (.ended p .stale :: .checked id p true false :: es)
  | dropped {id : TaskId} {config : DocumentConfig} {es} (t : Trail id p (.linting config) es)
      (fs : List Finding) :
      Ending p .stale
        (.ended p .stale :: .checked id p false false :: .replied id p (.ok fs) :: es)
  | failed {id : TaskId} {reason : String} {shows : Bool} {es}
      (t : Trail id p (.failing reason shows) es) :
      Ending p (.failed reason) (.ended p (.failed reason) :: es)

theorem Trail.lookup_any {id : TaskId} {p : Pass} {l : Lookup} {es : List (Event L)}
    (t : Trail id p (.lookup l) es) (l' : Lookup) : Trail id p (.lookup l') es := by
  cases t
  exact .lookup l'

theorem Trail.report_any {id : TaskId} {p : Pass} {left all : List Diagnostic}
    {es : List (Event L)} (t : Trail id p (.reporting left all) es) (left' : List Diagnostic) :
    Trail id p (.reporting left' all) es := by
  cases t with
  | reporting t fs _ converted => exact t.reporting fs left' converted

/-- Each pass of a task left the trail of its stage; those that did not start were only issued. -/
def Task.Follows (id : TaskId) (h : List (Event L)) : Task → Prop
  | .ready job => ∀ p ∈ job.passes, trail p h = [.issued p]
  | .passing p stage rest _ =>
    Trail id p stage (trail p h) ∧ ∀ q ∈ rest, trail q h = [.issued q]
  | _ => True

theorem trail_cons (p : Pass) (e : Event L) (h : List (Event L)) :
    trail p (e :: h) = if e.concerns p then e :: trail p h else trail p h := List.filter_cons

/-- A move of a task leaves no trail of any other pass than its first. -/
theorem TaskMove.trail_eq {id : TaskId} {x y : Adapter L × Task} (m : TaskMove id x y) {q : Pass}
    (other : x.2.passes.head? ≠ some q) : trail q y.1.history = trail q x.1.history := by
  cases m
  case find asks _ _ => rfl
  case read asks _ => rfl
  case announce asks _ _ => rfl
  case keep asks _ _ => rfl
  all_goals
    simp only [Task.passes, List.head?_cons, ne_eq, Option.some.injEq] at other
    simp [trail_cons, Event.concerns, other]

theorem TaskMove.follows {id : TaskId} {x y : Adapter L × Task} (m : TaskMove id x y)
    (nodup : x.2.passes.Nodup) (outside : x.2.standing = .outside → x.1.holds id = false)
    (f : x.2.Follows id x.1.history) : y.2.Follows id y.1.history := by
  have later : ∀ q ∈ x.2.passes.tail, trail q x.1.history = [.issued q] →
      trail q y.1.history = [.issued q] := by
    intro q hq only
    rw [m.trail_eq, only]
    intro first
    obtain ⟨ps, eq⟩ := List.head?_eq_some_iff.mp first
    rw [eq] at nodup hq
    exact (List.nodup_cons.mp nodup).1 hq
  cases m with
  | ignore => trivial
  | finish => trivial
  | find _ asks =>
    cases asks with
    | pass p rest os =>
      obtain ⟨first, others⟩ := List.forall_mem_cons.mp f
      exact ⟨first ▸ .lookup _, others⟩
    | own => trivial
  | read _ asks =>
    cases asks with
    | pass p rest os =>
      obtain ⟨first, others⟩ := List.forall_mem_cons.mp f
      exact ⟨first ▸ .lookup _, others⟩
    | own => trivial
  | announce _ asks =>
    cases asks with
    | pass p rest os =>
      obtain ⟨own, others⟩ := f
      exact ⟨own.lookup_any _, others⟩
    | own => trivial
  | keep _ asks =>
    cases asks with
    | pass p rest os =>
      obtain ⟨own, others⟩ := f
      exact ⟨own.lookup_any _, others⟩
    | own => trivial
  | answer => trivial
  | call a p rest os config =>
    obtain ⟨own, others⟩ := f
    refine ⟨?_, fun q hq => later q hq (others q hq)⟩
    simpa [trail_cons, Event.concerns] using own.linting a.linter config
  | exclude _ p =>
    obtain ⟨own, others⟩ := f
    exact ⟨own.excluded, others⟩
  | fail _ p _ _ _ e =>
    obtain ⟨own, others⟩ := f
    refine ⟨?_, fun q hq => later q hq (others q hq)⟩
    simpa [trail_cons, Event.concerns] using own.failing e _ rfl
  | accept _ p _ _ _ fs =>
    obtain ⟨own, others⟩ := f
    refine ⟨?_, fun q hq => later q hq (others q hq)⟩
    simpa [trail_cons, Event.concerns, outside rfl] using own.reporting fs (p.diagnostics fs) rfl
  | drop => exact fun q hq => later q hq (f.2 q hq)
  | report _ p _ _ _ left =>
    obtain ⟨own, others⟩ := f
    exact ⟨own.report_any left, others⟩
  | arrive _ p =>
    obtain ⟨own, others⟩ := f
    exact ⟨own.found, others⟩
  | grant _ p =>
    obtain ⟨own, others⟩ := f
    refine ⟨?_, fun q hq => later q hq (others q hq)⟩
    simpa [trail_cons, Event.concerns] using own.publishing
  | refuse => exact fun q hq => later q hq (f.2 q hq)
  | publish _ p _ _ u =>
    obtain ⟨own, others⟩ := f
    refine ⟨?_, fun q hq => later q hq (others q hq)⟩
    simpa [trail_cons, Event.concerns] using own.published rfl
  | leave => exact fun q hq => later q hq (f.2 q hq)
  | shows =>
    obtain ⟨own, others⟩ := f
    exact ⟨own.showing, others⟩
  | giveUp => exact fun q hq => later q hq (f.2 q hq)
  | cease => exact fun q hq => later q hq (f.2 q hq)
  | close => trivial
  | enter => trivial
  | delete => trivial
  | depart => trivial

inductive PassMove : List Pass × List (Event L) → List Pass × List (Event L) → Prop where
  | stay {passes : List Pass} {h h' : List (Event L)}
      (same : ∀ p o, .ended p o ∈ h' ↔ .ended p o ∈ h) : PassMove (passes, h) (passes, h')
  | stop {p : Pass} {rest : List Pass} {o : Outcome} {h h' : List (Event L)}
      (ending : Ending p o (trail p h'))
      (same : ∀ q o', .ended q o' ∈ h' ↔ q = p ∧ o' = o ∨ .ended q o' ∈ h) :
      PassMove (p :: rest, h) (rest, h')

theorem PassMove.sublist {ps ps' : List Pass} {h h' : List (Event L)}
    (m : PassMove (ps, h) (ps', h')) : ps'.Sublist ps := by
  cases m with
  | stay => exact .refl _
  | stop => exact List.sublist_cons_self _ _

theorem PassMove.keeps {ps ps' : List Pass} {h h' : List (Event L)}
    (m : PassMove (ps, h) (ps', h')) {p : Pass} {o : Outcome} (he : .ended p o ∈ h) :
    .ended p o ∈ h' := by
  cases m with
  | stay same => exact (same p o).mpr he
  | stop _ same => exact (same p o).mpr (.inr he)

theorem PassMove.ends {ps ps' : List Pass} {h h' : List (Event L)}
    (m : PassMove (ps, h) (ps', h')) {p : Pass} {o : Outcome} (he : .ended p o ∈ h') :
    .ended p o ∈ h ∨ Ending p o (trail p h') := by
  cases m with
  | stay same => exact .inl ((same p o).mp he)
  | stop ending same =>
    rcases (same p o).mp he with ⟨rfl, rfl⟩ | old
    · exact .inr ending
    · exact .inl old

theorem PassMove.leaves {ps ps' : List Pass} {h h' : List (Event L)}
    (m : PassMove (ps, h) (ps', h')) {p : Pass} (hp : p ∈ ps) :
    p ∈ ps' ∨ ∃ o, .ended p o ∈ h' := by
  cases m with
  | stay => exact .inl hp
  | stop _ same =>
    rcases List.mem_cons.mp hp with rfl | hp
    · exact .inr ⟨_, (same p _).mpr (.inl ⟨rfl, rfl⟩)⟩
    · exact .inl hp

theorem Asks.passes {t : Task} {uri : Url} {k : Lookup → Task} (asks : Asks t uri k) (l : Lookup) :
    (k l).passes = t.passes := by
  cases asks <;> rfl

theorem TaskMove.passes {id : TaskId} {x y : Adapter L × Task} (m : TaskMove id x y)
    (outside : x.2.standing = .outside → x.1.holds id = false)
    (f : x.2.Follows id x.1.history) :
    PassMove (x.2.passes, x.1.history) (y.2.passes, y.1.history) := by
  cases m with
  | find _ asks => rw [asks.passes]; exact .stay (by simp)
  | read _ asks => rw [asks.passes]; exact .stay (by simp)
  | announce _ asks => rw [asks.passes, asks.passes]; exact .stay (by simp)
  | keep _ asks => rw [asks.passes, asks.passes]; exact .stay (by simp)
  | drop _ p _ _ config fs =>
    refine .stop (o := .stale) ?_ (by simp)
    simpa [trail_cons, Event.concerns, outside rfl] using Ending.dropped f.1 fs
  | refuse _ p =>
    refine .stop (o := .stale) ?_ (by simp)
    simpa [trail_cons, Event.concerns] using Ending.refused f.1
  | leave _ p _ _ u =>
    refine .stop (o := u.outcome) ?_ (by simp)
    simpa [trail_cons, Event.concerns] using Ending.published f.1 rfl
  | giveUp _ p _ _ reason =>
    refine .stop (o := .failed reason) ?_ (by simp)
    simpa [trail_cons, Event.concerns] using Ending.failed f.1
  | cease _ p _ _ reason =>
    refine .stop (o := .failed reason) ?_ (by simp)
    cases own : f.1 with
    | showing t => simpa [trail_cons, Event.concerns] using Ending.failed t
  | _ => exact .stay (by simp)

theorem TaskMove.issued {id : TaskId} {x y : Adapter L × Task} (m : TaskMove id x y) :
    issuedPasses y.1.history = issuedPasses x.1.history ∧ y.1.issued = x.1.issued := by
  cases m <;> exact ⟨rfl, rfl⟩

theorem mem_trail {p : Pass} {e : Event L} {h : List (Event L)} :
    e ∈ trail p h ↔ e ∈ h ∧ e.concerns p = true := List.mem_filter

theorem Trail.issued {id : TaskId} {p : Pass} {stage : Stage} {es : List (Event L)}
    (t : Trail id p stage es) : .issued p ∈ es := by
  induction t <;> simp [*]

theorem Trail.unended {id : TaskId} {p : Pass} {stage : Stage} {es : List (Event L)}
    (t : Trail id p stage es) (q : Pass) (o : Outcome) : .ended q o ∉ es := by
  induction t <;> simp [*]

theorem Ending.issued {p : Pass} {o : Outcome} {es : List (Event L)} (t : Ending p o es) :
    .issued p ∈ es := by
  cases t with
  | published t _ => simp [t.issued]
  | refused t => simp [t.issued]
  | dropped t _ => simp [t.issued]
  | failed t => simp [t.issued]

theorem Trail.unset {id : TaskId} {p : Pass} {stage : Stage} {es : List (Event L)}
    (t : Trail id p stage es) (early : ∀ u, stage ≠ .published u) (i : TaskId) (q : Pass)
    (ds : List Diagnostic) : .set i q.update ds ∉ es := by
  induction t with
  | published => exact absurd rfl (early _)
  | lookup => simp
  | _ t => simp_all

theorem Trail.set_once {id : TaskId} {p : Pass} {stage : Stage} {es : List (Event L)}
    (t : Trail id p stage es) {i j : TaskId} {ds ds' : List Diagnostic} :
    ¬ Before es (.set i p.update ds) (.set j p.update ds') := by
  intro twice
  by_cases late : ∃ u, stage = .published u
  · obtain ⟨u, rfl⟩ := late
    cases t with
    | published t =>
      have unset := t.unset nofun i p ds
      rcases (before_cons _ _ _ _).mp twice with twice | ⟨_, again⟩
      · exact unset twice.mem.1
      · exact unset again
  · exact t.unset (fun u eq => late ⟨u, eq⟩) i p ds twice.mem.1

theorem Ending.set_once {p : Pass} {o : Outcome} {es : List (Event L)} (t : Ending p o es)
    {i j : TaskId} {ds ds' : List Diagnostic} :
    ¬ Before es (.set i p.update ds) (.set j p.update ds') := by
  intro twice
  cases t with
  | published t => exact t.set_once (by simpa using twice)
  | refused t => exact t.set_once (by simpa using twice)
  | dropped t => exact t.set_once (by simpa using twice)
  | failed t => exact t.set_once (by simpa using twice)

theorem History.Before.trail {h : List (Event L)} {x y : Event L} (b : Before h x y) {p : Pass}
    (hx : x.concerns p = true) (hy : y.concerns p = true) : Before (trail p h) x y := by
  simpa [Before, History.trail, hx, hy] using List.Sublist.filter (Event.concerns p) b

namespace Task.Follows

variable {id : TaskId} {t : Task} {h h' : List (Event L)}

theorem trail (f : t.Follows id h) {p : Pass} (hp : p ∈ t.passes) :
    ∃ stage, Trail id p stage (trail p h) := by
  cases t with
  | ready job => exact ⟨.lookup (.reading 0), f p hp ▸ .lookup _⟩
  | passing q stage rest _ =>
    rcases List.mem_cons.mp hp with rfl | hp
    · exact ⟨stage, f.1⟩
    · exact ⟨.lookup (.reading 0), f.2 p hp ▸ .lookup _⟩
  | _ => simp [passes] at hp

theorem issued (f : t.Follows id h) {p : Pass} (hp : p ∈ t.passes) : .issued p ∈ h := by
  obtain ⟨_, own⟩ := f.trail hp
  exact (mem_trail.mp own.issued).1

theorem congr (f : t.Follows id h) (same : ∀ p ∈ t.passes, History.trail p h' = History.trail p h) :
    t.Follows id h' := by
  cases t with
  | ready job => exact fun p hp => (same p hp).trans (f p hp)
  | passing q stage rest _ =>
    have own := same q List.mem_cons_self
    exact ⟨own ▸ f.1, fun p hp => (same p (List.mem_cons_of_mem _ hp)).trans (f.2 p hp)⟩
  | _ => trivial

end Task.Follows

def Stage.brings? : Stage → Option Publication
  | .queued u => some u
  | .publishing u => some u
  | .published u => some u
  | _ => none

namespace Trail

variable {id : TaskId} {p : Pass} {stage : Stage} {es : List (Event L)}

theorem unreplied {l : Lookup} (t : Trail id p (.lookup l) es) (i : TaskId) (q : Pass) (r : Reply) :
    .replied i q r ∉ es := by
  cases t
  simp

theorem findings (t : Trail id p stage es) {all : List Diagnostic}
    (brings : stage.brings? = some (.found all)) :
    ∃ fs, all = p.diagnostics fs ∧ .replied id p (.ok fs) ∈ es ∧
      ∀ i r, .replied i p r ∈ es → r = .ok fs := by
  induction t with
  | found t =>
    cases t with
    | reporting t fs _ converted =>
      cases t with
      | linting t linter config =>
        have none := t.unreplied
        simp only [Stage.brings?, Option.some.injEq, Publication.found.injEq] at brings
        refine ⟨fs, brings ▸ converted, by simp, ?_⟩
        intro i r replied
        simp [none] at replied
        exact replied.2
  | publishing _ ih =>
    obtain ⟨fs, converted, replied, only⟩ := ih brings
    exact ⟨fs, converted, by simp [replied], fun i r h => only i r (by simpa using h)⟩
  | published _ _ ih =>
    obtain ⟨fs, converted, replied, only⟩ := ih brings
    exact ⟨fs, converted, by simp [replied], fun i r h => only i r (by simpa using h)⟩
  | _ => simp [Stage.brings?] at brings

theorem set_brings {newer older : List (Event L)} {i : TaskId} {ds : List Diagnostic}
    (t : Trail id p stage es) (cut : es = newer ++ .set i p.update ds :: older) :
    ds = [] ∨ ∃ fs, ds = p.diagnostics fs ∧ .replied i p (.ok fs) ∈ older := by
  have there : .set i p.update ds ∈ es := by simp [cut]
  by_cases late : ∃ u, stage = .published u
  · obtain ⟨u, rfl⟩ := late
    cases t with
    | published t brought =>
      have unset := t.unset nofun i p ds
      rcases List.cons_eq_append_iff.mp cut with ⟨_, own⟩ | ⟨newer', _, again⟩
      · simp only [List.cons.injEq, Event.set.injEq, true_and] at own
        obtain ⟨⟨rfl, rfl⟩, rfl⟩ := own
        cases u with
        | excluded => exact .inl brought
        | found all =>
          obtain ⟨fs, converted, replied, _⟩ := t.findings rfl
          exact .inr ⟨fs, brought.trans converted, replied⟩
      · exact absurd (by simp [again]) unset
  · exact absurd there (t.unset (fun u eq => late ⟨u, eq⟩) i p ds)

end Trail

namespace Ending

variable {p : Pass} {o : Outcome} {es : List (Event L)}

theorem first (t : Ending p o es) :
    ∃ rest, es = .ended p o :: rest ∧ ∀ q o', .ended q o' ∉ rest := by
  cases t with
  | published t => exact ⟨_, rfl, t.unended⟩
  | refused t => exact ⟨_, rfl, fun q o' => by simp [t.unended]⟩
  | dropped t => exact ⟨_, rfl, fun q o' => by simp [t.unended]⟩
  | failed t => exact ⟨_, rfl, t.unended⟩

/-- A pass that did not fail was checked, and went stale when it was not current then. -/
theorem decided (t : Ending p o (.ended p o :: es)) (unfailed : ∀ reason, o ≠ .failed reason) :
    ∃ between id locked current before, es = between ++ .checked id p locked current :: before ∧
      (∀ i l c, .checked i p l c ∉ between) ∧ .issued p ∈ before ∧
      (o = .stale ↔ current = false) := by
  generalize eq : Event.ended p o :: es = whole at t
  cases t with
  | @published id u _ t _ is =>
    cases t with
    | published t =>
      cases t with
      | publishing t =>
        obtain ⟨_, rfl⟩ := List.cons.inj eq
        refine ⟨[_], _, _, _, _, rfl, by simp, t.issued, ?_⟩
        cases u <;> simp [is, Publication.outcome]
  | refused t =>
    obtain ⟨_, rfl⟩ := List.cons.inj eq
    exact ⟨[], _, _, _, _, rfl, by simp, t.issued, by simp⟩
  | dropped t =>
    obtain ⟨_, rfl⟩ := List.cons.inj eq
    exact ⟨[], _, _, _, _, rfl, by simp, by simp [t.issued], by simp⟩
  | failed => exact absurd rfl (unfailed _)

theorem failed_unset {reason : String} (t : Ending p (.failed reason) es) (i : TaskId)
    (ds : List Diagnostic) : .set i p.update ds ∉ es := by
  cases t with
  | @published _ u _ _ _ is => cases u <;> simp [Publication.outcome] at is
  | failed t => simpa using t.unset nofun i p ds

theorem published_brings {n : Nat} (t : Ending p (.published n) es) :
    ∃ id fs, n = (p.diagnostics fs).length ∧ .set id p.update (p.diagnostics fs) ∈ es ∧
      .replied id p (.ok fs) ∈ es ∧ ∀ i r, .replied i p r ∈ es → r = .ok fs := by
  cases t with
  | @published id u _ t _ is =>
    cases u with
    | excluded => simp [Publication.outcome] at is
    | found all =>
      obtain ⟨fs, rfl, replied, only⟩ := t.findings rfl
      cases t with
      | published t brought =>
        refine ⟨id, fs, by simpa [Publication.outcome] using is, ?_, by simp [replied], ?_⟩
        · simp [brought, Publication.diagnostics]
        · exact fun i r h => only i r (by simpa using h)

theorem excluded_brings (t : Ending p .excluded es) : ∃ id, .set id p.update [] ∈ es := by
  cases t with
  | @published id u _ t _ is =>
    cases u with
    | found => simp [Publication.outcome] at is
    | excluded =>
      cases t with
      | published t brought => exact ⟨id, by simp [brought, Publication.diagnostics]⟩

theorem set_brings {newer older : List (Event L)} {i : TaskId} {ds : List Diagnostic}
    (t : Ending p o es) (cut : es = newer ++ .set i p.update ds :: older) :
    ds = [] ∨ ∃ fs, ds = p.diagnostics fs ∧ .replied i p (.ok fs) ∈ older := by
  have there : .set i p.update ds ∈ es := by simp [cut]
  cases t with
  | published t =>
    rcases List.cons_eq_append_iff.mp cut with ⟨_, other⟩ | ⟨newer', _, later⟩
    · simp at other
    · exact t.set_brings later
  | refused t => simp [t.unset] at there
  | dropped t => simp [t.unset] at there
  | failed t => simp [t.unset] at there

end Ending

end MarkupLint
