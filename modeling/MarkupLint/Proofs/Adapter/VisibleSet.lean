import MarkupLint.Proofs.Adapter.Orders
import MarkupLint.Proofs.Adapter.Alone
import MarkupLint.Proofs.Adapter.Updates

/-! A set of documents linted while nobody else is active. Every pass is issued before the first one
starts, so of those for one address only the last is current, all the time; the others do their
work and leave the diagnostics alone. -/
namespace MarkupLint

open History
open Map (Dict)

variable {L : Type}

namespace Adapter

theorem issue_all_queue (a : Adapter L) (ds : List Document) :
    (a.issueAll ds).1.queue = a.queue := by
  induction ds generalizing a with
  | nil => rfl
  | cons d ds ih => exact ih (a.issue d)

end Adapter

def SinkCall.url : SinkCall → String
  | .set uri _ _ => uri.text
  | .delete uri => uri.text

/-- What comes out about a document, whether its pass is still current or not. -/
inductive Judgement where
  | excluded
  | failed (e : LintError)
  | found (findings : List Finding)

namespace Judgement

def reply? : Judgement → Option Reply
  | .excluded => none
  | .failed e => some (.error e)
  | .found fs => some (.ok fs)

def outcome (last : Bool) : Judgement → Outcome
  | .failed e => .failed e.message
  | .excluded => if last then .excluded else .stale
  | .found fs => if last then .published fs.length else .stale

def calls (p : Pass) : Judgement → List SinkCall
  | .failed _ => []
  | .excluded => [.set p.document.uri [] p.document.version]
  | .found fs => [.set p.document.uri
      (fs.map (Diagnostic.ofFinding (lines p.document.text.toList))) p.document.version]

structure Seen (id : TaskId) (p : Pass) (es : List (Event L)) (config : DocumentConfig)
    (j : Judgement) : Prop where
  resolved : ∀ c, .resolved id p.document.uri c ∈ es ↔ c = config
  given : ∀ s, .settingsGiven id p.document.uri s ∈ es → config = .resolve s p.document.uri
  excluded : config.excluded = j.reply?.isNone
  called : (∃ linter, .lintCalled id linter ⟨p, p.document.text⟩ config.rules ∈ es) ↔
    config.excluded = false
  replied : ∀ r, .replied id p r ∈ es ↔ j.reply? = some r

end Judgement

def Event.judges : Event L → Bool
  | .settingsGiven _ _ _ => true
  | .resolved _ _ _ => true
  | .lintCalled _ _ _ _ => true
  | .replied _ _ _ => true
  | _ => false

section Pass

variable {id : TaskId} {p : Pass} {o : Outcome} {es es' : List (Event L)} {last : Bool}
  {config : DocumentConfig} {j : Judgement}

theorem Judgement.Seen.among (s : j.Seen id p es config)
    (same : es'.filter Event.judges = es.filter Event.judges) : j.Seen id p es' config := by
  have alike (e : Event L) (judges : e.judges = true) : e ∈ es' ↔ e ∈ es := by
    simpa [judges] using congrArg (e ∈ ·) same
  constructor
  · exact fun c => (alike _ rfl).trans (s.resolved c)
  · exact fun given there => s.given given ((alike _ rfl).mp there)
  · exact s.excluded
  · exact (exists_congr fun linter => alike _ rfl).trans s.called
  · exact fun r => (alike _ rfl).trans (s.replied r)

theorem LookedUp.seen (looked : LookedUp id p.document.uri config es)
    (excluded : config.excluded = true) :
    Judgement.excluded.Seen id p (.resolved id p.document.uri config :: es) config := by
  rcases looked with rfl | ⟨s, resolved, rfl⟩
  · constructor <;> simp [excluded, Judgement.reply?]
  · constructor <;> simp [excluded, Judgement.reply?, ← resolved]

theorem Called.seen (called : Called id p config es) {r : Reply} (reply : j.reply? = some r) :
    j.Seen id p (.replied id p r :: es) config := by
  obtain ⟨linted, linter, lookup, rfl | ⟨s, resolved, rfl⟩, rfl⟩ := called
  · constructor <;> simp [linted, reply, eq_comm, Pass.call]
  · constructor <;> simp [linted, reply, eq_comm, Pass.call, ← resolved]

@[simp] theorem reported_unjudging (ds : List Diagnostic) :
    (reported id ds : List (Event L)).filter Event.judges = [] := by
  simp [reported, Event.judges]

/-- A pass comes out as its configuration and its linter say, and tells so if it is current. -/
theorem Worked.judgement (w : Worked id p o es)
    (checked : ∀ locked current, .checked id p locked current ∈ es → current = last) :
    ∃ j config, Judgement.Seen id p es config j ∧ o = j.outcome last ∧
      sinkCalls es = if last then j.calls p else [] := by
  cases o with
  | published n =>
    obtain ⟨fs, config, call, rfl, called, rfl⟩ := w.found
    obtain rfl := checked true true (by simp)
    have seen := called.seen (j := .found fs) rfl
    refine ⟨.found fs, config, seen.among (by simp [Event.judges]), ?_, ?_⟩
    · simp [Judgement.outcome, Pass.diagnostics]
    · simp [Judgement.calls, Event.sinkCall?, called.untold, Pass.update, Pass.diagnostics]
  | excluded =>
    obtain ⟨config, lookup, looked, excluded, rfl⟩ := w.excluded
    obtain rfl := checked true true (by simp)
    refine ⟨.excluded, config, (looked.seen excluded).among (by simp [Event.judges]), rfl, ?_⟩
    simp [Judgement.calls, Event.sinkCall?, looked.untold, Pass.update]
  | stale =>
    have untold := w.tells
    rcases w.stale with ⟨fs, config, call, called, rfl⟩ | ⟨fs, config, call, called, rfl⟩ |
      ⟨config, lookup, looked, excluded, rfl⟩
    · obtain rfl := checked false false (by simp)
      have seen := called.seen (j := .found fs) rfl
      exact ⟨.found fs, config, seen.among (by simp [Event.judges]), rfl, untold⟩
    · obtain rfl := checked true false (by simp)
      have seen := called.seen (j := .found fs) rfl
      exact ⟨.found fs, config, seen.among (by simp [Event.judges]), rfl, untold⟩
    · obtain rfl := checked true false (by simp)
      have seen := looked.seen excluded
      exact ⟨.excluded, config, seen.among (by simp [Event.judges]), rfl, untold⟩
  | failed reason =>
    have untold := w.tells
    obtain ⟨e, config, call, shown, rfl, called, shows, rfl⟩ := w.failure
    have seen := called.seen (j := .failed e) rfl
    refine ⟨.failed e, config, seen.among ?_, rfl, ?_⟩
    · rcases shows with rfl | rfl <;> simp [Event.judges]
    · rw [untold]
      cases last <;> rfl

end Pass

/-- What came out about one document of the set, with all that was done for it, the last event
first. -/
structure Share (L : Type) where
  pass : Pass
  judgement : Judgement
  events : List (Event L)

def shareEvents (shares : List (Share L)) : List (Event L) :=
  (shares.map Share.events).reverse.flatten

@[simp] theorem shareEvents_append (shares : List (Share L)) (r : Share L) :
    shareEvents (shares ++ [r]) = r.events ++ shareEvents shares := by
  simp [shareEvents]

namespace Share

def outcome (a : Adapter L) (r : Share L) : Outcome := r.judgement.outcome (a.isCurrent r.pass)

structure Fits (id : TaskId) (a : Adapter L) (r : Share L) : Prop where
  framed : ∃ work, r.events =
    .ended r.pass (r.outcome a) :: (work ++ [.resolving id r.pass.document.uri])
  seen : ∃ config, r.judgement.Seen id r.pass r.events config
  told : sinkCalls r.events = if a.isCurrent r.pass then r.judgement.calls r.pass else []

end Share

structure Shared (id : TaskId) (a : Adapter L) (shares : List (Share L)) (b : Adapter L) :
    Prop where
  fits : ∀ r ∈ shares, r.Fits id a
  history : b.history = shareEvents shares ++ a.history
  latest : b.latest = a.latest
  free : b.queue = []

inductive Viewing (id : TaskId) (a : Adapter L) (passes : List Pass) : Adapter L × Task → Prop where
  | passing {b : Adapter L} {p : Pass} {stage : Stage} {rest : List Pass} {shares : List (Share L)}
      (fits : ∀ r ∈ shares, r.Fits id a) (all : shares.map Share.pass ++ p :: rest = passes)
      (solo : Solo id p a.latest (shareEvents shares ++ a.history) (b, .waits stage)) :
      Viewing id a passes (b, .passing p stage rest (shares.map (Share.outcome a)))
  | finished {b : Adapter L} {shares : List (Share L)} (fits : ∀ r ∈ shares, r.Fits id a)
      (all : shares.map Share.pass = passes)
      (history : b.history = .finished id (.outcomes (shares.map (Share.outcome a))) ::
        (shareEvents shares ++ a.history)) :
      Viewing id a passes (b, .finished)

section Loop

variable {id : TaskId} {a b : Adapter L} {p : Pass} {rest passes : List Pass}
  {shares : List (Share L)} {x : Adapter L × Progress}

theorem Shared.ends {o : Outcome} {es : List (Event L)} (fits : ∀ r ∈ shares, r.Fits id a)
    (t : Together id p a.latest (shareEvents shares ++ a.history) b es) (worked : Worked id p o es)
    (free : b.queue = []) :
    ∃ r : Share L, r.pass = p ∧ r.outcome a = o ∧
      Shared id a (shares ++ [r]) (b.record (.ended p o)) := by
  have same : b.isCurrent p = a.isCurrent p := by
    rw [Adapter.isCurrent, Adapter.isCurrent, t.latest]
  obtain ⟨j, config, seen, rfl, told⟩ := worked.judgement t.checked
  let r : Share L :=
    ⟨p, j, .ended p (j.outcome (b.isCurrent p)) :: (es ++ [.resolving id p.document.uri])⟩
  have new : r.Fits id a := by
    refine ⟨⟨es, by simp [r, Share.outcome, same]⟩, ⟨config, ?_⟩, ?_⟩
    · exact seen.among (by simp [r, Event.judges])
    · simp [r, Event.sinkCall?, told, same]
  refine ⟨r, rfl, by simp [r, Share.outcome, same], ?_, ?_, t.latest, free⟩
  · simpa [or_imp, forall_and, new] using fits
  · simp [r, t.history]

theorem Solo.viewing (solo : Solo id p a.latest (shareEvents shares ++ a.history) x)
    (fits : ∀ r ∈ shares, r.Fits id a) (all : shares.map Share.pass ++ p :: rest = passes)
    (next : ∀ {shares b}, Shared id a shares b → shares.map Share.pass ++ rest = passes →
      Viewing id a passes (b.runPasses id (shares.map (Share.outcome a)) rest)) :
    Viewing id a passes
      (Adapter.continuePasses id p rest (shares.map (Share.outcome a)) x) := by
  cases solo with
  | waits together work queue served => exact .passing fits all (.waits together work queue served)
  | ends together worked free =>
    obtain ⟨r, rfl, rfl, shared⟩ := Shared.ends fits together worked free
    have ended := next shared (by simpa using all)
    rwa [List.map_append] at ended

theorem Shared.viewing (h : Shared id a shares b) (all : shares.map Share.pass ++ rest = passes) :
    Viewing id a passes (b.runPasses id (shares.map (Share.outcome a)) rest) := by
  induction rest generalizing b shares with
  | nil => exact .finished h.fits (by simpa using all) (by simp [h.history])
  | cons p rest ih =>
    have solo : Solo id p b.latest b.history (b.startPass id p) := start_solo h.free
    rw [h.latest, h.history] at solo
    rw [Adapter.run_passes_cons]
    exact solo.viewing h.fits all ih

theorem Viewing.resume {y : Adapter L × Task} (v : Viewing id a passes y) (answer : Answer) :
    Viewing id a passes (y.1.resumeTask id y.2 answer) := by
  cases v with
  | passing fits all solo => exact (solo.resume answer).viewing fits all Shared.viewing
  | finished fits all history => exact .finished fits all history

end Loop

section Told

variable {shares : List (Share L)} {u : String}

end Told

namespace TaskPool

variable {s : TaskPool L}

section Visible

variable {id : TaskId} {a : Adapter L} {ds : List Document}

theorem start_visible (free : a.queue = []) : Viewing id (a.issueAll ds).1 (a.issueAll ds).2
    (a.resumeTask id (.ready (.visible ds)) .done) := by
  have queue : (a.issueAll ds).1.queue = [] := (a.issue_all_queue ds).trans free
  have none : Shared id (a.issueAll ds).1 [] (a.issueAll ds).1 := ⟨by simp, rfl, rfl, queue⟩
  exact none.viewing rfl

end Visible

end TaskPool

end MarkupLint
