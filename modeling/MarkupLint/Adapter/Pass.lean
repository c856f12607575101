import MarkupLint.Adapter.State

/-! One lint pass, from wait to wait. Between two waits a pass runs without interruption; where it
waits, its stage says what for. -/
namespace MarkupLint

/-- What a pass brings to the publish lock. -/
inductive Publication where
  | found (diagnostics : List Diagnostic)
  | excluded

def Publication.diagnostics : Publication → List Diagnostic
  | .found ds => ds
  | .excluded => []

def Publication.outcome : Publication → Outcome
  | .found ds => .published ds.length
  | .excluded => .excluded

inductive Lookup where
  /-- The settings are waited for, asked for in a generation of the cache. -/
  | reading (generation : Nat)
  /-- The log is waited for, to take the line about the configuration. -/
  | announcing (generation : Nat) (config : DocumentConfig)
  /-- It is there. -/
  | found (config : DocumentConfig)

/-- Where a pass waits. -/
inductive Stage where
  | lookup (l : Lookup)
  /-- For the linter. -/
  | linting (config : DocumentConfig)
  /-- For the log to take the line of a finding; some are left. -/
  | reporting (left all : List Diagnostic)
  /-- For the log to take the line about a failure. -/
  | failing (reason : String) (shows : Bool)
  /-- For the log to be shown. -/
  | showing (reason : String)
  /-- For the publish lock. -/
  | queued (p : Publication)
  /-- For the update of the diagnostics to take effect, with the lock held. -/
  | publishing (p : Publication)
  /-- For the end of an update that took effect, with the lock held. -/
  | published (p : Publication)

inductive Progress where
  | waits (s : Stage)
  | ends (o : Outcome)

inductive Answer where
  | settings (s : Settings)
  | reply (r : Reply)
  /-- An update took effect and is not over yet. -/
  | applied
  /-- All that was waited for is that something was done. -/
  | done

def infoLine (key : String) (c : DocumentConfig) : String :=
  "INFO: Linting for \"" ++ key ++ "\" will be run with " ++ toString c.rules.rules.size ++
    " rule overrides extending " ++ c.rules.base ++ "."

def failureLine (uri : Url) (reason : String) : String :=
  "ERROR: Linting \"" ++ uri.text ++ "\" failed: " ++ reason

def Pass.diagnostics (p : Pass) (findings : List Finding) : List Diagnostic :=
  findings.map (Diagnostic.ofFinding (lines p.document.text.toList))

namespace Adapter

variable {L : Type}

/-- Starts to resolve the configuration of a document: one that is kept is there at once, for any
other the settings are asked for. -/
def lookUp (a : Adapter L) (id : TaskId) (uri : Url) : Adapter L × Lookup :=
  let b := a.record (.resolving id uri)
  match b.cache.get? uri.cacheKey with
  | some config => (b.record (.resolved id uri config), .found config)
  | none => (b.record (.settingsRead id uri), .reading b.cache.generation)

def announce (a : Adapter L) (id : TaskId) (uri : Url) (generation : Nat) (s : Settings) :
    Adapter L × Lookup :=
  let config := DocumentConfig.resolve s uri
  (a.record (.settingsGiven id uri s) |>.record (.logged id (infoLine uri.cacheKey config)),
    .announcing generation config)

/-- Keeps a configuration, unless something was dropped since its settings were asked for. -/
def keep (a : Adapter L) (id : TaskId) (uri : Url) (generation : Nat) (config : DocumentConfig) :
    Adapter L × Lookup :=
  ({ a with cache := (a.cache.insertIfCurrent uri.cacheKey config generation).1 }
      |>.record (.resolved id uri config),
    .found config)

def resumeLookup (a : Adapter L) (id : TaskId) (uri : Url) (l : Lookup) (answer : Answer) :
    Adapter L × Lookup :=
  match l, answer with
  | .reading generation, .settings s => a.announce id uri generation s
  | .announcing generation config, .done => a.keep id uri generation config
  | l, _ => (a, l)

/-- With the lock held: a pass that is not current leaves it. -/
def checkCurrent (a : Adapter L) (id : TaskId) (p : Pass) (u : Publication) :
    Adapter L × Progress :=
  match a.check id p with
  | (b, true) => (b, .waits (.publishing u))
  | (b, false) => (b.release, .ends .stale)

/-- Joins the queue for the lock, and goes on if it is free. -/
def reachLock (a : Adapter L) (id : TaskId) (p : Pass) (u : Publication) : Adapter L × Progress :=
  let b := a.enqueue id
  if b.holds id then b.checkCurrent id p u else (b, .waits (.queued u))

/-- With its configuration, a document is excluded or given to the linter. -/
def configured (a : Adapter L) (id : TaskId) (p : Pass) (config : DocumentConfig) :
    Adapter L × Progress :=
  if config.excluded then a.reachLock id p .excluded
  else (a.record (.lintCalled id a.linter p.call config.rules), .waits (.linting config))

def proceed (id : TaskId) (p : Pass) : Adapter L × Lookup → Adapter L × Progress
  | (a, .found config) => a.configured id p config
  | (a, l) => (a, .waits (.lookup l))

def startPass (a : Adapter L) (id : TaskId) (p : Pass) : Adapter L × Progress :=
  proceed id p (a.lookUp id p.document.uri)

def reportNext (a : Adapter L) (id : TaskId) (p : Pass) (left all : List Diagnostic) :
    Adapter L × Progress :=
  match left with
  | [] => a.reachLock id p (.found all)
  | d :: left => (a.record (.logged id d.message), .waits (.reporting left all))

/-- The linter's reply. A failure is logged, and shown while the pass is current; findings of a
pass that is not current are dropped. -/
def replied (a : Adapter L) (id : TaskId) (p : Pass) (r : Reply) : Adapter L × Progress :=
  let a := a.record (.replied id p r)
  match r with
  | .error e =>
    (a.record (.logged id (failureLine p.document.uri e.message)),
      .waits (.failing e.message (a.isCurrent p)))
  | .ok findings =>
    match a.check id p with
    | (b, true) => b.reportNext id p (p.diagnostics findings) (p.diagnostics findings)
    | (b, false) => (b, .ends .stale)

def update (a : Adapter L) (id : TaskId) (p : Pass) (u : Publication) : Adapter L :=
  { a with sink := a.sink.insert p.update.uri.text u.diagnostics }
    |>.record (.set id p.update u.diagnostics)

/-- One step of a waiting pass. An answer of another kind than it waits for changes nothing, nor
does anything but its turn for one that waits for the lock. -/
def resumePass (a : Adapter L) (id : TaskId) (p : Pass) (s : Stage) (answer : Answer) :
    Adapter L × Progress :=
  match s, answer with
  | .lookup l, answer => proceed id p (a.resumeLookup id p.document.uri l answer)
  | .linting _, .reply r => a.replied id p r
  | .reporting left all, .done => a.reportNext id p left all
  | .failing reason shows, .done =>
    if shows then
      (a.record (.shown id (failureLine p.document.uri reason)), .waits (.showing reason))
    else (a, .ends (.failed reason))
  | .showing reason, .done => (a, .ends (.failed reason))
  | .queued u, .done => if a.holds id then a.checkCurrent id p u else (a, .waits s)
  | .publishing u, .applied => (a.update id p u, .waits (.published u))
  | .publishing u, .done => ((a.update id p u).release, .ends u.outcome)
  | .published u, .done => (a.release, .ends u.outcome)
  | _, _ => (a, .waits s)

@[simp] theorem announce_history (a : Adapter L) (id : TaskId) (uri : Url) (generation : Nat)
    (s : Settings) :
    (a.announce id uri generation s).1.history =
      .logged id (infoLine uri.cacheKey (.resolve s uri)) :: .settingsGiven id uri s :: a.history :=
  rfl

@[simp] theorem keep_history (a : Adapter L) (id : TaskId) (uri : Url) (generation : Nat)
    (config : DocumentConfig) :
    (a.keep id uri generation config).1.history = .resolved id uri config :: a.history := rfl

@[simp] theorem update_history (a : Adapter L) (id : TaskId) (p : Pass) (u : Publication) :
    (a.update id p u).history = .set id p.update u.diagnostics :: a.history := rfl

end Adapter

end MarkupLint
