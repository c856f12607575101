import MarkupLint.Adapter.TaskPool
import MarkupLint.Server.State

/-! The server between messages: its state, and an adapter with the tasks that the messages started.
A message is handled in one step; its passes are issued in that step and run later. -/
namespace MarkupLint.Server

structure Introduction where
  pullsSettings : Bool
  settings : Option Json
  root : Option Url

inductive Notification where
  | opened (d : Document)
  /-- The texts of the changes, each the whole document. -/
  | changed (uri : Url) (version : Int) (texts : List String)
  | saved (uri : Url) (text : Option String)
  | closed (uri : Url)
  | visible (uris : List Url)
  | settingsPushed (v : Json)
  | filesChanged (uris : List Url)

structure Backend where
  state : State
  pool : TaskPool LinterProgram

namespace Backend

def initial (configPath : Option Path) : Backend :=
  let state := State.initial configPath
  ⟨state, .initial state.linter⟩

def step (b : Backend) (e : TaskPool.Step LinterProgram) : Backend :=
  { b with pool := b.pool.step e }

/-- Issues a pass and starts a task that runs it; documents of other languages are left alone. -/
def startRelevant (b : Backend) (d : Document) : Backend :=
  if d.isHtml then
    let p := b.pool.adapter.nextPass d
    (b.step (.issue d)).step (.spawn (.run [p]))
  else b

def startAll (b : Backend) (ds : List Document) : Backend := ds.foldl startRelevant b

def rebuildLinter (b : Backend) : Backend := b.step (.setLinter b.state.linter)

/-- Drops every configuration and lints every open document again. -/
def refresh (b : Backend) : Backend :=
  (b.rebuildLinter.step .invalidate).startAll b.state.openDocuments

/-- Issues the passes of documents and starts one task that runs them in order. -/
def startVisible (b : Backend) (ds : List Document) : Backend :=
  if ds.isEmpty then b
  else
    let passes := (b.pool.adapter.issueAll ds).2
    (ds.foldl (fun b d => b.step (.issue d)) b).step (.spawn (.run passes))

/-- A changed document; the last change counts. -/
def change (b : Backend) (uri : Url) (version : Int) (texts : List String) : Backend :=
  match texts.getLast?, b.state.document? uri with
  | some text, some d =>
    let d := { d with text := text, version := some version }
    { b with state := b.state.setDocument d }.startRelevant d
  | _, _ => b

def save (b : Backend) (uri : Url) (text : Option String) : Backend :=
  match b.state.document? uri with
  | some d =>
    let d := { d with text := text.getD d.text }
    { b with state := b.state.setDocument d }.startRelevant d
  | none => b

/-- Closes a document. Its task goes up to its first wait at once. -/
def close (b : Backend) (uri : Url) : Backend :=
  let id := b.pool.tasks.length
  ({ b with state := b.state.close uri }.step (.spawn (.close uri))).step (.resume id .done)

/-- The editor connects: its settings and its root come first, then the config file. -/
def introduce (b : Backend) (w : Workspace) (i : Introduction) : Backend :=
  let s := { b.state with pullsSettings := i.pullsSettings }
  let s := match i.settings with
    | some v => s.push v
    | none => s
  let s := { s with root := (i.root.bind Url.filePath?).or s.root }
  { b with state := (s.reload w).1 }.rebuildLinter

def notify (b : Backend) (w : Workspace) : Notification → Backend
  | .opened d => { b with state := b.state.setDocument d }.startRelevant d
  | .changed uri version texts => b.change uri version texts
  | .saved uri text => b.save uri text
  | .closed uri => b.close uri
  | .visible uris => b.startVisible (uris.filterMap b.state.document?)
  | .settingsPushed v => { b with state := b.state.push v }.refresh
  | .filesChanged uris =>
    let (s, concerned) := b.state.filesChanged w uris
    let b := { b with state := s }
    if concerned then b.refresh else b

/-- What comes from outside while a task waits. -/
inductive Arrival where
  /-- The values that the editor gave for settings, or none where it gave none. -/
  | editorSettings (values : Option (List Json))
  | linterReply (r : Reply)
  | applied
  | done

/-- The answer that a task gets; settings are put together when they arrive. -/
def answer (b : Backend) : Arrival → Answer
  | .editorSettings values => .settings (b.state.settings values)
  | .linterReply r => .reply r
  | .applied => .applied
  | .done => .done

def resume (b : Backend) (id : TaskId) (x : Arrival) : Backend :=
  b.step (.resume id (b.answer x))

inductive Step where
  | introduce (w : Workspace) (i : Introduction)
  | notify (w : Workspace) (n : Notification)
  | resume (id : TaskId) (x : Arrival)

def apply (b : Backend) : Step → Backend
  | .introduce w i => b.introduce w i
  | .notify w n => b.notify w n
  | .resume id x => b.resume id x

/-- What is reached from a state by steps in any order. -/
inductive Reachable (start : Backend) : Backend → Prop where
  | refl : Reachable start start
  | step {b : Backend} (h : Reachable start b) (e : Step) : Reachable start (b.apply e)

end Backend

end MarkupLint.Server
