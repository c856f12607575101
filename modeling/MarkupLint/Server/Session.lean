import MarkupLint.Host.Launch
import MarkupLint.Server.Decode
import MarkupLint.Server.Outgoing

/-! A session with one editor: which messages count at which stage, what is sent, and how the tasks
are served. Tasks are served in the order of their start, each up to the next wait for the linter or
the editor. -/
namespace MarkupLint.Server

open Protocol (Call Refusal Verdict)

inductive Stage where
  | uninitialized
  | initialized
  | shutDown
  | exited
  deriving DecidableEq, Repr

def Stage.refusal : Stage → Refusal
  | .uninitialized => .notInitialized
  | _ => .invalidRequest

def Stage.isConnected : Stage → Bool
  | .initialized => true
  | .shutDown => true
  | _ => false

structure Session where
  stage : Stage
  backend : Backend
  /-- Requests for settings without an answer, and the tasks that wait for them. -/
  asked : List (Nat × TaskId)
  asks : Nat
  /-- What was sent and not yet taken. -/
  outbox : List Outgoing

namespace Session

def initial (configPath : Option Path) : Session :=
  ⟨.uninitialized, .initial configPath, [], 0, []⟩

def send (s : Session) (o : Outgoing) : Session := { s with outbox := s.outbox ++ [o] }

def report (s : Session) : Event LinterProgram → Session
  | .settingsRead id uri =>
    if s.backend.state.pullsSettings && s.stage.isConnected then
      { s with asked := s.asked ++ [(s.asks, id)], asks := s.asks + 1 }.send
        (.settingsWanted s.asks uri)
    else s
  | .logged _ line => if s.stage = .exited then s else s.send (.logged line)
  | .shown _ line => if s.stage = .exited then s else s.send (.shown line)
  | .set _ update ds =>
    if s.stage.isConnected then s.send (.published update.uri ds update.version) else s
  | .deleted _ uri => if s.stage.isConnected then s.send (.published uri [] none) else s
  | _ => s

/-- Takes a step of the backend and sends what there is to send about it. -/
def take (s : Session) (e : Backend.Step) : Session :=
  let before := s.backend.pool.adapter.history.length
  let backend := s.backend.apply e
  let history := backend.pool.adapter.history
  ((history.take (history.length - before)).reverse).foldl report { s with backend := backend }

def task? (s : Session) (id : TaskId) : Option Task := s.backend.pool.tasks[id]?

def call? (s : Session) (id : TaskId) :
    Option (LinterProgram × LintCall × Rule.Configuration) :=
  s.backend.pool.adapter.history.findSome? fun e => match e with
    | .lintCalled task linter call rules => if task = id then some (linter, call, rules) else none
    | _ => none

def linterReply (s : Session) (w : Workspace) (id : TaskId) : Reply :=
  match s.call? id with
  | some (linter, call, rules) => linter.lint (Host.launch w) call.text rules
  | none => .ok []

def waitsForEditor (s : Session) (id : TaskId) : Bool := s.asked.any fun a => a.2 = id

inductive Need where
  | nothing
  | settings
  | linter
  | lock
  | other
  deriving DecidableEq

def need : Task → Need
  | .finished => .nothing
  | .passing _ (.lookup (.reading _)) _ _ => .settings
  | .passing _ (.linting _) _ _ => .linter
  | .passing _ (.queued _) _ _ => .lock
  | .resolving _ (.reading _) => .settings
  | .closing _ => .lock
  | _ => .other

def arrival? (s : Session) (w : Workspace) (id : TaskId) : Option Backend.Arrival := do
  match need (← s.task? id) with
  | .nothing => none
  | .settings => if s.waitsForEditor id then none else some (.editorSettings none)
  | .linter => some (.linterReply (s.linterReply w id))
  | .lock => if s.backend.pool.adapter.holds id then some .done else none
  | .other => some .done

def pauses (s : Session) (id : TaskId) : Bool :=
  match s.task? id with
  | some t => need t = .linter
  | none => true

def goOn (s : Session) (w : Workspace) (id : TaskId) : Nat → Session
  | 0 => s
  | steps + 1 =>
    if s.pauses id then s
    else match s.arrival? w id with
      | none => s
      | some x => (s.take (.resume id x)).goOn w id steps

/-- A bound on the steps that a task takes before it waits for the linter. -/
def stepsOf (t : Task) : Nat :=
  match t with
  | .ready (.visible ds) => 10 * (ds.length + 1)
  | .ready (.run passes) => 10 * (passes.length + 1)
  | .passing _ stage rest _ =>
    10 * (rest.length + 1) +
      (match stage with
        | .reporting left _ => left.length
        | _ => 0)
  | _ => 10

/-- Serves a task once: what it waits for arrives, and it goes on. -/
def serve (s : Session) (w : Workspace) (id : TaskId) : Session :=
  match s.arrival? w id with
  | none => s
  | some x =>
    let s := s.take (.resume id x)
    s.goOn w id ((s.task? id).elim 0 stepsOf)

def canServe (s : Session) (w : Workspace) (id : TaskId) : Bool := (s.arrival? w id).isSome

def taskIds (s : Session) : List TaskId := List.range s.backend.pool.tasks.length

/-- Serves all tasks in turn until each has ended or waits for the editor. -/
def settle (s : Session) (w : Workspace) : Nat → Session
  | 0 => s
  | rounds + 1 =>
    if s.taskIds.any (s.canServe w) then
      (s.taskIds.foldl (fun s id => s.serve w id) s).settle w rounds
    else s

def rounds (s : Session) : Nat := s.backend.pool.tasks.foldr (fun t n => stepsOf t + n) 1

def run (s : Session) (w : Workspace) : Session := s.settle w s.rounds

/-- The editor answers a request for settings; none stands for a failure. -/
def answer (s : Session) (number : Nat) (values : Option (List Json)) : Session :=
  match s.asked.find? fun a => a.1 = number with
  | none => s
  | some (_, id) =>
    { s with asked := s.asked.filter fun a => a.1 != number }.take
      (.resume id (.editorSettings values))

def valuesOf : Option Json → Option (List Json)
  | some (.array values) => some values
  | _ => none

/-- Answers every open request for settings in the same way, until none is left. -/
def runAnswering (s : Session) (w : Workspace) (values : Option (List Json)) : Nat → Session
  | 0 => s.run w
  | rounds + 1 =>
    let s := s.run w
    if s.asked.isEmpty then s
    else (s.asked.foldl (fun s a => s.answer a.1 values) s).runAnswering w values rounds

def runWith (s : Session) (w : Workspace) (values : Option (List Json)) : Session :=
  s.runAnswering w values s.rounds

def capabilities : Json :=
  .object [("textDocumentSync", .object [("change", .natural 1), ("openClose", .boolean true),
    ("save", .object [("includeText", .boolean true)])])]

def serverInfo : Json :=
  .object [("name", .text "htmllinter-lsp"), ("version", .text "0.1.0")]

def introductionResult : Json :=
  .object [("capabilities", capabilities), ("serverInfo", serverInfo)]

/-- Requests that the server knows and does not serve. -/
def unservedRequests : List String :=
  ["textDocument/willSaveWaitUntil", "textDocument/declaration", "textDocument/definition",
    "textDocument/typeDefinition", "textDocument/implementation", "textDocument/references",
    "textDocument/prepareCallHierarchy", "callHierarchy/incomingCalls",
    "callHierarchy/outgoingCalls", "textDocument/prepareTypeHierarchy", "typeHierarchy/supertypes",
    "typeHierarchy/subtypes", "textDocument/documentHighlight", "textDocument/documentLink",
    "documentLink/resolve", "textDocument/hover", "textDocument/codeLens", "codeLens/resolve",
    "textDocument/foldingRange", "textDocument/selectionRange", "textDocument/documentSymbol",
    "textDocument/semanticTokens/full", "textDocument/semanticTokens/full/delta",
    "textDocument/semanticTokens/range", "textDocument/inlineValue", "textDocument/inlayHint",
    "inlayHint/resolve", "textDocument/moniker", "textDocument/completion",
    "completionItem/resolve", "textDocument/diagnostic", "workspace/diagnostic",
    "textDocument/signatureHelp", "textDocument/codeAction", "codeAction/resolve",
    "textDocument/documentColor", "textDocument/colorPresentation", "textDocument/formatting",
    "textDocument/rangeFormatting", "textDocument/onTypeFormatting", "textDocument/rename",
    "textDocument/prepareRename", "textDocument/linkedEditingRange", "workspace/symbol",
    "workspaceSymbol/resolve", "workspace/willCreateFiles", "workspace/willRenameFiles",
    "workspace/willDeleteFiles", "workspace/executeCommand"]

/-- Notifications that the server knows and does nothing about. -/
def idleNotifications : List String :=
  ["window/workDoneProgress/cancel", "textDocument/willSave",
    "workspace/didChangeWorkspaceFolders", "workspace/didCreateFiles", "workspace/didRenameFiles",
    "workspace/didDeleteFiles"]

def isNotification (method : String) : Bool :=
  method = "initialized" || (Notification.forms.any fun f => f.method == method) ||
    idleNotifications.contains method

def receiveInitialize (s : Session) (w : Workspace) (c : Call) : Session × Option Verdict :=
  if s.stage ≠ .uninitialized then (s, some (.error .invalidRequest))
  else if c.id.isNone then (s, none)
  else match readParams .initializeParams c.params with
    | .error r => (s, some (.error r))
    | .ok v =>
      let s := s.take (.introduce w (.ofParams v))
      ({ s with stage := .initialized }, some (.ok introductionResult))

def receiveShutdown (s : Session) (c : Call) : Session × Option Verdict :=
  if s.stage = .initialized then
    let verdict := match c.params with
      | some v => Except.error (.unexpectedParams v)
      | none => .ok .null
    ({ s with stage := .shutDown }, some verdict)
  else (s, some (.error s.stage.refusal))

def finishClose (s : Session) (w : Workspace) : Session :=
  let id := s.backend.pool.tasks.length - 1
  s.goOn w id ((s.task? id).elim 0 stepsOf)

/-- A notification counts only without an identity, and while the session is initialized. -/
def receiveNotification (s : Session) (w : Workspace) (c : Call) : Session × Option Verdict :=
  if s.stage ≠ .initialized then (s, some (.error s.stage.refusal))
  else if c.id.isSome then (s, none)
  else if c.method = "initialized" then
    match readParams .initializedParams c.params with
    | .ok _ => (s.send .greeting, none)
    | .error _ => (s, none)
  else match Notification.ofMessage? c.method c.params with
    | some (.closed uri) => ((s.take (.notify w (.closed uri))).finishClose w, none)
    | some n => (s.take (.notify w n), none)
    | none => (s, none)

def receiveUnserved (s : Session) (c : Call) : Session × Option Verdict :=
  if s.stage ≠ .initialized then (s, some (.error s.stage.refusal))
  else if c.params.isNone then (s, some (.error .missingParams))
  else (s, some (.error .notImplemented))

/-- Takes in one message. The verdict goes back if the message has an identity. -/
def receive (s : Session) (w : Workspace) (c : Call) : Session × Option Verdict :=
  if c.method = "initialize" then s.receiveInitialize w c
  else if c.method = "shutdown" then s.receiveShutdown c
  else if c.method = "exit" then ({ s with stage := .exited, asked := [] }, none)
  else if c.method = "$/cancelRequest" then (s, none)
  else if isNotification c.method then s.receiveNotification w c
  else if unservedRequests.contains c.method then s.receiveUnserved c
  else (s, some (.error (.unknownMethod c.method)))

def response? (c : Call) (verdict : Option Verdict) : Option Json := do
  return Protocol.responseJson (← c.id) (← verdict)

def receiveJson (s : Session) (w : Workspace) (v : Json) : Session × Option Json :=
  match Protocol.Incoming.ofJson? v with
  | none => (s, some (Protocol.responseJson .null (.error .invalidRequest)))
  | some (.call c) =>
    let (s, verdict) := s.receive w c
    (s, response? c verdict)
  | some (.response r) =>
    match r.id with
    | .number n => (s.answer n.toNat (valuesOf r.result), none)
    | _ => (s, none)

def receiveText (s : Session) (w : Workspace) (text : String) : Session × Option Json :=
  match Json.parse text with
  | .ok v => s.receiveJson w v
  | .error _ => (s, some (Protocol.responseJson .null (.error .parseError)))

def outgoing (s : Session) (response : Option Json) : List Json :=
  response.toList ++ s.outbox.map Outgoing.toJson

/-- One exchange over a stream: a message comes in, tasks are served, messages go out. Nothing comes
of a message after the exit. -/
def exchange (s : Session) (w : Workspace) (text : String) : Session × List Json :=
  if s.stage = .exited then (s, [])
  else
    let (s, response) := s.receiveText w text
    let s := s.run w
    ({ s with outbox := [] }, s.outgoing response)

def exitedText : String := "language server has exited"

end Session

end MarkupLint.Server
