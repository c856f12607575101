import MarkupLint.Document.Snapshot
import MarkupLint.Linter.Program
import MarkupLint.Map.Dict
import MarkupLint.Settings.Load
import MarkupLint.Url.Parse

/-! What the server remembers: the open documents, and the settings from the config file and from
the editor. -/
namespace MarkupLint.Server

open Map (Dict)

structure State where
  documents : Dict Document
  root : Option Path
  /-- A config file named at the start; no other one is looked for. -/
  configPath : Option Path
  /-- The settings in the config file, as last loaded. -/
  fileSettings : Option Settings
  pushed : Json
  /-- Whether the editor answers requests for settings. -/
  pullsSettings : Bool

namespace State

def initial (configPath : Option Path) : State := ⟨∅, none, configPath, none, .null, false⟩

def document? (s : State) (uri : Url) : Option Document := s.documents.get? uri.text

def setDocument (s : State) (d : Document) : State :=
  { s with documents := s.documents.insert d.uri.text d }

def close (s : State) (uri : Url) : State :=
  { s with documents := s.documents.erase uri.text }

def openDocuments (s : State) : List Document := s.documents.entries.map Prod.snd

/-- The settings for the linter in an object of all settings, or the value itself. -/
def ownSection (v : Json) : Json := (v.member? Settings.sectionName).getD v

def push (s : State) (v : Json) : State := { s with pushed := ownSection v }

def layered (s : State) (editor : Settings) : Settings :=
  (s.fileSettings.getD .default).layer editor

/-- Settings from the editor; bad ones count as none. -/
def readEditor (v : Json) : Settings := (Settings.ofValue v).toOption.getD .default

/-- What the editor says: the last value that it answered with, or what it pushed where it gave no
answer. -/
def editorValue (s : State) : Option (List Json) → Json
  | some values => values.getLast?.getD .null
  | none => s.pushed

def settings (s : State) (answered : Option (List Json)) : Settings :=
  s.layered (readEditor (s.editorValue answered))

/-- The linter for all documents: the command in the file and the pushed settings, run in the root
of the workspace. -/
def linter (s : State) : LinterProgram :=
  .ofCommand (s.layered (readEditor s.pushed)).linterCommand s.root

/-- The config file to load, of which there may be none; nothing where there is no place to look. -/
def configFile? (s : State) (w : Workspace) : Option (Option Path) :=
  match s.configPath with
  | some p => some (some p)
  | none => s.root.map (Settings.discover w)

def configFiles (s : State) : List Path :=
  match s.configPath, s.root with
  | some p, _ => [p]
  | none, some root => Settings.fileNames.map fun name => root.join (.ofText name)
  | none, none => []

/-- Takes over loaded settings and tells whether they differ. -/
def adopt (s : State) (loaded : Option Settings) : State × Bool :=
  ({ s with fileSettings := loaded }, !(s.fileSettings == loaded))

/-- Loads the config file again. The settings stay where it cannot be loaded. -/
def reload (s : State) (w : Workspace) : State × Bool :=
  match s.configFile? w with
  | none => (s, false)
  | some none => s.adopt none
  | some (some p) =>
    match Settings.load w p with
    | .ok settings => s.adopt (some settings)
    | .error _ => (s, false)

/-- Whether a changed file is a config file: the named one, or one with a config file's name. -/
def concerns (s : State) (uri : Url) : Bool :=
  match s.configPath with
  | some p => uri.filePath?.any p.same
  | none => Settings.fileNames.any fun name => name.toList.isSuffixOf uri.path.toList

/-- Files changed: reloads if a config file is among them, and tells whether one is. -/
def filesChanged (s : State) (w : Workspace) (uris : List Url) : State × Bool :=
  if uris.any s.concerns then ((s.reload w).1, true) else (s, false)

end State

end MarkupLint.Server
