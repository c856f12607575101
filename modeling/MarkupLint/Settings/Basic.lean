import MarkupLint.Path
import MarkupLint.Rule.Configuration

/-! Settings: what a config file or an editor says about the linter. -/
namespace MarkupLint

open Map (Dict)

def Settings.sectionName : String := "htmllinter"

/-- Names of a config file, the first one found counts. -/
def Settings.fileNames : List String := [".htmllinterrc.jsonc", ".htmllinterrc.json"]

structure LinterCommand where
  command : String
  args : List String
  deriving DecidableEq, Repr

def LinterCommand.default : LinterCommand := ⟨"htmllinter-run", []⟩

structure Settings where
  /-- Name of the base rule set. -/
  base : Option String
  rules : Dict Rule.Setting
  linter : Option LinterCommand
  /-- Glob patterns of files that are never linted. -/
  exclude : List String
  /-- The directory of the config file. -/
  baseDir : Option Path

namespace Settings

def default : Settings := ⟨none, ∅, none, [], none⟩

instance : Inhabited Settings := ⟨default⟩

/-- Directories are compared by their components. -/
instance : BEq Settings where
  beq s t :=
    s.base == t.base && s.rules == t.rules && s.linter == t.linter && s.exclude == t.exclude &&
      s.baseDir.map Path.components == t.baseDir.map Path.components

/-- Settings of `top` on top of those of `under`: rules one by one, exclusions together, all else
from `top` where it is set. -/
def layer (under top : Settings) : Settings where
  base := top.base.or under.base
  rules := under.rules.override top.rules
  linter := top.linter.or under.linter
  exclude := under.exclude ++ top.exclude
  baseDir := top.baseDir.or under.baseDir

def layers (settings : List Settings) : Settings := settings.foldl layer default

def configuration (s : Settings) : Rule.Configuration :=
  ⟨s.base.getD Rule.defaultBase, s.rules⟩

/-- The linter command. A relative program path is taken from the directory of the config file;
a bare name is not. -/
def linterCommand (s : Settings) : LinterCommand :=
  let command := s.linter.getD LinterCommand.default
  let program := Path.ofText command.command
  match s.baseDir with
  | some base =>
    if !program.isAbsolute && 1 < program.components.length then
      { command with command := (base.join program).text }
    else command
  | none => command

end Settings

end MarkupLint
