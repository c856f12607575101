import MarkupLint.Host.FileTree
import MarkupLint.Settings.File

/-! Config files: where they are found, and what is loaded from them. -/
namespace MarkupLint.Settings

/-- The config file directly in a directory, if there is one. -/
def discover (w : Workspace) (root : Path) : Option Path :=
  (fileNames.map fun name => root.join (.ofText name)).find? w.isFile

/-- The settings in a file, with the directory that the path names. -/
def load (w : Workspace) (p : Path) : Except LintError Settings := do
  let text ← (w.readText p).mapError fun e =>
    .configuration ("Failed to read config: " ++ e.message)
  let s ← ofText text
  return { s with baseDir := p.parent?.or s.baseDir }

end MarkupLint.Settings
