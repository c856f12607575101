import MarkupLint.Glob.Match
import MarkupLint.LintError
import MarkupLint.Settings.Basic

/-! The exclusion patterns of settings. -/
namespace MarkupLint.Settings

def compilePattern (pattern : String) : Except LintError Glob :=
  (Glob.parse pattern).mapError fun f =>
    .configuration ("Invalid pattern '" ++ pattern ++ "': error parsing glob '" ++ pattern ++
      "': " ++ f.message)

/-- All patterns; none where there are none. The first bad one counts. -/
def excludeSet (s : Settings) : Except LintError (Option (List Glob)) :=
  if s.exclude.isEmpty then .ok none else (s.exclude.mapM compilePattern).map some

def matchesAny (set : List Glob) (p : Path) : Bool := set.any fun g => g.isMatch p

end MarkupLint.Settings
