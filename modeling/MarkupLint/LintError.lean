/-! What can go wrong while settings are loaded or the linter runs. -/
namespace MarkupLint

inductive LintError where
  /-- Settings that cannot be read or used. -/
  | configuration (message : String)
  /-- The linter program did not start. -/
  | spawn (program cause : String)
  /-- The linter ended unsuccessfully and printed nothing. -/
  | process (message : String)
  /-- The linter printed something other than a list of findings. -/
  | output (message : String)
  | io (message : String)
  | json (message : String)
  | internal (message : String)
  deriving DecidableEq, Repr

def LintError.message : LintError → String
  | .configuration m => "Configuration error: " ++ m
  | .spawn program cause => "Failed to start linter '" ++ program ++ "': " ++ cause
  | .process m => "Linter process failed: " ++ m
  | .output m => "Invalid linter output: " ++ m
  | .io m => "I/O error: " ++ m
  | .json m => "JSON error: " ++ m
  | .internal m => "Internal error: " ++ m

end MarkupLint
