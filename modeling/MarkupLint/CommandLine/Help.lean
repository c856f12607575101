import MarkupLint.CommandLine.Arguments

/-! What the program says about itself. -/
namespace MarkupLint.CommandLine

def programName : String := "htmllinter"

def programVersion : String := "0.1.0"

def versionText : String := programName ++ " " ++ programVersion ++ "\n"

def sharedOptions : List String :=
  ["  -c, --config <CONFIG>  Configuration file path",
    "  -v, --verbose          Enable verbose output",
    "  -h, --help             Print help"]

def Topic.lines : Topic → List String
  | .program =>
    ["HTML lint diagnostics for editors, over the Language Server Protocol",
      "",
      "Usage: " ++ programName ++ " [OPTIONS] <COMMAND>",
      "",
      "Commands:",
      "  lint  Lint HTML files once and print the findings",
      "  lsp   Start the LSP server on stdio",
      "  help  Print this message or the help of the given subcommand(s)",
      "",
      "Options:"] ++ sharedOptions ++ ["  -V, --version          Print version"]
  | .lint =>
    ["Lint HTML files once and print the findings",
      "",
      "Usage: " ++ programName ++ " lint [OPTIONS] <FILES>...",
      "",
      "Arguments:",
      "  <FILES>...  Files to lint",
      "",
      "Options:"] ++ sharedOptions
  | .serve =>
    ["Start the LSP server on stdio",
      "",
      "Usage: " ++ programName ++ " lsp [OPTIONS]",
      "",
      "Options:"] ++ sharedOptions
  | .help =>
    ["Print this message or the help of the given subcommand(s)",
      "",
      "Usage: " ++ programName ++ " help [COMMAND]...",
      "",
      "Arguments:",
      "  [COMMAND]...  Print help for the subcommand(s)"]

def Topic.text (t : Topic) : String := String.join (t.lines.map (· ++ "\n"))

end MarkupLint.CommandLine
