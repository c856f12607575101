import MarkupLint.CommandLine.Run
import MarkupLint.Protocol.Frame
import MarkupLint.Server.Session

/-! The program: it reads the files that are asked for into a workspace, and prints. -/
namespace MarkupLint.Main

def load (here : Path) (files : FileTree) (p : Path) : IO FileTree := do
  try
    let content ← IO.FS.readBinFile p.text
    return files.write (here.join p) content.toList
  catch _ => return files

def loadAll (here : Path) (paths : List Path) : IO Workspace := do
  let files ← paths.foldlM (load here) (FileTree.empty.makeDirectory here)
  return ⟨files, here⟩

/-- Reads a header up to its empty line; the length it gives, or nothing at the end of the input. -/
partial def readLength (input : IO.FS.Stream) (length : Nat) : IO (Option Nat) := do
  let line ← input.getLine
  if line.isEmpty then return none
  if (Text.trim line.toList).isEmpty then return some length
  readLength input ((Protocol.Frame.lengthOf? line).getD length)

partial def readBody (input : IO.FS.Stream) (body : ByteArray) (length : Nat) : IO ByteArray := do
  if length ≤ body.size then return body
  let more ← input.read (length - body.size).toUSize
  if more.isEmpty then return body
  readBody input (body ++ more) length

/-- Exchanges messages with the editor until the input ends. A dry exchange comes first: the message
may name a new root, and the config files there have to be read before it is handled. -/
partial def serve (input output : IO.FS.Stream) (here : Path) (s : Server.Session) : IO Unit := do
  match ← readLength input 0 with
  | none => return ()
  | some length =>
    let body ← readBody input ByteArray.empty length
    let text := String.ofList (Text.lossyText body.toList)
    let (dry, _) := s.exchange (← loadAll here s.backend.state.configFiles) text
    let (s, frames) := s.exchange (← loadAll here dry.backend.state.configFiles) text
    for frame in frames do
      output.putStr (Protocol.Frame.encode frame)
    output.flush
    serve input output here s

end MarkupLint.Main

open MarkupLint in
def main (args : List String) : IO UInt32 := do
  let here := Path.ofText (← IO.currentDir).toString
  match CommandLine.start (← Main.loadAll here (CommandLine.filesOf args)) args with
  | .exit e =>
    IO.print e.stdout
    return e.status.toUInt32
  | .serve config =>
    Main.serve (← IO.getStdin) (← IO.getStdout) here (.initial config)
    return 0
