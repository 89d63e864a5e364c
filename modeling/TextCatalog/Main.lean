import TextCatalog.CommandLine.Arguments
import TextCatalog.Store.Memory
import TextCatalog.Table.Database
import TextCatalog.Web.Line

/-!
# TextCatalog.Main

The program: reads the command line, then answers the requests on standard input, one to a line.
-/

namespace TextCatalog

def usageLines : List String := [
  "Usage: textcatalog [OPTIONS]",
  "",
  "Options:",
  "  -p, --port <PORT>            port to serve at [default: 3000]",
  "  -a, --address <ADDRESS>      address to serve at (overrides the port)",
  "  -d, --database <DATABASE>    keep the texts in a table instead of a list",
  "      --log-level <LOG_LEVEL>  [default: info]",
  "  -h, --help                   print this text",
  "  -V, --version                print the version"]

def usage : String := "\n".intercalate usageLines

def version : String := "textcatalog 0.1.0"

def withoutNewline (line : String) : List Char := line.toList.takeWhile (· != '\n')

partial def serveLines {σ : Type} [Store σ] (input output : IO.FS.Stream) (s : σ) : IO Unit := do
  let line ← input.getLine
  unless line.isEmpty do
    let (answer, s) := Service.answerLine s (withoutNewline line)
    output.putStrLn answer
    output.flush
    serveLines input output s

def greeting (arguments : Arguments) (address : SocketAddress) : String :=
  "serving at " ++ address.text ++ arguments.database.elim "" (" from " ++ ·)

def serveAt (arguments : Arguments) (address : SocketAddress) : IO Unit := do
  let output ← IO.getStdout
  output.putStrLn (greeting arguments address)
  match arguments.database with
  | none => serveLines (← IO.getStdin) output Memory.empty
  | some _ => serveLines (← IO.getStdin) output Database.fresh

end TextCatalog

open TextCatalog in
def main (words : List String) : IO UInt32 := do
  match Arguments.parse words with
  | .error .displayHelp => IO.println usage; return 0
  | .error .displayVersion => IO.println version; return 0
  | .error e => IO.eprintln (e.name ++ "\n\n" ++ usage); return 2
  | .ok arguments =>
    match arguments.bindAddress with
    | .error e => IO.eprintln e; return 1
    | .ok address => serveAt arguments address; return 0
