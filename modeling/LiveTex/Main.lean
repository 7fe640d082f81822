import LiveTex.CommandLine
import LiveTex.Document.Output
import LiveTex.Options.Reading
import LiveTex.Repl

/-!
The program on the command line: reads files and the standard input, and writes what the library answers.
-/

namespace LiveTex.Program

/-- The exit status after a failure. -/
def failed : UInt32 := 1

/-- The exit status after arguments that do not fit. -/
def misused : UInt32 := 2

partial def readAll (input : IO.FS.Stream) (before : String) : IO String := do
  let line ← input.getLine
  if line.isEmpty then return before else readAll input (before ++ line)

def readInput (name : String) : IO String := do
  if name == "-" then readAll (← IO.getStdin) "" else IO.FS.readFile name

/-- The options in a file; a file that holds none is an error. -/
def loadOptions (config : Option String) : IO Options := do
  let content ← config.mapM fun name => IO.FS.readFile name
  match Options.load? (content.map String.toList) with
  | some options => return options
  | none => throw (IO.userError "JSON error: these are no options")

def evaluateDocument (options : Options) (input : String) (json : Bool) : IO Unit := do
  let text ← readInput input
  match Document.output text.toList options json with
  | .ok out => IO.print (String.ofList out)
  | .error _ => throw (IO.userError "invalid delimiter pattern")

/-- Handles the lines of the standard input until one of them or the input ends. -/
partial def converse (input output : IO.FS.Stream) (repl : Repl) : IO Unit := do
  let line ← input.getLine
  if line.isEmpty then return
  match repl.handle (.read line.toList) with
  | none => return
  | some (repl, out) =>
    output.putStr (String.ofList out)
    output.flush
    converse input output repl

def run (c : CommandLine) : IO Unit := do
  let options ← loadOptions c.config
  match c.subcommand with
  | some (.eval input) => evaluateDocument options input c.json
  | some .repl => converse (← IO.getStdin) (← IO.getStdout) (.new Ident.longStem)
  | none => return

end LiveTex.Program

open LiveTex in
def main (args : List String) : IO UInt32 := do
  match CommandLine.read args with
  | none =>
    IO.eprintln CommandLine.usage
    return Program.misused
  | some c =>
    try
      Program.run c
      return 0
    catch e =>
      IO.eprintln (toString e)
      return Program.failed
