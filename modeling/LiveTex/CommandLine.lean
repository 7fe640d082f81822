/-!
The arguments of the program: a subcommand with its operand, and flags that may stand before or after it.
-/

namespace LiveTex

/-- What the program is asked to do. -/
inductive Subcommand where
  /-- Evaluates the mathematics of a document; `-` is the standard input. -/
  | eval (input : String)
  /-- Reads expressions line by line. -/
  | repl
  deriving Repr, DecidableEq

/-- The arguments as they are read so far. -/
structure CommandLine where
  subcommand : Option Subcommand
  /-- The file with the options. -/
  config : Option String
  json : Bool
  /-- The subcommand `eval` still lacks its operand. -/
  wantsInput : Bool
  deriving Repr, DecidableEq

namespace CommandLine

def usage : String :=
  "Usage: livetex [--config <JSON>] [--log-json] eval <INPUT> [--json]\n" ++
  "       livetex [--config <JSON>] [--log-json] repl"

/-- Takes one word that is no flag. -/
def word (c : CommandLine) (w : String) : Option CommandLine :=
  if c.wantsInput then some { c with subcommand := some (.eval w), wantsInput := false }
  else match c.subcommand, w with
    | none, "eval" => some { c with wantsInput := true }
    | none, "repl" => some { c with subcommand := some .repl }
    | _, _ => none

/-- Reads the arguments from left to right. Nothing is returned for arguments that do not fit. -/
def readFrom (c : CommandLine) : List String → Option CommandLine
  | [] => if c.wantsInput || c.subcommand.isNone then none else some c
  | "--config" :: file :: rest =>
    if c.config.isSome then none else readFrom { c with config := some file } rest
  | "--log-json" :: rest => readFrom c rest
  | "--json" :: rest =>
    match c.wantsInput, c.subcommand with
    | true, _ | _, some (.eval _) => if c.json then none else readFrom { c with json := true } rest
    | _, _ => none
  | w :: rest =>
    if w.startsWith "-" && w != "-" then none
    else match c.word w with
      | none => none
      | some c => readFrom c rest

def read (args : List String) : Option CommandLine := readFrom ⟨none, none, false, false⟩ args

end CommandLine

end LiveTex
