import LiveTex.Sheet.Settling
import LiveTex.Text.Blank
import LiveTex.Text.Quoted

/-!
A sheet that is written line by line. Each line that is no command opens a session, and after it every
session whose text has changed is shown. Sessions are numbered from one and keep their numbers.
-/

namespace LiveTex

/-- What a line asks for. -/
inductive Line where
  | blank
  | quit
  | listVariables
  /-- Drops the session whose number the argument gives. -/
  | drop (argument : Text)
  | unknown (command : Text)
  | expression (latex : Text)
  deriving Repr, DecidableEq

/-- Reads a line. Its first word decides, when it begins with a colon. -/
def Line.read (t : Text) : Line :=
  let t := Text.trim t
  let (word, rest) := (Text.cutAt Text.isBlank t).getD (t, [])
  if word = [] then .blank
  else if word = ":quit".toList || word = ":q".toList then .quit
  else if word = ":vars".toList then .listVariables
  else if word = ":drop".toList then .drop (Text.trim rest)
  else if word.head? == some ':' then .unknown word
  else .expression t

/-- A sheet with the text that was last shown for each of its sessions. -/
structure Repl where
  world : World
  shown : List (Option Text)

namespace Repl

/-- An empty sheet, whose identifiers share a stem. -/
def new (stem : Text) : Repl := ⟨.new stem, []⟩

/-- The greatest session number that can be written. -/
def greatestNumber : Nat := UInt64.size - 1

/-- A session number: decimal digits, with a plus sign in front or not. -/
def sessionNumber? (t : Text) : Option Nat :=
  let ds := (Text.after? ['+'] t).getD t
  if ds = [] || !ds.all Char.isDigit || greatestNumber < Decimal.value ds then none
  else some (Decimal.value ds)

/-- The list without elements that equal the one before them. -/
def withoutRepeats : List Text → List Text
  | a :: b :: rest => if a = b then withoutRepeats (b :: rest) else a :: withoutRepeats (b :: rest)
  | short => short

/-- One line for each variable: its names, its value and its identifier. -/
def variableLines (w : World) : Text :=
  w.store.entries.flatMap fun (ident, v) =>
    Text.join [',', ' '] (withoutRepeats v.aliases) ++ [' '] ++ resultText (some v.value) ++
      " (".toList ++ ident ++ ")\n".toList

/-- The line that shows a session. -/
def sessionLine (i : Nat) (s : Session) : Text :=
  ['['] ++ Decimal.digits (i + 1) ++ "] ".toList ++ s.latex ++ [' '] ++ s.cell.text ++ ['\n']

/-- The lines of the sessions from index `i` on that do not show what they showed last, and what is shown
after that. -/
def changes (w : World) (i : Nat) : List (Option Text) → Text × List (Option Text)
  | [] => ([], [])
  | last :: rest =>
    let (out, shown) := changes w (i + 1) rest
    match w.session? i with
    | none => (out, last :: shown)
    | some s =>
      if last = some s.cell.text then (out, last :: shown)
      else (sessionLine i s ++ out, some s.cell.text :: shown)

/-- Opens a session and shows what has changed. -/
def openSession (r : Repl) (latex : Text) : Repl × Text :=
  let world := (r.world.act (.openSession latex true none)).1
  let (out, shown) := changes world 0 (r.shown ++ [none])
  (⟨world, shown⟩, out)

/-- Drops a session. -/
def drop (r : Repl) (argument : Text) : Repl × Text :=
  match sessionNumber? argument with
  | none =>
    (r, "invalid argument: :drop expects a session number, got ".toList ++ Text.quoted argument ++ ['\n'])
  | some n =>
    match if n = 0 then none else r.world.session? (n - 1) with
    | none => (r, "no session ".toList ++ argument ++ ['\n'])
    | some s =>
      let world := (r.world.act (.drop (n - 1))).1
      ({ r with world }, "dropped [".toList ++ argument ++ "] ".toList ++ s.latex ++ ['\n'])

/-- Handles a line: the sheet after it and the text it writes, or nothing if it ends the reading. -/
def handle (r : Repl) : Line → Option (Repl × Text)
  | .blank => some (r, [])
  | .quit => none
  | .listVariables => some (r, variableLines r.world)
  | .drop argument => some (r.drop argument)
  | .unknown command => some (r, "unknown command ".toList ++ command ++ ['\n'])
  | .expression latex => some (r.openSession latex)

/-- What each line writes, up to the one that ends the reading and writes nothing. -/
def outputs (r : Repl) : List Text → List Text
  | [] => []
  | t :: rest => match r.handle (.read t) with
    | none => [[]]
    | some (r, out) => out :: outputs r rest

/-- Whether one of the lines ends the reading. -/
def quits (lines : List Text) : Bool := lines.any (Line.read · == .quit)

/-- What a whole input writes. -/
def transcript (input : Text) : Text :=
  ((new Ident.longStem).outputs (Text.pieces '\n' input)).flatten

end Repl

end LiveTex
