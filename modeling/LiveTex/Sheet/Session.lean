import LiveTex.Sheet.Display
import LiveTex.Sheet.Evaluation

/-!
Sessions. A session keeps the result of one text on display.
-/

namespace LiveTex

/-- What a session shows. -/
structure Cell where
  text : Text
  visible : Bool
  /-- How often it was written. -/
  renders : Nat
  deriving Repr, DecidableEq

inductive Session.State where
  | uninitialized
  | evaluated
  | disposed
  deriving Repr, DecidableEq

/-- Whether a session is within reach: not yet while it is opened, and not any more once it is dropped. -/
inductive Session.Hold where
  | opening
  | held
  | dropped
  deriving Repr, DecidableEq

structure Session where
  latex : Text
  subscriber : Subscriber
  showResult : Bool
  /-- The latest evaluation, if it succeeded. -/
  result : Option Evaluation
  /-- The variables that the session listens to. -/
  subscriptions : List Ident
  state : Session.State
  /-- How often the text was evaluated. -/
  version : Nat
  cell : Cell
  hold : Session.Hold
  deriving Repr

namespace Session

def new (latex : Text) (subscriber : Subscriber) (showResult : Bool) : Session where
  latex := latex
  subscriber := subscriber
  showResult := showResult
  result := none
  subscriptions := []
  state := .uninitialized
  version := 0
  cell := ⟨[], false, 0⟩
  hold := .opening

def isDisposed (s : Session) : Bool := s.state == .disposed

/-- The latest value. -/
def value (s : Session) : Option Float := s.result.bind (·.value)

/-- The latest value as it is displayed. -/
def text (s : Session) : Text := resultText s.value

/-- Writes the result to the cell. -/
def render (s : Session) : Session :=
  { s with cell := ⟨s.text, s.showResult, s.cell.renders + 1⟩ }

/-- Takes in the outcome of an evaluation. -/
def take (s : Session) (result : Option Evaluation) : Session :=
  { s with result, version := s.version + 1, state := .evaluated }

/-- The variables that the latest evaluation used. -/
def used (s : Session) : List Ident := (s.result.map (·.used)).getD []

end Session

end LiveTex
