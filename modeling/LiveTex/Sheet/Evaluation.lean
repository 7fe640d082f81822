import LiveTex.Name.Substitution
import LiveTex.Sheet.Store
import LiveTex.Statement

/-!
Evaluating a text against a store. Names that stand for stored variables become identifiers, the formula
is compiled and evaluated, and an assignment is written to the store.
-/

namespace LiveTex

/-- What a successful evaluation came to. -/
structure Evaluation where
  /-- The variable that was assigned. -/
  defined : Option Ident
  /-- The symbols of the formula, constants among them, in order of first appearance. -/
  used : List Ident
  /-- The value, unless it is a NaN. -/
  value : Option Float
  deriving Repr

inductive Failure where
  | formula (error : Formula.Error)
  /-- The variable is defined in terms of itself. -/
  | selfReference (ident : Ident)
  /-- The listeners of the variable are still running. -/
  | cycle (ident : Ident)
  deriving Repr

def Failure.message : Failure → Text
  | .formula e => e.message
  | .selfReference ident => ident ++ " is defined in terms of itself".toList
  | .cycle ident => ident ++ " is already being updated further up the notification chain".toList

namespace Store

/-- Writes a variable, unless its listeners are running. -/
def define (s : Store) (ident : Ident) (v : Variable) : Except Failure Store :=
  if s.isNotifying ident then .error (.cycle ident) else .ok (s.insert ident v)

/-- The formula that a statement's expression comes to when names are replaced by identifiers. -/
def resolved (s : Store) (statement : Statement) : Text :=
  Name.substitute statement.expression s.aliasTable

/-- Writes the value of an assignment to the variable with the given spellings, which is a new one when
no stored variable shares a spelling with it. -/
def assign (s : Store) (aliases : List Text) (used : List Ident) (value : Float) :
    Store × Except Failure Ident :=
  let (s, ident) := match s.resolveAny aliases with
    | some ident => (s, ident)
    | none => s.mintIdent
  if used.contains ident then (s, .error (.selfReference ident))
  else match s.define ident ⟨value, aliases⟩ with
    | .error e => (s, .error e)
    | .ok s => (s, .ok ident)

/-- Evaluates a text. Listeners of an assigned variable are told afterwards. -/
def evaluate (s : Store) (latex : Text) : Store × Except Failure Evaluation :=
  let statement := Statement.read latex
  let outcome := do
    let f ← Formula.compile (s.resolved statement)
    let value ← f.evaluate s.bindings
    return (f.symbols, value)
  match outcome with
  | .error e => (s, .error (.formula e))
  | .ok (used, value) =>
    let result := if value.isNaN then none else some value
    match statement.defines with
    | none => (s, .ok ⟨none, used, result⟩)
    | some name =>
      let (s, outcome) := s.assign (Name.aliases name) used value
      (s, outcome.map fun ident => ⟨some ident, used, result⟩)

end Store

end LiveTex
