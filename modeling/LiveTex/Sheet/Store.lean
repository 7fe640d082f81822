import LiveTex.Formula.Basic
import LiveTex.Sheet.Action

/-!
The store of a sheet: its variables in the order of their first definition, the listeners in the order of
their registration, and the variables whose listeners are being told of a change.
-/

namespace LiveTex

/-- A stored variable, with the spellings that stand for it. -/
structure Variable where
  value : Float
  aliases : List Text
  deriving Repr

structure Registration where
  ident : Ident
  subscriber : Subscriber
  listener : Listener
  deriving Repr

structure Store where
  stem : Text
  mintedIdents : Nat
  mintedSubscribers : Nat
  /-- The variables, in the order of their first definition. -/
  entries : List (Ident × Variable)
  registrations : List Registration
  /-- The variables whose listeners are running, the innermost one first. -/
  notifying : List Ident
  deriving Repr

namespace Store

/-- A store without variables, whose identifiers share a stem. -/
def empty (stem : Text) : Store := ⟨stem, 0, 0, [], [], []⟩

/-- The next identifier. -/
def mintIdent (s : Store) : Store × Ident :=
  ({ s with mintedIdents := s.mintedIdents + 1 }, Ident.numbered s.stem s.mintedIdents)

/-- The next subscriber; the first one is number one. -/
def mintSubscriber (s : Store) : Store × Subscriber :=
  ({ s with mintedSubscribers := s.mintedSubscribers + 1 }, s.mintedSubscribers + 1)

def find? (s : Store) (ident : Ident) : Option Variable := s.entries.lookup ident

/-- The values of the variables, by identifier. -/
def bindings (s : Store) : Formula.Bindings := fun name => (s.find? name).map (·.value)

/-- The first variable that any of the spellings stands for. -/
def resolveAny (s : Store) (aliases : List Text) : Option Ident :=
  (s.entries.find? fun (_, v) => v.aliases.any aliases.contains).map (·.1)

/-- The first variable that the spelling stands for. -/
def resolve (s : Store) (spelling : Text) : Option Ident := s.resolveAny [spelling]

/-- The spellings with the identifiers they stand for, in the order of the variables. -/
def aliasTable (s : Store) : List (Text × Ident) :=
  s.entries.flatMap fun (ident, v) => v.aliases.map (·, ident)

/-- Writes a variable over the one with its identifier, or behind all others. -/
def put (ident : Ident) (v : Variable) : List (Ident × Variable) → List (Ident × Variable)
  | [] => [(ident, v)]
  | (other, w) :: rest => if other = ident then (ident, v) :: rest else (other, w) :: put ident v rest

def insert (s : Store) (ident : Ident) (v : Variable) : Store :=
  { s with entries := put ident v s.entries }

def isNotifying (s : Store) (ident : Ident) : Bool := s.notifying.contains ident

def register (s : Store) (r : Registration) : Store :=
  { s with registrations := s.registrations ++ [r] }

def unsubscribe (s : Store) (ident : Ident) (subscriber : Subscriber) : Store :=
  { s with registrations :=
      s.registrations.filter fun r => !(r.ident == ident && r.subscriber == subscriber) }

def registrationsOf (s : Store) (ident : Ident) : List Registration :=
  s.registrations.filter (·.ident == ident)

/-- The listeners of a variable, in the order of their registration. -/
def listeners (s : Store) (ident : Ident) : List Listener := (s.registrationsOf ident).map (·.listener)

def subscribers (s : Store) (ident : Ident) : List Subscriber :=
  (s.registrationsOf ident).map (·.subscriber)

end Store

end LiveTex
