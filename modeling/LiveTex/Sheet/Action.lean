import LiveTex.Sheet.Ident

/-!
What can be done to a sheet from outside, and the listeners that are told when a variable changes.
-/

namespace LiveTex

inductive Action where
  /-- Opens a session for a text, under a number of its own if none is given. -/
  | openSession (latex : Text) (showResult : Bool) (subscriber : Option Subscriber)
  | dispose (session : Nat)
  | toggle (session : Nat)
  | setShow (session : Nat) (showResult : Bool)
  /-- Disposes of a session and lets go of it. -/
  | drop (session : Nat)
  /-- Evaluates a text outside any session; a quiet evaluation keeps the reason of a failure to itself. -/
  | evaluate (latex : Text) (quiet : Bool)
  | mintIdent
  | mintSubscriber
  | define (ident : Ident) (value : Float) (aliases : List Text)
  | resolve (spelling : Text)
  | resolveAny (aliases : List Text)
  | aliasTable
  | lookup (ident : Ident)
  /-- Registers a watcher, which takes its actions each time it is told of a change. -/
  | watch (ident : Ident) (subscriber : Subscriber) (tag : Text) (actions : List Action)
  | unsubscribe (ident : Ident) (subscriber : Subscriber)
  | notify (ident : Ident)
  /-- Lets go of the store. -/
  | dropStore
  deriving Repr

inductive Listener where
  /-- The session with that index, which evaluates its text again. -/
  | session (index : Nat)
  | watcher (tag : Text) (actions : List Action)
  deriving Repr

end LiveTex
