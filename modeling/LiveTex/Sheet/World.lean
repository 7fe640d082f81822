import LiveTex.Sheet.Session

/-!
A sheet with its sessions, and how it changes. Everything happens in tasks. A task changes the world and
leaves further tasks, to be done before those that were waiting already; so a variable's listeners have
all been told, and everything they set off is over, before a definition returns.
-/

namespace LiveTex

/-- What an action answers. -/
inductive Reply where
  | done
  | noSession
  | noStore
  | index (session : Nat)
  | existed (was : Bool)
  | evaluation (result : Evaluation)
  /-- A quiet evaluation that failed. -/
  | nothing
  | failure (reason : Failure)
  | ident (found : Option Ident)
  | subscriber (minted : Subscriber)
  | aliases (table : List (Text × Ident))
  | details (found : Option Variable) (binding : Option Float) (listeners : Nat) (notifying : Bool)
      (size : Nat)
  deriving Repr

/-- What can be observed while an action runs. -/
inductive Event where
  | rendered (session : Nat) (text : Text) (visible : Bool)
  | hit (tag : Text)
  | did (tag : Text) (reply : Reply)
  deriving Repr

structure World where
  store : Store
  /-- Whether the store is still held. What is running goes on without it being held. -/
  hasStore : Bool
  sessions : List Session
  /-- What has happened, the latest event first. -/
  log : List Event
  deriving Repr

/-- A step that is still to be done. -/
inductive Task where
  | hear (listener : Listener)
  /-- The listeners of the innermost notifying variable are through. -/
  | hush
  /-- Evaluates the text of a session. -/
  | refresh (session : Nat)
  /-- Gives a session the outcome of its evaluation. -/
  | settle (session : Nat) (result : Option Evaluation)
  /-- Ends the opening of a session: it listens to the variables it used. -/
  | attach (session : Nat)
  /-- An action of a watcher. -/
  | perform (tag : Text) (action : Action)
  | report (tag : Text) (reply : Reply)
  deriving Repr

namespace World

/-- A sheet without sessions, over an empty store. -/
def new (stem : Text) : World := ⟨.empty stem, true, [], []⟩

/-- The session with that index, if it is within reach. -/
def session? (w : World) (i : Nat) : Option Session :=
  match w.sessions[i]? with
  | some s => if s.hold = .held then some s else none
  | none => none

def setSession (w : World) (i : Nat) (s : Session) : World := { w with sessions := w.sessions.set i s }

def note (w : World) (e : Event) : World := { w with log := e :: w.log }

/-- Gives a session a new state and writes its cell. -/
def display (w : World) (i : Nat) (s : Session) : World :=
  let s := s.render
  (w.setSession i s).note (.rendered i s.cell.text s.cell.visible)

/-- Ends a session: it listens no more, and nothing changes it again. -/
def dispose (w : World) (i : Nat) (s : Session) : World :=
  if s.isDisposed then w
  else
    let store := s.subscriptions.foldl (fun store ident => store.unsubscribe ident s.subscriber) w.store
    { w.setSession i { s with state := .disposed, subscriptions := [] } with store }

/-- Shows or hides the result of a session. -/
def setShow (w : World) (i : Nat) (s : Session) (showResult : Bool) : World :=
  if s.isDisposed || s.showResult == showResult then w else w.display i { s with showResult }

/-- Begins to tell the listeners of a variable: those that are registered now, each in turn. -/
def announce (w : World) (ident : Ident) : World × List Task :=
  match w.store.listeners ident with
  | [] => (w, [])
  | listeners =>
    ({ w with store := { w.store with notifying := ident :: w.store.notifying } },
      listeners.map .hear ++ [.hush])

/-- Evaluates a text and begins to tell the listeners of the variable it assigned. -/
def evaluate (w : World) (latex : Text) : World × List Task × Except Failure Evaluation :=
  let (store, outcome) := w.store.evaluate latex
  let w := { w with store }
  match outcome with
  | .ok result => match result.defined with
    | some ident =>
      let (w, tasks) := w.announce ident
      (w, tasks, .ok result)
    | none => (w, [], .ok result)
  | .error e => (w, [], .error e)

/-- Takes an action on a session within reach. -/
def onSession (w : World) (i : Nat) (act : Session → World) : World × List Task × Reply :=
  match w.session? i with
  | none => (w, [], .noSession)
  | some s => (act s, [], .done)

/-- Takes an action that needs the store. -/
def onStore (w : World) : Action → World × List Task × Reply
  | .openSession latex showResult subscriber? =>
    let (store, subscriber) := match subscriber? with
      | some subscriber => (w.store, subscriber)
      | none => w.store.mintSubscriber
    let i := w.sessions.length
    let w := { w with store, sessions := w.sessions ++ [.new latex subscriber showResult] }
    (w, [.refresh i, .attach i], .index i)
  | .evaluate latex quiet =>
    let (w, tasks, outcome) := w.evaluate latex
    match outcome with
    | .ok result => (w, tasks, .evaluation result)
    | .error e => (w, tasks, if quiet then .nothing else .failure e)
  | .mintIdent =>
    let (store, ident) := w.store.mintIdent
    ({ w with store }, [], .ident (some ident))
  | .mintSubscriber =>
    let (store, subscriber) := w.store.mintSubscriber
    ({ w with store }, [], .subscriber subscriber)
  | .define ident value aliases =>
    match w.store.define ident ⟨value, aliases⟩ with
    | .error e => (w, [], .failure e)
    | .ok store =>
      let (w, tasks) := { w with store }.announce ident
      (w, tasks, .done)
  | .resolve spelling => (w, [], .ident (w.store.resolve spelling))
  | .resolveAny aliases => (w, [], .ident (w.store.resolveAny aliases))
  | .aliasTable => (w, [], .aliases w.store.aliasTable)
  | .lookup ident =>
    let s := w.store
    (w, [], .details (s.find? ident) (s.bindings ident) (s.listeners ident).length
      (s.isNotifying ident) s.entries.length)
  | .watch ident subscriber tag actions =>
    ({ w with store := w.store.register ⟨ident, subscriber, .watcher tag actions⟩ }, [], .done)
  | .unsubscribe ident subscriber =>
    ({ w with store := w.store.unsubscribe ident subscriber }, [], .done)
  | .notify ident =>
    let (w, tasks) := w.announce ident
    (w, tasks, .done)
  | .dropStore => ({ w with hasStore := false }, [], .done)
  | .dispose _ | .toggle _ | .setShow .. | .drop _ => (w, [], .noSession)

/-- Takes an action: the world after its first step, the tasks it leaves, and its reply. -/
def take (w : World) (action : Action) : World × List Task × Reply :=
  match action with
  | .dispose i => w.onSession i (w.dispose i)
  | .toggle i => w.onSession i fun s => w.setShow i s !s.showResult
  | .setShow i showResult => w.onSession i fun s => w.setShow i s showResult
  | .drop i => match w.session? i with
    | none => (w, [], .existed false)
    | some s =>
      let w := w.dispose i s
      let s := (w.sessions[i]?).getD s
      (w.setSession i { s with hold := .dropped }, [], .existed true)
  | action => if w.hasStore then w.onStore action else (w, [], .noStore)

/-- Does a task: the world after it, and the tasks it leaves. -/
def run (w : World) : Task → World × List Task
  | .hear (.session i) => (w, [.refresh i])
  | .hear (.watcher tag actions) => (w.note (.hit tag), actions.map (.perform tag))
  | .hush => ({ w with store := { w.store with notifying := w.store.notifying.tail } }, [])
  | .refresh i => match w.sessions[i]? with
    | none => (w, [])
    | some s =>
      if s.isDisposed then (w, [])
      else
        let (w, tasks, outcome) := w.evaluate s.latex
        (w, tasks ++ [.settle i outcome.toOption])
  | .settle i result => match w.sessions[i]? with
    | none => (w, [])
    | some s => if s.isDisposed then (w, []) else (w.display i (s.take result), [])
  | .attach i => match w.sessions[i]? with
    | none => (w, [])
    | some s =>
      let registrations := s.used.map fun ident => ⟨ident, s.subscriber, .session i⟩
      let store := { w.store with registrations := w.store.registrations ++ registrations }
      ({ w with store }.setSession i { s with subscriptions := s.used, hold := .held }, [])
  | .perform tag action =>
    let (w, tasks, reply) := w.take action
    (w, tasks ++ [.report tag reply])
  | .report tag reply => (w.note (.did tag reply), [])

end World

end LiveTex
