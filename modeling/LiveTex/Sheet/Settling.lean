import LiveTex.Sheet.World

/-!
Doing all that is left to be done. A task and what it leaves are over before the next task is begun, so
tasks nest, and the nesting is limited: a watcher that announces the variable it watches would never come
to an end.
-/

namespace LiveTex.World

/-- Does the tasks in order, each with all that it leaves. There is no world at the end when tasks nest
deeper than `depth`. -/
def settle : (depth : Nat) → World → List Task → Option World
  | _, w, [] => some w
  | 0, _, _ :: _ => none
  | depth + 1, w, t :: ts =>
    let (w, left) := w.run t
    match settle depth w left with
    | none => none
    | some w => settle (depth + 1) w ts
termination_by depth _ tasks => (depth, tasks.length)

/-- The nesting that watchers may add to that of the sessions. -/
def watcherDepth : Nat := 4096

/-- The deepest nesting that is followed. A variable is not announced again by a session while its
listeners are running, so the listeners of sessions nest no deeper than there are registrations. -/
def depthLimit (w : World) : Nat := 2 * w.store.registrations.length + watcherDepth

/-- Takes an action and does all that it sets off. An action whose tasks nest too deep is given up, and
then the world stays as it was. -/
def act (w : World) (action : Action) : World × Reply :=
  let (next, tasks, reply) := w.take action
  match settle w.depthLimit next tasks with
  | some next => (next, reply)
  | none => (w, .nothing)

end LiveTex.World
