import LiveTex.Sheet.World
import Mathlib.Data.List.Nodup

/-!
The registrations that sessions make when each of them is registered for its subscriptions, the first session
first.
-/

namespace LiveTex

/-- The variables that an evaluation used; a failure used none. -/
def Evaluation.usedBy (r : Option Evaluation) : List Ident := (r.map (·.used)).getD []

/-- The registrations of a session. -/
def Session.registrations (i : Nat) (s : Session) : List Registration :=
  s.subscriptions.map fun ident => ⟨ident, s.subscriber, .session i⟩

/-- The registrations of all sessions, the first of which has the index `k`. -/
def registrationsFrom : (k : Nat) → List Session → List Registration
  | _, [] => []
  | k, s :: rest => s.registrations k ++ registrationsFrom (k + 1) rest

/-- Whether a registration is taken out when the session is disposed of. -/
def Session.owns (s : Session) (r : Registration) : Bool :=
  s.subscriptions.contains r.ident && r.subscriber == s.subscriber

theorem Session.owns_of_mem {i : Nat} {s : Session} {r : Registration} (hr : r ∈ s.registrations i) : s.owns r = true := by
  obtain ⟨ident, hident, rfl⟩ := List.mem_map.mp hr
  simp [owns, hident]

theorem Session.owns_eq_false {s : Session} {r : Registration} (hne : r.subscriber ≠ s.subscriber) : s.owns r = false := by
  simp [owns, hne]

section

variable {k j : Nat} {sessions : List Session} {s u : Session}

theorem registrationsFrom_concat (k : Nat) (sessions : List Session) (s : Session) :
    registrationsFrom k (sessions ++ [s]) =
      registrationsFrom k sessions ++ s.registrations (k + sessions.length) := by
  induction sessions generalizing k with
  | nil => simp [registrationsFrom]
  | cons u rest ih =>
    simp only [List.cons_append, registrationsFrom, ih, List.append_assoc, List.length_cons]
    rw [Nat.add_right_comm, Nat.add_assoc]

/-- A session whose subscriptions and number stay has the same registrations. -/
theorem registrationsFrom_set (hs : sessions[j]? = some s) (hsubscriptions : u.subscriptions = s.subscriptions)
    (hsubscriber : u.subscriber = s.subscriber) :
    registrationsFrom k (sessions.set j u) = registrationsFrom k sessions := by
  induction sessions generalizing k j with
  | nil => rfl
  | cons v rest ih =>
    cases j with
    | zero =>
      obtain rfl := Option.some.inj hs
      simp only [List.set_cons_zero, registrationsFrom, Session.registrations, hsubscriptions, hsubscriber]
    | succ j => simp only [List.set_cons_succ, registrationsFrom, ih hs]

theorem mem_registrationsFrom {r : Registration} (hr : r ∈ registrationsFrom k sessions) :
    ∃ i s, sessions[i]? = some s ∧ r.ident ∈ s.subscriptions ∧ r.subscriber = s.subscriber ∧
      r.listener = .session (k + i) := by
  induction sessions generalizing k with
  | nil => cases hr
  | cons s rest ih =>
    rcases List.mem_append.mp hr with hr | hr
    · obtain ⟨ident, hident, rfl⟩ := List.mem_map.mp hr
      exact ⟨0, s, rfl, hident, rfl, rfl⟩
    · obtain ⟨i, u, hu, hident, hsubscriber, hlistener⟩ := ih hr
      refine ⟨i + 1, u, hu, hident, hsubscriber, hlistener.trans ?_⟩
      rw [Nat.add_right_comm, Nat.add_assoc]

/-- The registrations of the last session come behind all others. -/
theorem registrationsFrom_attach (hs : sessions[j]? = some s) (hlast : sessions.length = j + 1)
    (hnone : s.subscriptions = []) :
    registrationsFrom k (sessions.set j u) = registrationsFrom k sessions ++ u.registrations (k + j) := by
  induction sessions generalizing k j with
  | nil => cases hs
  | cons v rest ih =>
    cases j with
    | zero =>
      obtain rfl := Option.some.inj hs
      obtain rfl : rest = [] := List.eq_nil_of_length_eq_zero (Nat.succ.inj hlast)
      simp [registrationsFrom, Session.registrations, hnone]
    | succ j =>
      simp only [List.set_cons_succ, registrationsFrom, ih hs (Nat.succ.inj hlast), List.append_assoc]
      rw [Nat.add_assoc, Nat.add_comm 1]

/-- Nothing is taken out that is registered under other numbers. -/
theorem filter_not_owns (hother : ∀ (i : Nat) (v : Session), sessions[i]? = some v → v.subscriber ≠ s.subscriber) :
    (registrationsFrom k sessions).filter (fun r => !s.owns r) = registrationsFrom k sessions := by
  rw [List.filter_eq_self]
  intro r hr
  obtain ⟨i, v, hv, -, hsubscriber, -⟩ := mem_registrationsFrom hr
  rw [Session.owns_eq_false (hsubscriber ▸ hother i v hv), Bool.not_false]

/-- Taking out what a session is registered for leaves the registrations of the others, when no two sessions share a
number. -/
theorem registrationsFrom_dispose (hs : sessions[j]? = some s) (hu : u.subscriptions = [])
    (hdistinct : ∀ (i : Nat) (v : Session), sessions[i]? = some v → v.subscriber = s.subscriber → i = j) :
    registrationsFrom k (sessions.set j u) = (registrationsFrom k sessions).filter (fun r => !s.owns r) := by
  induction sessions generalizing k j with
  | nil => rfl
  | cons v rest ih =>
    rw [registrationsFrom, List.filter_append]
    cases j with
    | zero =>
      obtain rfl := Option.some.inj hs
      have hown : (v.registrations k).filter (fun r => !v.owns r) = [] := by
        rw [List.filter_eq_nil_iff]
        intro r hr
        simp [Session.owns_of_mem hr]
      have hrest : (registrationsFrom (k + 1) rest).filter (fun r => !v.owns r) = registrationsFrom (k + 1) rest :=
        filter_not_owns fun i w hw hsame => Nat.succ_ne_zero i (hdistinct (i + 1) w hw hsame)
      rw [hown, hrest, List.set_cons_zero, registrationsFrom, Session.registrations, hu]
      rfl
    | succ j =>
      have hown : (v.registrations k).filter (fun r => !s.owns r) = v.registrations k := by
        rw [List.filter_eq_self]
        intro r hr
        obtain ⟨ident, -, rfl⟩ := List.mem_map.mp hr
        have hne : v.subscriber ≠ s.subscriber := fun hsame => by cases hdistinct 0 v rfl hsame
        rw [Session.owns_eq_false hne, Bool.not_false]
      have hrest := ih (k := k + 1) hs fun i w hw hsame => Nat.succ.inj (hdistinct (i + 1) w hw hsame)
      rw [hown, List.set_cons_succ, registrationsFrom, hrest]

end

end LiveTex
