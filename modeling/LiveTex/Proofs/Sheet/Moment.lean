import LiveTex.Proofs.Sheet.Outcome
import LiveTex.Sheet.Settling
import Mathlib.Logic.Function.Iterate

/-!
The moments of an action. A moment is a world together with the tasks that are still to be done in it.
Settling an action passes through its moments one task at a time, so whatever every task keeps holds when
the action is over.
-/

namespace LiveTex

/-- A world with the tasks that are still to be done in it, the next one first. -/
structure Moment where
  world : World
  tasks : List Task

/-- The moment after the next task. What the task leaves is done before all that was waiting. -/
def Moment.next (m : Moment) : Moment :=
  match m.tasks with
  | [] => m
  | t :: ts => ⟨(m.world.run t).1, (m.world.run t).2 ++ ts⟩

theorem Moment.next_cons (w : World) (t : Task) (ts : List Task) :
    Moment.next ⟨w, t :: ts⟩ = ⟨(w.run t).1, (w.run t).2 ++ ts⟩ := rfl

theorem Moment.next_idle (w : World) : Moment.next ⟨w, []⟩ = ⟨w, []⟩ := rfl

theorem Moment.iterate_next_idle (w : World) (n : Nat) : Moment.next^[n] ⟨w, []⟩ = ⟨w, []⟩ :=
  Function.iterate_fixed (next_idle w) n

namespace World

/-- The world when a text has been evaluated and nobody has been told. -/
def afterEvaluation (w : World) (latex : Text) : World :=
  { w with store := (w.store.evaluate latex).1 }

/-- The world while the listeners of a variable are being told. -/
def telling (w : World) (ident : Ident) : World :=
  { w with store := { w.store with notifying := ident :: w.store.notifying } }

theorem evaluate_eq_of_error {w : World} {latex : Text} {reason : Failure}
    (h : (w.store.evaluate latex).2 = .error reason) :
    w.evaluate latex = (w.afterEvaluation latex, [], .error reason) := by
  rw [evaluate]
  simp only [h]
  rfl

theorem evaluate_eq_of_ok {w : World} {latex : Text} {e : Evaluation} (h : (w.store.evaluate latex).2 = .ok e) :
    w.evaluate latex = match e.defined with
      | none => (w.afterEvaluation latex, [], .ok e)
      | some ident =>
        (((w.afterEvaluation latex).announce ident).1, ((w.afterEvaluation latex).announce ident).2, .ok e) := by
  rw [evaluate]
  simp only [h]
  cases e.defined <;> rfl

/-- When the first listener is about to be told, its variable is announced, inside of all that were. -/
theorem announce_eq (w : World) (ident : Ident) :
    w.announce ident = if w.store.listeners ident = [] then (w, [])
      else (w.telling ident, (w.store.listeners ident).map .hear ++ [.hush]) := by
  unfold announce
  split
  · next hnone => rw [if_pos hnone]
  · next hsome => rw [if_neg hsome]; rfl

/-- What the evaluation of a session that is not disposed of leads to. -/
inductive Refreshed (w : World) (i : Nat) (s : Session) : World × List Task → Prop where
  | refused (reason : Failure) (houtcome : (w.store.evaluate s.latex).2 = .error reason) :
      Refreshed w i s (w.afterEvaluation s.latex, [.settle i none])
  | unheard (e : Evaluation) (houtcome : (w.store.evaluate s.latex).2 = .ok e)
      (hunheard : ∀ ident, e.defined = some ident →
        (w.afterEvaluation s.latex).store.listeners ident = []) :
      Refreshed w i s (w.afterEvaluation s.latex, [.settle i (some e)])
  | heard (e : Evaluation) (ident : Ident) (houtcome : (w.store.evaluate s.latex).2 = .ok e)
      (hdefined : e.defined = some ident)
      (hheard : (w.afterEvaluation s.latex).store.listeners ident ≠ []) :
      Refreshed w i s ((w.afterEvaluation s.latex).telling ident,
        ((w.afterEvaluation s.latex).store.listeners ident).map .hear ++ [.hush, .settle i (some e)])

theorem refreshed_run {w : World} {i : Nat} {s : Session} (hs : w.sessions[i]? = some s)
    (hlive : s.isDisposed = false) : w.Refreshed i s (w.run (.refresh i)) := by
  have hrun : w.run (.refresh i) = ((w.evaluate s.latex).1, (w.evaluate s.latex).2.1 ++
      [.settle i (w.evaluate s.latex).2.2.toOption]) := by
    simp [run, hs, hlive]
  rw [hrun]
  cases houtcome : (w.store.evaluate s.latex).2 with
  | error reason =>
    rw [evaluate_eq_of_error houtcome]
    exact .refused reason houtcome
  | ok e =>
    rw [evaluate_eq_of_ok houtcome]
    cases hdefined : e.defined with
    | none => exact .unheard e houtcome (by simp [hdefined])
    | some ident =>
      simp only [announce_eq]
      by_cases hheard : (w.afterEvaluation s.latex).store.listeners ident = []
      · rw [if_pos hheard]
        exact .unheard e houtcome fun other hother => by
          rw [hdefined, Option.some.injEq] at hother
          exact hother ▸ hheard
      · rw [if_neg hheard, List.append_assoc]
        exact .heard e ident houtcome hdefined hheard

/-- A session that is out of reach or disposed of is not evaluated. -/
theorem run_refresh_of_forall_disposed {w : World} {i : Nat}
    (h : ∀ s, w.sessions[i]? = some s → s.isDisposed = true) : w.run (.refresh i) = (w, []) := by
  cases hs : w.sessions[i]? with
  | none => simp [run, hs]
  | some s => simp [run, hs, h s hs]

theorem exists_live_or_gone (w : World) (i : Nat) : (∃ s, w.sessions[i]? = some s ∧ s.isDisposed = false) ∨
    ∀ s, w.sessions[i]? = some s → s.isDisposed = true := by
  by_cases hgone : ∀ s, w.sessions[i]? = some s → s.isDisposed = true
  · exact .inr hgone
  · simp only [not_forall, Bool.not_eq_true] at hgone
    obtain ⟨s, hs, hlive⟩ := hgone
    exact .inl ⟨s, hs, hlive⟩

/-- All that evaluating a session can do. -/
theorem run_refresh_cases (w : World) (i : Nat) :
    ((∀ s, w.sessions[i]? = some s → s.isDisposed = true) ∧ w.run (.refresh i) = (w, [])) ∨
      ∃ s, w.sessions[i]? = some s ∧ s.isDisposed = false ∧ w.Refreshed i s (w.run (.refresh i)) := by
  obtain ⟨s, hs, hlive⟩ | hgone := w.exists_live_or_gone i
  · exact .inr ⟨s, hs, hlive, refreshed_run hs hlive⟩
  · exact .inl ⟨hgone, run_refresh_of_forall_disposed hgone⟩

/-- Whatever was waiting still waits when the tasks before it are settled. -/
theorem exists_iterate_next_of_settle {depth : Nat} {w w' : World} {tasks : List Task}
    (h : settle depth w tasks = some w') (waiting : List Task) :
    ∃ n, Moment.next^[n] ⟨w, tasks ++ waiting⟩ = ⟨w', waiting⟩ := by
  induction depth, w, tasks using settle.induct generalizing w' waiting with
  | case1 depth w =>
    simp only [settle, Option.some.injEq] at h
    exact ⟨0, by simp [h]⟩
  | case2 w t ts => simp [settle] at h
  | case3 depth w t ts next left hrun hnone ih =>
    rw [settle, hrun] at h
    simp [hnone] at h
  | case4 depth w t ts next left hrun mid hmid ihLeft ihRest =>
    rw [settle, hrun] at h
    simp only [hmid] at h
    obtain ⟨n, hn⟩ := ihLeft hmid (ts ++ waiting)
    obtain ⟨k, hk⟩ := ihRest h waiting
    refine ⟨k + (n + 1), ?_⟩
    rw [Function.iterate_add_apply, Function.iterate_succ_apply]
    have hstep : Moment.next ⟨w, t :: ts ++ waiting⟩ = ⟨next, left ++ (ts ++ waiting)⟩ := by
      simp [Moment.next, hrun]
    rw [hstep, hn, hk]

/-- The moment of an action when so many of its tasks are done. -/
def moment (w : World) (action : Action) (n : Nat) : Moment :=
  Moment.next^[n] ⟨(w.take action).1, (w.take action).2.1⟩

theorem moment_succ (w : World) (action : Action) (n : Nat) :
    w.moment action (n + 1) = (w.moment action n).next :=
  Function.iterate_succ_apply' _ _ _

/-- An action is over after some number of tasks. -/
def Settles (w : World) (action : Action) : Prop :=
  ∃ n, w.moment action n = ⟨(w.act action).1, []⟩

theorem moment_eq_of_idle {w w' : World} {action : Action} {k n : Nat}
    (h : w.moment action k = ⟨w', []⟩) (hle : k ≤ n) : w.moment action n = ⟨w', []⟩ := by
  obtain ⟨d, rfl⟩ := Nat.exists_eq_add_of_le' hle
  unfold moment at h ⊢
  rw [Function.iterate_add_apply, h, Moment.iterate_next_idle]

/-- What holds at one moment of an action and is kept by every task from there on holds at all later moments. -/
theorem moment_of_le {P : Moment → Prop} {w : World} {action : Action} {k n : Nat} (hk : P (w.moment action k))
    (hnext : ∀ j, k ≤ j → P (w.moment action j) → P (w.moment action j).next) (hle : k ≤ n) :
    P (w.moment action n) := by
  induction hle with
  | refl => exact hk
  | step hle ih =>
    rw [moment_succ]
    exact hnext _ hle ih

theorem Settles.of_moment {P : Moment → Prop} {w : World} {action : Action} {k : Nat} (h : w.Settles action)
    (hk : P (w.moment action k)) (hnext : ∀ j, k ≤ j → P (w.moment action j) → P (w.moment action j).next) :
    P ⟨(w.act action).1, []⟩ := by
  obtain ⟨n, hn⟩ := h
  have hover := moment_eq_of_idle hn (Nat.le_add_left n k)
  exact hover ▸ moment_of_le hk hnext (Nat.le_add_right k n)

/-- The first moment without tasks shows the world after the action. -/
theorem Settles.act_eq {w w' : World} {action : Action} (h : w.Settles action) {n : Nat}
    (hn : w.moment action n = ⟨w', []⟩) : (w.act action).1 = w' := by
  obtain ⟨k, hk⟩ := h
  have h₁ := moment_eq_of_idle hk (Nat.le_max_left k n)
  have h₂ := moment_eq_of_idle hn (Nat.le_max_right k n)
  rw [h₁] at h₂
  exact congrArg Moment.world h₂

theorem settles_of_settle {w : World} {action : Action} (w' : World)
    (h : settle w.depthLimit (w.take action).1 (w.take action).2.1 = some w') : w.Settles action := by
  obtain ⟨n, hn⟩ := exists_iterate_next_of_settle h []
  refine ⟨n, ?_⟩
  have hact : (w.act action).1 = w' := by
    unfold act
    simp only [h]
  rw [hact, moment]
  simpa only [List.append_nil] using hn

/-- The world after several actions, one after the other. -/
def acts (w : World) (actions : List Action) : World :=
  actions.foldl (fun w action => (w.act action).1) w

@[simp] theorem acts_nil (w : World) : w.acts [] = w := rfl

@[simp] theorem acts_cons (w : World) (action : Action) (actions : List Action) :
    w.acts (action :: actions) = (w.act action).1.acts actions := rfl

/-- The moments that a run of actions passes through: those of every action, and those between actions. -/
inductive Passes : World → List Action → Moment → Prop where
  | idle (w : World) (actions : List Action) : Passes w actions ⟨w, []⟩
  | busy (w : World) (action : Action) (actions : List Action) (n : Nat) :
      Passes w (action :: actions) (w.moment action n)
  | later {w : World} {action : Action} {actions : List Action} {m : Moment} :
      Passes (w.act action).1 actions m → Passes w (action :: actions) m

theorem Passes.append {w : World} {m : Moment} (before after : List Action)
    (h : Passes (w.acts before) after m) : Passes w (before ++ after) m := by
  induction before generalizing w with
  | nil => exact h
  | cons action before ih => exact .later (ih h)

theorem Passes.final (w : World) (actions : List Action) : Passes w actions ⟨w.acts actions, []⟩ := by
  have h := Passes.append actions [] (.idle (w.acts actions) [])
  simpa only [List.append_nil] using h

end World

end LiveTex
