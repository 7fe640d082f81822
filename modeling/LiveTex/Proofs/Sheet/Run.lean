import LiveTex.Proofs.Sheet.Graph

/-!
Runs of any actions, those included that watchers take in the middle of an announcement. A run goes from
moment to moment and keeps the actions that are taken on the way. Here is what a moment can do to a session;
what holds of sessions over whole runs follows from it.
-/

namespace LiveTex

/-- An action that is taken, and the world that it is taken in. -/
structure Call where
  world : World
  action : Action

/-- The action that the next task takes, when it is a watcher's. -/
def Moment.called (m : Moment) : List Call :=
  match m.tasks with
  | .perform _ action :: _ => [⟨m.world, action⟩]
  | _ => []

/-- The moment after an action is taken. What it leaves is done before all that was waiting. -/
def Moment.acting (m : Moment) (action : Action) : Moment :=
  ⟨(m.world.take action).1, (m.world.take action).2.1 ++ m.tasks⟩

/-- One step of a run, with the action that is taken in it. An action can be taken at any moment, so listeners
that decide what to do as they go are covered. -/
inductive Moment.Step (m : Moment) : List Call → Moment → Prop where
  | act (action : Action) : m.Step [⟨m.world, action⟩] (m.acting action)
  | next : m.Step m.called m.next

/-- A run from one moment to another one, with the actions that are taken on the way, the earliest first. -/
inductive Moment.Reaches (start : Moment) : List Call → Moment → Prop where
  | refl : start.Reaches [] start
  | step {calls taken : List Call} {m m' : Moment} (h : start.Reaches calls m) (hstep : m.Step taken m') :
      start.Reaches (calls ++ taken) m'

/-- What can happen to a session in one step, and under which conditions the step changes whether the result is
shown, or ends the opening of the session. -/
inductive Session.Change (shows attaches : Prop) (s : Session) : Session → Prop where
  | kept : s.Change shows attaches s
  | shown (hshows : shows) (hheld : s.hold = .held) (hlive : s.isDisposed = false) (showResult : Bool)
      (hne : showResult ≠ s.showResult) : s.Change shows attaches { s with showResult }.render
  | ended (hheld : s.hold = .held) (subscriptions : List Ident) :
      s.Change shows attaches { s with state := .disposed, subscriptions }
  | dropped (hheld : s.hold = .held) (subscriptions : List Ident) :
      s.Change shows attaches { s with state := .disposed, subscriptions, hold := .dropped }
  | settled (hlive : s.isDisposed = false) (r : Option Evaluation) : s.Change shows attaches (s.take r).render
  | attached (hattaches : attaches) : s.Change shows attaches { s with subscriptions := s.used, hold := .held }

theorem Session.Change.imp {shows shows' attaches attaches' : Prop} {s s' : Session}
    (h : s.Change shows attaches s') (hshows : shows → shows') (hattaches : attaches → attaches') :
    s.Change shows' attaches' s' := by
  cases h with
  | kept => exact .kept
  | shown h hheld hlive showResult hne => exact .shown (hshows h) hheld hlive showResult hne
  | ended hheld subscriptions => exact .ended hheld subscriptions
  | dropped hheld subscriptions => exact .dropped hheld subscriptions
  | settled hlive r => exact .settled hlive r
  | attached h => exact .attached (hattaches h)

/-- Whether an action is to show or hide the result of the session. -/
def Action.shows (i : Nat) : Action → Bool
  | .toggle j | .setShow j _ => j == i
  | _ => false

theorem Session.isDisposed_eq_true_iff {s : Session} : s.isDisposed = true ↔ s.state = .disposed := by
  simp [isDisposed]

namespace World

theorem session?_eq_some_iff {w : World} {i : Nat} {s : Session} :
    w.session? i = some s ↔ w.sessions[i]? = some s ∧ s.hold = .held := by
  unfold session?
  cases w.sessions[i]? with
  | none => simp
  | some u =>
    by_cases hu : u.hold = .held
    · simp only [hu, ↓reduceIte, Option.some.injEq]
      exact ⟨fun h => ⟨h, h ▸ hu⟩, fun h => h.1⟩
    · simp only [hu, ↓reduceIte, reduceCtorEq, Option.some.injEq, false_iff, not_and]
      exact fun h => h ▸ hu

section

variable {w : World} {i j : Nat} {s u : Session}

theorem exists_change_set {shows attaches : Prop} (hs : w.sessions[i]? = some s)
    (hu : j = i → s.Change shows attaches u) :
    ∃ s', (w.sessions.set j u)[i]? = some s' ∧ s.Change shows attaches s' :=
  exists_getElem?_set hs (fun _ => .kept) hu

/-- The session that is disposed of is disposed of afterwards, and the others stay as they are. -/
theorem getElem?_dispose (hs : w.sessions[i]? = some s) (hu : w.session? j = some u) :
    (j = i → ∃ subscriptions,
      (w.dispose j u).sessions[i]? = some { s with state := .disposed, subscriptions }) ∧
    (j ≠ i → (w.dispose j u).sessions[i]? = some s) := by
  obtain ⟨hu, -⟩ := session?_eq_some_iff.mp hu
  unfold dispose
  refine ⟨fun hij => ?_, fun hij => ?_⟩
  · subst hij
    obtain rfl := Option.some.inj (hs.symm.trans hu)
    split
    · next hdisposed =>
      rw [Session.isDisposed_eq_true_iff] at hdisposed
      exact ⟨s.subscriptions, by rw [hs, ← hdisposed]⟩
    · exact ⟨[], List.getElem?_set_self (List.getElem?_eq_some_iff.mp hs).1⟩
  · split
    · exact hs
    · exact (List.getElem?_set_ne hij).trans hs

theorem exists_change_dispose {shows attaches : Prop} (hs : w.sessions[i]? = some s) (hu : w.session? j = some u) :
    ∃ s', (w.dispose j u).sessions[i]? = some s' ∧ s.Change shows attaches s' := by
  obtain ⟨hself, hother⟩ := getElem?_dispose hs hu
  by_cases hij : j = i
  · obtain ⟨subscriptions, hs'⟩ := hself hij
    subst hij
    obtain ⟨hu, hheld⟩ := session?_eq_some_iff.mp hu
    obtain rfl := Option.some.inj (hs.symm.trans hu)
    exact ⟨_, hs', .ended hheld subscriptions⟩
  · exact ⟨s, hother hij, .kept⟩

theorem exists_change_setShow {attaches : Prop} (hs : w.sessions[i]? = some s) (hu : w.session? j = some u)
    (showResult : Bool) :
    ∃ s', (w.setShow j u showResult).sessions[i]? = some s' ∧ s.Change (j = i) attaches s' := by
  obtain ⟨hu, hheld⟩ := session?_eq_some_iff.mp hu
  unfold setShow
  split
  · exact ⟨s, hs, .kept⟩
  · next hchanges =>
    simp only [Bool.or_eq_true, beq_iff_eq, not_or, Bool.not_eq_true] at hchanges
    refine exists_change_set hs fun hij => ?_
    subst hij
    obtain rfl := Option.some.inj (hs.symm.trans hu)
    exact .shown rfl hheld hchanges.1 showResult (Ne.symm hchanges.2)

theorem take_drop {w : World} {j : Nat} {u : Session} (hu : w.session? j = some u) :
    (w.take (.drop j)).1 = (w.dispose j u).setSession j
      { ((w.dispose j u).sessions[j]?).getD u with hold := .dropped } := by
  simp only [take, hu]

theorem exists_change_drop {shows attaches : Prop} (hs : w.sessions[i]? = some s) (hu : w.session? j = some u) :
    ∃ s', (w.take (.drop j)).1.sessions[i]? = some s' ∧ s.Change shows attaches s' := by
  obtain ⟨hself, hother⟩ := getElem?_dispose hs hu
  rw [take_drop hu]
  by_cases hij : j = i
  · obtain ⟨subscriptions, hs'⟩ := hself hij
    subst hij
    obtain ⟨hu, hheld⟩ := session?_eq_some_iff.mp hu
    obtain rfl := Option.some.inj (hs.symm.trans hu)
    rw [hs', Option.getD_some]
    exact ⟨_, List.getElem?_set_self (List.getElem?_eq_some_iff.mp hs').1, .dropped hheld subscriptions⟩
  · exact ⟨s, (List.getElem?_set_ne hij).trans (hother hij), .kept⟩

end

/-- The sessions stay as they are, and no opening is among the tasks. -/
def Aside (w : World) (left : World × List Task) : Prop :=
  left.1.sessions = w.sessions ∧ ∀ i, .attach i ∉ left.2

theorem aside_announce {w w' : World} (h : w'.sessions = w.sessions) (ident : Ident) :
    w.Aside (w'.announce ident) := by
  unfold announce
  split
  · exact ⟨h, by simp⟩
  · exact ⟨h, by simp⟩

theorem aside_evaluate (w : World) (latex : Text) : w.Aside ((w.evaluate latex).1, (w.evaluate latex).2.1) := by
  unfold evaluate
  cases houtcome : (w.store.evaluate latex).2 with
  | error reason =>
    simp only [houtcome]
    exact ⟨rfl, by simp⟩
  | ok e =>
    simp only [houtcome]
    cases e.defined with
    | none => exact ⟨rfl, by simp⟩
    | some ident => exact aside_announce rfl ident

/-- An action on the store opens a session, which is to be evaluated and attached then, or it leaves the
sessions alone. -/
theorem opened_or_aside_onStore (w : World) (action : Action) :
    (∃ latex subscriber showResult,
      (w.onStore action).1.sessions = w.sessions ++ [.new latex subscriber showResult] ∧
        (w.onStore action).2.1 = [.refresh w.sessions.length, .attach w.sessions.length]) ∨
    w.Aside ((w.onStore action).1, (w.onStore action).2.1) := by
  cases action with
  | openSession latex showResult subscriber? => exact .inl ⟨latex, _, showResult, rfl, rfl⟩
  | evaluate latex quiet =>
    right
    have haside := w.aside_evaluate latex
    simp only [onStore]
    cases (w.evaluate latex).2.2 <;> exact haside
  | define ident value aliases =>
    right
    simp only [onStore, Store.define]
    cases w.store.isNotifying ident with
    | true => exact ⟨rfl, by simp⟩
    | false => exact aside_announce rfl ident
  | notify ident => exact .inr (aside_announce rfl ident)
  | _ => exact .inr ⟨rfl, by simp [onStore]⟩

theorem length_sessions_setShow (w : World) (i : Nat) (s : Session) (showResult : Bool) :
    (w.setShow i s showResult).sessions.length = w.sessions.length := by
  unfold setShow
  split
  · rfl
  · exact List.length_set

/-- An action opens a session, which is to be evaluated and attached then, or there are as many sessions
afterwards, and no opening is to be ended. -/
theorem opened_or_not (w : World) (action : Action) :
    (∃ latex subscriber showResult,
      (w.take action).1.sessions = w.sessions ++ [.new latex subscriber showResult] ∧
        (w.take action).2.1 = [.refresh w.sessions.length, .attach w.sessions.length]) ∨
    ((w.take action).1.sessions.length = w.sessions.length ∧ ∀ i, .attach i ∉ (w.take action).2.1) := by
  cases action with
  | dispose i | toggle i | setShow i =>
    right
    simp only [take, onSession]
    cases w.session? i with
    | none => exact ⟨rfl, by simp⟩
    | some s =>
      simp only [length_sessions_setShow, length_sessions_dispose, List.not_mem_nil, not_false_eq_true, implies_true,
        and_self]
  | drop i =>
    right
    simp only [take]
    cases w.session? i with
    | none => exact ⟨rfl, by simp⟩
    | some s => exact ⟨List.length_set.trans (length_sessions_dispose w i s), by simp⟩
  | _ =>
    simp only [take]
    split
    · exact (w.opened_or_aside_onStore _).imp_right fun h => ⟨congrArg List.length h.1, h.2⟩
    · exact .inr ⟨rfl, by simp⟩

variable {w : World} {i : Nat} {s : Session}

/-- No action makes a session disappear. -/
theorem exists_change_take (hs : w.sessions[i]? = some s) (action : Action) :
    ∃ s', (w.take action).1.sessions[i]? = some s' ∧ s.Change (action.shows i = true) False s' := by
  cases action with
  | dispose j =>
    simp only [take, onSession]
    cases hu : w.session? j with
    | none => exact ⟨s, hs, .kept⟩
    | some u => exact exists_change_dispose hs hu
  | toggle j | setShow j =>
    simp only [take, onSession]
    cases hu : w.session? j with
    | none => exact ⟨s, hs, .kept⟩
    | some u =>
      obtain ⟨s', hs', hchange⟩ := exists_change_setShow hs hu _
      exact ⟨s', hs', hchange.imp beq_iff_eq.mpr id⟩
  | drop j =>
    cases hu : w.session? j with
    | none =>
      simp only [take, hu]
      exact ⟨s, hs, .kept⟩
    | some u => exact exists_change_drop hs hu
  | _ =>
    refine ⟨s, ?_, .kept⟩
    simp only [take]
    split
    · rcases w.opened_or_aside_onStore _ with ⟨_, _, _, hsessions, -⟩ | ⟨hsessions, -⟩
      · rw [hsessions, List.getElem?_append_left (List.getElem?_eq_some_iff.mp hs).1, hs]
      · rw [hsessions, hs]
    · exact hs

/-- No task makes a session disappear. -/
theorem exists_change_run (hs : w.sessions[i]? = some s) (t : Task) :
    ∃ s', (w.run t).1.sessions[i]? = some s' ∧
      s.Change (∃ tag action, t = .perform tag action ∧ action.shows i = true) (t = .attach i) s' := by
  cases t with
  | hear l => cases l <;> exact ⟨s, hs, .kept⟩
  | hush | report => exact ⟨s, hs, .kept⟩
  | refresh j => exact ⟨s, by rw [sessions_run_refresh]; exact hs, .kept⟩
  | settle j r =>
    obtain ⟨-, hrun⟩ | ⟨u, hu, hlive, hrun⟩ := w.run_settle_cases j r
    · rw [hrun]
      exact ⟨s, hs, .kept⟩
    · rw [hrun]
      refine exists_change_set hs fun hij => ?_
      subst hij
      obtain rfl := Option.some.inj (hs.symm.trans hu)
      exact .settled hlive r
  | attach j =>
    cases hu : w.sessions[j]? with
    | none =>
      rw [run_attach_of_absent hu]
      exact ⟨s, hs, .kept⟩
    | some u =>
      rw [run_attach hu]
      refine exists_change_set hs fun hij => ?_
      subst hij
      obtain rfl := Option.some.inj (hs.symm.trans hu)
      exact .attached rfl
  | perform tag action =>
    obtain ⟨s', hs', hchange⟩ := exists_change_take hs action
    exact ⟨s', hs', hchange.imp (fun hshows => ⟨tag, action, rfl, hshows⟩) False.elim⟩

/-- A session after an action was there before it, or the action has opened it. -/
theorem exists_change_or_new_take {s' : Session} {action : Action} (hs' : (w.take action).1.sessions[i]? = some s') :
    (∃ s, w.sessions[i]? = some s ∧ s.Change (action.shows i = true) False s') ∨
      w.sessions.length = i ∧ ∃ latex subscriber showResult, s' = .new latex subscriber showResult := by
  cases hs : w.sessions[i]? with
  | some s =>
    obtain ⟨s'', hs'', hchange⟩ := exists_change_take hs action
    obtain rfl := Option.some.inj (hs'.symm.trans hs'')
    exact .inl ⟨s, rfl, hchange⟩
  | none =>
    have hbeyond : w.sessions.length ≤ i := List.getElem?_eq_none_iff.mp hs
    have hwithin := (List.getElem?_eq_some_iff.mp hs').1
    rcases w.opened_or_not action with ⟨latex, subscriber, showResult, hsessions, -⟩ | ⟨hlength, -⟩
    · obtain rfl : w.sessions.length = i := by
        rw [hsessions, List.length_append, List.length_singleton] at hwithin
        omega
      rw [hsessions, List.getElem?_concat_length] at hs'
      exact .inr ⟨rfl, latex, subscriber, showResult, (Option.some.inj hs').symm⟩
    · omega

/-- Apart from an action, a task leaves as many sessions as there were. -/
theorem length_sessions_run (w : World) {t : Task} (ht : ∀ tag action, t ≠ .perform tag action) :
    (w.run t).1.sessions.length = w.sessions.length := by
  cases t with
  | hear l => cases l <;> rfl
  | hush | report => rfl
  | refresh j => rw [sessions_run_refresh]
  | settle j r =>
    obtain ⟨-, hrun⟩ | ⟨s, -, -, hrun⟩ := w.run_settle_cases j r
    · rw [hrun]
    · rw [hrun]
      exact List.length_set
  | attach j =>
    simp only [run]
    split
    · rfl
    · exact List.length_set
  | perform tag action => exact absurd rfl (ht tag action)

/-- A session after a task was there before it, or the task has opened it. -/
theorem exists_change_or_new_run {s' : Session} {t : Task} (hs' : (w.run t).1.sessions[i]? = some s') :
    (∃ s, w.sessions[i]? = some s ∧
        s.Change (∃ tag action, t = .perform tag action ∧ action.shows i = true) (t = .attach i) s') ∨
      w.sessions.length = i ∧ ∃ latex subscriber showResult, s' = .new latex subscriber showResult := by
  by_cases ht : ∃ tag action, t = .perform tag action
  · obtain ⟨tag, action, rfl⟩ := ht
    refine (exists_change_or_new_take hs').imp_left fun ⟨s, hs, hchange⟩ => ⟨s, hs, ?_⟩
    exact hchange.imp (fun hshows => ⟨tag, action, rfl, hshows⟩) False.elim
  · have hlength := w.length_sessions_run fun tag action h => ht ⟨tag, action, h⟩
    have hs := List.getElem?_eq_getElem (hlength ▸ (List.getElem?_eq_some_iff.mp hs').1)
    obtain ⟨s'', hs'', hchange⟩ := exists_change_run hs t
    obtain rfl := Option.some.inj (hs'.symm.trans hs'')
    exact .inl ⟨_, hs, hchange⟩

end World

namespace Moment

variable {start m m' : Moment} {calls later taken : List Call} {i : Nat} {s s' : Session}

theorem Reaches.act (h : start.Reaches calls m) (action : Action) :
    start.Reaches (calls ++ [⟨m.world, action⟩]) (m.acting action) :=
  h.step (.act action)

theorem Reaches.next (h : start.Reaches calls m) : start.Reaches (calls ++ m.called) m.next := h.step .next

theorem Reaches.trans (h : start.Reaches calls m) (h' : m.Reaches later m') :
    start.Reaches (calls ++ later) m' := by
  induction h' with
  | refl => simpa using h
  | step _ hstep ih =>
    rw [← List.append_assoc]
    exact ih.step hstep

/-- The actions that are taken while the next tasks are done. -/
def calledWithin (m : Moment) : Nat → List Call
  | 0 => []
  | n + 1 => m.calledWithin n ++ (Moment.next^[n] m).called

theorem Reaches.iterate (h : start.Reaches calls m) (n : Nat) :
    start.Reaches (calls ++ m.calledWithin n) (Moment.next^[n] m) := by
  induction n with
  | zero => simpa [calledWithin] using h
  | succ n ih =>
    rw [Function.iterate_succ_apply', calledWithin, ← List.append_assoc]
    exact ih.next

/-- The moment after an action and so many tasks. -/
def after (m : Moment) (action : Action) (n : Nat) : Moment := Moment.next^[n] (m.acting action)

theorem Reaches.after (h : start.Reaches calls m) (action : Action) (n : Nat) :
    start.Reaches (calls ++ ⟨m.world, action⟩ :: (m.acting action).calledWithin n) (m.after action n) := by
  rw [← List.singleton_append, ← List.append_assoc]
  exact (h.act action).iterate n

/-- An action that is taken in a step is the only one, and it makes the world of the step. -/
theorem Step.of_mem (h : m.Step taken m') {c : Call} (hc : c ∈ taken) :
    taken = [c] ∧ c.world = m.world ∧ m'.world = (m.world.take c.action).1 := by
  cases h with
  | act action =>
    obtain rfl := List.mem_singleton.mp hc
    exact ⟨rfl, rfl, rfl⟩
  | next =>
    obtain ⟨w, tasks⟩ := m
    unfold called at hc ⊢
    split at hc
    · next tag action ts htasks =>
      obtain rfl := List.mem_singleton.mp hc
      obtain rfl : tasks = .perform tag action :: ts := htasks
      exact ⟨rfl, rfl, rfl⟩
    · cases hc

/-- What happens to a session in one step. -/
theorem Step.exists_change (h : m.Step taken m') (hs : m.world.sessions[i]? = some s) :
    ∃ s', m'.world.sessions[i]? = some s' ∧
      s.Change (∃ c ∈ taken, c.action.shows i = true) (m.tasks.head? = some (.attach i)) s' := by
  cases h with
  | act action =>
    obtain ⟨s', hs', hchange⟩ := World.exists_change_take hs action
    exact ⟨s', hs', hchange.imp (fun hshows => ⟨_, List.mem_singleton_self _, hshows⟩) False.elim⟩
  | next =>
    obtain ⟨w, tasks⟩ := m
    cases tasks with
    | nil => exact ⟨s, hs, .kept⟩
    | cons t ts =>
      obtain ⟨s', hs', hchange⟩ := World.exists_change_run hs t
      refine ⟨s', hs', hchange.imp ?_ (congrArg some)⟩
      rintro ⟨tag, action, rfl, hshows⟩
      exact ⟨_, List.mem_singleton_self _, hshows⟩

/-- A session after a step was there before it, or it is being opened. -/
theorem Step.exists_change_or_new (h : m.Step taken m') (hs' : m'.world.sessions[i]? = some s') :
    (∃ s, m.world.sessions[i]? = some s ∧
        s.Change (∃ c ∈ taken, c.action.shows i = true) (m.tasks.head? = some (.attach i)) s') ∨
      m.world.sessions.length = i ∧ ∃ latex subscriber showResult, s' = .new latex subscriber showResult := by
  cases h with
  | act action =>
    refine (World.exists_change_or_new_take hs').imp_left fun ⟨s, hs, hchange⟩ => ⟨s, hs, ?_⟩
    exact hchange.imp (fun hshows => ⟨_, List.mem_singleton_self _, hshows⟩) False.elim
  | next =>
    obtain ⟨w, tasks⟩ := m
    cases tasks with
    | nil => exact .inl ⟨s', hs', .kept⟩
    | cons t ts =>
      refine (World.exists_change_or_new_run hs').imp_left fun ⟨s, hs, hchange⟩ => ⟨s, hs, ?_⟩
      refine hchange.imp ?_ (congrArg some)
      rintro ⟨tag, action, rfl, hshows⟩
      exact ⟨_, List.mem_singleton_self _, hshows⟩

end Moment

end LiveTex
