import LiveTex.Proofs.Sheet.Nesting

/-!
Runs of actions on sessions. Here is what one task does to a session and to the evaluations in progress,
and how a property that every task keeps is carried to all moments of a run and to its end.
-/

namespace LiveTex

/-- Only sessions listen, and only sessions have tasks. -/
structure Moment.OfSessions (m : Moment) : Prop where
  tasks : ∀ t ∈ m.tasks, t.OfSessions
  heard : m.world.store.HeardBySessions

/-- An evaluation of the session is about to start. -/
def Moment.Starts (m : Moment) (i : Nat) : Prop := m.tasks.head? = some (.refresh i)

instance (m : Moment) (i : Nat) : Decidable (m.Starts i) :=
  decidable_of_iff ((match m.tasks.head? with | some (.refresh j) => j == i | _ => false) = true) (by
    unfold Moment.Starts
    split
    · next j hj => simp [hj]
    · next hhead => simpa using fun h => hhead i h)

/-- An evaluation of the session has started and its outcome is not displayed yet. -/
def Moment.InProgress (m : Moment) (i : Nat) : Prop := ∃ r, .settle i r ∈ m.tasks

instance (m : Moment) (i : Nat) : Decidable (m.InProgress i) :=
  decidable_of_iff (m.tasks.any (fun | .settle j _ => j == i | _ => false) = true) (by
    rw [List.any_eq_true]
    constructor
    · rintro ⟨t, ht, hi⟩
      split at hi
      · next j r => exact ⟨r, by simpa [← beq_iff_eq.mp hi] using ht⟩
      · cases hi
    · rintro ⟨r, hr⟩
      exact ⟨_, hr, beq_self_eq_true i⟩)

namespace World

theorem run_settle {w : World} {i : Nat} {s : Session} (r : Option Evaluation)
    (hs : w.sessions[i]? = some s) (hlive : s.isDisposed = false) :
    w.run (.settle i r) = (w.display i (s.take r), []) := by
  simp [run, hs, hlive]

theorem run_settle_of_forall_disposed {w : World} {i : Nat} (r : Option Evaluation)
    (h : ∀ s, w.sessions[i]? = some s → s.isDisposed = true) : w.run (.settle i r) = (w, []) := by
  cases hs : w.sessions[i]? with
  | none => simp [run, hs]
  | some s => simp [run, hs, h s hs]

/-- All that taking in an outcome can do. -/
theorem run_settle_cases (w : World) (i : Nat) (r : Option Evaluation) :
    ((∀ s, w.sessions[i]? = some s → s.isDisposed = true) ∧ w.run (.settle i r) = (w, [])) ∨
      ∃ s, w.sessions[i]? = some s ∧ s.isDisposed = false ∧
        w.run (.settle i r) = (w.display i (s.take r), []) := by
  obtain ⟨s, hs, hlive⟩ | hgone := w.exists_live_or_gone i
  · exact .inr ⟨s, hs, hlive, run_settle r hs hlive⟩
  · exact .inl ⟨hgone, run_settle_of_forall_disposed r hgone⟩

/-- An outcome that is taken in leads to nothing more. -/
theorem tasks_run_settle (w : World) (i : Nat) (r : Option Evaluation) : (w.run (.settle i r)).2 = [] := by
  obtain ⟨-, hrun⟩ | ⟨s, -, -, hrun⟩ := w.run_settle_cases i r <;> rw [hrun]

theorem run_attach_of_absent {w : World} {i : Nat} (hs : w.sessions[i]? = none) :
    w.run (.attach i) = (w, []) := by
  simp [run, hs]

/-- The registrations that a session takes out when its opening ends. -/
def attachments (i : Nat) (s : Session) : List Registration :=
  s.used.map fun ident => ⟨ident, s.subscriber, .session i⟩

theorem run_attach {w : World} {i : Nat} {s : Session} (hs : w.sessions[i]? = some s) :
    w.run (.attach i) =
      (({ w with store := { w.store with registrations := w.store.registrations ++ attachments i s } } :
        World).setSession i { s with subscriptions := s.used, hold := .held }, []) := by
  simp [run, hs, attachments]

/-- The end of an opening leads to nothing more. -/
theorem tasks_run_attach (w : World) (i : Nat) : (w.run (.attach i)).2 = [] := by
  cases hs : w.sessions[i]? with
  | none => rw [run_attach_of_absent hs]
  | some s => rw [run_attach hs]

/-- A session after another one took the place of `s`. -/
theorem eq_or_of_getElem?_set {sessions : List Session} {i j : Nat} {s s' u : Session} (hs : sessions[j]? = some s)
    (h : (sessions.set j u)[i]? = some s') : i = j ∧ s' = u ∨ i ≠ j ∧ sessions[i]? = some s' := by
  by_cases hij : i = j
  · subst hij
    rw [List.getElem?_set_self (List.getElem?_eq_some_iff.mp hs).1] at h
    exact .inl ⟨rfl, (Option.some.inj h).symm⟩
  · rw [List.getElem?_set_ne (Ne.symm hij)] at h
    exact .inr ⟨hij, h⟩

/-- What becomes of the session `s` when another one takes a place: it stays, or it makes way. -/
theorem exists_getElem?_set {P : Session → Prop} {sessions : List Session} {i j : Nat} {s u : Session}
    (hs : sessions[i]? = some s) (hstays : j ≠ i → P s) (hgives : j = i → P u) :
    ∃ s', (sessions.set j u)[i]? = some s' ∧ P s' := by
  by_cases hij : j = i
  · subst hij
    exact ⟨u, List.getElem?_set_self (List.getElem?_eq_some_iff.mp hs).1, hgives rfl⟩
  · exact ⟨s, (List.getElem?_set_ne hij).trans hs, hstays hij⟩

/-- Evaluating a session changes no session. -/
theorem sessions_run_refresh (w : World) (i : Nat) : (w.run (.refresh i)).1.sessions = w.sessions := by
  obtain ⟨-, hrun⟩ | ⟨s, -, -, h⟩ := w.run_refresh_cases i
  · rw [hrun]
  · generalize w.run (.refresh i) = left at h
    cases h <;> rfl

theorem registrations_run_refresh (w : World) (i : Nat) :
    (w.run (.refresh i)).1.store.registrations = w.store.registrations := by
  obtain ⟨-, hrun⟩ | ⟨s, -, -, h⟩ := w.run_refresh_cases i
  · rw [hrun]
  · generalize w.run (.refresh i) = left at h
    cases h <;> exact w.store.registrations_evaluate s.latex

/-- The tasks that the evaluation of a session leaves tell sessions and end with its outcome. -/
theorem tasks_run_refresh {w : World} {i : Nat} {t : Task} (ht : t ∈ (w.run (.refresh i)).2) :
    (∃ s ident, w.sessions[i]? = some s ∧
      ∃ l ∈ (w.afterEvaluation s.latex).store.listeners ident, t = .hear l) ∨
    t = .hush ∨ ∃ r, t = .settle i r := by
  obtain ⟨-, hrun⟩ | ⟨s, hs, -, h⟩ := w.run_refresh_cases i
  · rw [hrun] at ht
    cases ht
  · generalize w.run (.refresh i) = left at h ht
    cases h with
    | refused => exact .inr (.inr ⟨_, by simpa using ht⟩)
    | unheard => exact .inr (.inr ⟨_, by simpa using ht⟩)
    | heard e ident houtcome hdefined hheard =>
      rcases List.mem_append.mp ht with ht | ht
      · obtain ⟨l, hl, rfl⟩ := List.mem_map.mp ht
        exact .inl ⟨s, ident, hs, l, hl, rfl⟩
      · simp only [List.mem_cons, List.not_mem_nil, or_false] at ht
        rcases ht with rfl | rfl
        · exact .inr (.inl rfl)
        · exact .inr (.inr ⟨_, rfl⟩)

/-- A task on sessions leaves tasks on sessions, and nothing but sessions listens after it. -/
theorem ofSessions_run {w : World} {t : Task} (hheard : w.store.HeardBySessions) (ht : t.OfSessions) :
    (∀ u ∈ (w.run t).2, u.OfSessions) ∧ (w.run t).1.store.HeardBySessions := by
  cases ht using Task.OfSessions.cases with
  | hear i => exact ⟨by simp [run, Task.OfSessions], hheard⟩
  | hush => exact ⟨by simp [run], hheard⟩
  | refresh i =>
    refine ⟨fun u hu => ?_, ?_⟩
    · rcases tasks_run_refresh hu with ⟨s, ident, -, l, hl, rfl⟩ | rfl | ⟨r, rfl⟩
      · obtain ⟨j, rfl⟩ := ((w.sameListeners_afterEvaluation s.latex).heardBySessions hheard).exists_session ident l hl
        trivial
      · trivial
      · trivial
    · unfold Store.HeardBySessions
      rw [registrations_run_refresh]
      exact hheard
  | settle i r =>
    refine ⟨by simp [tasks_run_settle], ?_⟩
    obtain ⟨-, hrun⟩ | ⟨s, -, -, hrun⟩ := w.run_settle_cases i r
    · exact hrun ▸ hheard
    · rw [hrun]
      exact hheard
  | attach i =>
    cases hs : w.sessions[i]? with
    | none => rw [run_attach_of_absent hs]; exact ⟨by simp, hheard⟩
    | some s =>
      rw [run_attach hs]
      refine ⟨by simp, fun r hr => ?_⟩
      rcases List.mem_append.mp hr with hr | hr
      · exact hheard r hr
      · obtain ⟨ident, -, rfl⟩ := List.mem_map.mp hr
        exact ⟨i, rfl⟩

end World

namespace Moment

variable {m : Moment}

theorem OfSessions.idle {w : World} (h : w.store.HeardBySessions) : OfSessions ⟨w, []⟩ := ⟨by simp, h⟩

theorem OfSessions.next (h : m.OfSessions) : m.next.OfSessions := by
  obtain ⟨w, tasks⟩ := m
  cases tasks with
  | nil => exact h
  | cons t ts =>
    obtain ⟨htasks, hheard⟩ := World.ofSessions_run h.heard (h.tasks t (List.mem_cons_self ..))
    exact ⟨fun u hu => (List.mem_append.mp hu).elim (htasks u) fun hu => h.tasks u (List.mem_cons_of_mem _ hu), hheard⟩

/-- A session after a task: it takes in an outcome, or its result, display and count stay. -/
inductive Kept (m : Moment) (i : Nat) (s s' : Session) : Prop where
  | settled (r : Option Evaluation) (hhead : m.tasks.head? = some (.settle i r))
      (hlive : s.isDisposed = false) (heq : s' = (s.take r).render)
  | same (hhead : ∀ r, m.tasks.head? = some (.settle i r) → s.isDisposed = true)
      (hresult : s'.result = s.result) (hcell : s'.cell = s.cell)
      (hversion : s'.version = s.version) (hstate : s'.state = s.state) (hlatex : s'.latex = s.latex)
      (hsubscriber : s'.subscriber = s.subscriber)

theorem Kept.isDisposed_eq {i : Nat} {s s' : Session} (h : Kept m i s s') : s'.isDisposed = s.isDisposed := by
  cases h with
  | settled r _ hlive heq => subst heq; rw [hlive]; rfl
  | same _ _ _ _ hstate => unfold Session.isDisposed; rw [hstate]

private theorem kept_of_eq {i : Nat} {s : Session}
    (hhead : ∀ r, m.tasks.head? = some (.settle i r) → s.isDisposed = true) : Kept m i s s :=
  .same hhead rfl rfl rfl rfl rfl rfl

/-- No task makes a session disappear. -/
theorem exists_kept_next (h : m.OfSessions) {i : Nat} {s : Session}
    (hs : m.world.sessions[i]? = some s) :
    ∃ s', m.next.world.sessions[i]? = some s' ∧ Kept m i s s' := by
  obtain ⟨w, tasks⟩ := m
  cases tasks with
  | nil => exact ⟨s, hs, kept_of_eq (by simp)⟩
  | cons t ts =>
    change ∃ s', (w.run t).1.sessions[i]? = some s' ∧ _
    have ht := h.tasks t (List.mem_cons_self ..)
    cases ht using Task.OfSessions.cases with
    | hear j => exact ⟨s, hs, kept_of_eq (by simp)⟩
    | hush => exact ⟨s, hs, kept_of_eq (by simp)⟩
    | refresh j => exact ⟨s, by rw [World.sessions_run_refresh]; exact hs, kept_of_eq (by simp)⟩
    | settle j r =>
      obtain ⟨hgone, hrun⟩ | ⟨u, hu, hlive, hrun⟩ := w.run_settle_cases j r
      · rw [hrun]
        refine ⟨s, hs, kept_of_eq fun r' hr' => ?_⟩
        cases hr'
        exact hgone s hs
      · rw [hrun]
        refine World.exists_getElem?_set hs (fun hij => kept_of_eq (by simp [hij])) fun hij => ?_
        subst hij
        obtain rfl := Option.some.inj (hs.symm.trans hu)
        exact .settled r rfl hlive rfl
    | attach j =>
      cases hu : w.sessions[j]? with
      | none => rw [World.run_attach_of_absent hu]; exact ⟨s, hs, kept_of_eq (by simp)⟩
      | some u =>
        rw [World.run_attach hu]
        refine World.exists_getElem?_set hs (fun _ => kept_of_eq (by simp)) fun hij => ?_
        subst hij
        obtain rfl := Option.some.inj (hs.symm.trans hu)
        exact .same (by simp) rfl rfl rfl rfl rfl rfl

/-- An evaluation in progress was in progress before, unless it has just started. -/
theorem settle_mem_of_next (h : m.OfSessions) {i : Nat} {r : Option Evaluation}
    (hr : .settle i r ∈ m.next.tasks) : .settle i r ∈ m.tasks.tail ∨ m.Starts i := by
  obtain ⟨w, tasks⟩ := m
  cases tasks with
  | nil => cases hr
  | cons t ts =>
    rcases List.mem_append.mp hr with hr | hr
    · refine .inr ?_
      have ht := h.tasks t (List.mem_cons_self ..)
      cases ht using Task.OfSessions.cases with
      | hear j => simp [World.run] at hr
      | hush => cases hr
      | refresh j =>
        rcases World.tasks_run_refresh hr with ⟨s, ident, -, l, -, hl⟩ | hl | ⟨r', hl⟩
        · cases hl
        · cases hl
        · cases hl; rfl
      | settle j r' =>
        rw [World.tasks_run_settle] at hr
        cases hr
      | attach j =>
        rw [World.tasks_run_attach] at hr
        cases hr
    · exact .inl hr

/-- What waits behind the next task goes on waiting. -/
theorem mem_tasks_next_of_mem_tail {t : Task} (ht : t ∈ m.tasks.tail) : t ∈ m.next.tasks := by
  obtain ⟨w, tasks⟩ := m
  cases tasks with
  | nil => cases ht
  | cons u us => exact List.mem_append_right _ ht

end Moment

namespace World

theorem heardBySessions_dispose {w : World} (h : w.store.HeardBySessions) (i : Nat) (s : Session) :
    (w.dispose i s).store.HeardBySessions := fun r hr => h r ((w.quieter_dispose i s).2 hr)

/-- What an action on sessions begins with. -/
inductive Taken (w : World) : World × List Task → Prop where
  | nothing : Taken w (w, [])
  | opened (latex : Text) (showResult : Bool) :
      Taken w ({ w with
          store := w.store.mintSubscriber.1
          sessions := w.sessions ++ [.new latex w.store.mintSubscriber.2 showResult] },
        [.refresh w.sessions.length, .attach w.sessions.length])
  | disposed (i : Nat) (s : Session) (hs : w.session? i = some s) : Taken w (w.dispose i s, [])
  | shown (i : Nat) (s : Session) (showResult : Bool) (hs : w.session? i = some s) :
      Taken w (w.setShow i s showResult, [])
  | dropped (i : Nat) (s s' : Session) (hs : w.session? i = some s)
      (hs' : (w.dispose i s).sessions[i]? = some s') :
      Taken w ((w.dispose i s).setSession i { s' with hold := .dropped }, [])

theorem getElem?_of_session? {w : World} {i : Nat} {s : Session} (h : w.session? i = some s) :
    w.sessions[i]? = some s := by
  unfold session? at h
  split at h
  · next u hu =>
    split at h
    · exact hu.trans h
    · cases h
  · cases h

theorem exists_getElem?_dispose {w : World} {i : Nat} {s : Session} (h : w.session? i = some s) :
    ∃ s', (w.dispose i s).sessions[i]? = some s' := by
  have hs := getElem?_of_session? h
  unfold dispose
  split
  · exact ⟨s, hs⟩
  · have hlength := (List.getElem?_eq_some_iff.mp hs).1
    exact ⟨_, by simp only [setSession]; exact List.getElem?_set_self hlength⟩

theorem taken_moment_zero (w : World) {action : Action} (haction : action.OfSessions) :
    w.Taken ((w.moment action 0).world, (w.moment action 0).tasks) := by
  change w.Taken ((w.take action).1, (w.take action).2.1)
  cases action with
  | openSession latex showResult subscriber? =>
    cases subscriber? with
    | some subscriber => exact False.elim haction
    | none =>
      by_cases hstore : w.hasStore = true
      · have htake : w.take (.openSession latex showResult none) =
            w.onStore (.openSession latex showResult none) := by
          simp only [take, hstore, ↓reduceIte]
        rw [htake]
        exact .opened latex showResult
      · simp only [take, hstore, Bool.false_eq_true, ↓reduceIte]
        exact .nothing
  | dispose i =>
    simp only [take, onSession]
    cases hs : w.session? i with
    | none => exact .nothing
    | some s => exact .disposed i s hs
  | toggle i =>
    simp only [take, onSession]
    cases hs : w.session? i with
    | none => exact .nothing
    | some s => exact .shown i s _ hs
  | setShow i showResult =>
    simp only [take, onSession]
    cases hs : w.session? i with
    | none => exact .nothing
    | some s => exact .shown i s _ hs
  | drop i =>
    simp only [take]
    cases hs : w.session? i with
    | none => exact .nothing
    | some s =>
      obtain ⟨s', hs'⟩ := exists_getElem?_dispose hs
      simp only [hs', Option.getD_some]
      exact .dropped i s s' hs hs'
  | _ => exact False.elim haction

/-- A session before and after something that evaluates nothing. A cell that shows the result goes on showing it. -/
structure Unevaluated (s s' : Session) : Prop where
  version : s'.version = s.version
  result : s'.result = s.result
  text : s.cell.text = s.text → s'.cell.text = s'.text

theorem Unevaluated.refl (s : Session) : Unevaluated s s := ⟨rfl, rfl, id⟩

theorem Unevaluated.trans {s s' s'' : Session} (h : Unevaluated s s') (h' : Unevaluated s' s'') : Unevaluated s s'' :=
  ⟨h'.version.trans h.version, h'.result.trans h.result, fun htext => h'.text (h.text htext)⟩

theorem exists_session_dispose {w : World} {i j : Nat} {s u : Session} (hs : w.sessions[i]? = some s)
    (hu : w.sessions[j]? = some u) : ∃ s', (w.dispose j u).sessions[i]? = some s' ∧ Unevaluated s s' := by
  unfold dispose
  split
  · exact ⟨s, hs, .refl s⟩
  · refine exists_getElem?_set hs (fun _ => .refl s) fun hij => ?_
    subst hij
    obtain rfl := Option.some.inj (hs.symm.trans hu)
    exact ⟨rfl, rfl, id⟩

theorem length_sessions_dispose (w : World) (i : Nat) (s : Session) :
    (w.dispose i s).sessions.length = w.sessions.length := by
  unfold dispose
  split
  · rfl
  · exact List.length_set

/-- The start of an action evaluates nothing. -/
theorem Taken.exists_session {w w' : World} {tasks : List Task} (h : w.Taken (w', tasks)) {i : Nat}
    {s : Session} (hs : w.sessions[i]? = some s) :
    ∃ s', w'.sessions[i]? = some s' ∧ Unevaluated s s' := by
  cases h with
  | nothing => exact ⟨s, hs, .refl s⟩
  | opened =>
    have hlength := (List.getElem?_eq_some_iff.mp hs).1
    exact ⟨s, (List.getElem?_append_left hlength).trans hs, .refl s⟩
  | disposed j u hu => exact exists_session_dispose hs (getElem?_of_session? hu)
  | shown j u showResult hu =>
    unfold setShow
    split
    · exact ⟨s, hs, .refl s⟩
    · refine exists_getElem?_set hs (fun _ => .refl s) fun hij => ?_
      subst hij
      obtain rfl := Option.some.inj (hs.symm.trans (getElem?_of_session? hu))
      exact ⟨rfl, rfl, fun _ => rfl⟩
  | dropped j u u' hu hu' =>
    obtain ⟨s₁, hs₁, hdisposed⟩ := exists_session_dispose hs (getElem?_of_session? hu)
    have hset : ∃ s', ((w.dispose j u).setSession j { u' with hold := .dropped }).sessions[i]? = some s' ∧
        Unevaluated s₁ s' := by
      refine exists_getElem?_set hs₁ (fun _ => .refl s₁) fun hij => ?_
      subst hij
      obtain rfl := Option.some.inj (hs₁.symm.trans hu')
      exact ⟨rfl, rfl, id⟩
    obtain ⟨s', hs', hdropped⟩ := hset
    exact ⟨s', hs', hdisposed.trans hdropped⟩

theorem heardBySessions_setShow {w : World} (h : w.store.HeardBySessions) (i : Nat) (s : Session)
    (showResult : Bool) : (w.setShow i s showResult).store.HeardBySessions := by
  unfold setShow
  split <;> exact h

theorem ofSessions_moment_zero {w : World} (h : w.store.HeardBySessions) {action : Action}
    (haction : action.OfSessions) : (w.moment action 0).OfSessions := by
  have htaken := taken_moment_zero w haction
  generalize w.moment action 0 = m at htaken
  obtain ⟨u, tasks⟩ := m
  cases htaken with
  | nothing => exact .idle h
  | opened => exact ⟨by simp [Task.OfSessions], h⟩
  | disposed i s => exact .idle (heardBySessions_dispose h i s)
  | shown i s b => exact .idle (heardBySessions_setShow h i s b)
  | dropped i s => exact .idle (heardBySessions_dispose h i s)

/-- The first evaluation of the session is over and was a success. -/
def FirstSucceeded (i : Nat) (m : Moment) : Prop :=
  ∃ s, m.world.sessions[i]? = some s ∧ 1 ≤ s.version ∧ (s.version = 1 → s.result ≠ none)

theorem FirstSucceeded.take {u : World} {i : Nat} (h : FirstSucceeded i ⟨u, []⟩) {action : Action}
    (haction : action.OfSessions) : FirstSucceeded i (u.moment action 0) := by
  obtain ⟨s, hs, hpositive, hresult⟩ := h
  obtain ⟨s', hs', hsame⟩ := (taken_moment_zero u haction).exists_session hs
  exact ⟨s', hs', hsame.version ▸ hpositive, hsame.version ▸ hsame.result ▸ hresult⟩

theorem FirstSucceeded.next {m : Moment} {i : Nat} (h : FirstSucceeded i m) (hof : m.OfSessions) :
    FirstSucceeded i m.next := by
  obtain ⟨s, hs, hpositive, hresult⟩ := h
  obtain ⟨s', hs', hkept⟩ := Moment.exists_kept_next hof hs
  refine ⟨s', hs', ?_⟩
  cases hkept with
  | settled r _ _ heq =>
    have hversion' : s'.version = s.version + 1 := by rw [heq]; rfl
    exact ⟨by omega, fun h => by omega⟩
  | same _ hresult' _ hversion' => exact ⟨hversion' ▸ hpositive, hversion' ▸ hresult' ▸ hresult⟩

namespace Passes

variable {w : World} {actions : List Action} {P : Moment → Prop}

private theorem forall_of_suffix (hsettles : ∀ u, ∀ action ∈ actions, P ⟨u, []⟩ → u.Settles action)
    (htake : ∀ u, ∀ action ∈ actions, Passes w actions ⟨u, []⟩ → Passes w actions (u.moment action 0) →
      P ⟨u, []⟩ → P (u.moment action 0))
    (hnext : ∀ m, Passes w actions m → Passes w actions m.next → P m → P m.next)
    (rest : List Action) (hrest : ∀ action ∈ rest, action ∈ actions) (u : World)
    (hsub : ∀ m, Passes u rest m → Passes w actions m) (hidle : P ⟨u, []⟩) :
    ∀ m, Passes u rest m → P m := by
  induction rest generalizing u with
  | nil =>
    intro m hm
    cases hm
    exact hidle
  | cons action rest ih =>
    have hstart : P (u.moment action 0) :=
      htake u action (hrest action (by simp)) (hsub _ (.idle ..)) (hsub _ (.busy ..)) hidle
    have hbusy : ∀ n, P (u.moment action n) := fun n => by
      refine moment_of_le hstart (fun j _ => hnext _ (hsub _ (.busy ..)) ?_) (Nat.zero_le n)
      rw [← moment_succ]
      exact hsub _ (.busy ..)
    obtain ⟨n, hn⟩ := hsettles u action (hrest action (by simp)) hidle
    have hover : P ⟨(u.act action).1, []⟩ := hn ▸ hbusy n
    intro m hm
    cases hm with
    | idle => exact hidle
    | busy _ _ _ n => exact hbusy n
    | later hm =>
      exact ih (fun a ha => hrest a (List.mem_cons_of_mem _ ha)) _ (fun m hm => hsub m (.later hm)) hover m hm

/-- In a run of actions on sessions, all moments are of sessions. -/
theorem ofSessions (hactions : ∀ action ∈ actions, action.OfSessions) (hheard : w.store.HeardBySessions)
    {m : Moment} (h : Passes w actions m) : m.OfSessions :=
  forall_of_suffix (fun _ _ ha hu => settles_of_heardBySessions hu.heard (hactions _ ha))
    (fun _ _ ha _ _ hu => ofSessions_moment_zero hu.heard (hactions _ ha)) (fun _ _ _ hm => hm.next)
    actions (fun _ ha => ha) w (fun _ hm => hm) (.idle hheard) m h

/-- What holds at the start of a run and is kept by the start of every action and by every task holds at
all moments of the run. -/
theorem invariant (hactions : ∀ action ∈ actions, action.OfSessions) (hheard : w.store.HeardBySessions)
    (hidle : P ⟨w, []⟩)
    (htake : ∀ u, ∀ action ∈ actions, Passes w actions ⟨u, []⟩ → Passes w actions (u.moment action 0) →
      P ⟨u, []⟩ → P (u.moment action 0))
    (hnext : ∀ m, m.OfSessions → Passes w actions m → Passes w actions m.next → P m → P m.next)
    {m : Moment} (h : Passes w actions m) : P m := by
  have key := forall_of_suffix (P := fun m => m.OfSessions ∧ P m)
    (fun _ _ ha hu => settles_of_heardBySessions hu.1.heard (hactions _ ha))
    (fun u action ha hp hp' hu => ⟨ofSessions_moment_zero hu.1.heard (hactions _ ha), htake u action ha hp hp' hu.2⟩)
    (fun m hp hp' hm => ⟨hm.1.next, hnext m hm.1 hp hp' hm.2⟩)
    actions (fun _ ha => ha) w (fun _ hm => hm) ⟨.idle hheard, hidle⟩ m h
  exact key.2

/-- What the start of every action and every task keeps is carried from any moment of a run to its end. -/
theorem carry (hactions : ∀ action ∈ actions, action.OfSessions) (hheard : w.store.HeardBySessions)
    (htake : ∀ u, ∀ action ∈ actions, P ⟨u, []⟩ → P (u.moment action 0))
    (hnext : ∀ m, m.OfSessions → P m → P m.next) {m : Moment} (h : Passes w actions m) (hm : P m) :
    P ⟨w.acts actions, []⟩ := by
  induction h with
  | idle w actions =>
    exact invariant hactions hheard hm (fun u a ha _ _ hu => htake u a ha hu)
      (fun m hof _ _ hm => hnext m hof hm) (Passes.final w actions)
  | busy w action actions n =>
    have haction := hactions action (by simp)
    have hof : ∀ k, (w.moment action k).OfSessions := fun k =>
      ofSessions hactions hheard (.busy w action actions k)
    have hsettles := settles_of_heardBySessions hheard haction
    have hmoment := hsettles.of_moment hm fun k _ => hnext _ (hof k)
    have hover := hsettles.of_moment (hof 0) fun _ _ h => h.next
    exact invariant (fun a ha => hactions a (List.mem_cons_of_mem _ ha)) hover.heard hmoment
      (fun u a ha _ _ hu => htake u a (List.mem_cons_of_mem _ ha) hu)
      (fun m hof _ _ hm => hnext m hof hm) (Passes.final _ actions)
  | later hpass ih =>
    rename_i w action actions m
    refine ih (fun a ha => hactions a (List.mem_cons_of_mem _ ha)) ?_
      (fun u a ha hu => htake u a (List.mem_cons_of_mem _ ha) hu) hm
    have hsettles := settles_of_heardBySessions hheard (hactions action (by simp))
    exact (hsettles.of_moment (ofSessions hactions hheard (.busy w action actions 0)) fun _ _ h => h.next).heard

end Passes

theorem heardBySessions_new (stem : Text) : (World.new stem).store.HeardBySessions := by
  intro r hr
  cases hr

/-- Opens sessions for texts, one after the other. -/
def opening (texts : List String) : List Action :=
  texts.map fun latex => .openSession latex.toList true none

theorem ofSessions_opening (texts : List String) : ∀ action ∈ opening texts, action.OfSessions := by
  intro action h
  obtain ⟨latex, -, rfl⟩ := List.mem_map.mp h
  trivial

/-- The world after several actions, if each of them is over after at most `n` tasks. -/
def actsWithin (n : Nat) (w : World) : List Action → Option World
  | [] => some w
  | action :: rest => if (w.moment action n).tasks.isEmpty then
      actsWithin n (w.moment action n).world rest
    else none

/-- A run of actions on sessions can be followed task by task. -/
theorem acts_eq_get_actsWithin {n : Nat} {w : World} {actions : List Action}
    (hheard : w.store.HeardBySessions) (hactions : ∀ action ∈ actions, action.OfSessions)
    (h : (w.actsWithin n actions).isSome) : w.acts actions = (w.actsWithin n actions).get h := by
  induction actions generalizing w with
  | nil => rfl
  | cons action rest ih =>
    by_cases hidle : (w.moment action n).tasks.isEmpty = true
    · have hwithin : w.actsWithin n (action :: rest) = (w.moment action n).world.actsWithin n rest := by
        rw [actsWithin, if_pos hidle]
      have hmoment : w.moment action n = ⟨(w.moment action n).world, []⟩ := by
        rw [List.isEmpty_iff] at hidle
        rw [← hidle]
      have hact := (settles_of_heardBySessions hheard (hactions action (by simp))).act_eq hmoment
      have hof := Passes.ofSessions hactions hheard (.busy w action rest n)
      simp only [hwithin, acts_cons, hact]
      exact ih hof.heard (fun a ha => hactions a (List.mem_cons_of_mem _ ha)) (hwithin ▸ h)
    · rw [actsWithin, if_neg hidle] at h
      cases h

/-- The moments of a run whose actions are each over after at most `n` tasks. -/
def momentsWithin (n : Nat) (w : World) : List Action → List Moment
  | [] => [⟨w, []⟩]
  | action :: rest => ⟨w, []⟩ :: (List.range (n + 1)).map (w.moment action) ++
      momentsWithin n (w.moment action n).world rest

/-- A run that can be followed passes through the moments that it is followed through. -/
theorem Passes.mem_momentsWithin {n : Nat} {w : World} {actions : List Action} {m : Moment}
    (hheard : w.store.HeardBySessions) (hactions : ∀ action ∈ actions, action.OfSessions)
    (h : (w.actsWithin n actions).isSome) (hm : Passes w actions m) : m ∈ w.momentsWithin n actions := by
  induction actions generalizing w with
  | nil =>
    cases hm
    exact List.mem_singleton_self _
  | cons action rest ih =>
    by_cases hidle : (w.moment action n).tasks.isEmpty = true
    · have hmoment : w.moment action n = ⟨(w.moment action n).world, []⟩ := by
        rw [List.isEmpty_iff] at hidle
        rw [← hidle]
      cases hm with
      | idle => exact List.mem_cons_self ..
      | busy _ _ _ k =>
        refine List.mem_append_left _ (List.mem_cons_of_mem _ (List.mem_map.mpr ?_))
        by_cases hk : k ≤ n
        · exact ⟨k, List.mem_range.mpr (by omega), rfl⟩
        · refine ⟨n, List.mem_range.mpr (by omega), ?_⟩
          rw [moment_eq_of_idle hmoment (by omega : n ≤ k)]
          exact hmoment
      | later hm =>
        have hact := (settles_of_heardBySessions hheard (hactions action (by simp))).act_eq hmoment
        have hof := Passes.ofSessions hactions hheard (.busy w action rest n)
        rw [hact] at hm
        rw [actsWithin, if_pos hidle] at h
        exact List.mem_append_right _ (ih hof.heard (fun a ha => hactions a (List.mem_cons_of_mem _ ha)) h hm)
    · rw [actsWithin, if_neg hidle] at h
      cases h

theorem heardBySessions_acts {w : World} (hheard : w.store.HeardBySessions) {actions : List Action}
    (hactions : ∀ action ∈ actions, action.OfSessions) : (w.acts actions).store.HeardBySessions :=
  (Passes.ofSessions hactions hheard (Passes.final w actions)).heard

end World

end LiveTex
