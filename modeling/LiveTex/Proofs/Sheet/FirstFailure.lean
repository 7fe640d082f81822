import LiveTex.Proofs.Sheet.Graph

/-!
Sessions whose first evaluation fails. What a session listens to is settled when it is opened, by what its
first evaluation used. A failed evaluation used nothing, so nothing ever tells the session to evaluate its
text again, whatever is defined later.
-/

namespace LiveTex

/-- How often the session has been evaluated, and is going to be as things are. -/
def Moment.evaluations (m : Moment) (i : Nat) : Nat :=
  m.world.sessions[i]?.elim 0 (·.version) + m.tasks.countP (·.concerns i)

/-- The session has no result so far, as its cell shows. It listens to nothing, and it is evaluated no more than once. -/
structure Moment.Deaf (i : Nat) (m : Moment) : Prop where
  unlistening : ∀ r ∈ m.world.store.registrations, r.listener ≠ .session i
  once : m.evaluations i ≤ 1
  failed : ∀ s, m.world.sessions[i]? = some s → s.result = none
  shown : ∀ s, m.world.sessions[i]? = some s → s.version ≠ 0 → s.cell.text = s.text

/-- The listeners of a variable do not concern a session that listens to nothing. -/
theorem Store.countP_concerns_hear {i : Nat} {s : Store} (h : ∀ r ∈ s.registrations, r.listener ≠ .session i)
    (ident : Ident) : ((s.listeners ident).map Task.hear).countP (·.concerns i) = 0 := by
  rw [List.countP_eq_zero]
  intro t ht
  obtain ⟨l, hl, rfl⟩ := List.mem_map.mp ht
  obtain ⟨r, hr, -, rfl⟩ := mem_listeners_iff.mp hl
  have hother := h r hr
  generalize r.listener = l at hother
  cases l with
  | session j => simpa [Task.concerns] using hother
  | watcher => simp [Task.concerns]

namespace World

/-- Evaluating a session leaves as many tasks for a session that listens to nothing as there were before. -/
theorem countP_concerns_run_refresh {w : World} {i : Nat}
    (h : ∀ r ∈ w.store.registrations, r.listener ≠ .session i) (j : Nat) :
    (w.run (.refresh j)).2.countP (·.concerns i) ≤ [Task.refresh j].countP (·.concerns i) := by
  obtain ⟨-, hrun⟩ | ⟨s, -, -, hrefreshed⟩ := w.run_refresh_cases j
  · rw [hrun]
    exact Nat.zero_le _
  · generalize w.run (.refresh j) = left at hrefreshed
    cases hrefreshed with
    | refused | unheard => exact Nat.le_refl _
    | heard e ident =>
      have hregistrations : (w.afterEvaluation s.latex).store.registrations = w.store.registrations :=
        w.store.registrations_evaluate s.latex
      rw [List.countP_append, Store.countP_concerns_hear (hregistrations ▸ h), Nat.zero_add]
      exact Nat.le_refl _

/-- An action opens a session, or it leaves no tasks and no more listeners. -/
theorem Taken.opened_or_idle {w w' : World} {tasks : List Task} (h : w.Taken (w', tasks)) :
    (∃ latex subscriber showResult, w'.sessions = w.sessions ++ [.new latex subscriber showResult] ∧
      w'.store.registrations = w.store.registrations ∧
      tasks = [.refresh w.sessions.length, .attach w.sessions.length]) ∨
    (w'.sessions.length = w.sessions.length ∧ w'.store.registrations ⊆ w.store.registrations ∧ tasks = []) := by
  cases h with
  | nothing => exact .inr ⟨rfl, List.Subset.refl _, rfl⟩
  | opened latex showResult => exact .inl ⟨latex, _, showResult, rfl, rfl, rfl⟩
  | disposed i s => exact .inr ⟨length_sessions_dispose w i s, (w.quieter_dispose i s).2, rfl⟩
  | shown i s showResult =>
    refine .inr ⟨?_, fun r hr => (w.sameListeners_setShow i s showResult).registrations ▸ hr, rfl⟩
    unfold setShow
    split
    · rfl
    · exact List.length_set
  | dropped i s s' =>
    exact .inr ⟨List.length_set.trans (length_sessions_dispose w i s), (w.quieter_dispose i s).2, rfl⟩

end World

namespace Moment

variable {w : World} {ts : List Task} {i : Nat}

/-- Nothing more listens or is to be done for the session, and the session stays as it is. -/
theorem Deaf.of_le {m m' : Moment} (h : Deaf i m) (hsession : m'.world.sessions[i]? = m.world.sessions[i]?)
    (hregistrations : ∀ r ∈ m'.world.store.registrations, r.listener = .session i →
      r ∈ m.world.store.registrations)
    (htasks : m'.tasks.countP (·.concerns i) ≤ m.tasks.countP (·.concerns i)) : Deaf i m' where
  unlistening r hr hlistener := h.unlistening r (hregistrations r hr hlistener) hlistener
  once := by
    have honce := h.once
    unfold Moment.evaluations at honce ⊢
    rw [hsession]
    omega
  failed := hsession ▸ h.failed
  shown := hsession ▸ h.shown

theorem Deaf.tail {t : Task} (h : Deaf i ⟨w, t :: ts⟩) : Deaf i ⟨w, ts⟩ :=
  h.of_le rfl (fun _ hr _ => hr) (List.sublist_cons_self t ts).countP_le

/-- When the only evaluation of the session is a failure, the session goes on listening to nothing. -/
theorem Deaf.settle {j : Nat} {s : Session} {r : Option Evaluation} (h : Deaf i ⟨w, .settle j r :: ts⟩)
    (hs : w.sessions[j]? = some s) :
    Deaf i ⟨w.display j (s.take r), ts⟩ ∨ World.FirstSucceeded i ⟨w.display j (s.take r), ts⟩ := by
  by_cases hij : j = i
  · subst hij
    have hself : (w.display j (s.take r)).sessions[j]? = some (s.take r).render :=
      List.getElem?_set_self (List.getElem?_eq_some_iff.mp hs).1
    cases r with
    | some e => exact .inr ⟨_, hself, Nat.le_add_left 1 s.version, fun _ => Option.some_ne_none e⟩
    | none =>
      refine .inl ⟨h.unlistening, ?_, fun s' hs' => ?_, fun s' hs' _ => ?_⟩
      · -- The session counts one evaluation more, and there is one task less for it.
        have hversion : (w.display j (s.take none)).sessions[j]?.elim 0 (·.version) =
            w.sessions[j]?.elim 0 (·.version) + 1 := by rw [hself, hs]; rfl
        have htasks : (Task.settle j none :: ts).countP (·.concerns j) = ts.countP (·.concerns j) + 1 :=
          List.countP_cons_of_pos (beq_self_eq_true j)
        have honce := h.once
        simp only [evaluations, htasks] at honce
        simp only [evaluations, hversion]
        omega
      · obtain rfl := Option.some.inj (hself.symm.trans hs')
        rfl
      · obtain rfl := Option.some.inj (hself.symm.trans hs')
        rfl
  · exact .inl (h.tail.of_le (List.getElem?_set_ne hij) (fun _ hr _ => hr) (Nat.le_refl _))

/-- A session without a result used nothing, so it is attached to nothing. -/
theorem Deaf.attach {j : Nat} {s : Session} (h : Deaf i ⟨w, .attach j :: ts⟩) (hs : w.sessions[j]? = some s) :
    Deaf i (Moment.next ⟨w, .attach j :: ts⟩) := by
  rw [next_cons, World.run_attach hs]
  by_cases hij : j = i
  · subst hij
    have hfailed : s.result = none := h.failed s hs
    have hused : s.used = [] := by rw [Session.used, hfailed]; rfl
    have hself : (w.sessions.set j { s with subscriptions := s.used, hold := .held })[j]? =
        some { s with subscriptions := s.used, hold := .held } :=
      List.getElem?_set_self (List.getElem?_eq_some_iff.mp hs).1
    have honce : evaluations ⟨w, ts⟩ j ≤ 1 := h.tail.once
    refine ⟨fun r hr => ?_, ?_, fun s' hs' => ?_, fun s' hs' hversion => ?_⟩
    · exact h.unlistening r (by simpa [World.setSession, World.attachments, hused] using hr)
    · simpa [evaluations, World.setSession, hself, hs] using honce
    · obtain rfl := Option.some.inj (hself.symm.trans hs')
      exact hfailed
    · obtain rfl := Option.some.inj (hself.symm.trans hs')
      exact h.shown s hs hversion
  · refine h.tail.of_le (List.getElem?_set_ne hij) (fun r hr hlistener => ?_) (Nat.le_refl _)
    rcases List.mem_append.mp hr with hr | hr
    · exact hr
    · obtain ⟨ident, -, rfl⟩ := List.mem_map.mp hr
      exact absurd (Listener.session.inj hlistener) hij

/-- No task tells a session anything that listens to nothing. -/
theorem Deaf.next {m : Moment} (h : Deaf i m) (hof : m.OfSessions) :
    Deaf i m.next ∨ World.FirstSucceeded i m.next := by
  obtain ⟨w, tasks⟩ := m
  cases tasks with
  | nil => exact .inl h
  | cons t ts =>
    have ht := hof.tasks t (List.mem_cons_self ..)
    cases ht using Task.OfSessions.cases with
    | hear j => exact .inl (h.of_le rfl (fun _ hr _ => hr) (Nat.le_refl _))
    | hush => exact .inl (h.tail.of_le rfl (fun _ hr _ => hr) (Nat.le_refl _))
    | refresh j =>
      refine .inl (h.of_le ?_ (fun r hr _ => ?_) ?_)
      · exact congrArg (·[i]?) (w.sessions_run_refresh j)
      · exact w.registrations_run_refresh j ▸ hr
      · rw [next_cons, List.countP_append, ← List.singleton_append, List.countP_append]
        exact Nat.add_le_add_right (World.countP_concerns_run_refresh h.unlistening j) _
    | settle j r =>
      obtain ⟨-, hrun⟩ | ⟨s, hs, -, hrun⟩ := w.run_settle_cases j r
      · rw [next_cons, hrun]
        exact .inl h.tail
      · rw [next_cons, hrun]
        exact h.settle hs
    | attach j =>
      cases hs : w.sessions[j]? with
      | none =>
        rw [next_cons, World.run_attach_of_absent hs]
        exact .inl h.tail
      | some s => exact .inl (h.attach hs)

/-- No action tells a session anything that listens to nothing. A session that is opened listens to nothing yet. -/
theorem Deaf.take (h : Deaf i ⟨w, []⟩) {action : Action} (haction : action.OfSessions) :
    Deaf i (w.moment action 0) := by
  have htaken := World.taken_moment_zero w haction
  generalize w.moment action 0 = m at htaken ⊢
  obtain ⟨w', tasks⟩ := m
  have honce : w.sessions[i]?.elim 0 (·.version) ≤ 1 := h.once
  rcases htaken.opened_or_idle with
    ⟨latex, subscriber, showResult, hsessions, hregistrations, rfl⟩ | ⟨hlength, hregistrations, rfl⟩
  · by_cases hi : w.sessions.length = i
    · have hnew : w'.sessions[i]? = some (.new latex subscriber showResult) := by
        rw [hsessions, ← hi, List.getElem?_concat_length]
      refine ⟨hregistrations ▸ h.unlistening, ?_, fun s hs => ?_, fun s hs hversion => ?_⟩
      · simp [evaluations, hnew, Session.new, hi, Task.concerns]
      · obtain rfl := Option.some.inj (hnew.symm.trans hs)
        rfl
      · obtain rfl := Option.some.inj (hnew.symm.trans hs)
        exact absurd rfl hversion
    · refine h.of_le ?_ (fun r hr _ => hregistrations ▸ hr) (by simp [Task.concerns, hi])
      change w'.sessions[i]? = w.sessions[i]?
      rw [hsessions, List.getElem?_append]
      split
      · rfl
      · next hshort =>
        rw [List.getElem?_eq_none (by simpa using by omega), List.getElem?_eq_none (by omega)]
  · have hsession : ∀ s', w'.sessions[i]? = some s' → ∃ s, w.sessions[i]? = some s ∧ World.Unevaluated s s' := by
      intro s' hs'
      have hs := List.getElem?_eq_getElem (hlength ▸ (List.getElem?_eq_some_iff.mp hs').1)
      obtain ⟨s'', hs'', hsame⟩ := htaken.exists_session hs
      obtain rfl := Option.some.inj (hs'.symm.trans hs'')
      exact ⟨_, hs, hsame⟩
    refine ⟨fun r hr => h.unlistening r (hregistrations hr), ?_, fun s' hs' => ?_, fun s' hs' hversion => ?_⟩
    · change w'.sessions[i]?.elim 0 (·.version) ≤ 1
      cases hs' : w'.sessions[i]? with
      | none => exact Nat.zero_le 1
      | some s' =>
        obtain ⟨s, hs, hsame⟩ := hsession s' hs'
        rw [hs, Option.elim_some, ← hsame.version] at honce
        exact honce
    · obtain ⟨s, hs, hsame⟩ := hsession s' hs'
      exact hsame.result.trans (h.failed s hs)
    · obtain ⟨s, hs, hsame⟩ := hsession s' hs'
      exact hsame.text (h.shown s hs (hsame.version ▸ hversion))

end Moment

namespace World

variable {stem : Text} {actions : List Action} {i : Nat}

/-- At every moment of a run, the first evaluation of a session was a success, or the session listens to nothing. -/
theorem deaf_or_firstSucceeded (hactions : ∀ action ∈ actions, action.OfSessions) {m : Moment}
    (hm : Passes (World.new stem) actions m) : m.Deaf i ∨ FirstSucceeded i m := by
  refine Passes.invariant (P := fun m => m.Deaf i ∨ FirstSucceeded i m) hactions (heardBySessions_new stem) ?_
    (fun u action haction _ _ h => ?_) (fun m hof _ _ h => ?_) hm
  · exact .inl ⟨by simp [World.new, Store.empty], by simp [World.new, Moment.evaluations], by simp [World.new],
      by simp [World.new]⟩
  · exact h.imp (·.take (hactions action haction)) (·.take (hactions action haction))
  · exact h.elim (·.next hof) fun h => .inr (h.next hof)

/-- The first evaluation of the session fails during the run. -/
def FirstFails (w : World) (actions : List Action) (i : Nat) : Prop :=
  ∃ m, Passes w actions m ∧ ∃ s ∈ m.world.sessions[i]?, s.version = 1 ∧ s.result = none

/-- A session that was evaluated once, to a failure, and that listens to nothing. -/
def GivenUp (i : Nat) (m : Moment) : Prop :=
  m.Deaf i ∧ ∃ s, m.world.sessions[i]? = some s ∧ s.version = 1

theorem GivenUp.take {u : World} (h : GivenUp i ⟨u, []⟩) {action : Action} (haction : action.OfSessions) :
    GivenUp i (u.moment action 0) := by
  obtain ⟨hdeaf, s, hs, hversion⟩ := h
  obtain ⟨s', hs', hsame⟩ := (taken_moment_zero u haction).exists_session hs
  exact ⟨hdeaf.take haction, s', hs', hsame.version.trans hversion⟩

theorem GivenUp.next {m : Moment} (h : GivenUp i m) (hof : m.OfSessions) : GivenUp i m.next := by
  obtain ⟨hdeaf, s, hs, hversion⟩ := h
  have honce := hdeaf.once
  rw [Moment.evaluations, hs, Option.elim_some, hversion] at honce
  have hnothing : m.tasks.countP (·.concerns i) = 0 := by omega
  rw [List.countP_eq_zero] at hnothing
  obtain ⟨s', hs', hkept⟩ := Moment.exists_kept_next hof hs
  cases hkept with
  | settled r hhead =>
    have hmem : .settle i r ∈ m.tasks := List.mem_of_head? hhead
    exact absurd (beq_self_eq_true i) (hnothing _ hmem)
  | same _ hresult _ hversion' =>
    refine ⟨(hdeaf.next hof).resolve_right ?_, s', hs', hversion'.trans hversion⟩
    rintro ⟨s'', hs'', -, hsuccess⟩
    obtain rfl := Option.some.inj (hs'.symm.trans hs'')
    exact hsuccess (hversion'.trans hversion) (hresult.trans (hdeaf.failed s hs))

/-- A session whose first evaluation failed is not evaluated again in any run of openings, disposals, drops and
toggles. It has no result and shows an error to the end, and it listens to nothing. -/
theorem shows_error_of_firstFails (hactions : ∀ action ∈ actions, action.OfSessions)
    (hfails : FirstFails (World.new stem) actions i) :
    ∃ s, ((World.new stem).acts actions).sessions[i]? = some s ∧ s.version = 1 ∧ s.result = none ∧
      s.cell.text = "=Error".toList ∧
      ∀ r ∈ ((World.new stem).acts actions).store.registrations, r.listener ≠ .session i := by
  obtain ⟨m, hm, s₀, hs₀, hversion₀, hresult₀⟩ := hfails
  have hdeaf : m.Deaf i := (deaf_or_firstSucceeded hactions hm).resolve_right (by
    rintro ⟨s, hs, -, hsuccess⟩
    obtain rfl := Option.some.inj (hs.symm.trans hs₀)
    exact hsuccess hversion₀ hresult₀)
  obtain ⟨hdeaf', s, hs, hversion⟩ := Passes.carry hactions (heardBySessions_new stem)
    (fun u a ha hu => hu.take (hactions a ha)) (fun m hof hm => hm.next hof) hm
    (show GivenUp i m from ⟨hdeaf, s₀, hs₀, hversion₀⟩)
  have hresult : s.result = none := hdeaf'.failed s hs
  refine ⟨s, hs, hversion, hresult, ?_, hdeaf'.unlistening⟩
  rw [hdeaf'.shown s hs (hversion ▸ Nat.one_ne_zero), Session.text, Session.value, hresult]
  rfl

/-- A text that uses a variable before it is assigned: the error stays when the variable is there. -/
theorem shows_error_of_use_before_assignment :
    ∃ s, ((World.new ['V']).acts (opening ["b := a + 1", "a := 2", "a := 5"])).sessions[0]? = some s ∧
      s.version = 1 ∧ s.cell.text = "=Error".toList := by
  have hfails : FirstFails (World.new ['V']) (opening ["b := a + 1", "a := 2", "a := 5"]) 0 := by
    refine ⟨_, Passes.append (opening ["b := a + 1"]) (opening ["a := 2", "a := 5"]) (.idle _ _), ?_⟩
    rw [acts_eq_get_actsWithin (n := 12) (heardBySessions_new ['V']) (ofSessions_opening _) (by decide +kernel)]
    decide +kernel
  obtain ⟨s, hs, hversion, -, htext, -⟩ := shows_error_of_firstFails (ofSessions_opening _) hfails
  exact ⟨s, hs, hversion, htext⟩

/-- The first of two texts fails only because a variable is missing that the second one assigns. When it is there,
the first text comes to a number, but its session goes on showing an error. -/
theorem shows_error_of_number :
    (match ((World.new ['V']).store.evaluate "a + 1".toList).2 with
      | .error (.formula (.unboundSymbol name)) => name == ['a']
      | _ => false) = true ∧
    ∃ s ∈ ((World.new ['V']).acts (opening ["a + 1", "a := 2"])).sessions[0]?,
      ∃ definer ∈ ((World.new ['V']).acts (opening ["a + 1", "a := 2"])).sessions[1]?,
      ∃ e ∈ (((World.new ['V']).acts (opening ["a + 1", "a := 2"])).store.evaluate s.latex).2.toOption,
        definer.cell.text = "=2".toList ∧ resultText e.value = "=3".toList ∧
          s.isDisposed = false ∧ s.cell.text = "=Error".toList := by
  rw [acts_eq_get_actsWithin (n := 12) (heardBySessions_new ['V']) (ofSessions_opening _) (by decide +kernel)]
  decide +kernel

end World

end LiveTex
