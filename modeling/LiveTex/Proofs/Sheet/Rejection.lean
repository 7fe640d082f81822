import LiveTex.Proofs.Sheet.Sessions

/-!
Sessions whose last evaluation is refused because of a cycle. A session displays outcomes in the order in
which evaluations end, so an evaluation that ends after the refused one, because it started before it,
has the last word.
-/

namespace LiveTex.Moment

/-- Nothing but the next task can display a failed evaluation. -/
def FailsAtOnce (m : Moment) : Prop := ∀ i, .settle i none ∉ m.tasks.tail

theorem FailsAtOnce.idle (w : World) : FailsAtOnce ⟨w, []⟩ := by
  intro i hi
  cases hi

theorem FailsAtOnce.next {m : Moment} (hof : m.OfSessions) (h : m.FailsAtOnce) : m.next.FailsAtOnce := by
  obtain ⟨w, tasks⟩ := m
  cases tasks with
  | nil => exact h
  | cons t ts =>
    have hrest : ∀ i, Task.settle i none ∉ ts := h
    have htail : ∀ left : List Task, (∀ i, .settle i none ∉ left.tail) →
        ∀ i, Task.settle i none ∉ (left ++ ts).tail := by
      intro left hleft i hi
      cases left with
      | nil => exact hrest i (List.mem_of_mem_tail hi)
      | cons u us => exact (List.mem_append.mp hi).elim (hleft i) (hrest i)
    refine htail _ fun i => ?_
    have ht := hof.tasks t (List.mem_cons_self ..)
    cases ht using Task.OfSessions.cases with
    | hear j => simp [World.run]
    | hush => simp [World.run]
    | refresh j =>
      obtain ⟨-, hrun⟩ | ⟨s, -, -, hrefreshed⟩ := w.run_refresh_cases j
      · simp [hrun]
      · generalize w.run (.refresh j) = left at hrefreshed
        cases hrefreshed with
        | refused | unheard => simp
        | heard =>
          intro hi
          have hi := List.mem_of_mem_tail hi
          simp at hi
    | settle j r => simp [World.tasks_run_settle]
    | attach j => simp [World.tasks_run_attach]

/-- The session lives, it shows an error, and no evaluation of it is in progress. -/
def Failed (i : Nat) (m : Moment) : Prop :=
  (∃ s, m.world.sessions[i]? = some s ∧ s.isDisposed = false ∧ s.result = none ∧
    s.cell.text = "=Error".toList) ∧ ¬ m.InProgress i

/-- The session lives, and the evaluation that ends last has a result: one in progress, or else the one
that the session displays. -/
def Overruled (i : Nat) (m : Moment) : Prop :=
  (∃ s, m.world.sessions[i]? = some s ∧ s.isDisposed = false ∧ (m.InProgress i ∨ s.result ≠ none)) ∧
    .settle i none ∉ m.tasks

theorem Failed.next {m : Moment} {i : Nat} (hof : m.OfSessions) (hstarts : ¬ m.Starts i)
    (h : m.Failed i) : m.next.Failed i := by
  obtain ⟨⟨s, hs, hlive, hresult, htext⟩, hprogress⟩ := h
  obtain ⟨s', hs', hkept⟩ := exists_kept_next hof hs
  refine ⟨⟨s', hs', hkept.isDisposed_eq.trans hlive, ?_⟩, ?_⟩
  · cases hkept with
    | settled r hhead => exact absurd ⟨r, List.mem_of_mem_head? hhead⟩ hprogress
    | same _ hresult' hcell' => exact ⟨hresult'.trans hresult, by rw [hcell', htext]⟩
  · rintro ⟨r, hr⟩
    rcases settle_mem_of_next hof hr with hr | hr
    · exact hprogress ⟨r, List.mem_of_mem_tail hr⟩
    · exact hstarts hr

theorem Overruled.next {m : Moment} {i : Nat} (hof : m.OfSessions) (hstarts : ¬ m.Starts i)
    (h : m.Overruled i) : m.next.Overruled i := by
  obtain ⟨⟨s, hs, hlive, hlast⟩, hnone⟩ := h
  obtain ⟨s', hs', hkept⟩ := exists_kept_next hof hs
  refine ⟨⟨s', hs', hkept.isDisposed_eq.trans hlive, ?_⟩, ?_⟩
  · cases hkept with
    | settled r hhead _ heq =>
      right
      rintro hresult
      rw [heq] at hresult
      change r = none at hresult
      exact hnone (List.mem_of_mem_head? (hresult ▸ hhead))
    | same hhead hresult' =>
      by_cases htail : ∃ r, .settle i r ∈ m.tasks.tail
      · obtain ⟨r, hr⟩ := htail
        exact .inl ⟨r, mem_tasks_next_of_mem_tail hr⟩
      · rcases hlast with ⟨r, hr⟩ | hlast
        · -- The outcome can only be the next task, and then the live session takes it in.
          have hnext : m.tasks.head? = some (.settle i r) := by
            cases htasks : m.tasks with
            | nil => simp [htasks] at hr
            | cons t ts =>
              rw [htasks] at hr htail
              rcases List.mem_cons.mp hr with rfl | hr
              · rfl
              · exact absurd ⟨r, hr⟩ htail
          rw [hhead r hnext] at hlive
          cases hlive
        · exact .inr (hresult' ▸ hlast)
  · intro hr
    rcases settle_mem_of_next hof hr with hr | hr
    · exact hnone (List.mem_of_mem_tail hr)
    · exact hstarts hr

end LiveTex.Moment

namespace LiveTex

/-- Evaluating the text is refused, because it assigns a variable that is being announced. -/
def Store.MeetsCycle (s : Store) (latex : Text) : Prop :=
  ∃ ident, (s.evaluate latex).2 = .error (.cycle ident)

instance (s : Store) (latex : Text) : Decidable (s.MeetsCycle latex) :=
  decidable_of_iff
    ((match (s.evaluate latex).2 with | .error (.cycle _) => true | _ => false) = true) (by
      unfold Store.MeetsCycle
      split
      · next ident h => simp [h]
      · next h => simpa using fun ident hident => h ident hident)

namespace World

/-- Of the evaluations of a live session that start during an action, the last one starts after so many
tasks, and it is refused because of a cycle. -/
structure EndsInCycle (w : World) (action : Action) (i k : Nat) : Prop where
  starts : (w.moment action k).Starts i
  refused : ∃ s ∈ (w.moment action k).world.sessions[i]?, s.isDisposed = false ∧
    (w.moment action k).world.store.MeetsCycle s.latex
  last : ∀ n, k < n → ¬ (w.moment action n).Starts i

/-- Nothing starts any more once an action is over. -/
theorem EndsInCycle.of_idle {w : World} {action : Action} {i k n : Nat}
    (hidle : (w.moment action n).tasks = []) (hstarts : (w.moment action k).Starts i)
    (hrefused : ∃ s ∈ (w.moment action k).world.sessions[i]?, s.isDisposed = false ∧
      (w.moment action k).world.store.MeetsCycle s.latex)
    (hlast : ∀ j < n, k < j → ¬ (w.moment action j).Starts i) : w.EndsInCycle action i k := by
  refine ⟨hstarts, hrefused, fun j hj => ?_⟩
  by_cases hjn : j < n
  · exact hlast j hjn hj
  · have hmoment : w.moment action n = ⟨(w.moment action n).world, []⟩ := by rw [← hidle]
    rw [moment_eq_of_idle hmoment (Nat.le_of_not_lt hjn)]
    simp [Moment.Starts]

theorem failsAtOnce_moment {w : World} (hheard : w.store.HeardBySessions) {action : Action}
    (haction : action.OfSessions) (k : Nat) : (w.moment action k).FailsAtOnce := by
  have hone : ∀ a ∈ [action], a.OfSessions := by simpa using haction
  refine Passes.invariant hone hheard (.idle w) (fun u a ha _ _ _ => ?_) (fun m hof _ _ h => h.next hof)
    (.busy w action [] k)
  have htaken := taken_moment_zero u (hone a ha)
  generalize u.moment a 0 = m₀ at htaken ⊢
  obtain ⟨v, tasks⟩ := m₀
  cases htaken with
  | opened => simp [Moment.FailsAtOnce]
  | _ => exact .idle _

/-- A refused evaluation leaves nothing but its outcome, and the next task displays it. -/
theorem next_next_of_refused {u : World} {i : Nat} {s : Session} {ts : List Task} {reason : Failure}
    (hs : u.sessions[i]? = some s) (hlive : s.isDisposed = false)
    (hrefused : (u.store.evaluate s.latex).2 = .error reason) :
    Moment.next (Moment.next ⟨u, .refresh i :: ts⟩) = ⟨(u.afterEvaluation s.latex).display i (s.take none), ts⟩ := by
  have hfirst : Moment.next ⟨u, .refresh i :: ts⟩ = ⟨u.afterEvaluation s.latex, .settle i none :: ts⟩ := by
    have hrefreshed := refreshed_run hs hlive
    rw [Moment.next_cons]
    generalize u.run (.refresh i) = left at hrefreshed
    cases hrefreshed with
    | refused => rfl
    | unheard e houtcome | heard e _ houtcome =>
      rw [hrefused] at houtcome
      cases houtcome
  have hs' : (u.afterEvaluation s.latex).sessions[i]? = some s := hs
  rw [hfirst, Moment.next_cons, run_settle none hs' hlive]
  rfl

/-- When the last evaluation of a session that starts during an action is refused because of a cycle,
the session has no result and shows an error after the action exactly if no evaluation of it was in
progress when the refused one started. An evaluation in progress ends later, and its result, which stems
from older values, is displayed over the error. -/
theorem shows_error_iff_not_inProgress {stem : Text} {actions : List Action} {action : Action}
    (hactions : ∀ a ∈ actions, a.OfSessions) (haction : action.OfSessions) {i k : Nat}
    (hcycle : ((World.new stem).acts actions).EndsInCycle action i k) :
    ∃ s, (((World.new stem).acts actions).act action).1.sessions[i]? = some s ∧
      (s.result = none ∧ s.cell.text = "=Error".toList ↔
        ¬ (((World.new stem).acts actions).moment action k).InProgress i) := by
  have hheard := heardBySessions_acts (heardBySessions_new stem) hactions
  generalize (World.new stem).acts actions = w at hcycle hheard ⊢
  obtain ⟨hstarts, ⟨s, hs, hlive, ident, hrefused⟩, hlast⟩ := hcycle
  rw [Option.mem_def] at hs
  have hsettles := settles_of_heardBySessions hheard haction
  have hof (n : Nat) : (w.moment action n).OfSessions :=
    Passes.ofSessions (by simpa using haction) hheard (.busy w action [] n)
  -- Behind the refused evaluation no other one of the session starts, so what holds then lasts.
  have hkeeps {P : Moment → Prop} (hP : ∀ m : Moment, m.OfSessions → ¬ m.Starts i → P m → P m.next)
      (hdisplayed : P (w.moment action (k + 1 + 1))) : P ⟨(w.act action).1, []⟩ :=
    hsettles.of_moment hdisplayed fun j hj => hP _ (hof j) (hlast j (by omega))
  have hfails := failsAtOnce_moment hheard haction k
  have hdisplayed : w.moment action (k + 1 + 1) = (w.moment action k).next.next := by
    rw [moment_succ, moment_succ]
  generalize w.moment action k = m at hstarts hs hrefused hfails hdisplayed ⊢
  obtain ⟨u, tasks⟩ := m
  obtain ⟨rest, rfl⟩ : ∃ rest, tasks = .refresh i :: rest := List.head?_eq_some_iff.mp hstarts
  rw [next_next_of_refused hs hlive hrefused] at hdisplayed
  rw [hdisplayed] at hkeeps
  have hshown : ((u.afterEvaluation s.latex).display i (s.take none)).sessions[i]? = some (s.take none).render :=
    List.getElem?_set_self (List.getElem?_eq_some_iff.mp hs).1
  have hinProgress : Moment.InProgress ⟨u, .refresh i :: rest⟩ i ↔
      Moment.InProgress ⟨(u.afterEvaluation s.latex).display i (s.take none), rest⟩ i := by
    simp [Moment.InProgress]
  by_cases hprogress : Moment.InProgress ⟨u, .refresh i :: rest⟩ i
  · obtain ⟨⟨s', hs', -, hresult⟩, -⟩ := hkeeps (P := Moment.Overruled i) (fun _ hof hstarts => .next hof hstarts)
      ⟨⟨_, hshown, rfl, .inl (hinProgress.mp hprogress)⟩, hfails i⟩
    refine ⟨s', hs', fun h => ?_, fun h => absurd hprogress h⟩
    rcases hresult with ⟨r, hr⟩ | hresult
    · cases hr
    · exact absurd h.1 hresult
  · obtain ⟨⟨s', hs', -, hresult, htext⟩, -⟩ := hkeeps (P := Moment.Failed i) (fun _ hof hstarts => .next hof hstarts)
      ⟨⟨_, hshown, rfl, rfl, rfl⟩, fun h => hprogress (hinProgress.mpr h)⟩
    exact ⟨s', hs', fun _ => hprogress, fun _ => ⟨hresult, htext⟩⟩

/-- When two definitions form a cycle, the session that the cycle comes back to shows an error. -/
theorem shows_error_of_cycle_of_two :
    ∃ s, (((World.new ['V']).acts (opening ["a := 1", "b := a + 1", "a := b + 1"])).act
      (.openSession "b := 7".toList true none)).1.sessions[1]? = some s ∧
        s.result = none ∧ s.cell.text = "=Error".toList := by
  have hactions := ofSessions_opening ["a := 1", "b := a + 1", "a := b + 1"]
  have hacts := acts_eq_get_actsWithin (n := 12) (heardBySessions_new ['V']) hactions (by decide +kernel)
  have hcycle : ((World.new ['V']).acts (opening ["a := 1", "b := a + 1", "a := b + 1"])).EndsInCycle
      (.openSession "b := 7".toList true none) 1 4 := by
    rw [hacts]
    apply EndsInCycle.of_idle (n := 12) <;> decide +kernel
  obtain ⟨s, hs, hshows⟩ := shows_error_iff_not_inProgress hactions (by trivial) hcycle
  refine ⟨s, hs, hshows.mpr ?_⟩
  rw [hacts]
  decide +kernel

/-- When the cycle is entered from outside, the evaluation it was entered through ends after the refused
one, and the session shows a number. -/
theorem shows_number_of_cycle_from_outside :
    ((World.new ['V']).acts (opening ["a := 1", "w := 1", "b := a + w", "w := b"])).EndsInCycle
        (.openSession "a := 5".toList true none) 2 6 ∧
      ∃ s ∈ (((World.new ['V']).acts (opening ["a := 1", "w := 1", "b := a + w", "w := b"])).act
        (.openSession "a := 5".toList true none)).1.sessions[2]?,
        s.isDisposed = false ∧ s.result.isSome ∧ s.cell.text = "=7".toList := by
  have hactions := ofSessions_opening ["a := 1", "w := 1", "b := a + w", "w := b"]
  have hheard := heardBySessions_acts (heardBySessions_new ['V']) hactions
  have hacts := acts_eq_get_actsWithin (n := 16) (heardBySessions_new ['V']) hactions (by decide +kernel)
  rw [hacts] at hheard ⊢
  generalize hw : (actsWithin 16 _ _).get _ = w at hheard ⊢
  have hidle : (w.moment (.openSession "a := 5".toList true none) 16).tasks = [] := by
    rw [← hw]
    decide +kernel
  have hact : (w.act (.openSession "a := 5".toList true none)).1 =
      (w.moment (.openSession "a := 5".toList true none) 16).world := by
    apply (settles_of_heardBySessions hheard (by trivial)).act_eq (n := 16)
    rw [← hidle]
  rw [hact]
  refine ⟨.of_idle hidle ?_ ?_ ?_, ?_⟩ <;> (rw [← hw]; decide +kernel)

end World

end LiveTex
