import LiveTex.Proofs.Sheet.Sessions
import Mathlib.Logic.Relation

/-!
The graph of a run. A variable feeds another one when a session used the one for a value of the other.
While the listeners of variables are being told, each session that is told next lies below all of the
variables that are being announced.
-/

namespace LiveTex

/-- Whether a task belongs to an evaluation of the session. -/
def Task.concerns (i : Nat) : Task → Bool
  | .hear (.session j) | .refresh j | .settle j _ => j == i
  | _ => false

/-- The evaluations that have come to something and are not taken in yet. -/
def Moment.yielded (m : Moment) : List (Nat × Evaluation) :=
  m.tasks.filterMap fun
    | .settle i (some e) => some (i, e)
    | _ => none

theorem Moment.mem_yielded {m : Moment} {i : Nat} {e : Evaluation} (h : .settle i (some e) ∈ m.tasks) :
    (i, e) ∈ m.yielded :=
  List.mem_filterMap.mpr ⟨_, h, rfl⟩

namespace World

/-- At some moment of the run, an evaluation of the session has come to `e`. -/
def Yields (w : World) (actions : List Action) (i : Nat) (e : Evaluation) : Prop :=
  ∃ m, Passes w actions m ∧ .settle i (some e) ∈ m.tasks

/-- During the run, a session used the variable `u` for a value of the variable `v`. -/
def Feeds (w : World) (actions : List Action) (u v : Ident) : Prop :=
  ∃ i e, Yields w actions i e ∧ u ∈ e.used ∧ e.defined = some v

/-- No variable feeds itself when it always feeds variables of a higher rank. -/
theorem not_transGen_of_rank {w : World} {actions : List Action} (rank : Ident → Nat)
    (h : ∀ u v, Feeds w actions u v → rank u < rank v) (v : Ident) :
    ¬ Relation.TransGen (Feeds w actions) v v := by
  intro hv
  have hless := hv.lift rank h
  rw [Relation.transGen_eq_self] at hless
  exact Nat.lt_irrefl _ hless

/-- At all moments of the run, the text of the session comes to the same formula, and each time that an
evaluation of it starts and the formula has a value, the target is the same. An evaluation that has no value
leaves the target open: the name it would assign may belong to nothing yet. -/
def Steady (w : World) (actions : List Action) (i : Nat) (formula : Text) (target : Option Ident) : Prop :=
  ∀ m, Passes w actions m → ∀ s, m.world.sessions[i]? = some s →
    m.world.store.formulaOf s.latex = formula ∧
      (m.Starts i → ∀ e, m.world.store.expected s.latex = some e → e.defined = target)

/-- An evaluation of a steady session starts from its formula and its target. -/
theorem Steady.expected_eq {w : World} {actions : List Action} {i : Nat} {formula : Text} {target : Option Ident}
    (h : Steady w actions i formula target) {m : Moment} (hm : Passes w actions m) (hstarts : m.Starts i)
    {s : Session} (hs : m.world.sessions[i]? = some s) :
    m.world.store.expected s.latex = Evaluation.expected formula target m.world.store.bindings := by
  obtain ⟨hformula, htarget⟩ := h m hm s hs
  have htarget := htarget hstarts
  rw [Evaluation.expected_eq_map formula (m.world.store.target s.latex)]
  unfold Store.expected at htarget ⊢
  rw [hformula] at htarget ⊢
  cases hexpected : Evaluation.expected formula (m.world.store.target s.latex) m.world.store.bindings with
  | none => rfl
  | some e => rw [Option.map_some, ← htarget e hexpected]

/-- The outcome of an evaluation that has just started is that of the store. -/
theorem settle_of_next {m : Moment} (h : m.OfSessions) {i : Nat} {r : Option Evaluation}
    (hr : .settle i r ∈ m.next.tasks) : .settle i r ∈ m.tasks.tail ∨ m.Starts i ∧
      ∃ s, m.world.sessions[i]? = some s ∧ s.isDisposed = false ∧
        r = (m.world.store.evaluate s.latex).2.toOption := by
  rcases Moment.settle_mem_of_next h hr with htail | hstarts
  · exact .inl htail
  · obtain ⟨w, tasks⟩ := m
    cases tasks with
    | nil => cases hstarts
    | cons t ts =>
      cases hstarts
      rcases List.mem_append.mp hr with hr | hr
      · obtain ⟨-, hrun⟩ | ⟨s, hs, hlive, hrefreshed⟩ := w.run_refresh_cases i
        · rw [hrun] at hr
          cases hr
        · refine .inr ⟨rfl, s, hs, hlive, ?_⟩
          generalize w.run (.refresh i) = left at hrefreshed hr
          cases hrefreshed with
          | refused reason houtcome | unheard e houtcome =>
            simp only [List.mem_singleton, Task.settle.injEq, true_and] at hr
            simp only [hr, houtcome, Except.toOption]
          | heard e ident houtcome =>
            simp only [List.mem_append, List.mem_map, List.mem_cons, reduceCtorEq, and_false, exists_false,
              Task.settle.injEq, true_and, List.not_mem_nil, or_false, false_or] at hr
            simp only [hr, houtcome, Except.toOption]
      · exact .inl hr

section

variable {w : World} {actions : List Action} {formula : Nat → Text} {target : Nat → Option Ident}

/-- What a steady session yields uses the symbols of its formula and defines its target. -/
theorem Yields.used_eq (hactions : ∀ action ∈ actions, action.OfSessions) (hheard : w.store.HeardBySessions)
    (hsteady : ∀ i, Steady w actions i (formula i) (target i)) {i : Nat} {e : Evaluation}
    (h : Yields w actions i e) : e.used = Formula.symbolsOf (formula i) ∧ e.defined = target i := by
  obtain ⟨m, hm, hsettle⟩ := h
  refine Passes.invariant (P := fun m => ∀ i e, .settle i (some e) ∈ m.tasks →
    e.used = Formula.symbolsOf (formula i) ∧ e.defined = target i) hactions hheard ?_ ?_ ?_ hm i e hsettle
  · intro i e h
    cases h
  · intro u action haction _ _ _ i e h
    have htaken := taken_moment_zero u (hactions action haction)
    generalize u.moment action 0 = m at htaken h
    obtain ⟨v, tasks⟩ := m
    cases htaken with
    | opened => simp at h
    | _ => cases h
  · intro m hof hm _ hyields i e h
    rcases settle_of_next hof h with h | ⟨hstarts, s, hs, -, he⟩
    · exact hyields i e (List.mem_of_mem_tail h)
    · cases houtcome : (m.world.store.evaluate s.latex).2 with
      | error reason =>
        rw [houtcome] at he
        cases he
      | ok e' =>
        rw [houtcome] at he
        cases he
        obtain ⟨hexpected, -, -⟩ := Store.of_evaluate_ok houtcome
        rw [(hsteady i).expected_eq hm hstarts hs] at hexpected
        exact ⟨Evaluation.used_of_expected hexpected, Evaluation.defined_of_expected hexpected⟩

end

/-- The session has yielded something, and it uses what the variable leads to. -/
def Below (w : World) (actions : List Action) (used : List Ident) (x : Ident) : Prop :=
  ∃ u ∈ used, Relation.ReflTransGen (Feeds w actions) x u

/-- What waits while variables are announced, the innermost one first: the sessions that are told next use
what the announced variables lead to, and after them the session that announced a variable takes in its
outcome. -/
inductive Waiting (w : World) (actions : List Action) : List Task → List Ident → Prop where
  | nil : Waiting w actions [] []
  | attach (i : Nat) : Waiting w actions [.attach i] []
  | hear {i : Nat} {e : Evaluation} {ts : List Task} {announced : List Ident}
      (hyields : Yields w actions i e) (hbelow : ∀ x ∈ announced, Below w actions e.used x)
      (h : Waiting w actions ts announced) : Waiting w actions (.hear (.session i) :: ts) announced
  | hush {i : Nat} {e : Evaluation} {x : Ident} {ts : List Task} {announced : List Ident}
      (hdefined : e.defined = some x) (h : Waiting w actions ts announced) :
      Waiting w actions (.hush :: .settle i (some e) :: ts) (x :: announced)

namespace Waiting

variable {w : World} {actions : List Action} {ts : List Task} {announced : List Ident}

/-- A waiting outcome belongs to a variable that is being announced. -/
theorem exists_of_settle (h : Waiting w actions ts announced) {i : Nat} {r : Option Evaluation}
    (hr : .settle i r ∈ ts) : ∃ e, r = some e ∧ ∃ x ∈ announced, e.defined = some x := by
  induction h with
  | nil => cases hr
  | attach => simp at hr
  | hear _ _ _ ih => exact ih (by simpa using hr)
  | @hush j e x ts announced hdefined _ ih =>
    simp only [List.mem_cons, reduceCtorEq, Task.settle.injEq, false_or] at hr
    rcases hr with ⟨-, rfl⟩ | hr
    · exact ⟨e, rfl, x, List.mem_cons_self .., hdefined⟩
    · obtain ⟨e', he', y, hy, hdefined'⟩ := ih hr
      exact ⟨e', he', y, List.mem_cons_of_mem _ hy, hdefined'⟩

theorem hear_append (h : Waiting w actions ts announced) (listeners : List Listener)
    (hlisteners : ∀ l ∈ listeners, ∃ i e, l = .session i ∧ Yields w actions i e ∧
      ∀ x ∈ announced, Below w actions e.used x) :
    Waiting w actions (listeners.map .hear ++ ts) announced := by
  induction listeners with
  | nil => exact h
  | cons l listeners ih =>
    obtain ⟨i, e, rfl, hyields, hbelow⟩ := hlisteners l (List.mem_cons_self ..)
    exact .hear hyields hbelow (ih fun l hl => hlisteners l (List.mem_cons_of_mem _ hl))

end Waiting

/-- The tasks of a moment: what waits, perhaps behind an evaluation that is about to start or an outcome
that is about to be taken in. A session that is evaluated while variables are announced is below them. -/
inductive Framed (w : World) (actions : List Action) : List Task → List Ident → Prop where
  | waiting {ts : List Task} {announced : List Ident} (h : Waiting w actions ts announced) :
      Framed w actions ts announced
  | told {i : Nat} {e : Evaluation} {ts : List Task} {announced : List Ident}
      (hyields : Yields w actions i e) (hbelow : ∀ x ∈ announced, Below w actions e.used x)
      (h : Waiting w actions ts announced) : Framed w actions (.refresh i :: ts) announced
  | opening (i : Nat) : Framed w actions [.refresh i, .attach i] []
  | settling {i : Nat} {r : Option Evaluation} {ts : List Task} {announced : List Ident}
      (h : Waiting w actions ts announced) : Framed w actions (.settle i r :: ts) announced

namespace Framed

variable {w : World} {actions : List Action} {ts : List Task} {announced : List Ident} {i : Nat}

theorem of_nil (h : Framed w actions [] announced) : announced = [] := by
  cases h with
  | waiting hwaiting =>
    cases hwaiting with
    | nil => rfl

/-- An opening ends when nothing else is waiting. -/
theorem of_attach (h : Framed w actions (.attach i :: ts) announced) : ts = [] ∧ announced = [] := by
  cases h with
  | waiting hwaiting =>
    cases hwaiting with
    | attach => exact ⟨rfl, rfl⟩

theorem refresh_of_hear (h : Framed w actions (.hear (.session i) :: ts) announced) :
    Framed w actions (.refresh i :: ts) announced := by
  cases h with
  | waiting hwaiting =>
    cases hwaiting with
    | hear hyields hbelow hwaiting => exact .told hyields hbelow hwaiting

theorem tail_of_hush (h : Framed w actions (.hush :: ts) announced) : Framed w actions ts announced.tail := by
  cases h with
  | waiting hwaiting =>
    cases hwaiting with
    | hush _ hwaiting => exact .settling hwaiting

/-- A session is evaluated because it is being opened, or because it was told of a variable that it uses. -/
theorem of_refresh (h : Framed w actions (.refresh i :: ts) announced) : Waiting w actions ts announced ∧
    ((ts = [.attach i] ∧ announced = []) ∨
      ∃ e, Yields w actions i e ∧ ∀ x ∈ announced, Below w actions e.used x) := by
  cases h with
  | waiting hwaiting => cases hwaiting
  | told hyields hbelow hwaiting => exact ⟨hwaiting, .inr ⟨_, hyields, hbelow⟩⟩
  | opening => exact ⟨.attach i, .inl ⟨rfl, rfl⟩⟩

theorem of_settle {r : Option Evaluation} (h : Framed w actions (.settle i r :: ts) announced) :
    Waiting w actions ts announced := by
  cases h with
  | waiting hwaiting => cases hwaiting
  | settling hwaiting => exact hwaiting

end Framed

end World

end LiveTex
