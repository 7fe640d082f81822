import LiveTex.Proofs.Sheet.Opening

/-!
The places of sessions. Opening a session puts it behind all others, and dropping one leaves its place to it; so
a session keeps its place and its text. When an action is over, nothing is being opened any more.
-/

namespace LiveTex

namespace World

variable {w : World} {i : Nat} {s : Session}

/-- The texts of the sessions. -/
def latexes (w : World) : List Text := w.sessions.map (·.latex)

def holds (w : World) : List Session.Hold := w.sessions.map (·.hold)

@[simp] theorem length_latexes (w : World) : w.latexes.length = w.sessions.length := List.length_map _

@[simp] theorem length_holds (w : World) : w.holds.length = w.sessions.length := List.length_map _

theorem getElem?_latexes (hs : w.sessions[i]? = some s) : w.latexes[i]? = some s.latex := by
  rw [latexes, List.getElem?_map, hs, Option.map_some]

theorem exists_session?_iff : (∃ s, w.session? i = some s) ↔ w.holds[i]? = some .held := by
  rw [holds, List.getElem?_map, Option.map_eq_some_iff]
  simp only [session?_eq_some_iff]

theorem getElem?_session? (h : w.session? i = some s) : w.holds[i]? = some .held ∧ w.latexes[i]? = some s.latex := by
  obtain ⟨hs, -⟩ := session?_eq_some_iff.mp h
  exact ⟨exists_session?_iff.mp ⟨s, h⟩, getElem?_latexes hs⟩

/-- Writing what is there changes nothing. -/
private theorem map_set_eq_self {α β : Type} {f : α → β} {l : List α} {a b : α} (ha : l[i]? = some a) (hb : f b = f a) :
    (l.set i b).map f = l.map f := by
  apply List.ext_getElem?
  intro j
  rw [List.map_set, hb, List.getElem?_set]
  split
  · next hij =>
    subst hij
    rw [List.getElem?_map, ha]
    simp [(List.getElem?_eq_some_iff.mp ha).1]
  · rfl

theorem hasStore_run {t : Task} (ht : t.OfSessions) : (w.run t).1.hasStore = w.hasStore := by
  cases ht using Task.OfSessions.cases with
  | hear | hush => rfl
  | refresh j =>
    obtain ⟨-, hrun⟩ | ⟨s, -, -, hrefreshed⟩ := w.run_refresh_cases j
    · rw [hrun]
    · generalize w.run (.refresh j) = left at hrefreshed
      cases hrefreshed <;> rfl
  | settle j r =>
    obtain ⟨-, hrun⟩ | ⟨s, -, -, hrun⟩ := w.run_settle_cases j r
    · rw [hrun]
    · rw [hrun]
      rfl
  | attach j =>
    simp only [run]
    split <;> rfl

/-- No task changes the text of a session, and only the end of its opening brings a session within reach. -/
theorem places_run {t : Task} (ht : t.OfSessions) :
    (w.run t).1.latexes = w.latexes ∧
      (w.run t).1.holds = match t with
        | .attach j => w.holds.set j .held
        | _ => w.holds := by
  cases ht using Task.OfSessions.cases with
  | hear | hush => exact ⟨rfl, rfl⟩
  | refresh j => simp only [latexes, holds, sessions_run_refresh, and_self]
  | settle j r =>
    obtain ⟨-, hrun⟩ | ⟨s, hs, -, hrun⟩ := w.run_settle_cases j r
    · rw [hrun]
      exact ⟨rfl, rfl⟩
    · rw [hrun]
      exact ⟨map_set_eq_self hs rfl, map_set_eq_self hs rfl⟩
  | attach j =>
    cases hs : w.sessions[j]? with
    | none =>
      rw [run_attach_of_absent hs]
      refine ⟨rfl, (List.set_eq_of_length_le ?_).symm⟩
      rw [length_holds]
      exact List.getElem?_eq_none_iff.mp hs
    | some s =>
      rw [run_attach hs]
      exact ⟨map_set_eq_self hs rfl, List.map_set⟩

end World

/-- While a session is opened, it is the last one, and it gets within reach when all tasks are done. -/
structure Moment.Opens (w : World) (latex : Text) (m : Moment) : Prop where
  hasStore : m.world.hasStore = true
  latexes : m.world.latexes = w.latexes ++ [latex]
  holds : ∃ hold, m.world.holds = w.holds ++ [hold] ∧ (hold = .held ∨ .attach w.sessions.length ∈ m.tasks)
  attach : ∀ i, .attach i ∈ m.tasks → i = w.sessions.length

namespace World

variable {w : World}

theorem opens_moment_zero (hstore : w.hasStore = true) (latex : Text) :
    (w.moment (.openSession latex true none) 0).Opens w latex := by
  have hmoment : w.moment (.openSession latex true none) 0 =
      ⟨(w.onStore (.openSession latex true none)).1, (w.onStore (.openSession latex true none)).2.1⟩ := by
    simp only [moment, Function.iterate_zero, id_eq, take, hstore, ↓reduceIte]
  rw [hmoment]
  refine ⟨hstore, ?_, ⟨.opening, ?_, .inr ?_⟩, ?_⟩
  · simp [onStore, latexes, Session.new]
  · simp [onStore, holds, Session.new]
  · simp [onStore]
  · simp [onStore]

end World

theorem Moment.Opens.next {w : World} {latex : Text} {m : Moment} (h : m.Opens w latex) (hof : m.OfSessions) :
    m.next.Opens w latex := by
  obtain ⟨u, tasks⟩ := m
  cases tasks with
  | nil => exact h
  | cons t ts =>
    have ht := hof.tasks t (.head _)
    obtain ⟨hlatexes, hholds⟩ := u.places_run ht
    obtain ⟨hold, hbefore, hattach⟩ := h.holds
    have hleft (i : Nat) : .attach i ∉ (u.run t).2 := by
      apply attach_notMem_run
      rintro tag action rfl
      exact ht
    refine ⟨(World.hasStore_run ht).trans h.hasStore, hlatexes.trans h.latexes, ?_, fun i hi => ?_⟩
    · change ∃ hold, (u.run t).1.holds = w.holds ++ [hold] ∧ (hold = .held ∨ _)
      rw [hholds]
      by_cases hend : ∃ j, t = .attach j
      · obtain ⟨j, rfl⟩ := hend
        obtain rfl := h.attach j (.head _)
        refine ⟨.held, ?_, .inl rfl⟩
        simp only [hbefore]
        rw [← World.length_holds, List.set_append_right _ _ (Nat.le_refl _), Nat.sub_self]
        rfl
      · refine ⟨hold, ?_, hattach.imp_right fun hattach => ?_⟩
        · cases t with
          | attach j => exact absurd ⟨j, rfl⟩ hend
          | _ => exact hbefore
        · refine List.mem_append_right _ ((List.mem_cons.mp hattach).resolve_left ?_)
          rintro rfl
          exact hend ⟨_, rfl⟩
    · exact h.attach i (.tail _ ((List.mem_append.mp hi).resolve_left (hleft i)))

namespace World

variable {w : World}

/-- Opening a session adds one session within reach. -/
structure Opened (w : World) (latex : Text) (w' : World) : Prop where
  heard : w'.store.HeardBySessions
  hasStore : w'.hasStore = true
  latexes : w'.latexes = w.latexes ++ [latex]
  holds : w'.holds = w.holds ++ [.held]

theorem opened_act (hheard : w.store.HeardBySessions) (hstore : w.hasStore = true) (latex : Text) :
    w.Opened latex (w.act (.openSession latex true none)).1 := by
  have hsettles : w.Settles (.openSession latex true none) := settles_of_heardBySessions hheard trivial
  obtain ⟨hof, hopens⟩ := hsettles.of_moment (P := fun m => m.OfSessions ∧ m.Opens w latex) (k := 0)
    ⟨ofSessions_moment_zero hheard trivial, opens_moment_zero hstore latex⟩
    fun _ _ hm => ⟨hm.1.next, hm.2.next hm.1⟩
  obtain ⟨hold, hholds, rfl | hattach⟩ := hopens.holds
  · exact ⟨hof.heard, hopens.hasStore, hopens.latexes, hholds⟩
  · cases hattach

/-- Dropping a session takes it out of reach and leaves the others as they are. -/
structure Dropped (w : World) (i : Nat) (w' : World) : Prop where
  heard : w'.store.HeardBySessions
  hasStore : w'.hasStore = w.hasStore
  latexes : w'.latexes = w.latexes
  holds : w'.holds = w.holds.set i .dropped
  others : ∀ j, j ≠ i → w'.sessions[j]? = w.sessions[j]?

theorem sessions_dispose {i : Nat} {s : Session} (hs : w.session? i = some s) :
    ∃ subscriptions, (w.dispose i s).sessions = w.sessions.set i { s with state := .disposed, subscriptions } := by
  unfold dispose
  split
  · next hdisposed =>
    have hstate := Session.isDisposed_eq_true_iff.mp hdisposed
    obtain ⟨hlength, hsession⟩ := List.getElem?_eq_some_iff.mp (session?_eq_some_iff.mp hs).1
    refine ⟨s.subscriptions, ?_⟩
    rw [← hstate]
    change w.sessions = w.sessions.set i s
    rw [← hsession, List.set_getElem_self]
  · exact ⟨[], rfl⟩

/-- Dropping a session is over at once. -/
theorem act_drop {i : Nat} {s : Session} (hheard : w.store.HeardBySessions) (hs : w.session? i = some s) :
    (w.act (.drop i)).1 = (w.take (.drop i)).1 := by
  have hidle : w.moment (.drop i) 0 = ⟨(w.take (.drop i)).1, []⟩ := by
    simp only [moment, Function.iterate_zero, id_eq, take, hs]
  have hsettles : w.Settles (.drop i) := settles_of_heardBySessions hheard trivial
  exact hsettles.act_eq hidle

theorem dropped_act (hheard : w.store.HeardBySessions) {i : Nat} {s : Session} (hs : w.session? i = some s) :
    w.Dropped i (w.act (.drop i)).1 := by
  obtain ⟨hsession, -⟩ := session?_eq_some_iff.mp hs
  have hlength := (List.getElem?_eq_some_iff.mp hsession).1
  obtain ⟨subscriptions, hdispose⟩ := sessions_dispose hs
  have hdisposed : (w.dispose i s).sessions[i]? = some { s with state := .disposed, subscriptions } := by
    rw [hdispose, List.getElem?_set_self hlength]
  have hsessions : (w.take (.drop i)).1.sessions =
      w.sessions.set i { s with state := .disposed, subscriptions, hold := .dropped } := by
    rw [take_drop hs, hdisposed, Option.getD_some, setSession, hdispose, List.set_set]
  have hstore : (w.take (.drop i)).1.hasStore = w.hasStore := by
    rw [take_drop hs, setSession, dispose]
    split <;> rfl
  have hregistrations : (w.take (.drop i)).1.store.HeardBySessions := by
    rw [take_drop hs]
    exact heardBySessions_dispose hheard i s
  rw [act_drop hheard hs]
  refine ⟨hregistrations, hstore, ?_, ?_, fun j hj => ?_⟩
  · rw [latexes, hsessions]
    exact map_set_eq_self hsession rfl
  · rw [holds, hsessions]
    exact List.map_set
  · rw [hsessions, List.getElem?_set_ne (Ne.symm hj)]

end World

end LiveTex
