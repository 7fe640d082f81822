import LiveTex.Proofs.Sheet.Sessions

/-!
Fan-outs. A fan-out begins when a variable is announced and ends with a hush. The announced variables are the
fan-outs that are under way, one inside the other; each of them has listeners, and none is announced twice, so
fan-outs nest no deeper than there are variables that are listened to.
-/

namespace LiveTex

/-- The variables that have listeners. -/
def Store.heard (s : Store) : List Ident := (s.registrations.map (·.ident)).eraseDups

theorem Store.mem_heard_iff {s : Store} {ident : Ident} : ident ∈ s.heard ↔ s.listeners ident ≠ [] := by
  simp [heard, listeners, registrationsOf, List.mem_eraseDups, List.filter_eq_nil_iff]

/-- More registrations do not silence a variable. -/
theorem Store.heard_mono {s s' : Store} (h : s.registrations ⊆ s'.registrations) : s.heard ⊆ s'.heard := by
  intro ident hident
  rw [heard, List.mem_eraseDups] at hident ⊢
  exact List.map_subset _ h hident

def Task.isHush : Task → Bool
  | .hush => true
  | _ => false

/-- The fan-outs that are under way: each is to be ended by a hush. -/
def Moment.fanouts (m : Moment) : Nat := m.tasks.countP Task.isHush

/-- The announced variables are those of the fan-outs that are under way. Each is listened to, and none is
announced twice. -/
structure Moment.Guarded (m : Moment) : Prop where
  nodup : m.world.store.notifying.Nodup
  heard : m.world.store.notifying ⊆ m.world.store.heard
  fanouts : m.fanouts = m.world.store.notifying.length

namespace Moment

theorem Guarded.length_le {m : Moment} (h : m.Guarded) :
    m.world.store.notifying.length ≤ m.world.store.heard.length :=
  h.nodup.length_le_of_subset h.heard

/-- Tasks that leave the announced variables and their listeners alone. -/
theorem Guarded.of_same {w w' : World} {ts ts' : List Task} (h : Guarded ⟨w, ts⟩)
    (hnotifying : w'.store.notifying = w.store.notifying)
    (hregistrations : w.store.registrations ⊆ w'.store.registrations)
    (hfanouts : ts'.countP Task.isHush = ts.countP Task.isHush) : Guarded ⟨w', ts'⟩ where
  nodup := hnotifying ▸ h.nodup
  heard := fun _ hident => Store.heard_mono hregistrations (h.heard (hnotifying ▸ hident))
  fanouts := hfanouts.trans (h.fanouts.trans (congrArg List.length hnotifying.symm))

/-- The listeners of a variable that is not being announced are about to be told. -/
theorem Guarded.telling {w : World} {ts : List Task} {ident : Ident} (h : Guarded ⟨w, ts⟩)
    (hquiet : ident ∉ w.store.notifying) (hheard : w.store.listeners ident ≠ []) :
    Guarded ⟨w.telling ident, (w.store.listeners ident).map .hear ++ .hush :: ts⟩ where
  nodup := List.nodup_cons.mpr ⟨hquiet, h.nodup⟩
  heard := List.cons_subset.mpr ⟨Store.mem_heard_iff.mpr hheard, h.heard⟩
  fanouts := by
    have hfanouts : ts.countP Task.isHush = w.store.notifying.length := h.fanouts
    have hhear : ((w.store.listeners ident).map Task.hear).countP Task.isHush = 0 := by
      simp [List.countP_eq_zero, Task.isHush]
    simp only [Moment.fanouts, List.countP_append, hhear, List.countP_cons, Task.isHush, hfanouts, World.telling,
      List.length_cons, if_true, Nat.zero_add]

theorem guarded_next_refresh {w : World} {ts : List Task} {i : Nat} (h : Guarded ⟨w, .refresh i :: ts⟩) :
    (next ⟨w, .refresh i :: ts⟩).Guarded := by
  have hts : Guarded ⟨w, ts⟩ := h.of_same rfl (List.Subset.refl _) rfl
  rw [next_cons]
  obtain ⟨-, hrun⟩ | ⟨s, -, -, hrefreshed⟩ := w.run_refresh_cases i
  · rw [hrun]
    exact hts
  have hafter (r : Option Evaluation) : Guarded ⟨w.afterEvaluation s.latex, .settle i r :: ts⟩ :=
    hts.of_same (w.store.notifying_evaluate s.latex)
      (fun _ hr => (w.store.registrations_evaluate s.latex).symm ▸ hr) rfl
  generalize w.run (.refresh i) = left at hrefreshed
  cases hrefreshed with
  | refused => exact hafter none
  | unheard e => exact hafter (some e)
  | heard e ident houtcome hdefined hheard =>
    have hquiet : ident ∉ (w.afterEvaluation s.latex).store.notifying := by
      rw [show (w.afterEvaluation s.latex).store.notifying = _ from w.store.notifying_evaluate s.latex]
      exact Store.not_mem_notifying_of_evaluate houtcome hdefined
    simpa using (hafter (some e)).telling hquiet hheard

/-- No task announces a variable that is being announced already, or one that is not listened to. -/
theorem Guarded.next {m : Moment} (hof : m.OfSessions) (h : m.Guarded) : m.next.Guarded := by
  obtain ⟨w, tasks⟩ := m
  cases tasks with
  | nil => exact h
  | cons t ts =>
    have ht := hof.tasks t (List.mem_cons_self ..)
    cases ht using Task.OfSessions.cases with
    | hear i => exact h.of_same rfl (List.Subset.refl _) rfl
    | hush =>
      have hfanouts : (Task.hush :: ts).countP Task.isHush = w.store.notifying.length := h.fanouts
      rw [List.countP_cons_of_pos rfl] at hfanouts
      refine ⟨h.nodup.tail, fun _ hident => h.heard (List.mem_of_mem_tail hident), ?_⟩
      change ts.countP Task.isHush = w.store.notifying.tail.length
      rw [List.length_tail]
      omega
    | refresh i => exact guarded_next_refresh h
    | settle i r =>
      have hts : Guarded ⟨w, ts⟩ := h.of_same rfl (List.Subset.refl _) rfl
      simp only [next_cons, World.run]
      split
      · exact hts
      · split
        · exact hts
        · exact hts.of_same rfl (List.Subset.refl _) rfl
    | attach i =>
      have hts : Guarded ⟨w, ts⟩ := h.of_same rfl (List.Subset.refl _) rfl
      cases hs : w.sessions[i]? with
      | none =>
        rw [next_cons, World.run_attach_of_absent hs]
        exact hts
      | some s =>
        rw [next_cons, World.run_attach hs]
        exact hts.of_same rfl (List.subset_append_left ..) rfl

/-- Only sessions have tasks, only sessions listen, and no fan-out is inside another one for the same variable. -/
def Orderly (m : Moment) : Prop := m.OfSessions ∧ m.Guarded

theorem orderly_idle {w : World} (hheard : w.store.HeardBySessions) (hquiet : w.store.notifying = []) :
    Orderly ⟨w, []⟩ :=
  ⟨.idle hheard, by simp [hquiet], by simp [hquiet], by simp [hquiet, fanouts]⟩

theorem Orderly.quiet {w : World} (h : Orderly ⟨w, []⟩) : w.store.notifying = [] :=
  List.eq_nil_of_length_eq_zero h.2.fanouts.symm

end Moment

namespace World

open Moment (Orderly)

/-- From a world in which nothing is announced, an action that leaves no watcher behind begins at most one fan-out. -/
theorem orderly_begun {w : World} (h : Orderly ⟨w, []⟩) {start : World × List Task} (hstart : w.Begun start) :
    Orderly ⟨start.1, start.2⟩ := by
  have hquiet := h.quiet
  have hsessions := h.1.heard
  have same {w' : World} (hsame : SameListeners w w') : Orderly ⟨w', []⟩ :=
    Moment.orderly_idle (fun r hr => hsessions r (hsame.registrations ▸ hr)) (hsame.notifying.trans hquiet)
  cases hstart with
  | finished w' hnotifying hregistrations =>
    exact Moment.orderly_idle (fun r hr => hsessions r (hregistrations hr)) (hnotifying.trans hquiet)
  | opened w' i hsame =>
    obtain ⟨hof, hguarded⟩ := same hsame
    exact ⟨⟨by simp [Task.OfSessions], hof.heard⟩, hguarded.of_same rfl (List.Subset.refl _) rfl⟩
  | told w' ident hsame hlisteners =>
    obtain ⟨hof, hguarded⟩ := same hsame
    refine ⟨⟨fun t ht => ?_, hof.heard⟩, hguarded.telling (by simp [(same hsame).quiet]) hlisteners⟩
    rcases List.mem_append.mp ht with ht | ht
    · obtain ⟨l, hl, rfl⟩ := List.mem_map.mp ht
      obtain ⟨j, rfl⟩ := hof.heard.exists_session ident l hl
      trivial
    · rw [List.mem_singleton.mp ht]
      trivial

/-- All moments of an action are orderly. -/
theorem orderly_moment {w : World} {action : Action} (h : Orderly ⟨w, []⟩) (haction : action.Watcherless) (n : Nat) :
    (w.moment action n).Orderly :=
  moment_of_le (k := 0) (orderly_begun h (w.begun_take haction)) (fun _ _ hm => ⟨hm.1.next, hm.2.next hm.1⟩)
    (Nat.zero_le n)

/-- An action that leaves no watcher behind comes to an end, and then nothing is announced. -/
theorem orderly_act {w : World} {action : Action} (h : Orderly ⟨w, []⟩) (haction : action.Watcherless) :
    Orderly ⟨(w.act action).1, []⟩ := by
  obtain ⟨n, hn⟩ := settles_of_watcherless h.1.heard haction
  exact hn ▸ orderly_moment h haction n

theorem orderly_acts {w : World} {actions : List Action} (h : Orderly ⟨w, []⟩)
    (hactions : ∀ action ∈ actions, action.Watcherless) : Orderly ⟨w.acts actions, []⟩ := by
  induction actions generalizing w with
  | nil => exact h
  | cons action rest ih =>
    have hnext := orderly_act h (hactions action (List.mem_cons_self ..))
    exact ih hnext fun a ha => hactions a (List.mem_cons_of_mem _ ha)

/-- After any run of actions that leave no watcher behind, every further one of them comes to an end. At each of its
moments the announced variables are different from each other, each of them is listened to, and they are the
variables of the fan-outs under way, so fan-outs nest no deeper than there are variables that are listened to.
In the end nothing is announced. -/
theorem fanouts_nest_within_heard {stem : Text} {actions : List Action} {action : Action}
    (hactions : ∀ a ∈ actions, a.Watcherless) (haction : action.Watcherless) :
    ((World.new stem).acts actions).Settles action ∧
      (∀ n, let m := ((World.new stem).acts actions).moment action n
        m.world.store.notifying.Nodup ∧
          (∀ ident ∈ m.world.store.notifying, m.world.store.listeners ident ≠ []) ∧
          m.fanouts = m.world.store.notifying.length ∧ m.fanouts ≤ m.world.store.heard.length) ∧
      (((World.new stem).acts actions).act action).1.store.notifying = [] := by
  have horderly : Orderly ⟨(World.new stem).acts actions, []⟩ :=
    orderly_acts (Moment.orderly_idle (heardBySessions_new stem) rfl) hactions
  refine ⟨settles_of_watcherless horderly.1.heard haction, fun n => ?_, (orderly_act horderly haction).quiet⟩
  obtain ⟨-, hguarded⟩ := orderly_moment horderly haction n
  refine ⟨hguarded.nodup, fun ident hident => Store.mem_heard_iff.mp (hguarded.heard hident), hguarded.fanouts, ?_⟩
  rw [hguarded.fanouts]
  exact hguarded.length_le

/-- Two definitions that form a cycle: when one of the variables is assigned anew, two fan-outs get under way, one
inside the other, for the only two variables that are listened to. -/
theorem fanouts_of_cycle_of_two :
    let w := (World.new ['V']).acts (opening ["a := 1", "b := a + 1", "a := b + 1"])
    let m := w.moment (.evaluate "b := 7".toList false) 3
    m.world.store.notifying = ["Va".toList, "Vb".toList] ∧ m.world.store.heard = ["Va".toList, "Vb".toList] ∧
      m.fanouts = 2 ∧ (w.act (.evaluate "b := 7".toList false)).1.store.notifying = [] := by
  intro w m
  have hactions := ofSessions_opening ["a := 1", "b := a + 1", "a := b + 1"]
  obtain ⟨-, hnest, hquiet⟩ := @fanouts_nest_within_heard ['V'] _ (.evaluate "b := 7".toList false)
    (fun a ha => (hactions a ha).watcherless) trivial
  have hacts : w = _ := acts_eq_get_actsWithin (n := 12) (heardBySessions_new ['V']) hactions (by decide +kernel)
  obtain ⟨hannounced, hheard⟩ : m.world.store.notifying = ["Va".toList, "Vb".toList] ∧
      m.world.store.heard = ["Va".toList, "Vb".toList] := by
    rw [show m = w.moment _ 3 from rfl, hacts]
    decide +kernel
  obtain ⟨-, -, hfanouts, -⟩ := hnest 3
  exact ⟨hannounced, hheard, hfanouts.trans (congrArg List.length hannounced), hquiet⟩

end World

end LiveTex
