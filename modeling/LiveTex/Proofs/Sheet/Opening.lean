import LiveTex.Proofs.Sheet.Run

/-!
Sessions that are being opened, in runs of any actions. Opening a session leaves its first evaluation to be done
and, behind it, the end of the opening; so whoever can reach a session finds that it has been evaluated, whatever
listeners do in between.
-/

namespace LiveTex

/-- A session that was never evaluated is uninitialized, and it is still being opened. -/
structure Session.Timely (s : Session) : Prop where
  uninitialized_iff : s.state = .uninitialized ↔ s.version = 0
  opening : s.version = 0 → s.hold = .opening

theorem Session.timely_new (latex : Text) (subscriber : Subscriber) (showResult : Bool) :
    (Session.new latex subscriber showResult).Timely :=
  ⟨iff_of_true rfl rfl, fun _ => rfl⟩

theorem Session.Timely.change {shows attaches : Prop} {s s' : Session} (h : s.Timely) (hchange : s.Change shows attaches s')
    (hattaches : attaches → s.version ≠ 0) : s'.Timely := by
  have hheld : s.hold = .held → s.version ≠ 0 := fun hheld hversion => by
    rw [h.opening hversion] at hheld
    cases hheld
  cases hchange with
  | kept => exact h
  | shown => exact ⟨h.uninitialized_iff, h.opening⟩
  | ended hh | dropped hh =>
    exact ⟨iff_of_false Session.State.noConfusion (hheld hh), fun hversion => absurd hversion (hheld hh)⟩
  | settled => exact ⟨iff_of_false Session.State.noConfusion (Nat.succ_ne_zero _), fun hversion => by cases hversion⟩
  | attached ha => exact ⟨h.uninitialized_iff, fun hversion => absurd hversion (hattaches ha)⟩

theorem Session.Change.version_le {shows attaches : Prop} {s s' : Session} (h : s.Change shows attaches s') :
    s.version ≤ s'.version := by
  cases h with
  | settled => exact Nat.le_succ s.version
  | _ => exact Nat.le_refl s.version

/-- The sessions of the one world are there in the other one, and none was evaluated less often. -/
def World.Continues (w w' : World) : Prop :=
  ∀ (i : Nat) (s : Session), w.sessions[i]? = some s → ∃ s', w'.sessions[i]? = some s' ∧ s.version ≤ s'.version

theorem Moment.Step.continues {m m' : Moment} {taken : List Call} (h : m.Step taken m') : m.world.Continues m'.world := by
  intro i s hs
  obtain ⟨s', hs', hchange⟩ := h.exists_change hs
  exact ⟨s', hs', hchange.version_le⟩

namespace Moment

/-- Before the opening of a session ends, the session is evaluated. -/
def EvaluatesFirst (m : Moment) : Prop :=
  ∀ i before after, m.tasks = before ++ .attach i :: after →
    ∃ s, m.world.sessions[i]? = some s ∧ (s.version = 0 → ∃ t ∈ before, t.concerns i = true)

variable {m m' : Moment} {taken : List Call} {w w' : World} {left ts : List Task}

/-- Other tasks take the place of the first ones, and none of them ends an opening. Where one of the first tasks
belongs to an evaluation, so does one of the other tasks, or the evaluation is over. -/
theorem EvaluatesFirst.replace {first : List Task} (h : EvaluatesFirst ⟨w, first ++ ts⟩)
    (hsessions : w.Continues w')
    (hleft : ∀ i, .attach i ∉ left)
    (hconcerns : ∀ i s', w'.sessions[i]? = some s' → s'.version = 0 → (∃ t ∈ first, t.concerns i = true) →
      ∃ t ∈ left, t.concerns i = true) : EvaluatesFirst ⟨w', left ++ ts⟩ := by
  intro i before after htasks
  have hbefore : ∃ later, before = left ++ later ∧ ts = later ++ .attach i :: after := by
    rcases List.append_eq_append_iff.mp htasks with hlater | ⟨later, rfl, hlater⟩
    · exact hlater
    · cases later with
      | nil => exact ⟨[], by simp, hlater.symm⟩
      | cons u later =>
        obtain ⟨rfl, -⟩ := List.cons.inj hlater
        exact absurd (by simp) (hleft i)
  obtain ⟨later, rfl, rfl⟩ := hbefore
  obtain ⟨s, hs, hfirst⟩ := h i (first ++ later) after (List.append_assoc ..).symm
  obtain ⟨s', hs', hle⟩ : ∃ s', w'.sessions[i]? = some s' ∧ s.version ≤ s'.version := hsessions i s hs
  refine ⟨s', hs', fun hversion => ?_⟩
  obtain ⟨t, ht, hti⟩ := hfirst (by omega)
  rcases List.mem_append.mp ht with ht | ht
  · obtain ⟨u, hu, hui⟩ := hconcerns i s' hs' hversion ⟨t, ht, hti⟩
    exact ⟨u, List.mem_append_left _ hu, hui⟩
  · exact ⟨t, List.mem_append_right _ ht, hti⟩

theorem EvaluatesFirst.opened (h : EvaluatesFirst ⟨w, ts⟩) {n : Nat} {s : Session} (hs : w.sessions[n]? = some s) :
    EvaluatesFirst ⟨w, .refresh n :: .attach n :: ts⟩ := by
  intro i before after htasks
  match before, htasks with
  | [], htasks => cases htasks
  | [_], htasks =>
    cases htasks
    exact ⟨s, hs, fun _ => ⟨_, List.mem_singleton_self _, beq_self_eq_true n⟩⟩
  | _ :: _ :: before, htasks =>
    simp only [List.cons_append, List.cons.injEq] at htasks
    obtain ⟨u, hu, hfirst⟩ := h i before after htasks.2.2
    refine ⟨u, hu, fun hversion => ?_⟩
    obtain ⟨t, ht, hti⟩ := hfirst hversion
    exact ⟨t, List.mem_cons_of_mem _ (List.mem_cons_of_mem _ ht), hti⟩

/-- An action that opens a session leaves its evaluation and, behind it, the end of the opening. -/
theorem EvaluatesFirst.acting (h : m.EvaluatesFirst) (action : Action) : (m.acting action).EvaluatesFirst := by
  have hreplace : ∀ left, (∀ i, .attach i ∉ left) → EvaluatesFirst ⟨(m.acting action).world, left ++ m.tasks⟩ := by
    intro left hleft
    have h : EvaluatesFirst ⟨m.world, [] ++ m.tasks⟩ := h
    exact h.replace (Step.act action).continues hleft fun _ _ _ _ ⟨_, ht, _⟩ => by cases ht
  rcases m.world.opened_or_not action with ⟨latex, subscriber, showResult, hnew, hleft⟩ | ⟨-, hleft⟩
  · unfold Moment.acting
    rw [hleft]
    refine (hreplace [] (by simp)).opened (s := .new latex subscriber showResult) ?_
    change (m.world.take action).1.sessions[_]? = _
    rw [hnew, List.getElem?_concat_length]
  · exact hreplace _ hleft

/-- Until a session has been evaluated, something that belongs to its evaluation is left to be done. -/
theorem exists_concerns_run {t : Task} {i : Nat} {s' : Session} (ht : t.concerns i = true)
    (hs' : (w.run t).1.sessions[i]? = some s') (htimely : s'.Timely) (hversion : s'.version = 0) :
    ∃ u ∈ (w.run t).2, u.concerns i = true := by
  have hlive : s'.isDisposed = false := by
    rw [Session.isDisposed, htimely.uninitialized_iff.mpr hversion]
    rfl
  cases t with
  | hear l =>
    cases l with
    | session j => exact ⟨.refresh j, List.mem_singleton_self _, ht⟩
    | watcher => cases ht
  | refresh j =>
    obtain rfl : j = i := beq_iff_eq.mp ht
    rw [World.sessions_run_refresh] at hs'
    have hrefreshed := World.refreshed_run hs' hlive
    generalize w.run (.refresh j) = done at hrefreshed
    cases hrefreshed with
    | refused => exact ⟨_, List.mem_singleton_self _, ht⟩
    | unheard => exact ⟨_, List.mem_singleton_self _, ht⟩
    | heard e => exact ⟨.settle j (some e), by simp, ht⟩
  | settle j r =>
    obtain rfl : j = i := beq_iff_eq.mp ht
    obtain ⟨hgone, hrun⟩ | ⟨s, hs, -, hrun⟩ := w.run_settle_cases j r
    · rw [hrun] at hs'
      rw [hgone s' hs'] at hlive
      cases hlive
    · have hself : (w.run (.settle j r)).1.sessions[j]? = some (s.take r).render := by
        rw [hrun]
        exact List.getElem?_set_self (List.getElem?_eq_some_iff.mp hs).1
      obtain rfl := Option.some.inj (hself.symm.trans hs')
      cases hversion
  | hush | attach | perform | report => cases ht

theorem attach_notMem_run {t : Task} (ht : ∀ tag action, t ≠ .perform tag action) (i : Nat) :
    .attach i ∉ (w.run t).2 := by
  cases t with
  | refresh j =>
    intro h
    rcases World.tasks_run_refresh h with ⟨_, _, _, _, _, h⟩ | h | ⟨_, h⟩ <;> cases h
  | perform tag action => exact absurd rfl (ht tag action)
  | hear l => cases l <;> simp [World.run]
  | hush | report => simp [World.run]
  | settle j r => simp [World.tasks_run_settle]
  | attach j => simp [World.tasks_run_attach]

theorem next_perform (w : World) (tag : Text) (action : Action) (ts : List Task) :
    Moment.next ⟨w, .perform tag action :: ts⟩ =
      Moment.acting ⟨w, .report tag (w.take action).2.2 :: ts⟩ action := by
  simp [Moment.next, Moment.acting, World.run]

/-- What holds of every session at every moment of a run. -/
structure Timely (m : Moment) : Prop where
  sessions : ∀ (i : Nat) (s : Session), m.world.sessions[i]? = some s → s.Timely
  first : m.EvaluatesFirst

theorem Timely.step (h : m.Timely) (hstep : m.Step taken m') : m'.Timely := by
  have htimely : ∀ (i : Nat) (s : Session), m'.world.sessions[i]? = some s → s.Timely := by
    intro i s' hs'
    rcases hstep.exists_change_or_new hs' with ⟨s, hs, hchange⟩ | ⟨-, latex, subscriber, showResult, rfl⟩
    · refine (h.sessions i s hs).change hchange fun hhead hversion => ?_
      obtain ⟨ts, hts⟩ := List.head?_eq_some_iff.mp hhead
      obtain ⟨u, hu, hfirst⟩ := h.first i [] ts hts
      obtain rfl := Option.some.inj (hs.symm.trans hu)
      obtain ⟨t, ht, -⟩ := hfirst hversion
      cases ht
    · exact Session.timely_new latex subscriber showResult
  refine ⟨htimely, ?_⟩
  cases hstep with
  | act action => exact h.first.acting action
  | next =>
    obtain ⟨w, tasks⟩ := m
    cases tasks with
    | nil => exact h.first
    | cons t ts =>
      have hfirst : EvaluatesFirst ⟨w, [t] ++ ts⟩ := h.first
      by_cases ht : ∃ tag action, t = .perform tag action
      · obtain ⟨tag, action, rfl⟩ := ht
        rw [next_perform]
        refine EvaluatesFirst.acting (?_ : EvaluatesFirst ⟨w, [.report tag (w.take action).2.2] ++ ts⟩) action
        refine hfirst.replace (fun i s hs => ⟨s, hs, Nat.le_refl _⟩) (by simp) fun i s _ _ hconcerns => ?_
        simp [Task.concerns] at hconcerns
      · have hcontinues : w.Continues (w.run t).1 := (Step.next (m := ⟨w, t :: ts⟩)).continues
        refine hfirst.replace hcontinues (attach_notMem_run fun tag action h => ht ⟨tag, action, h⟩) ?_
        intro i s' hs' hversion hconcerns
        obtain ⟨u, hu, hui⟩ := hconcerns
        obtain rfl := List.mem_singleton.mp hu
        exact exists_concerns_run hui hs' (htimely i s' hs') hversion

theorem Reaches.timely {stem : Text} {calls : List Call} (h : (⟨World.new stem, []⟩ : Moment).Reaches calls m) :
    m.Timely := by
  induction h with
  | refl => exact ⟨fun i s hs => (by cases hs), fun i before after h => (by simp at h)⟩
  | step _ hstep ih => exact ih.step hstep

end Moment

end LiveTex
