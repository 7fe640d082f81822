import LiveTex.Proofs.Sheet.Moment

/-!
Sheets whose listeners are sessions. A variable is not announced again while its listeners are running,
so announcements nest no deeper than there are registrations, and every action is over after finitely many
tasks.
-/

namespace LiveTex

/-- The actions that open, show, hide and end sessions, each session under a number of its own. -/
def Action.OfSessions : Action → Prop
  | .openSession _ _ none | .dispose _ | .toggle _ | .setShow .. | .drop _ => True
  | _ => False

/-- The actions that leave no watcher behind. -/
def Action.Watcherless : Action → Prop
  | .watch .. => False
  | _ => True

theorem Action.OfSessions.watcherless {action : Action} (h : action.OfSessions) : action.Watcherless := by
  cases action with
  | watch => exact h.elim
  | _ => trivial

/-- The tasks that sessions give rise to. -/
def Task.OfSessions : Task → Prop
  | .hear (.session _) | .hush | .refresh _ | .settle .. | .attach _ => True
  | _ => False

/-- The tasks of sessions, one by one. -/
@[elab_as_elim]
theorem Task.OfSessions.cases {motive : (t : Task) → t.OfSessions → Prop}
    (hear : ∀ i, motive (.hear (.session i)) trivial) (hush : motive .hush trivial)
    (refresh : ∀ i, motive (.refresh i) trivial) (settle : ∀ i r, motive (.settle i r) trivial)
    (attach : ∀ i, motive (.attach i) trivial) {t : Task} (h : t.OfSessions) : motive t h := by
  cases t with
  | hear l =>
    cases l with
    | session i => exact hear i
    | watcher => exact h.elim
  | hush => exact hush
  | refresh i => exact refresh i
  | settle i r => exact settle i r
  | attach i => exact attach i
  | perform | report => exact h.elim

/-- Nothing but sessions listens. -/
def Store.HeardBySessions (s : Store) : Prop :=
  ∀ r ∈ s.registrations, ∃ i, r.listener = .session i

namespace Store

theorem mem_listeners_iff {s : Store} {ident : Ident} {l : Listener} :
    l ∈ s.listeners ident ↔ ∃ r ∈ s.registrations, r.ident = ident ∧ r.listener = l := by
  simp [listeners, registrationsOf, and_assoc]

theorem HeardBySessions.exists_session {s : Store} (h : s.HeardBySessions) (ident : Ident) :
    ∀ l ∈ s.listeners ident, ∃ i, l = .session i := by
  intro l hl
  obtain ⟨r, hr, -, rfl⟩ := mem_listeners_iff.mp hl
  exact h r hr

theorem registrations_evaluate (s : Store) (latex : Text) :
    (s.evaluate latex).1.registrations = s.registrations := by
  have h := s.outcome_evaluate latex
  generalize s.evaluate latex = result at h
  cases h <;> rfl

theorem notifying_evaluate (s : Store) (latex : Text) :
    (s.evaluate latex).1.notifying = s.notifying := by
  have h := s.outcome_evaluate latex
  generalize s.evaluate latex = result at h
  cases h <;> rfl

/-- An assignment that is carried out writes a variable that is not being announced. -/
theorem not_mem_notifying_of_evaluate {s : Store} {latex : Text} {e : Evaluation} {ident : Ident}
    (h : (s.evaluate latex).2 = .ok e) (hdefined : e.defined = some ident) : ident ∉ s.notifying :=
  ((of_evaluate_ok h).2.1 ident hdefined).2

/-- The registrations whose variable is not being announced. -/
def quiet (s : Store) : Nat := (s.registrations.filter fun r => !s.isNotifying r.ident).length

theorem quiet_le (s : Store) : s.quiet ≤ s.registrations.length := List.length_filter_le _ _

/-- Announcing a variable that has listeners leaves fewer registrations quiet. -/
theorem quiet_announce_lt {s : Store} {ident : Ident} (hquiet : ident ∉ s.notifying)
    (hheard : s.listeners ident ≠ []) : ({ s with notifying := ident :: s.notifying } : Store).quiet < s.quiet := by
  obtain ⟨r, hr, hident⟩ : ∃ r ∈ s.registrations, r.ident = ident := by
    obtain ⟨l, hl⟩ := List.exists_mem_of_ne_nil _ hheard
    obtain ⟨r, hr, hident, -⟩ := mem_listeners_iff.mp hl
    exact ⟨r, hr, hident⟩
  unfold quiet isNotifying
  have hsplit : (s.registrations.filter fun r => !(ident :: s.notifying).contains r.ident) =
      (s.registrations.filter fun r => !s.notifying.contains r.ident).filter fun r => !(r.ident == ident) := by
    rw [List.filter_filter]
    apply List.filter_congr
    intro r _
    rw [Bool.eq_iff_iff]
    simp
  simp only [hsplit]
  apply List.length_filter_lt_length_iff_exists.mpr
  exact ⟨r, List.mem_filter.mpr ⟨hr, by simpa [hident] using hquiet⟩, by simp [hident]⟩

end Store

namespace World

theorem settle_append {depth : Nat} {w w' : World} {before : List Task}
    (h : settle depth w before = some w') (after : List Task) :
    settle depth w (before ++ after) = settle depth w' after := by
  induction depth, w, before using settle.induct generalizing w' with
  | case1 depth w =>
    simp only [settle, Option.some.injEq] at h
    simp [h]
  | case2 w t ts => simp [settle] at h
  | case3 depth w t ts next left hrun hnone ih =>
    rw [settle, hrun] at h
    simp [hnone] at h
  | case4 depth w t ts next left hrun mid hmid ihLeft ihRest =>
    rw [settle, hrun] at h
    simp only [hmid] at h
    rw [List.cons_append, settle, hrun]
    simp only [hmid]
    exact ihRest h

/-- A task whose own tasks are settled is settled one level further up. -/
theorem settle_singleton {depth : Nat} {w w' : World} {t : Task}
    (h : settle depth (w.run t).1 (w.run t).2 = some w') : settle (depth + 1) w [t] = some w' := by
  rw [settle]
  simp only [h, settle]

/-- A task that leaves no tasks is settled at once. -/
theorem settle_of_leaf {depth : Nat} {w : World} {t : Task} (h : (w.run t).2 = []) :
    settle (depth + 1) w [t] = some (w.run t).1 := by
  apply settle_singleton
  rw [h, settle]

/-- The same listeners are registered and the same variables are being announced. -/
structure SameListeners (w w' : World) : Prop where
  registrations : w'.store.registrations = w.store.registrations
  notifying : w'.store.notifying = w.store.notifying

theorem SameListeners.refl (w : World) : SameListeners w w := ⟨rfl, rfl⟩

theorem SameListeners.trans {u v w : World} (h : SameListeners u v) (h' : SameListeners v w) :
    SameListeners u w :=
  ⟨h'.registrations.trans h.registrations, h'.notifying.trans h.notifying⟩

theorem SameListeners.quiet_eq {w w' : World} (h : SameListeners w w') : w'.store.quiet = w.store.quiet := by
  unfold Store.quiet Store.isNotifying
  rw [h.registrations, h.notifying]

theorem SameListeners.heardBySessions {w w' : World} (h : SameListeners w w') (hheard : w.store.HeardBySessions) :
    w'.store.HeardBySessions := by
  unfold Store.HeardBySessions
  rw [h.registrations]
  exact hheard

theorem sameListeners_afterEvaluation (w : World) (latex : Text) : SameListeners w (w.afterEvaluation latex) :=
  ⟨w.store.registrations_evaluate latex, w.store.notifying_evaluate latex⟩

theorem sameListeners_display (w : World) (i : Nat) (s : Session) : SameListeners w (w.display i s) :=
  ⟨rfl, rfl⟩

/-- Telling sessions one after the other is settled when each of them is. -/
theorem exists_settle_hear (depth quiet : Nat)
    (hrefresh : ∀ w : World, w.store.HeardBySessions → w.store.quiet = quiet → ∀ i,
      ∃ w', settle depth w [.refresh i] = some w' ∧ SameListeners w w') :
    ∀ (listeners : List Listener) (w : World), (∀ l ∈ listeners, ∃ i, l = .session i) →
      w.store.HeardBySessions → w.store.quiet = quiet →
      ∃ w', settle (depth + 1) w (listeners.map .hear) = some w' ∧ SameListeners w w'
  | [], w, _, _, _ => ⟨w, by simp [settle], .refl w⟩
  | l :: rest, w, hsessions, hheard, hquiet => by
    obtain ⟨i, rfl⟩ := hsessions l (by simp)
    obtain ⟨mid, hmid, hsame⟩ := hrefresh w hheard hquiet i
    obtain ⟨w', hw', hsame'⟩ := exists_settle_hear depth quiet hrefresh rest mid
      (fun l hl => hsessions l (by simp [hl]))
      (hsame.heardBySessions hheard)
      (hsame.quiet_eq.trans hquiet)
    refine ⟨w', ?_, hsame.trans hsame'⟩
    have hhear : settle (depth + 1) w [.hear (.session i)] = some mid := settle_singleton hmid
    simpa only [List.map_cons, List.singleton_append, hw'] using
      settle_append hhear (rest.map .hear)

/-- Announcing a variable is settled when its listeners are told and hushed; the announcement is over then. -/
theorem exists_settle_telling {depth : Nat} {w : World} (ident : Ident) (hheard : w.store.HeardBySessions)
    (hrefresh : ∀ u : World, u.store.HeardBySessions → u.store.quiet = (w.telling ident).store.quiet → ∀ i,
      ∃ u', settle depth u [.refresh i] = some u' ∧ SameListeners u u') :
    ∃ w', settle (depth + 1) (w.telling ident) ((w.store.listeners ident).map .hear ++ [.hush]) = some w' ∧
      SameListeners w w' := by
  obtain ⟨told, htold, hsame⟩ := exists_settle_hear depth _ hrefresh _ (w.telling ident)
    (hheard.exists_session ident) hheard rfl
  have hhush : settle (depth + 1) told [.hush] = some (told.run .hush).1 := settle_of_leaf rfl
  refine ⟨_, (settle_append htold [.hush]).trans hhush, hsame.registrations, ?_⟩
  change told.store.notifying.tail = w.store.notifying
  rw [hsame.notifying]
  rfl

theorem exists_settle_settle (depth : Nat) (w : World) (i : Nat) (r : Option Evaluation) :
    ∃ w', settle (depth + 1) w [.settle i r] = some w' ∧ SameListeners w w' := by
  refine ⟨_, settle_of_leaf ?_, ?_⟩
  · simp only [run]; split <;> (try split) <;> rfl
  · simp only [run]; split <;> (try split) <;> exact ⟨rfl, rfl⟩

/-- Evaluating a session is settled within two levels for every quiet registration and two more. -/
theorem exists_settle_refresh (quiet : Nat) : ∀ (w : World) (depth i : Nat), w.store.HeardBySessions →
    w.store.quiet = quiet → 2 * quiet + 2 ≤ depth →
    ∃ w', settle depth w [.refresh i] = some w' ∧ SameListeners w w' := by
  induction quiet using Nat.strongRecOn with
  | ind quiet ih =>
    intro w depth i hheard hquiet hdepth
    obtain ⟨depth, rfl⟩ := Nat.exists_eq_add_of_le' (show 2 ≤ depth by omega)
    obtain ⟨-, hrun⟩ | ⟨s, -, -, hrefreshed⟩ := w.run_refresh_cases i
    · exact ⟨w, by rw [settle_of_leaf] <;> simp [hrun], .refl w⟩
    have hsame := w.sameListeners_afterEvaluation s.latex
    generalize hrun : w.run (.refresh i) = left at hrefreshed
    cases hrefreshed with
    | refused reason houtcome =>
      obtain ⟨w', hw', hsame'⟩ := exists_settle_settle depth (w.afterEvaluation s.latex) i none
      exact ⟨w', settle_singleton (by rw [hrun]; exact hw'), hsame.trans hsame'⟩
    | unheard e houtcome hunheard =>
      obtain ⟨w', hw', hsame'⟩ := exists_settle_settle depth (w.afterEvaluation s.latex) i (some e)
      exact ⟨w', settle_singleton (by rw [hrun]; exact hw'), hsame.trans hsame'⟩
    | heard e ident houtcome hdefined hlisteners =>
      have hfresh : ident ∉ (w.afterEvaluation s.latex).store.notifying := by
        rw [hsame.notifying]
        exact Store.not_mem_notifying_of_evaluate houtcome hdefined
      have hless : ((w.afterEvaluation s.latex).telling ident).store.quiet < quiet := by
        rw [← hquiet, ← hsame.quiet_eq]
        exact Store.quiet_announce_lt hfresh hlisteners
      obtain ⟨told, htold, hsameTold⟩ := exists_settle_telling ident (hsame.heardBySessions hheard)
        fun u hu hq j => ih _ hless u depth j hu hq (by omega)
      obtain ⟨w', hw', hsame'⟩ := exists_settle_settle depth told i (some e)
      refine ⟨w', settle_singleton ?_, (hsame.trans hsameTold).trans hsame'⟩
      rw [hrun, List.append_cons, settle_append htold]
      exact hw'

/-- Ending a listener's subscriptions takes out its registrations for them and leaves the others. -/
theorem unsubscribe_all (store : Store) (idents : List Ident) (subscriber : Subscriber) :
    idents.foldl (fun store ident => store.unsubscribe ident subscriber) store =
      { store with registrations :=
          store.registrations.filter fun r => !(idents.contains r.ident && r.subscriber == subscriber) } := by
  induction idents generalizing store with
  | nil =>
    rw [List.filter_eq_self.mpr (by simp)]
    rfl
  | cons ident idents ih =>
    rw [List.foldl_cons, ih]
    simp only [Store.unsubscribe, List.filter_filter]
    congr 1
    apply List.filter_congr
    intro r _
    rw [Bool.eq_iff_iff]
    simp only [List.contains_cons, Bool.and_eq_true, Bool.not_eq_true', Bool.and_eq_false_imp,
      beq_eq_false_iff_ne, beq_iff_eq, Bool.or_eq_true, ne_eq]
    rw [or_imp, and_comm]

/-- What an action that leaves no watcher behind begins with: at most a session that is to be evaluated, or one
variable whose listeners are to be told. -/
inductive Begun (w : World) : World × List Task → Prop where
  | finished (w' : World) (hnotifying : w'.store.notifying = w.store.notifying)
      (hregistrations : w'.store.registrations ⊆ w.store.registrations) : Begun w (w', [])
  | opened (w' : World) (i : Nat) (hsame : SameListeners w w') : Begun w (w', [.refresh i, .attach i])
  | told (w' : World) (ident : Ident) (hsame : SameListeners w w') (hheard : w'.store.listeners ident ≠ []) :
      Begun w (w'.telling ident, (w'.store.listeners ident).map .hear ++ [.hush])

theorem SameListeners.begun {w w' : World} (h : SameListeners w w') : w.Begun (w', []) :=
  .finished w' h.notifying fun _ hr => h.registrations ▸ hr

theorem begun_announce {w w' : World} (hsame : SameListeners w w') (ident : Ident) : w.Begun (w'.announce ident) := by
  unfold announce
  split
  · exact hsame.begun
  · next hlisteners => exact .told w' ident hsame hlisteners

theorem begun_evaluate (w : World) (latex : Text) : w.Begun ((w.evaluate latex).1, (w.evaluate latex).2.1) := by
  have hsame := w.sameListeners_afterEvaluation latex
  unfold evaluate
  cases houtcome : (w.store.evaluate latex).2 with
  | error reason =>
    simp only [houtcome]
    exact hsame.begun
  | ok e =>
    simp only [houtcome]
    cases e.defined with
    | none => exact hsame.begun
    | some ident => exact begun_announce hsame ident

/-- Ending a session takes out registrations and nothing else. -/
theorem quieter_dispose (w : World) (i : Nat) (s : Session) :
    (w.dispose i s).store.notifying = w.store.notifying ∧
      (w.dispose i s).store.registrations ⊆ w.store.registrations := by
  unfold dispose
  split
  · exact ⟨rfl, List.Subset.refl _⟩
  · rw [unsubscribe_all]
    exact ⟨rfl, List.filter_sublist.subset⟩

theorem sameListeners_setShow (w : World) (i : Nat) (s : Session) (showResult : Bool) :
    SameListeners w (w.setShow i s showResult) := by
  unfold setShow
  split
  · exact .refl w
  · exact sameListeners_display w i _

/-- An action on a session tells nobody. -/
theorem begun_onSession (w : World) (i : Nat) {act : Session → World}
    (hact : ∀ s, (act s).store.notifying = w.store.notifying ∧ (act s).store.registrations ⊆ w.store.registrations) :
    w.Begun ((w.onSession i act).1, (w.onSession i act).2.1) := by
  unfold onSession
  cases w.session? i with
  | none => exact (SameListeners.refl w).begun
  | some s => exact .finished _ (hact s).1 (hact s).2

theorem begun_define (w : World) (ident : Ident) (value : Float) (aliases : List Text) :
    w.Begun ((w.onStore (.define ident value aliases)).1, (w.onStore (.define ident value aliases)).2.1) := by
  simp only [onStore, Store.define]
  cases w.store.isNotifying ident with
  | true => exact (SameListeners.refl w).begun
  | false =>
    have hsame : SameListeners w { w with store := w.store.insert ident ⟨value, aliases⟩ } := ⟨rfl, rfl⟩
    exact begun_announce hsame ident

/-- An action on the store begins in one of these ways. -/
theorem begun_onStore (w : World) {action : Action} (haction : action.Watcherless) :
    w.Begun ((w.onStore action).1, (w.onStore action).2.1) := by
  cases action with
  | watch => exact haction.elim
  | openSession latex showResult subscriber? => cases subscriber? <;> exact .opened _ _ ⟨rfl, rfl⟩
  | evaluate latex quiet =>
    have hbegun := w.begun_evaluate latex
    simp only [onStore]
    cases (w.evaluate latex).2.2 <;> exact hbegun
  | define ident value aliases => exact w.begun_define ident value aliases
  | notify ident => exact begun_announce (.refl w) ident
  | unsubscribe ident subscriber => exact .finished _ rfl List.filter_sublist.subset
  | mintIdent | mintSubscriber | resolve | resolveAny | aliasTable | lookup | dropStore | dispose | toggle | setShow
  | drop => exact SameListeners.begun ⟨rfl, rfl⟩

/-- Every action that leaves no watcher behind begins in one of these ways. -/
theorem begun_take (w : World) {action : Action} (haction : action.Watcherless) :
    w.Begun ((w.take action).1, (w.take action).2.1) := by
  have hshow (i : Nat) (s : Session) (showResult : Bool) :
      (w.setShow i s showResult).store.notifying = w.store.notifying ∧
        (w.setShow i s showResult).store.registrations ⊆ w.store.registrations := by
    have hsame := w.sameListeners_setShow i s showResult
    exact ⟨hsame.notifying, fun _ hr => hsame.registrations ▸ hr⟩
  cases action with
  | dispose i => exact w.begun_onSession i (w.quieter_dispose i)
  | toggle i => exact w.begun_onSession i fun s => hshow i s _
  | setShow i showResult => exact w.begun_onSession i fun s => hshow i s _
  | drop i =>
    simp only [take]
    cases w.session? i with
    | none => exact (SameListeners.refl w).begun
    | some s =>
      obtain ⟨hnotifying, hregistrations⟩ := w.quieter_dispose i s
      exact .finished _ hnotifying hregistrations
  | _ =>
    simp only [take]
    split
    · exact w.begun_onStore haction
    · exact (SameListeners.refl w).begun

/-- When only sessions listen, an action that leaves no watcher behind is over after finitely many tasks. -/
theorem settles_of_watcherless {w : World} {action : Action} (hheard : w.store.HeardBySessions)
    (haction : action.Watcherless) : w.Settles action := by
  have hroom : 2 * w.store.registrations.length + 2 ≤ w.depthLimit - 1 := by
    unfold depthLimit watcherDepth
    omega
  obtain ⟨depth, hdepth⟩ := Nat.exists_eq_add_of_le' (show 1 ≤ w.depthLimit by unfold depthLimit watcherDepth; omega)
  have hbegun := w.begun_take haction
  generalize hstart : ((w.take action).1, (w.take action).2.1) = start at hbegun
  suffices h : ∃ w', settle w.depthLimit start.1 start.2 = some w' by
    obtain ⟨w', hw'⟩ := h
    rw [← hstart] at hw'
    exact settles_of_settle w' hw'
  cases hbegun with
  | finished w' => exact ⟨w', by simp [settle]⟩
  | opened w' i hsame =>
    have hquiet := w'.store.quiet_le
    rw [hsame.registrations] at hquiet
    obtain ⟨evaluated, hevaluated, -⟩ :=
      exists_settle_refresh _ w' w.depthLimit i (hsame.heardBySessions hheard) rfl (by omega)
    have hattach : settle w.depthLimit evaluated [.attach i] = some (evaluated.run (.attach i)).1 := by
      rw [hdepth]
      apply settle_of_leaf
      simp only [run]
      split <;> rfl
    exact ⟨_, (settle_append hevaluated [.attach i]).trans hattach⟩
  | told w' ident hsame hlisteners =>
    have hquiet := (w'.telling ident).store.quiet_le
    change _ ≤ w'.store.registrations.length at hquiet
    rw [hsame.registrations] at hquiet
    obtain ⟨told, htold, -⟩ := exists_settle_telling ident (hsame.heardBySessions hheard)
      fun u hu hq i => exists_settle_refresh _ u depth i hu hq (by omega)
    exact ⟨told, hdepth ▸ htold⟩

/-- An action on sessions is over after finitely many tasks when only sessions listen. -/
theorem settles_of_heardBySessions {w : World} {action : Action} (hheard : w.store.HeardBySessions)
    (haction : action.OfSessions) : w.Settles action := settles_of_watcherless hheard haction.watcherless

end World

end LiveTex
