import LiveTex.Proofs.Sheet.Graph

/-!
Sheets without cycles. When no variable feeds itself and every text keeps its meaning, each session whose
first evaluation succeeded displays what its text comes to under the values at hand, as soon as nothing is
left to be done.
-/

namespace LiveTex.World

/-- How far the opening of a session is: its first evaluation starts, or it has started and other sessions
are being told, or its outcome is taken in. -/
inductive Opening (w : World) (actions : List Action) (i : Nat) (s : Session)
    (expected : Option Evaluation) : List Task → Prop where
  | evaluating (hversion : s.version = 0) : Opening w actions i s expected [.refresh i, .attach i]
  | telling (ts : List Task) (r : Option Evaluation) (hversion : s.version = 0)
      (hts : ∀ t ∈ ts, t.concerns i = false) :
      Opening w actions i s expected (ts ++ [.settle i r, .attach i])
  | evaluated (hversion : s.version = 1)
      (hresult : ∀ e, s.result = some e → expected = some e ∧ Yields w actions i e) :
      Opening w actions i s expected [.attach i]

namespace Opening

variable {w : World} {actions : List Action} {i : Nat} {s : Session} {expected expected' : Option Evaluation}
  {t : Task} {ts : List Task}

theorem ne_nil (h : Opening w actions i s expected ts) : ts ≠ [] := by
  cases h with
  | evaluating | evaluated => exact List.cons_ne_nil _ _
  | telling before => simp

/-- What comes next and concerns the session is its first evaluation or the outcome of that. -/
theorem of_concerns (h : Opening w actions i s expected (t :: ts)) (ht : t.concerns i = true) :
    s.version = 0 ∧ ts = [.attach i] ∧ (t = .refresh i ∨ ∃ r, t = .settle i r) := by
  generalize htasks : t :: ts = tasks at h
  cases h with
  | evaluating hversion =>
    cases htasks
    exact ⟨hversion, rfl, .inl rfl⟩
  | telling before r hversion hbefore =>
    cases before with
    | nil =>
      cases htasks
      exact ⟨hversion, rfl, .inr ⟨r, rfl⟩⟩
    | cons u before =>
      cases htasks
      rw [hbefore t (List.mem_cons_self ..)] at ht
      cases ht
  | evaluated =>
    cases htasks
    cases ht

/-- When nothing is left but a session that starts to listen, that session is being opened, and it has been
evaluated. -/
theorem of_attach {j : Nat} (h : Opening w actions i s expected [.attach j]) :
    j = i ∧ s.version = 1 ∧ ∀ e, s.result = some e → expected = some e ∧ Yields w actions i e := by
  generalize htasks : [Task.attach j] = tasks at h
  cases h with
  | evaluating => cases htasks
  | telling before =>
    have hlength := congrArg List.length htasks
    simp at hlength
  | evaluated hversion hresult =>
    cases htasks
    exact ⟨rfl, hversion, hresult⟩

/-- Tasks of other sessions do not change how far an opening is. -/
theorem step (h : Opening w actions i s expected (t :: ts)) (ht : t.concerns i = false) (hattach : t ≠ .attach i)
    (left : List Task) (hleft : ∀ u ∈ left, u.concerns i = false) :
    Opening w actions i s expected' (left ++ ts) := by
  generalize htasks : t :: ts = tasks at h
  cases h with
  | evaluating =>
    cases htasks
    simp [Task.concerns] at ht
  | telling before r hversion hbefore =>
    cases before with
    | nil =>
      cases htasks
      simp [Task.concerns] at ht
    | cons u before =>
      rw [List.cons_append, List.cons.injEq] at htasks
      obtain ⟨rfl, rfl⟩ := htasks
      rw [← List.append_assoc]
      refine .telling _ r hversion fun u hu => ?_
      rcases List.mem_append.mp hu with hu | hu
      · exact hleft u hu
      · exact hbefore u (List.mem_cons_of_mem _ hu)
  | evaluated =>
    cases htasks
    exact absurd rfl hattach

/-- A session is evaluated: the opened one, or one that is told on the way. -/
theorem refreshed {j : Nat} (h : Opening w actions i s expected (.refresh j :: ts)) {left : List Task}
    (hleft : ∀ u ∈ left, u.concerns i = false) (r : Option Evaluation) :
    Opening w actions i s expected' (left ++ .settle j r :: ts) := by
  by_cases hij : j = i
  · subst hij
    obtain ⟨hversion, rfl, -⟩ := h.of_concerns (by simp [Task.concerns])
    exact .telling left r hversion hleft
  · have hothers : ∀ u ∈ left ++ [.settle j r], u.concerns i = false := by
      intro u hu
      rcases List.mem_append.mp hu with hu | hu
      · exact hleft u hu
      · rw [List.mem_singleton.mp hu]
        simpa [Task.concerns] using hij
    have hstep : Opening w actions i s expected' (left ++ [.settle j r] ++ ts) :=
      h.step (by simpa [Task.concerns] using hij) (by simp) _ hothers
    simpa only [List.append_assoc, List.singleton_append] using hstep

end Opening

/-- The first evaluation of the session failed: it listens to nothing, and nothing concerns it. -/
def Unheard (m : Moment) (i : Nat) (s : Session) : Prop :=
  s.version = 1 ∧ s.result = none ∧ (∀ t ∈ m.tasks, t.concerns i = false) ∧
    ∀ r ∈ m.world.store.registrations, r.listener ≠ .session i

/-- The session listens to what it uses, and it has the expected result or is going to be evaluated. -/
def Current (m : Moment) (i : Nat) (s : Session) (used : List Ident) (expected : Option Evaluation) : Prop :=
  (∀ u ∈ used, ∃ r ∈ m.world.store.registrations,
      r.ident = u ∧ r.listener = .session i ∧ r.subscriber = i + 1) ∧
    ((∃ t ∈ m.tasks, t.concerns i = true) ∨ s.result = expected)

section

variable (w : World) (actions : List Action) (formula : Nat → Text) (target : Nat → Option Ident)

/-- What the text of a session comes to in a store. -/
def expectedIn (store : Store) (i : Nat) : Option Evaluation :=
  Evaluation.expected (formula i) (target i) store.bindings

/-- What holds at all moments of a run without cycles. -/
structure Consistent (m : Moment) : Prop where
  minted : m.world.store.mintedSubscribers = m.world.sessions.length
  numbered : ∀ i s, m.world.sessions[i]? = some s → s.subscriber = i + 1
  registered : ∀ r ∈ m.world.store.registrations, ∃ i s e, r.listener = .session i ∧ r.subscriber = i + 1 ∧
    m.world.sessions[i]? = some s ∧ s.hold ≠ .opening ∧ Yields w actions i e ∧ r.ident ∈ e.used
  framed : Framed w actions m.tasks m.world.store.notifying
  attaching : ∀ i, .attach i ∈ m.tasks → ∃ s, m.world.sessions[i]? = some s ∧ s.hold = .opening
  opening : ∀ i s, m.world.sessions[i]? = some s → s.hold = .opening → s.isDisposed = false ∧
    Opening w actions i s (expectedIn formula target m.world.store i) m.tasks
  pending : ∀ i s r, m.world.sessions[i]? = some s → s.isDisposed = false → .settle i r ∈ m.tasks →
    r = expectedIn formula target m.world.store i ∨ s.hold = .opening ∧ r = none
  current : ∀ i s, m.world.sessions[i]? = some s → s.isDisposed = false → s.hold ≠ .opening →
    Unheard m i s ∨
      Current m i s (Formula.symbolsOf (formula i)) (expectedIn formula target m.world.store i)

end

section

variable {w : World} {actions : List Action} {formula : Nat → Text} {target : Nat → Option Ident}

/-- A session that is being opened does not listen. -/
theorem Consistent.listener_ne {m : Moment} (h : Consistent w actions formula target m) {i : Nat} {s : Session}
    (hs : m.world.sessions[i]? = some s) (hhold : s.hold = .opening) :
    ∀ r ∈ m.world.store.registrations, r.listener ≠ .session i := by
  intro r hr hlistener
  obtain ⟨j, s', e, hlistener', -, hs', hhold', -⟩ := h.registered r hr
  rw [hlistener, Listener.session.injEq] at hlistener'
  subst hlistener'
  obtain rfl := Option.some.inj (hs.symm.trans hs')
  exact hhold' hhold

/-- Only the announced variables and the tasks change. -/
theorem Consistent.of_tasks {u : World} {tasks : List Task}
    (h : Consistent w actions formula target ⟨u, tasks⟩) (tasks' : List Task) (announced : List Ident)
    (hframed : Framed w actions tasks' announced)
    (hattach : ∀ i, .attach i ∈ tasks' → .attach i ∈ tasks)
    (hopening : ∀ i s x, u.sessions[i]? = some s → s.isDisposed = false → Opening w actions i s x tasks →
      Opening w actions i s x tasks')
    (hsettle : ∀ i r, .settle i r ∈ tasks' → .settle i r ∈ tasks)
    (hconcerns : ∀ i s, u.sessions[i]? = some s → s.isDisposed = false →
      ((∃ t ∈ tasks', t.concerns i = true) ↔ ∃ t ∈ tasks, t.concerns i = true)) :
    Consistent w actions formula target
      ⟨{ u with store := { u.store with notifying := announced } }, tasks'⟩ := by
  refine ⟨h.minted, h.numbered, h.registered, hframed, fun i hi => h.attaching i (hattach i hi),
    fun i s hs hhold => ?_, fun i s r hs hlive hr => h.pending i s r hs hlive (hsettle i r hr),
    fun i s hs hlive hhold => ?_⟩
  · obtain ⟨hlive, ho⟩ := h.opening i s hs hhold
    exact ⟨hlive, hopening i s _ hs hlive ho⟩
  · rcases h.current i s hs hlive hhold with ⟨hversion, hresult, hnone, hregistrations⟩ | ⟨hlistens, hdue⟩
    · refine .inl ⟨hversion, hresult, fun t ht => ?_, hregistrations⟩
      by_contra hconcern
      obtain ⟨t', ht', hconcern'⟩ := (hconcerns i s hs hlive).mp ⟨t, ht, by simpa using hconcern⟩
      rw [hnone t' ht'] at hconcern'
      cases hconcern'
    · exact .inr ⟨hlistens, hdue.imp_left (hconcerns i s hs hlive).mpr⟩

theorem Consistent.next_hear {u : World} {i : Nat} {ts : List Task}
    (h : Consistent w actions formula target ⟨u, .hear (.session i) :: ts⟩) :
    Consistent w actions formula target ⟨u, .refresh i :: ts⟩ := by
  refine h.of_tasks _ u.store.notifying h.framed.refresh_of_hear (fun j hj => ?_)
    (fun j s x hs hlive ho => ?_) (fun j r hr => ?_) (fun j s hs hlive => ?_)
  · simpa using hj
  · by_cases hij : i = j
    · subst hij
      obtain ⟨-, -, hnone | ⟨r, hnone⟩⟩ := ho.of_concerns (by simp [Task.concerns]) <;> cases hnone
    · exact ho.step (by simpa [Task.concerns] using hij) (by simp) [.refresh i]
        (by simpa [Task.concerns] using hij)
  · simpa using hr
  · simp [Task.concerns]

theorem Consistent.next_hush {u : World} {ts : List Task}
    (h : Consistent w actions formula target ⟨u, .hush :: ts⟩) :
    Consistent w actions formula target (Moment.next ⟨u, .hush :: ts⟩) := by
  refine h.of_tasks ts u.store.notifying.tail h.framed.tail_of_hush (fun j hj => ?_)
    (fun j s x hs hlive ho => ?_) (fun j r hr => ?_) (fun j s hs hlive => ?_)
  · exact List.mem_cons_of_mem _ hj
  · exact ho.step rfl (by simp) [] (by simp)
  · exact List.mem_cons_of_mem _ hr
  · simp [Task.concerns]

/-- A task of a session that is disposed of does nothing. -/
theorem Consistent.skip {u : World} {i : Nat} {t : Task} {ts : List Task}
    (h : Consistent w actions formula target ⟨u, t :: ts⟩)
    (hgone : ∀ s, u.sessions[i]? = some s → s.isDisposed = true)
    (ht : t = .refresh i ∨ ∃ r, t = .settle i r) : Consistent w actions formula target ⟨u, ts⟩ := by
  have hother : ∀ j s, u.sessions[j]? = some s → s.isDisposed = false → t.concerns j = false := by
    intro j s hs hlive
    have hij : i ≠ j := by
      rintro rfl
      rw [hgone s hs] at hlive
      cases hlive
    rcases ht with rfl | ⟨r, rfl⟩ <;> simpa [Task.concerns] using hij
  refine h.of_tasks ts u.store.notifying (.waiting ?_) (fun j hj => ?_)
    (fun j s x hs hlive ho => ?_) (fun j r hr => ?_) (fun j s hs hlive => ?_)
  · rcases ht with rfl | ⟨r, rfl⟩
    · exact h.framed.of_refresh.1
    · exact h.framed.of_settle
  · exact List.mem_cons_of_mem _ hj
  · exact ho.step (hother j s hs hlive) (by rcases ht with rfl | ⟨r, rfl⟩ <;> simp) [] (by simp)
  · exact List.mem_cons_of_mem _ hr
  · simp [hother j s hs hlive]

theorem Consistent.next_settle {u : World} {i : Nat} {s : Session} {r : Option Evaluation}
    {ts : List Task} (h : Consistent w actions formula target ⟨u, .settle i r :: ts⟩)
    (hpass : Passes w actions ⟨u, .settle i r :: ts⟩) (hs : u.sessions[i]? = some s)
    (hlive : s.isDisposed = false) :
    Consistent w actions formula target ⟨u.display i (s.take r), ts⟩ := by
  have hholds : ∀ (j : Nat) (s₁ : Session), u.sessions[j]? = some s₁ →
      ∃ s₂, (u.sessions.set i (s.take r).render)[j]? = some s₂ ∧ s₂.hold = s₁.hold := fun j s₁ hs₁ =>
    exists_getElem?_set hs₁ (fun _ => rfl) fun hij => by
      subst hij
      obtain rfl := Option.some.inj (hs.symm.trans hs₁)
      rfl
  have hexpected := h.pending i s r hs hlive (List.mem_cons_self ..)
  refine ⟨?_, fun j s' hs' => ?_, fun reg hreg => ?_, .waiting h.framed.of_settle, fun j hj => ?_,
    fun j s' hs' hhold => ?_, fun j s' r' hs' hlive' hr' => ?_, fun j s' hs' hlive' hhold => ?_⟩
  · have hminted := h.minted
    simp only [display, setSession, note, List.length_set]
    exact hminted
  · obtain ⟨rfl, rfl⟩ | ⟨-, hs'⟩ := eq_or_of_getElem?_set hs hs'
    · exact h.numbered j s hs
    · exact h.numbered j s' hs'
  · obtain ⟨j, s', e, hlistener, hsubscriber, hs', hhold, hyield⟩ := h.registered reg hreg
    obtain ⟨s₂, hs₂, hhold₂⟩ := hholds j s' hs'
    exact ⟨j, s₂, e, hlistener, hsubscriber, hs₂, hhold₂ ▸ hhold, hyield⟩
  · obtain ⟨s', hs', hhold⟩ := h.attaching j (List.mem_cons_of_mem _ hj)
    obtain ⟨s₂, hs₂, hhold₂⟩ := hholds j s' hs'
    exact ⟨s₂, hs₂, hhold₂.trans hhold⟩
  · obtain ⟨rfl, rfl⟩ | ⟨hj, hs'⟩ := eq_or_of_getElem?_set hs hs'
    · obtain ⟨-, ho⟩ := h.opening j s hs hhold
      obtain ⟨hversion, rfl, -⟩ := ho.of_concerns (by simp [Task.concerns])
      refine ⟨rfl, .evaluated (congrArg (· + 1) hversion) fun e he => ?_⟩
      change r = some e at he
      subst he
      refine ⟨?_, _, hpass, List.mem_cons_self ..⟩
      rcases hexpected with hexpected | ⟨-, hnone⟩
      · exact hexpected.symm
      · cases hnone
    · obtain ⟨hlive', ho⟩ := h.opening j s' hs' hhold
      exact ⟨hlive', ho.step (by simpa [Task.concerns] using Ne.symm hj) (by simp) [] (by simp)⟩
  · obtain ⟨rfl, rfl⟩ | ⟨-, hs'⟩ := eq_or_of_getElem?_set hs hs'
    · exact h.pending j s r' hs hlive (List.mem_cons_of_mem _ hr')
    · exact h.pending j s' r' hs' hlive' (List.mem_cons_of_mem _ hr')
  · obtain ⟨rfl, rfl⟩ | ⟨hj, hs'⟩ := eq_or_of_getElem?_set hs hs'
    · rcases h.current j s hs hlive hhold with ⟨-, -, hnone, -⟩ | ⟨hlistens, -⟩
      · simpa [Task.concerns] using hnone _ (List.mem_cons_self ..)
      · exact .inr ⟨hlistens, .inr (hexpected.resolve_right fun hopening => hhold hopening.1)⟩
    · rcases h.current j s' hs' hlive' hhold with ⟨hversion, hresult, hnone, hunheard⟩ | ⟨hlistens, hdue⟩
      · exact .inl ⟨hversion, hresult, fun t ht => hnone t (List.mem_cons_of_mem _ ht), hunheard⟩
      · refine .inr ⟨hlistens, hdue.imp_left fun hdue => ?_⟩
        obtain ⟨t, ht, hconcern⟩ := hdue
        -- The task that was done concerns the session that has taken in its outcome.
        rcases List.mem_cons.mp ht with rfl | ht
        · exact absurd (by simpa [Task.concerns] using hconcern) (Ne.symm hj)
        · exact ⟨t, ht, hconcern⟩

theorem Consistent.next_attach {u : World} {i : Nat} {ts : List Task}
    (h : Consistent w actions formula target ⟨u, .attach i :: ts⟩)
    (hused : ∀ j e, Yields w actions j e → e.used = Formula.symbolsOf (formula j)) :
    Consistent w actions formula target (Moment.next ⟨u, .attach i :: ts⟩) := by
  obtain ⟨s, hs, hhold⟩ := h.attaching i (List.mem_cons_self ..)
  obtain ⟨hlive, ho⟩ := h.opening i s hs hhold
  obtain ⟨rfl, hquiet⟩ := h.framed.of_attach
  obtain ⟨-, hversion, hyield⟩ := ho.of_attach
  have hunheard := h.listener_ne hs hhold
  have hnext : Moment.next ⟨u, [.attach i]⟩ = ⟨({ u with store := { u.store with
      registrations := u.store.registrations ++ attachments i s } } : World).setSession i
        { s with subscriptions := s.used, hold := .held }, []⟩ := by
    simp only [Moment.next, run_attach hs, List.append_nil]
  rw [hnext]
  have hself : (u.sessions.set i { s with subscriptions := s.used, hold := .held })[i]? =
      some { s with subscriptions := s.used, hold := .held } :=
    List.getElem?_set_self (List.getElem?_eq_some_iff.mp hs).1
  have hnew : ∀ reg ∈ attachments i s, reg.listener = .session i ∧ reg.subscriber = i + 1 ∧
      ∃ e, s.result = some e ∧ reg.ident ∈ e.used := by
    intro reg hreg
    obtain ⟨ident, hident, rfl⟩ := List.mem_map.mp hreg
    cases hresult : s.result with
    | none => simp [Session.used, hresult] at hident
    | some e => exact ⟨rfl, h.numbered i s hs, e, rfl, by simpa [Session.used, hresult] using hident⟩
  refine ⟨?_, fun j s' hs' => ?_, fun reg hreg => ?_, ?_, fun j hj => ?_, fun j s' hs' hhold' => ?_,
    fun j s' r' hs' hlive' hr' => ?_, fun j s' hs' hlive' hhold' => ?_⟩
  · have hminted := h.minted
    simp only [setSession, List.length_set]
    exact hminted
  · obtain ⟨rfl, rfl⟩ | ⟨-, hs'⟩ := eq_or_of_getElem?_set hs hs'
    · exact h.numbered j s hs
    · exact h.numbered j s' hs'
  · rcases List.mem_append.mp hreg with hold | hreg
    · obtain ⟨j, s', e, hlistener, hsubscriber, hs', hrest⟩ := h.registered reg hold
      have hj : i ≠ j := fun hij => hunheard reg hold (hij ▸ hlistener)
      exact ⟨j, s', e, hlistener, hsubscriber, (List.getElem?_set_ne hj).trans hs', hrest⟩
    · obtain ⟨hlistener, hsubscriber, e, hresult, hident⟩ := hnew reg hreg
      exact ⟨i, _, e, hlistener, hsubscriber, hself, by simp, (hyield e hresult).2, hident⟩
  · change Framed w actions [] u.store.notifying
    rw [hquiet]
    exact .waiting .nil
  · cases hj
  · obtain ⟨rfl, rfl⟩ | ⟨hj, hs'⟩ := eq_or_of_getElem?_set hs hs'
    · cases hhold'
    · obtain ⟨-, ho'⟩ := h.opening j s' hs' hhold'
      exact absurd ho'.of_attach.1.symm hj
  · cases hr'
  · obtain ⟨rfl, rfl⟩ | ⟨hj, hs'⟩ := eq_or_of_getElem?_set hs hs'
    · rcases hresult : s.result with _ | e
      · refine .inl ⟨hversion, rfl, by simp, fun reg hreg hlistener => ?_⟩
        rcases List.mem_append.mp hreg with hold | hreg
        · exact hunheard reg hold hlistener
        · obtain ⟨-, -, e, he, -⟩ := hnew reg hreg
          rw [hresult] at he
          cases he
      · obtain ⟨hexpected, hyields⟩ := hyield e hresult
        refine .inr ⟨fun ident hident => ?_, .inr hexpected.symm⟩
        refine ⟨⟨ident, s.subscriber, .session j⟩, List.mem_append_right _ ?_, rfl, rfl, h.numbered j s hs⟩
        apply List.mem_map_of_mem
        simpa only [Session.used, hresult, Option.map_some, Option.getD_some, hused j e hyields] using hident
    · rcases h.current j s' hs' hlive' hhold' with ⟨hversion', hresult', -, hnone'⟩ | ⟨hlistens, hdue⟩
      · refine .inl ⟨hversion', hresult', by simp, fun reg hreg => ?_⟩
        rcases List.mem_append.mp hreg with hreg | hreg
        · exact hnone' reg hreg
        · rw [(hnew reg hreg).1]
          simpa using Ne.symm hj
      · refine .inr ⟨fun ident hident => ?_, .inr (hdue.resolve_left ?_)⟩
        · obtain ⟨reg, hreg, hrest⟩ := hlistens ident hident
          exact ⟨reg, List.mem_append_left _ hreg, hrest⟩
        · simp [Task.concerns]

section

variable {u : World} {i : Nat} {ts : List Task} {v : Ident} (hacyclic : ∀ v, ¬ Relation.TransGen (Feeds w actions) v v)
  (hyields : ∀ j e, Yields w actions j e → e.used = Formula.symbolsOf (formula j) ∧ e.defined = target j)
  (h : Consistent w actions formula target ⟨u, .refresh i :: ts⟩)

include hyields h

/-- What waits behind an evaluation that is about to start, and the variables that are announced lead to
what it writes. -/
theorem Consistent.framed_of_evaluating :
    Waiting w actions ts u.store.notifying ∧
      ∀ x ∈ u.store.notifying, ∀ v, target i = some v → Relation.TransGen (Feeds w actions) x v := by
  obtain ⟨hwaiting, ⟨-, hquiet⟩ | ⟨e, hyield, hbelow⟩⟩ := h.framed.of_refresh
  · refine ⟨hwaiting, fun x hx => ?_⟩
    rw [show u.store.notifying = [] from hquiet] at hx
    cases hx
  · refine ⟨hwaiting, fun x hx v htarget => ?_⟩
    obtain ⟨y, hy, hreach⟩ := hbelow x hx
    exact Relation.TransGen.tail' hreach ⟨i, e, hyield, hy, (hyields i e hyield).2.trans htarget⟩

/-- The listeners of a written variable can be told: each lies below all that is announced. -/
theorem Consistent.framed_of_heard {e : Evaluation} (hdefined : e.defined = some v) (htarget : target i = some v)
    {listeners : List Listener}
    (hlisteners : ∀ l ∈ listeners, ∃ reg ∈ u.store.registrations, reg.ident = v ∧ reg.listener = l) :
    Framed w actions (listeners.map .hear ++ [.hush] ++ .settle i (some e) :: ts) (v :: u.store.notifying) := by
  obtain ⟨hwaiting, hreach⟩ := h.framed_of_evaluating hyields
  rw [List.append_assoc]
  refine .waiting ((Waiting.hush hdefined hwaiting).hear_append _ fun l hl => ?_)
  obtain ⟨reg, hreg, hident, rfl⟩ := hlisteners l hl
  obtain ⟨k, -, e', hlistener, -, -, -, hyields', hused⟩ := h.registered reg hreg
  refine ⟨k, e', hlistener, hyields', fun x hx => ⟨v, hident ▸ hused, ?_⟩⟩
  rcases List.mem_cons.mp hx with rfl | hx
  · exact .refl
  · exact (hreach x hx v htarget).to_reflTransGen

include hacyclic

/-- Without cycles, an evaluation writes no variable that a pending outcome was computed from. -/
theorem Consistent.not_mem_of_evaluating (hpass : Passes w actions ⟨u, .refresh i :: ts⟩) (htarget : target i = some v)
    {j : Nat} {r : Option Evaluation} (hr : .settle j r ∈ ts) : v ∉ Formula.symbolsOf (formula j) := by
  intro hv
  obtain ⟨hwaiting, hreach⟩ := h.framed_of_evaluating hyields
  obtain ⟨e, rfl, x, hx, hdefined⟩ := hwaiting.exists_of_settle hr
  have hyield : Yields w actions j e := ⟨_, hpass, List.mem_cons_of_mem _ hr⟩
  have hfeeds : Feeds w actions v x := ⟨j, e, hyield, (hyields j e hyield).1 ▸ hv, hdefined⟩
  exact hacyclic v (.head hfeeds (hreach x hx v htarget))

/-- Without cycles, the assignment of a session that has been opened is not refused. -/
theorem Consistent.not_refused {s : Session} (hs : u.sessions[i]? = some s) (hhold : s.hold ≠ .opening)
    {e : Evaluation} (hexpected : expectedIn formula target u.store i = some e) (hdefined : e.defined = some v) :
    v ∉ e.used ∧ v ∉ u.store.notifying := by
  have htarget : target i = some v := (Evaluation.defined_of_expected hexpected).symm.trans hdefined
  obtain ⟨-, hreach⟩ := h.framed_of_evaluating hyields
  refine ⟨fun hv => ?_, fun hv => hacyclic v (hreach v hv v htarget)⟩
  obtain ⟨-, ⟨rfl, -⟩ | ⟨e', hyield, -⟩⟩ := h.framed.of_refresh
  · obtain ⟨s', hs', hhold'⟩ := h.attaching i (by simp)
    obtain rfl := Option.some.inj (hs.symm.trans hs')
    exact hhold hhold'
  · obtain ⟨hused, htarget'⟩ := hyields i e' hyield
    refine hacyclic v (.single ⟨i, e', hyield, ?_, htarget'.trans htarget⟩)
    rw [hused, ← Evaluation.used_of_expected hexpected]
    exact hv

end

/-- A session is evaluated: it gets an outcome, and the sessions that use the written variable are told. -/
theorem Consistent.of_evaluated {u : World} {i : Nat} {s : Session} {r : Option Evaluation}
    {ts : List Task} (h : Consistent w actions formula target ⟨u, .refresh i :: ts⟩) (store : Store)
    (left : List Task) (hs : u.sessions[i]? = some s) (hregistrations : store.registrations = u.store.registrations)
    (hminted : store.mintedSubscribers = u.store.mintedSubscribers)
    (hframed : Framed w actions (left ++ .settle i r :: ts) store.notifying)
    (hleft : ∀ t ∈ left, t = .hush ∨ ∃ reg ∈ u.store.registrations, t = .hear reg.listener)
    (houtcome : r = expectedIn formula target store i ∨ s.hold = .opening ∧ r = none)
    (hwaiting : ∀ j r', .settle j r' ∈ ts →
      expectedIn formula target store j = expectedIn formula target u.store j)
    (htold : ∀ j, expectedIn formula target store j = expectedIn formula target u.store j ∨
      ∃ v ∈ Formula.symbolsOf (formula j), ∀ reg ∈ u.store.registrations, reg.ident = v →
        .hear reg.listener ∈ left) :
    Consistent w actions formula target ⟨{ u with store }, left ++ .settle i r :: ts⟩ := by
  have hheard : ∀ j, (∀ reg ∈ u.store.registrations, reg.listener ≠ .session j) →
      ∀ t ∈ left, t.concerns j = false := by
    intro j hnone t ht
    rcases hleft t ht with rfl | ⟨reg, hreg, rfl⟩
    · rfl
    · obtain ⟨k, -, -, hlistener, -⟩ := h.registered reg hreg
      have hne := hnone reg hreg
      rw [hlistener] at hne ⊢
      simpa [Task.concerns] using hne
  refine ⟨hminted.trans h.minted, h.numbered, fun reg hreg => ?_, hframed, fun j hj => ?_,
    fun j s' hs' hhold => ?_, fun j s' r' hs' hlive hr' => ?_, fun j s' hs' hlive hhold => ?_⟩
  · exact h.registered reg (hregistrations ▸ hreg)
  · refine h.attaching j (List.mem_cons_of_mem _ ?_)
    rcases List.mem_append.mp hj with hmem | hmem
    · rcases hleft _ hmem with heq | ⟨_, _, heq⟩ <;> cases heq
    · simpa using hmem
  · obtain ⟨hlive, ho⟩ := h.opening j s' hs' hhold
    exact ⟨hlive, ho.refreshed (hheard j (h.listener_ne hs' hhold)) r⟩
  · rcases List.mem_append.mp hr' with hmem | hmem
    · rcases hleft _ hmem with heq | ⟨_, _, heq⟩ <;> cases heq
    · rcases List.mem_cons.mp hmem with heq | hr'
      · cases heq
        obtain rfl := Option.some.inj (hs.symm.trans hs')
        exact houtcome
      · rw [show expectedIn formula target _ j = _ from hwaiting j r' hr']
        exact h.pending j s' r' hs' hlive (List.mem_cons_of_mem _ hr')
  · rcases h.current j s' hs' hlive hhold with ⟨hversion, hresult, hnone, hunheard⟩ | ⟨hlistens, hdue⟩
    · have hij : i ≠ j := by
        simpa [Task.concerns] using hnone _ (List.mem_cons_self ..)
      refine .inl ⟨hversion, hresult, fun t ht => ?_, fun reg hreg => hunheard reg (hregistrations ▸ hreg)⟩
      rcases List.mem_append.mp ht with ht | ht
      · exact hheard j hunheard t ht
      · rcases List.mem_cons.mp ht with rfl | ht
        · simpa [Task.concerns] using hij
        · exact hnone t (List.mem_cons_of_mem _ ht)
    · refine .inr ⟨fun v hv => hregistrations ▸ hlistens v hv, ?_⟩
      rcases hdue with ⟨t, ht, hconcerns⟩ | hresult
      · left
        rcases List.mem_cons.mp ht with rfl | ht
        · exact ⟨.settle i r, by simp, hconcerns⟩
        · exact ⟨t, by simp [ht], hconcerns⟩
      · rcases htold j with hsame | ⟨v, hv, hhear⟩
        · right
          exact hresult.trans hsame.symm
        · left
          obtain ⟨reg, hreg, hident, hlistener, -⟩ := hlistens v hv
          have hmem := hhear reg hreg hident
          rw [hlistener] at hmem
          exact ⟨_, List.mem_append_left _ hmem, by simp [Task.concerns]⟩

/-- What an evaluation writes matters to the sessions that use the written variable, and to nothing else. -/
theorem expectedIn_of_evaluate_ok {store : Store} {latex : Text} {i : Nat} {e : Evaluation}
    (hexpected : store.expected latex = expectedIn formula target store i)
    (houtcome : (store.evaluate latex).2 = .ok e) :
    e.defined = target i ∧ some e = expectedIn formula target (store.evaluate latex).1 i ∧
      ∀ j, (∀ v, e.defined = some v → v ∉ Formula.symbolsOf (formula j)) →
        expectedIn formula target (store.evaluate latex).1 j = expectedIn formula target store j := by
  obtain ⟨hok, hrefused, hbindings⟩ := Store.of_evaluate_ok houtcome
  rw [hexpected] at hok
  have hsame : ∀ j, (∀ v, e.defined = some v → v ∉ Formula.symbolsOf (formula j)) →
      expectedIn formula target (store.evaluate latex).1 j = expectedIn formula target store j :=
    fun j hj => Evaluation.expected_congr fun name hname =>
      hbindings name fun hdefined => hj name hdefined hname
  refine ⟨Evaluation.defined_of_expected hok, ?_, hsame⟩
  rw [hsame i fun v hv => ?_, hok]
  rw [← Evaluation.used_of_expected hok]
  exact (hrefused v hv).1

theorem Consistent.next_refresh {u : World} {i : Nat} {s : Session} {ts : List Task}
    (hacyclic : ∀ v, ¬ Relation.TransGen (Feeds w actions) v v)
    (hsteady : ∀ i, Steady w actions i (formula i) (target i))
    (hyields : ∀ j e, Yields w actions j e →
      e.used = Formula.symbolsOf (formula j) ∧ e.defined = target j)
    (h : Consistent w actions formula target ⟨u, .refresh i :: ts⟩)
    (hpass : Passes w actions ⟨u, .refresh i :: ts⟩) (hs : u.sessions[i]? = some s)
    (hlive : s.isDisposed = false) :
    Consistent w actions formula target (Moment.next ⟨u, .refresh i :: ts⟩) := by
  have hexpected : u.store.expected s.latex = expectedIn formula target u.store i :=
    (hsteady i).expected_eq hpass rfl hs
  have hregistrations := u.store.registrations_evaluate s.latex
  have hminted := u.store.mintedSubscribers_evaluate s.latex
  have hnotifying := u.store.notifying_evaluate s.latex
  have hwaiting := h.framed.of_refresh.1
  have hrefreshed := refreshed_run hs hlive
  unfold Moment.next
  simp only
  generalize u.run (.refresh i) = next at hrefreshed ⊢
  cases hrefreshed with
  | refused reason houtcome =>
    obtain ⟨hbindings, hreason⟩ := Store.of_evaluate_error houtcome
    have hsame : ∀ j, expectedIn formula target (u.store.evaluate s.latex).1 j =
        expectedIn formula target u.store j := fun j => by rw [expectedIn, expectedIn, hbindings]
    refine h.of_evaluated _ [] hs hregistrations hminted (hnotifying ▸ .settling hwaiting) (by simp)
      ?_ (fun j _ _ => hsame j) (fun j => .inl (hsame j))
    rcases hreason with hnone | ⟨e, v, hok, hdefined, hrefused⟩
    · left
      rw [hsame, ← hexpected, hnone]
    · by_cases hhold : s.hold = .opening
      · exact .inr ⟨hhold, rfl⟩
      · obtain ⟨hused, hquiet⟩ := h.not_refused hacyclic hyields hs hhold (hexpected ▸ hok) hdefined
        exact absurd hrefused (not_or_intro hused hquiet)
  | unheard e houtcome hunheard =>
    obtain ⟨hdefined, hok, hsame⟩ := expectedIn_of_evaluate_ok hexpected houtcome
    refine h.of_evaluated _ [] hs hregistrations hminted (hnotifying ▸ .settling hwaiting) (by simp)
      (.inl hok) (fun j r hr => hsame j fun v hv => ?_) (fun j => ?_)
    · exact h.not_mem_of_evaluating hacyclic hyields hpass (hdefined.symm.trans hv) hr
    · by_cases hj : ∃ v ∈ Formula.symbolsOf (formula j), e.defined = some v
      · obtain ⟨v, hv, hdefined'⟩ := hj
        refine .inr ⟨v, hv, fun reg hreg hident => ?_⟩
        have hlistener : reg.listener ∈ (u.afterEvaluation s.latex).store.listeners v :=
          Store.mem_listeners_iff.mpr ⟨reg, hregistrations ▸ hreg, hident, rfl⟩
        rw [hunheard v hdefined'] at hlistener
        cases hlistener
      · exact .inl (hsame j fun v hv hmem => hj ⟨v, hmem, hv⟩)
  | heard e v houtcome hdefined hheard =>
    obtain ⟨htarget, hok, hsame⟩ := expectedIn_of_evaluate_ok hexpected houtcome
    have hlisteners : ∀ l, l ∈ (u.afterEvaluation s.latex).store.listeners v ↔
        ∃ reg ∈ u.store.registrations, reg.ident = v ∧ reg.listener = l := fun l => by
      rw [Store.mem_listeners_iff]
      simp only [afterEvaluation, hregistrations]
    have hframed := h.framed_of_heard hyields hdefined (htarget.symm.trans hdefined) fun l => (hlisteners l).mp
    have key := h.of_evaluated ((u.afterEvaluation s.latex).telling v).store
      (((u.afterEvaluation s.latex).store.listeners v).map .hear ++ [.hush]) (r := some e)
      hs hregistrations hminted (by rw [← hnotifying] at hframed; exact hframed) ?_ (.inl hok)
      (fun j r hr => hsame j fun v' hv' =>
        h.not_mem_of_evaluating hacyclic hyields hpass (htarget.symm.trans hv') hr) fun j => ?_
    · simp only [List.append_assoc, List.cons_append, List.nil_append] at key ⊢
      exact key
    · intro t ht
      rcases List.mem_append.mp ht with ht | ht
      · obtain ⟨l, hl, rfl⟩ := List.mem_map.mp ht
        obtain ⟨reg, hreg, -, rfl⟩ := (hlisteners l).mp hl
        exact .inr ⟨reg, hreg, rfl⟩
      · exact .inl (List.mem_singleton.mp ht)
    · by_cases hj : v ∈ Formula.symbolsOf (formula j)
      · refine .inr ⟨v, hj, fun reg hreg hident => List.mem_append_left _ (List.mem_map_of_mem ?_)⟩
        exact (hlisteners _).mpr ⟨reg, hreg, hident, rfl⟩
      · refine .inl (hsame j fun v' hv' => ?_)
        rw [hdefined, Option.some.injEq] at hv'
        exact hv' ▸ hj

theorem Consistent.next {m : Moment} (hacyclic : ∀ v, ¬ Relation.TransGen (Feeds w actions) v v)
    (hsteady : ∀ i, Steady w actions i (formula i) (target i))
    (hyields : ∀ j e, Yields w actions j e →
      e.used = Formula.symbolsOf (formula j) ∧ e.defined = target j) (hof : m.OfSessions)
    (hpass : Passes w actions m) (h : Consistent w actions formula target m) :
    Consistent w actions formula target m.next := by
  obtain ⟨u, tasks⟩ := m
  cases tasks with
  | nil => exact h
  | cons t ts =>
    have ht := hof.tasks t (List.mem_cons_self ..)
    cases ht using Task.OfSessions.cases with
    | hear i => exact h.next_hear
    | hush => exact h.next_hush
    | refresh i =>
      obtain ⟨hgone, hrun⟩ | ⟨s, hs, hlive, -⟩ := u.run_refresh_cases i
      · rw [Moment.next_cons, hrun]
        exact h.skip hgone (.inl rfl)
      · exact h.next_refresh hacyclic hsteady hyields hpass hs hlive
    | settle i r =>
      obtain ⟨hgone, hrun⟩ | ⟨s, hs, hlive, hrun⟩ := u.run_settle_cases i r
      · rw [Moment.next_cons, hrun]
        exact h.skip hgone (.inr ⟨r, rfl⟩)
      · rw [Moment.next_cons, hrun]
        exact h.next_settle hpass hs hlive
    | attach i => exact h.next_attach fun j e hyield => (hyields j e hyield).1

/-- Between actions no session is being opened. -/
theorem Consistent.hold_ne_opening {u : World} (h : Consistent w actions formula target ⟨u, []⟩) {i : Nat}
    {s : Session} (hs : u.sessions[i]? = some s) : s.hold ≠ .opening := by
  intro hhold
  obtain ⟨-, ho⟩ := h.opening i s hs hhold
  exact ho.ne_nil rfl

/-- Between actions nothing is announced. -/
theorem Consistent.notifying_eq {u : World} (h : Consistent w actions formula target ⟨u, []⟩) :
    u.store.notifying = [] :=
  h.framed.of_nil

/-- A session after an action between two idle moments. Unless it is disposed of, it keeps its result and
its registrations. -/
structure Remains (u u' : World) (s s' : Session) : Prop where
  subscriber : s'.subscriber = s.subscriber
  hold : s'.hold ≠ .opening
  alive : s'.isDisposed = false → s.isDisposed = false ∧ s'.result = s.result ∧ s'.version = s.version ∧
    ∀ r ∈ u.store.registrations, r.subscriber = s.subscriber → r ∈ u'.store.registrations

/-- An action between two idle moments keeps the values of the variables. -/
structure Untouched (u u' : World) : Prop where
  bindings : u'.store.bindings = u.store.bindings
  minted : u'.store.mintedSubscribers = u.store.mintedSubscribers
  notifying : u'.store.notifying = u.store.notifying
  length : u'.sessions.length = u.sessions.length
  registrations : ∀ r ∈ u'.store.registrations, r ∈ u.store.registrations
  session : ∀ (i : Nat) (s : Session), u.sessions[i]? = some s → s.hold ≠ .opening →
    ∃ s', u'.sessions[i]? = some s' ∧ Remains u u' s s'

theorem Consistent.of_untouched {u u' : World} (h : Consistent w actions formula target ⟨u, []⟩)
    (huntouched : Untouched u u') : Consistent w actions formula target ⟨u', []⟩ := by
  have hsession : ∀ (i : Nat) (s' : Session), u'.sessions[i]? = some s' →
      ∃ s, u.sessions[i]? = some s ∧ Remains u u' s s' := by
    intro i s' hs'
    have hlength := (List.getElem?_eq_some_iff.mp hs').1
    rw [huntouched.length] at hlength
    have hs := List.getElem?_eq_getElem hlength
    obtain ⟨s'', hs'', hremains⟩ := huntouched.session i _ hs (h.hold_ne_opening hs)
    obtain rfl := Option.some.inj (hs'.symm.trans hs'')
    exact ⟨_, hs, hremains⟩
  refine ⟨?_, fun i s' hs' => ?_, fun r hr => ?_, ?_, fun i hi => ?_, fun i s' hs' hhold => ?_,
    fun i s' r hs' hlive hr => ?_, fun i s' hs' hlive hhold => ?_⟩
  · change u'.store.mintedSubscribers = u'.sessions.length
    rw [huntouched.minted, huntouched.length]
    exact h.minted
  · obtain ⟨s, hs, hremains⟩ := hsession i s' hs'
    exact hremains.subscriber.trans (h.numbered i s hs)
  · obtain ⟨i, s, e, hlistener, hsubscriber, hs, hhold, hyield⟩ :=
      h.registered r (huntouched.registrations r hr)
    obtain ⟨s', hs', hremains⟩ := huntouched.session i s hs hhold
    exact ⟨i, s', e, hlistener, hsubscriber, hs', hremains.hold, hyield⟩
  · have hquiet := h.notifying_eq
    rw [← huntouched.notifying] at hquiet
    change Framed w actions [] u'.store.notifying
    rw [hquiet]
    exact .waiting .nil
  · cases hi
  · obtain ⟨s, -, hremains⟩ := hsession i s' hs'
    exact absurd hhold hremains.hold
  · cases hr
  · obtain ⟨s, hs, hremains⟩ := hsession i s' hs'
    obtain ⟨hlive', hresult, hversion, hregistrations⟩ := hremains.alive hlive
    have hexpected : expectedIn formula target u'.store i = expectedIn formula target u.store i := by
      rw [expectedIn, expectedIn, huntouched.bindings]
    rcases h.current i s hs hlive' (h.hold_ne_opening hs) with ⟨hone, hnone, -, hunheard⟩ | ⟨hlistens, hdue⟩
    · exact .inl ⟨hversion.trans hone, hresult.trans hnone, by simp,
        fun r hr => hunheard r (huntouched.registrations r hr)⟩
    · refine .inr ⟨fun v hv => ?_, .inr ?_⟩
      · obtain ⟨r, hr, hident, hlistener, hsubscriber⟩ := hlistens v hv
        exact ⟨r, hregistrations r hr (hsubscriber.trans (h.numbered i s hs).symm), hident, hlistener,
          hsubscriber⟩
      · change s'.result = expectedIn formula target u'.store i
        rw [hexpected, hresult]
        exact hdue.resolve_left (by simp)

/-- A session in the place of another one leaves all others as they are. -/
theorem untouched_of_set {u u' : World} {i : Nat} {s s' : Session} (hs : u.sessions[i]? = some s)
    (hbindings : u'.store.bindings = u.store.bindings)
    (hminted : u'.store.mintedSubscribers = u.store.mintedSubscribers)
    (hnotifying : u'.store.notifying = u.store.notifying) (hsessions : u'.sessions = u.sessions.set i s')
    (hregistrations : ∀ r ∈ u'.store.registrations, r ∈ u.store.registrations)
    (hremains : s.hold ≠ .opening → Remains u u' s s')
    (hothers : ∀ j s'', j ≠ i → u.sessions[j]? = some s'' → ∀ r ∈ u.store.registrations,
      r.subscriber = s''.subscriber → r ∈ u'.store.registrations) : Untouched u u' := by
  have hlength := (List.getElem?_eq_some_iff.mp hs).1
  refine ⟨hbindings, hminted, hnotifying, by rw [hsessions, List.length_set], hregistrations,
    fun j s'' hs'' hhold => ?_⟩
  rw [hsessions]
  by_cases hj : j = i
  · subst hj
    obtain rfl := Option.some.inj (hs.symm.trans hs'')
    exact ⟨s', List.getElem?_set_self hlength, hremains hhold⟩
  · refine ⟨s'', (List.getElem?_set_ne (Ne.symm hj)).trans hs'', rfl, hhold, fun hlive => ?_⟩
    exact ⟨hlive, rfl, rfl, hothers j s'' hj hs''⟩

theorem Untouched.refl (u : World) : Untouched u u :=
  ⟨rfl, rfl, rfl, rfl, fun _ hr => hr, fun _ s hs hhold =>
    ⟨s, hs, rfl, hhold, fun hlive => ⟨hlive, rfl, rfl, fun _ hr _ => hr⟩⟩⟩

theorem untouched_setShow {u : World} {i : Nat} {s : Session} (hs : u.sessions[i]? = some s)
    (showResult : Bool) : Untouched u (u.setShow i s showResult) := by
  unfold setShow
  split
  · exact .refl u
  · exact untouched_of_set hs rfl rfl rfl rfl (fun _ hr => hr)
      (fun hhold => ⟨rfl, hhold, fun hlive => ⟨hlive, rfl, rfl, fun _ hr _ => hr⟩⟩)
      (fun _ _ _ _ _ hr _ => hr)

theorem untouched_dispose {u : World} {i : Nat} {s : Session} (hs : u.sessions[i]? = some s)
    (hdistinct : ∀ j s', j ≠ i → u.sessions[j]? = some s' → s'.subscriber ≠ s.subscriber) :
    Untouched u (u.dispose i s) := by
  unfold dispose
  split
  · exact .refl u
  · simp only [unsubscribe_all]
    refine untouched_of_set hs rfl rfl rfl rfl (fun r hr => (List.mem_filter.mp hr).1)
      (fun hhold => ⟨rfl, hhold, fun hlive => by cases hlive⟩) (fun j s' hj hs' r hr hsubscriber => ?_)
    refine List.mem_filter.mpr ⟨hr, ?_⟩
    have hne : r.subscriber ≠ s.subscriber := hsubscriber ▸ hdistinct j s' hj hs'
    simp [hne]

theorem Consistent.opened {u : World} (h : Consistent w actions formula target ⟨u, []⟩) (latex : Text)
    (showResult : Bool) : Consistent w actions formula target ⟨{ u with
      store := u.store.mintSubscriber.1
      sessions := u.sessions ++ [.new latex u.store.mintSubscriber.2 showResult] },
        [.refresh u.sessions.length, .attach u.sessions.length]⟩ := by
  have hminted : u.store.mintedSubscribers = u.sessions.length := h.minted
  have hsession : ∀ (i : Nat) (s : Session),
      (u.sessions ++ [Session.new latex u.store.mintSubscriber.2 showResult])[i]? = some s →
      u.sessions[i]? = some s ∨
        i = u.sessions.length ∧ s = .new latex (u.sessions.length + 1) showResult := by
    intro i s hs
    by_cases hi : i < u.sessions.length
    · exact .inl (by rwa [List.getElem?_append_left hi] at hs)
    · rw [List.getElem?_append_right (Nat.le_of_not_lt hi), List.getElem?_singleton] at hs
      split at hs
      · next hzero =>
        cases hs
        refine .inr ⟨by omega, ?_⟩
        rw [← hminted]
        rfl
      · cases hs
  have hold : ∀ (i : Nat) (s : Session), u.sessions[i]? = some s →
      (u.sessions ++ [Session.new latex u.store.mintSubscriber.2 showResult])[i]? = some s ∧
        i ≠ u.sessions.length := fun i s hs => by
    have hlength := (List.getElem?_eq_some_iff.mp hs).1
    exact ⟨by rw [List.getElem?_append_left hlength, hs], by omega⟩
  refine ⟨?_, fun i s hs => ?_, fun r hr => ?_, ?_, fun i hi => ?_, fun i s hs hhold => ?_,
    fun i s r hs hlive hr => by simp at hr, fun i s hs hlive hhold => ?_⟩
  · simp [Store.mintSubscriber, hminted]
  · rcases hsession i s hs with hs | ⟨rfl, rfl⟩
    · exact h.numbered i s hs
    · rfl
  · obtain ⟨i, s, e, hlistener, hsubscriber, hs, hrest⟩ := h.registered r hr
    exact ⟨i, s, e, hlistener, hsubscriber, (hold i s hs).1, hrest⟩
  · change Framed w actions _ u.store.notifying
    rw [h.notifying_eq]
    exact .opening _
  · obtain rfl : i = u.sessions.length := by simpa using hi
    exact ⟨.new latex u.store.mintSubscriber.2 showResult, by simp, rfl⟩
  · rcases hsession i s hs with hs | ⟨rfl, rfl⟩
    · exact absurd hhold (h.hold_ne_opening hs)
    · exact ⟨rfl, .evaluating rfl⟩
  · rcases hsession i s hs with hs | ⟨rfl, rfl⟩
    · rcases h.current i s hs hlive hhold with ⟨hversion, hresult, -, hunheard⟩ | ⟨hlistens, hdue⟩
      · refine .inl ⟨hversion, hresult, ?_, hunheard⟩
        simpa [Task.concerns] using Ne.symm (hold i s hs).2
      · exact .inr ⟨hlistens, .inr (hdue.resolve_left (by simp))⟩
    · exact absurd rfl hhold

theorem Consistent.taken {u : World} {action : Action} (haction : action.OfSessions)
    (h : Consistent w actions formula target ⟨u, []⟩) :
    Consistent w actions formula target (u.moment action 0) := by
  have hdistinct : ∀ {i : Nat} {s : Session}, u.sessions[i]? = some s →
      ∀ j s', j ≠ i → u.sessions[j]? = some s' → s'.subscriber ≠ s.subscriber := by
    intro i s hs j s' hj hs' heq
    rw [h.numbered i s hs, h.numbered j s' hs'] at heq
    exact hj (Nat.succ.inj heq)
  have htaken := taken_moment_zero u haction
  generalize u.moment action 0 = m at htaken ⊢
  obtain ⟨u', tasks⟩ := m
  cases htaken with
  | nothing => exact h
  | opened latex showResult => exact h.opened latex showResult
  | disposed i s hs =>
    have hs := getElem?_of_session? hs
    exact h.of_untouched (untouched_dispose hs (hdistinct hs))
  | shown i s showResult hs => exact h.of_untouched (untouched_setShow (getElem?_of_session? hs) showResult)
  | dropped i s s' hs hs' =>
    have hs := getElem?_of_session? hs
    refine (h.of_untouched (untouched_dispose hs (hdistinct hs))).of_untouched ?_
    exact untouched_of_set hs' rfl rfl rfl rfl (fun _ hr => hr)
      (fun _ => ⟨rfl, by simp, fun hlive => ⟨hlive, rfl, rfl, fun _ hr _ => hr⟩⟩)
      (fun _ _ _ _ _ hr _ => hr)

end

/-- The first evaluation of the session succeeded: after it, the session has a result. -/
def FirstSucceeds (w : World) (actions : List Action) (i : Nat) : Prop :=
  ∃ m, Passes w actions m ∧ ∃ s ∈ m.world.sessions[i]?, s.version = 1 ∧ s.result ≠ none

theorem consistent_new (stem : Text) (actions : List Action) (formula : Nat → Text)
    (target : Nat → Option Ident) :
    Consistent (World.new stem) actions formula target ⟨World.new stem, []⟩ where
  minted := rfl
  numbered i s hs := by simp [World.new] at hs
  registered r hr := by cases hr
  framed := .waiting .nil
  attaching i hi := by cases hi
  opening i s hs := by simp [World.new] at hs
  pending i s r hs := by simp [World.new] at hs
  current i s hs := by simp [World.new] at hs

/-- A first success is never undone: a session that was evaluated only once has its result. -/
theorem FirstSucceeds.result_ne_none {w : World} {actions : List Action} {i : Nat}
    (hactions : ∀ action ∈ actions, action.OfSessions) (hheard : w.store.HeardBySessions)
    (h : FirstSucceeds w actions i) {s : Session} (hs : (w.acts actions).sessions[i]? = some s)
    (hversion : s.version = 1) : s.result ≠ none := by
  obtain ⟨m, hm, s₀, hs₀, hversion₀, hresult₀⟩ := h
  have hfirst : FirstSucceeded i m := ⟨s₀, hs₀, Nat.le_of_eq hversion₀.symm, fun _ => hresult₀⟩
  obtain ⟨s', hs', -, hresult⟩ := Passes.carry hactions hheard (fun u a ha hu => hu.take (hactions a ha))
    (fun m hof hm => hm.next hof) hm hfirst
  obtain rfl := Option.some.inj (hs.symm.trans hs')
  exact hresult hversion

/-- In a run of openings, disposals, drops and toggles in which no variable feeds itself and each session keeps its
formula and its target, every live session whose first evaluation succeeded has exactly the result that its formula
comes to under the current values. -/
theorem result_eq_expected {stem : Text} {actions : List Action} {formula : Nat → Text} {target : Nat → Option Ident}
    (hactions : ∀ action ∈ actions, action.OfSessions)
    (hacyclic : ∀ v, ¬ Relation.TransGen (Feeds (World.new stem) actions) v v)
    (hsteady : ∀ i, Steady (World.new stem) actions i (formula i) (target i))
    {i : Nat} {s : Session} (hs : ((World.new stem).acts actions).sessions[i]? = some s)
    (hlive : s.isDisposed = false) (hfirst : FirstSucceeds (World.new stem) actions i) :
    s.result = Evaluation.expected (formula i) (target i) ((World.new stem).acts actions).store.bindings := by
  have hheard := heardBySessions_new stem
  have hyields : ∀ j e, Yields (World.new stem) actions j e →
      e.used = Formula.symbolsOf (formula j) ∧ e.defined = target j :=
    fun j e h => h.used_eq hactions hheard hsteady
  have hconsistent : Consistent (World.new stem) actions formula target ⟨(World.new stem).acts actions, []⟩ :=
    Passes.invariant hactions hheard (consistent_new stem actions formula target)
      (fun u action haction _ _ h => h.taken (hactions action haction))
      (fun m hof hpass _ h => h.next hacyclic hsteady hyields hof hpass) (Passes.final (World.new stem) actions)
  rcases hconsistent.current i s hs hlive (hconsistent.hold_ne_opening hs) with
    ⟨hversion, hresult, -⟩ | ⟨-, hdue⟩
  · exact absurd hresult (hfirst.result_ne_none hactions hheard hs hversion)
  · exact hdue.resolve_left (by simp)

/-- A diamond behind an assignment without a value: `c` uses `a` both directly and through `b`, and `a` is assigned
anew at the end. No variable carries the name `d`, and what it would be called changes with each new variable. -/
theorem result_of_diamond :
    let actions := opening ["d := (-1)!", "a := 2", "b := a + 1", "c := a + b", "a := 5"]
    let w := (World.new ['V']).acts actions
    ∃ s, w.sessions[3]? = some s ∧ s.cell.text = "=11".toList ∧
      s.result = Evaluation.expected "Va + Vb".toList (some "Vc".toList) w.store.bindings := by
  intro actions w
  have hactions : ∀ action ∈ actions, action.OfSessions := ofSessions_opening _
  have hheard := heardBySessions_new ['V']
  have hwithin : ((World.new ['V']).actsWithin 24 actions).isSome := by decide +kernel
  have hmoments := fun m => Passes.mem_momentsWithin (m := m) hheard hactions hwithin
  -- Every evaluation uses identifiers whose last letters come before that of the assigned one.
  have hacyclic : ∀ v, ¬ Relation.TransGen (Feeds (World.new ['V']) actions) v v := by
    refine not_transGen_of_rank (fun u => (u.getLastD 'a').toNat) ?_
    rintro u v ⟨i, e, ⟨m, hm, hsettle⟩, hu, hv⟩
    have hall : ∀ m ∈ (World.new ['V']).momentsWithin 24 actions, ∀ y ∈ m.yielded,
        ∀ u ∈ y.2.used, ∀ v ∈ y.2.defined, (u.getLastD 'a').toNat < (v.getLastD 'a').toNat := by
      decide +kernel
    exact hall m (hmoments m hm) _ (Moment.mem_yielded hsettle) u hu v hv
  have hsteady : ∀ i, Steady (World.new ['V']) actions i
      (["(-1)!".toList, "2".toList, "Va + 1".toList, "Va + Vb".toList, "5".toList].getD i [])
      ([none, some "Va".toList, some "Vb".toList, some "Vc".toList, some "Va".toList].getD i none) := by
    intro i m hm s hs
    have hall : ∀ m ∈ (World.new ['V']).momentsWithin 24 actions, m.world.sessions.length ≤ 5 ∧
        ∀ i < 5, ∀ s ∈ m.world.sessions[i]?,
          m.world.store.formulaOf s.latex =
              ["(-1)!".toList, "2".toList, "Va + 1".toList, "Va + Vb".toList, "5".toList].getD i [] ∧
            (m.Starts i → ∀ e ∈ m.world.store.expected s.latex, e.defined =
              [none, some "Va".toList, some "Vb".toList, some "Vc".toList, some "Va".toList].getD i none) := by
      decide +kernel
    obtain ⟨hfew, hmeaning⟩ := hall m (hmoments m hm)
    exact hmeaning i (Nat.lt_of_lt_of_le (List.getElem?_eq_some_iff.mp hs).1 hfew) s hs
  have hfirst : FirstSucceeds (World.new ['V']) actions 3 := by
    refine ⟨_, Passes.append (opening ["d := (-1)!", "a := 2", "b := a + 1", "c := a + b"]) (opening ["a := 5"])
      (.idle _ _), ?_⟩
    rw [acts_eq_get_actsWithin (n := 24) hheard (ofSessions_opening _) (by decide +kernel)]
    decide +kernel
  obtain ⟨s, hs, hlive, htext⟩ : ∃ s ∈ w.sessions[3]?, s.isDisposed = false ∧ s.cell.text = "=11".toList := by
    simp only [w]
    rw [acts_eq_get_actsWithin (n := 24) hheard hactions (by decide +kernel)]
    decide +kernel
  exact ⟨s, hs, htext, result_eq_expected hactions hacyclic hsteady hs hlive hfirst⟩

end LiveTex.World
