import LiveTex.Proofs.Sheet.Run

/-!
Runs in which variables are defined by evaluations only. Each of their steps evaluates one text, or it evaluates
nothing and leaves the variables as they are.
-/

namespace LiveTex

/-- The actions that leave it to evaluations to define variables and to announce them. -/
def Action.ThroughEvaluation : Action → Prop
  | .define .. | .watch .. | .notify _ | .mintIdent => False
  | _ => True

instance : DecidablePred Action.ThroughEvaluation
  | .define .. | .watch .. | .notify _ | .mintIdent => .isFalse id
  | .openSession .. | .dispose _ | .toggle _ | .setShow .. | .drop _ | .evaluate .. | .mintSubscriber | .resolve _
  | .resolveAny _ | .aliasTable | .lookup _ | .unsubscribe .. | .dropStore => .isTrue trivial

theorem Action.ThroughEvaluation.watcherless {action : Action} (h : action.ThroughEvaluation) : action.Watcherless := by
  cases action with
  | watch => exact h.elim
  | _ => trivial

/-- The variables stay as they are, nothing new is registered or announced, and the sessions keep their texts and
their results. -/
structure World.Unwritten (w w' : World) : Prop where
  stem : w'.store.stem = w.store.stem
  minted : w'.store.mintedIdents = w.store.mintedIdents
  entries : w'.store.entries = w.store.entries
  registrations : w'.store.registrations ⊆ w.store.registrations
  notifying : w'.store.notifying ⊆ w.store.notifying
  sessions : ∀ s' ∈ w'.sessions, ∃ s ∈ w.sessions, s'.latex = s.latex ∧ s'.result = s.result

namespace World

variable {w w' w'' : World} {i : Nat} {s u : Session}

theorem Unwritten.refl (w : World) : w.Unwritten w :=
  ⟨rfl, rfl, rfl, List.Subset.refl _, List.Subset.refl _, fun s hs => ⟨s, hs, rfl, rfl⟩⟩

theorem Unwritten.trans (h : w.Unwritten w') (h' : w'.Unwritten w'') : w.Unwritten w'' where
  stem := h'.stem.trans h.stem
  minted := h'.minted.trans h.minted
  entries := h'.entries.trans h.entries
  registrations := List.Subset.trans h'.registrations h.registrations
  notifying := List.Subset.trans h'.notifying h.notifying
  sessions s'' hs'' := by
    obtain ⟨s', hs', hlatex', hresult'⟩ := h'.sessions s'' hs''
    obtain ⟨s, hs, hlatex, hresult⟩ := h.sessions s' hs'
    exact ⟨s, hs, hlatex'.trans hlatex, hresult'.trans hresult⟩

/-- One session changes, but neither its text nor its result. -/
theorem Unwritten.setSession (h : w.Unwritten w') (hs : w'.sessions[i]? = some s) (hlatex : u.latex = s.latex)
    (hresult : u.result = s.result) : w.Unwritten (w'.setSession i u) := by
  refine h.trans ⟨rfl, rfl, rfl, List.Subset.refl _, List.Subset.refl _, fun s' hs' => ?_⟩
  obtain hs' | rfl := List.mem_or_eq_of_mem_set hs'
  · exact ⟨s', hs', rfl, rfl⟩
  · exact ⟨s, List.mem_of_getElem? hs, hlatex, hresult⟩

theorem unwritten_setShow (hs : w.sessions[i]? = some s) (showResult : Bool) : w.Unwritten (w.setShow i s showResult) := by
  unfold setShow
  split
  · exact .refl w
  · have hset := (Unwritten.refl w).setSession (u := { s with showResult }.render) hs rfl rfl
    exact ⟨rfl, rfl, rfl, List.Subset.refl _, List.Subset.refl _, hset.sessions⟩

theorem unwritten_dispose (hs : w.sessions[i]? = some s) : w.Unwritten (w.dispose i s) := by
  unfold dispose
  split
  · exact .refl w
  · rw [unsubscribe_all]
    have hset := (Unwritten.refl w).setSession (u := { s with state := .disposed, subscriptions := [] }) hs rfl rfl
    exact ⟨rfl, rfl, rfl, List.filter_sublist.subset, List.Subset.refl _, hset.sessions⟩

theorem unwritten_onSession {act : Session → World} (hact : ∀ s, w.sessions[i]? = some s → w.Unwritten (act s)) :
    w.Unwritten (w.onSession i act).1 ∧ (w.onSession i act).2.1 = [] := by
  unfold onSession
  cases hs : w.session? i with
  | none => exact ⟨.refl w, rfl⟩
  | some s => exact ⟨hact s (getElem?_of_session? hs), rfl⟩

theorem unwritten_drop (w : World) (i : Nat) : w.Unwritten (w.take (.drop i)).1 ∧ (w.take (.drop i)).2.1 = [] := by
  cases hs : w.session? i with
  | none =>
    simp only [take, hs, and_true]
    exact .refl w
  | some s =>
    obtain ⟨s', hs'⟩ := exists_getElem?_dispose hs
    simp only [take, hs, hs', Option.getD_some, and_true]
    exact (unwritten_dispose (getElem?_of_session? hs)).setSession hs' rfl rfl

/-- Evaluating a text changes the store as the text does, and the variable that it assigned may be announced. -/
theorem evaluate_eq_announced (w : World) (latex : Text) : ∃ announced,
    (w.evaluate latex).1 = { w with store := { (w.store.evaluate latex).1 with
      notifying := announced ++ w.store.notifying } } ∧
    (∀ ident ∈ announced, ∃ e, (w.store.evaluate latex).2 = .ok e ∧ e.defined = some ident) ∧
    (w.evaluate latex).2.2 = (w.store.evaluate latex).2 ∧ ∀ i r, .settle i r ∉ (w.evaluate latex).2.1 := by
  have hnotifying := w.store.notifying_evaluate latex
  have hsame : ({ w with store := (w.store.evaluate latex).1 } : World) =
      { w with store := { (w.store.evaluate latex).1 with notifying := [] ++ w.store.notifying } } := by
    rw [List.nil_append, ← hnotifying]
  unfold evaluate
  cases houtcome : (w.store.evaluate latex).2 with
  | error reason =>
    simp only [houtcome]
    exact ⟨[], hsame, by simp, trivial, by simp⟩
  | ok e =>
    cases hdefined : e.defined with
    | none =>
      simp only [houtcome, hdefined]
      exact ⟨[], hsame, by simp, trivial, by simp⟩
    | some ident =>
      simp only [houtcome, hdefined, announce]
      split
      · exact ⟨[], hsame, by simp, trivial, by simp⟩
      · refine ⟨[ident], ?_, ?_, trivial, by simp⟩
        · simp only [hnotifying, List.cons_append, List.nil_append]
        · intro other hother
          rw [List.mem_singleton] at hother
          exact ⟨e, rfl, hother ▸ hdefined⟩

theorem run_refresh (hs : w.sessions[i]? = some s) (hlive : s.isDisposed = false) :
    w.run (.refresh i) = ((w.evaluate s.latex).1, (w.evaluate s.latex).2.1 ++
      [.settle i (w.evaluate s.latex).2.2.toOption]) := by
  simp [run, hs, hlive]

end World

namespace Moment

variable {m m' : Moment} {latex : Text} {taken : List Call}

theorem OfSessions.acting (h : m.OfSessions) {action : Action} (haction : action.Watcherless) :
    (m.acting action).OfSessions := by
  have htelling {w : World} (hheard : w.store.HeardBySessions) (ident : Ident) :
      ∀ t ∈ (w.store.listeners ident).map Task.hear ++ [.hush], t.OfSessions := by
    intro t ht
    obtain ht | ht := List.mem_append.mp ht
    · obtain ⟨l, hl, rfl⟩ := List.mem_map.mp ht
      obtain ⟨i, rfl⟩ := hheard.exists_session ident l hl
      trivial
    · rw [List.mem_singleton] at ht
      exact ht ▸ trivial
  have hbegun := m.world.begun_take haction
  suffices hstart : (∀ t ∈ (m.world.take action).2.1, t.OfSessions) ∧ (m.world.take action).1.store.HeardBySessions from
    ⟨fun t ht => (List.mem_append.mp ht).elim (hstart.1 t) (h.tasks t), hstart.2⟩
  generalize (m.world.take action).1 = w, (m.world.take action).2.1 = tasks at hbegun
  cases hbegun with
  | finished w' _ hregistrations => exact ⟨by simp, fun r hr => h.heard r (hregistrations hr)⟩
  | opened w' i hsame => exact ⟨by simp [Task.OfSessions], hsame.heardBySessions h.heard⟩
  | told w' ident hsame => exact ⟨htelling (hsame.heardBySessions h.heard) ident, hsame.heardBySessions h.heard⟩

theorem OfSessions.step (h : m.OfSessions) (hstep : m.Step taken m') (htaken : ∀ c ∈ taken, c.action.Watcherless) :
    m'.OfSessions := by
  cases hstep with
  | act action => exact h.acting (htaken _ (List.mem_singleton_self _))
  | next => exact h.next

/-- A step that evaluates a text: an action asks for it, or it is the text of the session whose turn it is. -/
inductive Evaluates (m : Moment) : Text → List Call → Moment → Prop where
  | asked (latex : Text) (quiet : Bool) (hstore : m.world.hasStore = true) :
      m.Evaluates latex [⟨m.world, .evaluate latex quiet⟩] (m.acting (.evaluate latex quiet))
  | refreshed {i : Nat} {s : Session} (hhead : m.tasks.head? = some (.refresh i))
      (hs : m.world.sessions[i]? = some s) (hlive : s.isDisposed = false) : m.Evaluates s.latex m.called m.next

/-- What a step that evaluates a text changes. -/
structure Evaluated (m : Moment) (latex : Text) (m' : Moment) : Prop where
  store : ∃ announced, m'.world.store = { (m.world.store.evaluate latex).1 with
      notifying := announced ++ m.world.store.notifying } ∧
    ∀ ident ∈ announced, ∃ e, (m.world.store.evaluate latex).2 = .ok e ∧ e.defined = some ident
  sessions : m'.world.sessions = m.world.sessions
  outcomes : ∀ i e, .settle i (some e) ∈ m'.tasks →
    .settle i (some e) ∈ m.tasks ∨ (m.world.store.evaluate latex).2 = .ok e

theorem Evaluates.step (h : m.Evaluates latex taken m') : m.Step taken m' := by
  cases h with
  | asked => exact .act _
  | refreshed => exact .next

theorem Evaluates.evaluated (h : m.Evaluates latex taken m') : m.Evaluated latex m' := by
  obtain ⟨announced, hworld, hannounced, houtcome, hsettle⟩ := m.world.evaluate_eq_announced latex
  have hsessions := congrArg World.sessions hworld
  cases h with
  | asked _ quiet hstore =>
    have hacting : m.acting (.evaluate latex quiet) =
        ⟨(m.world.evaluate latex).1, (m.world.evaluate latex).2.1 ++ m.tasks⟩ := by
      simp only [acting, World.take, hstore, ↓reduceIte, World.onStore]
      split <;> rfl
    rw [hacting]
    refine ⟨⟨announced, congrArg World.store hworld, hannounced⟩, hsessions, fun i e he => ?_⟩
    exact (List.mem_append.mp he).elim (fun he => absurd he (hsettle i _)) .inl
  | @refreshed i s hhead hs hlive =>
    obtain ⟨w, tasks⟩ := m
    obtain ⟨ts, rfl⟩ := List.head?_eq_some_iff.mp hhead
    rw [next_cons, World.run_refresh hs hlive]
    refine ⟨⟨announced, congrArg World.store hworld, hannounced⟩, hsessions, fun j e he => ?_⟩
    rw [List.append_assoc, List.mem_append, List.mem_append, List.mem_singleton] at he
    rcases he with he | he | he
    · exact absurd he (hsettle j _)
    · right
      simp only [Task.settle.injEq, houtcome] at he
      cases hvalue : (w.store.evaluate s.latex).2 with
      | error reason =>
        rw [hvalue] at he
        cases he.2
      | ok e' =>
        rw [hvalue] at he
        cases he.2
        rfl
    · exact .inl (List.mem_cons_of_mem _ he)

/-- What a step that evaluates nothing can change. What a session shows was the outcome of an evaluation before, and
what is newly registered is used by a session. -/
structure Bypasses (m : Moment) (taken : List Call) (m' : Moment) : Prop where
  stem : m'.world.store.stem = m.world.store.stem
  minted : m'.world.store.mintedIdents = m.world.store.mintedIdents
  entries : m'.world.store.entries = m.world.store.entries
  registrations : ∀ r ∈ m'.world.store.registrations,
    r ∈ m.world.store.registrations ∨ ∃ s ∈ m.world.sessions, r.ident ∈ s.used
  notifying : m'.world.store.notifying ⊆ m.world.store.notifying
  texts : ∀ s' ∈ m'.world.sessions, (∃ s ∈ m.world.sessions, s'.latex = s.latex) ∨
    ∃ c ∈ taken, ∃ showResult subscriber?, c.action = .openSession s'.latex showResult subscriber?
  results : ∀ s' ∈ m'.world.sessions, ∀ e, s'.result = some e →
    (∃ s ∈ m.world.sessions, s.result = some e) ∨ ∃ i, .settle i (some e) ∈ m.tasks
  outcomes : ∀ i e, .settle i (some e) ∈ m'.tasks → .settle i (some e) ∈ m.tasks

theorem bypasses_of_unwritten (h : m.world.Unwritten m'.world)
    (htasks : ∀ i e, .settle i (some e) ∈ m'.tasks → .settle i (some e) ∈ m.tasks) : m.Bypasses taken m' where
  stem := h.stem
  minted := h.minted
  entries := h.entries
  registrations r hr := .inl (h.registrations hr)
  notifying := h.notifying
  texts s' hs' := by
    obtain ⟨s, hs, hlatex, -⟩ := h.sessions s' hs'
    exact .inl ⟨s, hs, hlatex⟩
  results s' hs' e he := by
    obtain ⟨s, hs, -, hresult⟩ := h.sessions s' hs'
    exact .inl ⟨s, hs, hresult ▸ he⟩
  outcomes := htasks

/-- An action that leaves the variables as they are and no tasks behind. -/
theorem bypasses_of_finished {action : Action}
    (h : m.world.Unwritten (m.world.take action).1 ∧ (m.world.take action).2.1 = []) :
    m.Bypasses taken (m.acting action) :=
  bypasses_of_unwritten h.1 fun i e he => by
    rw [acting, h.2] at he
    exact he

theorem bypasses_open (latex : Text) (showResult : Bool) (subscriber? : Option Subscriber) (hstore : m.world.hasStore = true) :
    m.Bypasses [⟨m.world, .openSession latex showResult subscriber?⟩]
      (m.acting (.openSession latex showResult subscriber?)) := by
  have htake : m.world.take (.openSession latex showResult subscriber?) =
      m.world.onStore (.openSession latex showResult subscriber?) := by
    simp only [World.take, hstore, ↓reduceIte]
  have hopened (store : Store) (subscriber : Subscriber)
      (hsame : { store with mintedSubscribers := m.world.store.mintedSubscribers } = m.world.store) :
      m.Bypasses [⟨m.world, .openSession latex showResult subscriber?⟩]
        ⟨{ m.world with store := store, sessions := m.world.sessions ++ [.new latex subscriber showResult] },
          [.refresh m.world.sessions.length, .attach m.world.sessions.length] ++ m.tasks⟩ := by
    have hstem := congrArg Store.stem hsame
    have hminted := congrArg Store.mintedIdents hsame
    have hentries := congrArg Store.entries hsame
    have hregistrations := congrArg Store.registrations hsame
    have hnotifying := congrArg Store.notifying hsame
    refine ⟨hstem, hminted, hentries, fun r hr => .inl (hregistrations ▸ hr), fun x hx => hnotifying ▸ hx,
      fun s' hs' => ?_, fun s' hs' e he => ?_, fun i e he => by simpa using he⟩
    · obtain hs' | hs' := List.mem_append.mp hs'
      · exact .inl ⟨s', hs', rfl⟩
      · rw [List.mem_singleton] at hs'
        exact .inr ⟨_, List.mem_singleton_self _, showResult, subscriber?, by rw [hs']; rfl⟩
    · obtain hs' | hs' := List.mem_append.mp hs'
      · exact .inl ⟨s', hs', he⟩
      · rw [List.mem_singleton] at hs'
        subst hs'
        cases he
  rw [acting, htake]
  cases subscriber? <;> exact hopened _ _ rfl

theorem evaluates_or_bypasses_of_act {action : Action} (haction : action.ThroughEvaluation) :
    (∃ latex, m.Evaluates latex [⟨m.world, action⟩] (m.acting action)) ∨
      m.Bypasses [⟨m.world, action⟩] (m.acting action) := by
  by_cases hstore : m.world.hasStore = true
  case neg =>
    right
    apply bypasses_of_finished
    cases action with
    | dispose i => exact World.unwritten_onSession fun s hs => World.unwritten_dispose hs
    | toggle i | setShow i => exact World.unwritten_onSession fun s hs => World.unwritten_setShow hs _
    | drop i => exact m.world.unwritten_drop i
    | _ => simp only [World.take, hstore, Bool.false_eq_true, ↓reduceIte, and_true]; exact .refl _
  case pos =>
    cases action with
    | define | watch | notify | mintIdent => exact haction.elim
    | evaluate latex quiet => exact .inl ⟨latex, .asked latex quiet hstore⟩
    | openSession latex showResult subscriber? => exact .inr (bypasses_open latex showResult subscriber? hstore)
    | dispose i =>
      exact .inr (bypasses_of_finished (World.unwritten_onSession fun s hs => World.unwritten_dispose hs))
    | toggle i | setShow i =>
      exact .inr (bypasses_of_finished (World.unwritten_onSession fun s hs => World.unwritten_setShow hs _))
    | drop i => exact .inr (bypasses_of_finished (m.world.unwritten_drop i))
    | unsubscribe ident subscriber =>
      right
      apply bypasses_of_finished
      simp only [World.take, hstore, ↓reduceIte, World.onStore, and_true]
      exact ⟨rfl, rfl, rfl, List.filter_sublist.subset, List.Subset.refl _, (World.Unwritten.refl _).sessions⟩
    | mintSubscriber | resolve | resolveAny | aliasTable | lookup | dropStore =>
      right
      apply bypasses_of_finished
      simp only [World.take, hstore, ↓reduceIte, World.onStore, and_true]
      exact ⟨rfl, rfl, rfl, List.Subset.refl _, List.Subset.refl _, (World.Unwritten.refl _).sessions⟩

theorem bypasses_settle {w : World} {i : Nat} {r : Option Evaluation} {ts : List Task} :
    Bypasses ⟨w, .settle i r :: ts⟩ taken (next ⟨w, .settle i r :: ts⟩) := by
  rw [next_cons]
  obtain ⟨-, hrun⟩ | ⟨s, hs, -, hrun⟩ := w.run_settle_cases i r
  · rw [hrun]
    exact bypasses_of_unwritten (.refl w) fun j e he => List.mem_cons_of_mem _ he
  · rw [hrun]
    refine ⟨rfl, rfl, rfl, fun _ hr => .inl hr, List.Subset.refl _, fun s' hs' => ?_, fun s' hs' e he => ?_,
      fun j e he => List.mem_cons_of_mem _ he⟩
    · obtain hs' | rfl := List.mem_or_eq_of_mem_set hs'
      · exact .inl ⟨s', hs', rfl⟩
      · exact .inl ⟨s, List.mem_of_getElem? hs, rfl⟩
    · obtain hs' | rfl := List.mem_or_eq_of_mem_set hs'
      · exact .inl ⟨s', hs', he⟩
      · change r = some e at he
        exact .inr ⟨i, he ▸ List.mem_cons_self ..⟩

theorem bypasses_attach {w : World} {i : Nat} {ts : List Task} :
    Bypasses ⟨w, .attach i :: ts⟩ taken (next ⟨w, .attach i :: ts⟩) := by
  rw [next_cons]
  cases hs : w.sessions[i]? with
  | none =>
    rw [World.run_attach_of_absent hs]
    exact bypasses_of_unwritten (.refl w) fun j e he => List.mem_cons_of_mem _ he
  | some s =>
    rw [World.run_attach hs]
    have hset := (World.Unwritten.refl w).setSession (u := { s with subscriptions := s.used, hold := .held }) hs rfl rfl
    refine ⟨rfl, rfl, rfl, fun r hr => ?_, List.Subset.refl _, fun s' hs' => ?_, fun s' hs' e he => ?_,
      fun j e he => List.mem_cons_of_mem _ he⟩
    · obtain hr | hr := List.mem_append.mp hr
      · exact .inl hr
      · obtain ⟨ident, hident, rfl⟩ := List.mem_map.mp hr
        exact .inr ⟨s, List.mem_of_getElem? hs, hident⟩
    · obtain ⟨u, hu, hlatex, -⟩ := hset.sessions s' hs'
      exact .inl ⟨u, hu, hlatex⟩
    · obtain ⟨u, hu, -, hresult⟩ := hset.sessions s' hs'
      exact .inl ⟨u, hu, hresult ▸ he⟩

theorem evaluates_or_bypasses_of_next (h : m.OfSessions) :
    (∃ latex, m.Evaluates latex m.called m.next) ∨ m.Bypasses m.called m.next := by
  obtain ⟨w, tasks⟩ := m
  cases tasks with
  | nil => exact .inr (bypasses_of_unwritten (.refl w) fun i e he => he)
  | cons t ts =>
    have hwaiting {left : List Task} (hleft : ∀ i e, .settle i (some e) ∉ left) :
        ∀ i e, .settle i (some e) ∈ left ++ ts → Task.settle i (some e) ∈ t :: ts := fun i e he =>
      List.mem_cons_of_mem _ ((List.mem_append.mp he).resolve_left (hleft i e))
    have ht := h.tasks t (List.mem_cons_self ..)
    cases ht using Task.OfSessions.cases with
    | hear i => exact .inr (bypasses_of_unwritten (.refl w) (hwaiting (by simp [World.run])))
    | hush =>
      exact .inr (bypasses_of_unwritten
        ⟨rfl, rfl, rfl, List.Subset.refl _, fun _ => List.mem_of_mem_tail,
          (World.Unwritten.refl w).sessions⟩ (hwaiting (by simp [World.run])))
    | refresh i =>
      obtain ⟨-, hrun⟩ | ⟨s, hs, hlive, -⟩ := w.run_refresh_cases i
      · rw [next_cons, hrun]
        exact .inr (bypasses_of_unwritten (.refl w) (hwaiting (by simp)))
      · exact .inl ⟨s.latex, .refreshed rfl hs hlive⟩
    | settle i r => exact .inr bypasses_settle
    | attach i => exact .inr bypasses_attach

/-- A step evaluates a text, or it evaluates nothing and leaves the variables as they are. -/
theorem Step.evaluates_or_bypasses (h : m.OfSessions) (hstep : m.Step taken m')
    (htaken : ∀ c ∈ taken, c.action.ThroughEvaluation) :
    (∃ latex, m.Evaluates latex taken m') ∨ m.Bypasses taken m' := by
  cases hstep with
  | act action => exact evaluates_or_bypasses_of_act (htaken _ (List.mem_singleton_self _))
  | next => exact evaluates_or_bypasses_of_next h

end Moment

end LiveTex
