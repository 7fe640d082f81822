import LiveTex.Proofs.Formula.Operands
import LiveTex.Proofs.Sheet.Enrolment
import LiveTex.Proofs.Sheet.Run

/-!
Who is registered. In runs of actions that leave the registrations to sessions, the registrations are those of the
sessions that are not disposed of, in the order in which the sessions were opened, and each session is registered
for what its first evaluation used.
-/

namespace LiveTex

/-- The actions that leave the registrations to sessions: they open, show, hide and end sessions, and evaluate. -/
def Action.OfReaders : Action → Prop
  | .openSession _ _ none | .dispose _ | .toggle _ | .setShow .. | .drop _ | .evaluate .. => True
  | _ => False

theorem Action.OfReaders.watcherless {action : Action} (h : action.OfReaders) : action.Watcherless := by
  cases action with
  | watch => exact h.elim
  | _ => trivial

/-- The tasks that belong to evaluations. -/
def Task.OfEvaluations : Task → Prop
  | .hear (.session _) | .hush | .refresh _ | .settle .. => True
  | _ => False

/-- The tasks of evaluations, one by one. -/
@[elab_as_elim]
theorem Task.OfEvaluations.cases {motive : (t : Task) → t.OfEvaluations → Prop}
    (hear : ∀ i, motive (.hear (.session i)) trivial) (hush : motive .hush trivial)
    (refresh : ∀ i, motive (.refresh i) trivial) (settle : ∀ i r, motive (.settle i r) trivial) {t : Task}
    (h : t.OfEvaluations) : motive t h := by
  cases t with
  | hear l =>
    cases l with
    | session i => exact hear i
    | watcher => exact h.elim
  | hush => exact hush
  | refresh i => exact refresh i
  | settle i r => exact settle i r
  | attach | perform | report => exact h.elim

/-- The first evaluation of the session that an action opens: that of its text against the store as it is. -/
def Action.firstEvaluation (w : World) : Action → List (Option Evaluation)
  | .openSession latex .. => [(w.store.evaluate latex).2.toOption]
  | _ => []

/-- The first evaluations of the sessions that a run opens, in the order in which they are opened. -/
def World.firstEvaluations (w : World) : List Action → List (Option Evaluation)
  | [] => []
  | action :: rest => action.firstEvaluation w ++ (w.act action).1.firstEvaluations rest

/-- A session whose opening is over and whose first evaluation came to `r`: it listens to what that used, until it is
disposed of. -/
structure Session.Listens (r : Option Evaluation) (s : Session) : Prop where
  subscriptions : s.subscriptions = if s.isDisposed then [] else Evaluation.usedBy r
  disposed_of_dropped : s.hold = .dropped → s.isDisposed = true
  evaluated : s.version ≠ 0
  first : s.version = 1 → s.result = r

/-- A session that is being opened. -/
structure Session.Fresh (s : Session) : Prop where
  subscriptions : s.subscriptions = []
  alive : s.isDisposed = false

namespace Session

variable {r : Option Evaluation} {s : Session}

/-- A later evaluation changes nothing about what a session listens to. -/
theorem Listens.settled (h : s.Listens r) (halive : s.isDisposed = false) (r' : Option Evaluation) :
    (s.take r').render.Listens r where
  subscriptions := by
    have hsubscriptions := h.subscriptions
    rw [halive] at hsubscriptions
    exact hsubscriptions
  disposed_of_dropped hdropped := by
    rw [h.disposed_of_dropped hdropped] at halive
    cases halive
  evaluated := Nat.succ_ne_zero _
  first hversion := absurd (Nat.succ.inj hversion) h.evaluated

/-- A session whose opening ends after its first evaluation listens to what that used. -/
theorem listens_attached (s : Session) (r : Option Evaluation) :
    Listens r { (s.take r).render with subscriptions := (s.take r).render.used, hold := .held } where
  subscriptions := rfl
  disposed_of_dropped hdropped := by cases hdropped
  evaluated := Nat.succ_ne_zero _
  first _ := rfl

end Session

namespace World

/-- The same registrations, and as many sessions were numbered. -/
structure SameRegistry (w w' : World) : Prop where
  hasStore : w'.hasStore = w.hasStore
  minted : w'.store.mintedSubscribers = w.store.mintedSubscribers
  registrations : w'.store.registrations = w.store.registrations

/-- The sessions are numbered as they were opened, they are registered for their subscriptions and nobody else is
registered, and those whose first evaluations are known listen to what these used. -/
structure Exact (firsts : List (Option Evaluation)) (w : World) : Prop where
  hasStore : w.hasStore = true
  minted : w.store.mintedSubscribers = w.sessions.length
  numbered : ∀ (i : Nat) (s : Session), w.sessions[i]? = some s → s.subscriber = i + 1
  registrations : w.store.registrations = registrationsFrom 0 w.sessions
  listens : ∀ (i : Nat) (r : Option Evaluation) (s : Session), firsts[i]? = some r → w.sessions[i]? = some s →
    s.Listens r

section

variable {w w' : World} {firsts : List (Option Evaluation)} {i j : Nat} {s u : Session} {t : Task}

theorem SameRegistry.refl (w : World) : SameRegistry w w := ⟨rfl, rfl, rfl⟩

theorem Exact.heardBySessions (h : w.Exact firsts) : w.store.HeardBySessions := by
  intro r hr
  rw [h.registrations] at hr
  obtain ⟨i, -, -, -, -, hlistener⟩ := mem_registrationsFrom hr
  exact ⟨_, hlistener⟩

/-- Telling the listeners of a variable belongs to evaluations of sessions that have subscriptions. -/
theorem Exact.ofEvaluations_hear (h : w.Exact firsts) {ident : Ident} {l : Listener}
    (hl : l ∈ w.store.listeners ident) : (Task.hear l).OfEvaluations ∧
      ∀ i s, w.sessions[i]? = some s → s.subscriptions = [] → (Task.hear l).concerns i = false := by
  obtain ⟨r, hr, -, rfl⟩ := Store.mem_listeners_iff.mp hl
  rw [h.registrations] at hr
  obtain ⟨k, u, hu, hident, -, hlistener⟩ := mem_registrationsFrom hr
  rw [hlistener, Nat.zero_add]
  refine ⟨trivial, fun i s hs hnone => ?_⟩
  have hki : k ≠ i := fun hki => by
    subst hki
    obtain rfl := Option.some.inj (hu.symm.trans hs)
    exact List.ne_nil_of_mem hident hnone
  simpa [Task.concerns] using hki

theorem Exact.ofEvaluations_tell (h : w.Exact firsts) {ident : Ident}
    (ht : t ∈ (w.store.listeners ident).map .hear ++ [.hush]) :
    t.OfEvaluations ∧ ∀ i s, w.sessions[i]? = some s → s.subscriptions = [] → t.concerns i = false := by
  rcases List.mem_append.mp ht with ht | ht
  · obtain ⟨l, hl, rfl⟩ := List.mem_map.mp ht
    exact h.ofEvaluations_hear hl
  · obtain rfl := List.mem_singleton.mp ht
    exact ⟨trivial, fun _ _ _ _ => rfl⟩

theorem Exact.of_same (h : w.Exact firsts) (hsame : SameRegistry w w') (hsessions : w'.sessions = w.sessions) :
    w'.Exact firsts where
  hasStore := hsame.hasStore.trans h.hasStore
  minted := by rw [hsame.minted, hsessions, h.minted]
  numbered := hsessions ▸ h.numbered
  registrations := by rw [hsame.registrations, hsessions, h.registrations]
  listens := hsessions ▸ h.listens

/-- One session changes, and it goes on listening as it did. -/
theorem Exact.of_set (h : w.Exact firsts) (hs : w.sessions[j]? = some s) (hsubscriber : u.subscriber = s.subscriber)
    (hlistens : ∀ r, firsts[j]? = some r → s.Listens r → u.Listens r) (hstore : w'.hasStore = w.hasStore)
    (hminted : w'.store.mintedSubscribers = w.store.mintedSubscribers) (hsessions : w'.sessions = w.sessions.set j u)
    (hregistrations : w'.store.registrations = registrationsFrom 0 (w.sessions.set j u)) : w'.Exact firsts := by
  have hsession (i : Nat) (v : Session) (hv : w'.sessions[i]? = some v) :
      i = j ∧ v = u ∨ w.sessions[i]? = some v := by
    rw [hsessions] at hv
    exact (eq_or_of_getElem?_set hs hv).imp_right And.right
  refine ⟨hstore.trans h.hasStore, ?_, fun i v hv => ?_, by rw [hregistrations, hsessions],
    fun i r v hr hv => ?_⟩
  · rw [hminted, hsessions, List.length_set, h.minted]
  · rcases hsession i v hv with ⟨rfl, rfl⟩ | hv
    · rw [hsubscriber, h.numbered i s hs]
    · exact h.numbered i v hv
  · rcases hsession i v hv with ⟨rfl, rfl⟩ | hv
    · exact hlistens r hr (h.listens i r s hr hs)
    · exact h.listens i r v hr hv

/-- One session changes, but not what it is registered for. -/
theorem Exact.of_set_same (h : w.Exact firsts) (hs : w.sessions[j]? = some s) (hsubscriber : u.subscriber = s.subscriber)
    (hsubscriptions : u.subscriptions = s.subscriptions) (hlistens : ∀ r, s.Listens r → u.Listens r)
    (hsame : SameRegistry w w') (hsessions : w'.sessions = w.sessions.set j u) : w'.Exact firsts :=
  h.of_set hs hsubscriber (fun r _ => hlistens r) hsame.hasStore hsame.minted hsessions (by
    rw [hsame.registrations, h.registrations, registrationsFrom_set hs hsubscriptions hsubscriber])

/-- The first evaluation of one more session is known. -/
theorem Exact.concat (h : w.Exact firsts) {r : Option Evaluation} (hs : w.sessions[firsts.length]? = some s)
    (hlistens : s.Listens r) : w.Exact (firsts ++ [r]) := by
  refine ⟨h.hasStore, h.minted, h.numbered, h.registrations, fun i r' v hr' hv => ?_⟩
  by_cases hi : i < firsts.length
  · exact h.listens i r' v (List.getElem?_append_left hi ▸ hr') hv
  · have hlength := (List.getElem?_eq_some_iff.mp hr').1
    rw [List.length_append, List.length_singleton] at hlength
    obtain rfl : i = firsts.length := by omega
    rw [List.getElem?_concat_length] at hr'
    obtain rfl := Option.some.inj hr'
    obtain rfl := Option.some.inj (hs.symm.trans hv)
    exact hlistens

/-! The tasks of evaluations. -/

theorem sameRegistry_afterEvaluation (w : World) (latex : Text) : SameRegistry w (w.afterEvaluation latex) :=
  ⟨rfl, w.store.mintedSubscribers_evaluate latex, w.store.registrations_evaluate latex⟩

theorem sameRegistry_run (w : World) (ht : t.OfEvaluations) : SameRegistry w (w.run t).1 := by
  cases ht using Task.OfEvaluations.cases with
  | hear => exact .refl w
  | hush => exact ⟨rfl, rfl, rfl⟩
  | refresh j =>
    obtain ⟨-, hrun⟩ | ⟨s, -, -, hrefreshed⟩ := w.run_refresh_cases j
    · rw [hrun]
      exact .refl w
    · have hsame := w.sameRegistry_afterEvaluation s.latex
      generalize w.run (.refresh j) = left at hrefreshed
      cases hrefreshed with
      | refused | unheard => exact hsame
      | heard => exact ⟨hsame.hasStore, hsame.minted, hsame.registrations⟩
  | settle j r =>
    obtain ⟨-, hrun⟩ | ⟨s, -, -, hrun⟩ := w.run_settle_cases j r
    · rw [hrun]
      exact .refl w
    · rw [hrun]
      exact ⟨rfl, rfl, rfl⟩

/-- The task of an evaluation changes at most the session whose outcome is taken in. -/
theorem sessions_run (w : World) (ht : t.OfEvaluations) : (w.run t).1.sessions = w.sessions ∨
    ∃ j r s, t = .settle j r ∧ w.sessions[j]? = some s ∧ s.isDisposed = false ∧
      (w.run t).1.sessions = w.sessions.set j (s.take r).render := by
  cases ht using Task.OfEvaluations.cases with
  | hear | hush => exact .inl rfl
  | refresh j => exact .inl (w.sessions_run_refresh j)
  | settle j r =>
    obtain ⟨-, hrun⟩ | ⟨s, hs, hlive, hrun⟩ := w.run_settle_cases j r
    · rw [hrun]
      exact .inl rfl
    · refine .inr ⟨j, r, s, rfl, hs, hlive, ?_⟩
      rw [hrun]
      rfl

theorem Exact.run (h : w.Exact firsts) (ht : t.OfEvaluations) : (w.run t).1.Exact firsts := by
  rcases w.sessions_run ht with hsessions | ⟨j, r, s, rfl, hs, hlive, hsessions⟩
  · exact h.of_same (w.sameRegistry_run ht) hsessions
  · exact h.of_set_same (u := (s.take r).render) hs rfl rfl (fun _ hlistens => hlistens.settled hlive r)
      (w.sameRegistry_run ht) hsessions

theorem getElem?_run (w : World) (ht : t.OfEvaluations) (hi : t.concerns i = false) :
    (w.run t).1.sessions[i]? = w.sessions[i]? := by
  rcases w.sessions_run ht with hsessions | ⟨j, r, s, rfl, -, -, hsessions⟩
  · rw [hsessions]
  · rw [hsessions, List.getElem?_set_ne (by simpa [Task.concerns] using hi)]

/-- What such a task leaves are such tasks, and they concern no session without subscriptions that it does not concern
itself. -/
theorem Exact.ofEvaluations_run (h : w.Exact firsts) (ht : t.OfEvaluations) {left : Task} (hleft : left ∈ (w.run t).2) :
    left.OfEvaluations ∧ ∀ i s, w.sessions[i]? = some s → s.subscriptions = [] → t.concerns i = false →
      left.concerns i = false := by
  cases ht using Task.OfEvaluations.cases with
  | hear j =>
    obtain rfl := List.mem_singleton.mp hleft
    exact ⟨trivial, fun _ _ _ _ hi => hi⟩
  | hush => cases hleft
  | refresh j =>
    rcases tasks_run_refresh hleft with ⟨s, ident, -, l, hl, rfl⟩ | rfl | ⟨r, rfl⟩
    · have hexact := h.of_same (w.sameRegistry_afterEvaluation s.latex) rfl
      obtain ⟨htask, hconcerns⟩ := hexact.ofEvaluations_hear hl
      exact ⟨htask, fun i v hv hnone _ => hconcerns i v hv hnone⟩
    · exact ⟨trivial, fun _ _ _ _ _ => rfl⟩
    · exact ⟨trivial, fun _ _ _ _ hi => hi⟩
  | settle j r =>
    rw [tasks_run_settle] at hleft
    cases hleft

end

/-- How far an action is: only evaluations are left to be done, or a session is being opened, whose first evaluation is
about to start, has started, or is over. -/
inductive Registering (firsts : List (Option Evaluation)) : Moment → Prop where
  | listening {w : World} {ts : List Task} (hexact : w.Exact firsts) (hlength : w.sessions.length = firsts.length)
      (hts : ∀ t ∈ ts, t.OfEvaluations) : Registering firsts ⟨w, ts⟩
  | evaluating {w : World} {older : List (Option Evaluation)} {s : Session} (hexact : w.Exact older)
      (hlength : w.sessions.length = older.length + 1) (hs : w.sessions[older.length]? = some s) (hfresh : s.Fresh)
      (hfirsts : firsts = older ++ [(w.store.evaluate s.latex).2.toOption]) :
      Registering firsts ⟨w, [.refresh older.length, .attach older.length]⟩
  | telling {w : World} {older : List (Option Evaluation)} {r : Option Evaluation} {s : Session} {ts : List Task}
      (hexact : w.Exact older) (hlength : w.sessions.length = older.length + 1)
      (hs : w.sessions[older.length]? = some s) (hfresh : s.Fresh) (hfirsts : firsts = older ++ [r])
      (hts : ∀ t ∈ ts, t.OfEvaluations ∧ t.concerns older.length = false) :
      Registering firsts ⟨w, ts ++ [.settle older.length r, .attach older.length]⟩
  | ending {w : World} {older : List (Option Evaluation)} {r : Option Evaluation} {s : Session} (hexact : w.Exact older)
      (hlength : w.sessions.length = older.length + 1)
      (hs : w.sessions[older.length]? = some (s.take r).render) (hfresh : s.Fresh) (hfirsts : firsts = older ++ [r]) :
      Registering firsts ⟨w, [.attach older.length]⟩

namespace Registering

variable {w : World} {firsts older : List (Option Evaluation)} {r : Option Evaluation} {s : Session} {ts : List Task}

theorem next_listening (hexact : w.Exact firsts) (hlength : w.sessions.length = firsts.length)
    (hts : ∀ t ∈ ts, t.OfEvaluations) : Registering firsts (Moment.next ⟨w, ts⟩) := by
  cases ts with
  | nil => exact .listening hexact hlength hts
  | cons t ts =>
    have ht := hts t (List.mem_cons_self ..)
    refine .listening (hexact.run ht) ?_ fun u hu => ?_
    · rw [w.length_sessions_run fun tag action h => by subst h; exact ht, hlength]
    · rcases List.mem_append.mp hu with hu | hu
      · exact (hexact.ofEvaluations_run ht hu).1
      · exact hts u (List.mem_cons_of_mem _ hu)

theorem next_evaluating (hexact : w.Exact older) (hlength : w.sessions.length = older.length + 1)
    (hs : w.sessions[older.length]? = some s) (hfresh : s.Fresh)
    (hfirsts : firsts = older ++ [(w.store.evaluate s.latex).2.toOption]) :
    Registering firsts (Moment.next ⟨w, [.refresh older.length, .attach older.length]⟩) := by
  have hrun := hexact.run (t := .refresh older.length) trivial
  have hsessions := w.sessions_run_refresh older.length
  have hrefreshed := refreshed_run hs hfresh.alive
  have hnobody : ∀ t ∈ ([] : List Task), t.OfEvaluations ∧ t.concerns older.length = false := by simp
  rw [Moment.next_cons]
  generalize w.run (.refresh older.length) = left at hrun hsessions hrefreshed
  cases hrefreshed with
  | refused reason houtcome =>
    rw [houtcome] at hfirsts
    exact .telling hrun hlength hs hfresh hfirsts hnobody
  | unheard e houtcome =>
    rw [houtcome] at hfirsts
    exact .telling hrun hlength hs hfresh hfirsts hnobody
  | heard e ident houtcome =>
    rw [houtcome] at hfirsts
    have htasks (told : List Task) : told ++ [.hush, .settle older.length (some e)] ++ [.attach older.length] =
        told ++ [.hush] ++ [.settle older.length (some e), .attach older.length] := by simp
    rw [htasks]
    refine .telling hrun hlength hs hfresh hfirsts fun t ht => ?_
    have hafter := hexact.of_same (w.sameRegistry_afterEvaluation s.latex) rfl
    obtain ⟨htask, hconcerns⟩ := hafter.ofEvaluations_tell ht
    exact ⟨htask, hconcerns _ s hs hfresh.subscriptions⟩

theorem next_telling (hexact : w.Exact older) (hlength : w.sessions.length = older.length + 1)
    (hs : w.sessions[older.length]? = some s) (hfresh : s.Fresh) (hfirsts : firsts = older ++ [r])
    (hts : ∀ t ∈ ts, t.OfEvaluations ∧ t.concerns older.length = false) :
    Registering firsts (Moment.next ⟨w, ts ++ [.settle older.length r, .attach older.length]⟩) := by
  cases ts with
  | nil =>
    have hrun := hexact.run (t := .settle older.length r) trivial
    rw [List.nil_append, Moment.next_cons]
    rw [run_settle r hs hfresh.alive] at hrun ⊢
    exact .ending hrun (List.length_set.trans hlength)
      (List.getElem?_set_self (List.getElem?_eq_some_iff.mp hs).1) hfresh hfirsts
  | cons t ts =>
    obtain ⟨ht, hconcerns⟩ := hts t (List.mem_cons_self ..)
    rw [List.cons_append, Moment.next_cons, ← List.append_assoc]
    refine .telling (hexact.run ht) ?_ ((w.getElem?_run ht hconcerns).trans hs) hfresh hfirsts fun u hu => ?_
    · rw [w.length_sessions_run fun tag action h => by subst h; exact ht, hlength]
    · rcases List.mem_append.mp hu with hu | hu
      · obtain ⟨hu, hconcerns'⟩ := hexact.ofEvaluations_run ht hu
        exact ⟨hu, hconcerns' _ s hs hfresh.subscriptions hconcerns⟩
      · exact hts u (List.mem_cons_of_mem _ hu)

theorem next_ending (hexact : w.Exact older) (hlength : w.sessions.length = older.length + 1)
    (hs : w.sessions[older.length]? = some (s.take r).render) (hfresh : s.Fresh) (hfirsts : firsts = older ++ [r]) :
    Registering firsts (Moment.next ⟨w, [.attach older.length]⟩) := by
  have hwithin := (List.getElem?_eq_some_iff.mp hs).1
  rw [Moment.next_cons, run_attach hs, hfirsts]
  refine .listening (Exact.concat ?_ (List.getElem?_set_self hwithin) (s.listens_attached r)) ?_ (by simp)
  · refine hexact.of_set (u := { (s.take r).render with subscriptions := (s.take r).render.used, hold := .held }) hs rfl
      (fun r' hr' => ?_) rfl rfl rfl ?_
    · rw [List.getElem?_eq_none (Nat.le_refl _)] at hr'
      cases hr'
    · rw [registrationsFrom_attach hs hlength hfresh.subscriptions, ← hexact.registrations, Nat.zero_add]
      rfl
  · rw [List.length_append, List.length_singleton, ← hlength]
    exact List.length_set

theorem next {m : Moment} (h : Registering firsts m) : Registering firsts m.next := by
  cases h with
  | listening hexact hlength hts => exact next_listening hexact hlength hts
  | evaluating hexact hlength hs hfresh hfirsts => exact next_evaluating hexact hlength hs hfresh hfirsts
  | telling hexact hlength hs hfresh hfirsts hts => exact next_telling hexact hlength hs hfresh hfirsts hts
  | ending hexact hlength hs hfresh hfirsts => exact next_ending hexact hlength hs hfresh hfirsts

/-- When nothing is left to be done, no session is being opened. -/
theorem exact_of_idle (h : Registering firsts ⟨w, []⟩) : w.Exact firsts ∧ w.sessions.length = firsts.length := by
  generalize hm : (⟨w, []⟩ : Moment) = m at h
  cases h with
  | listening hexact hlength =>
    cases hm
    exact ⟨hexact, hlength⟩
  | telling => simp at hm
  | evaluating | ending => cases hm

end Registering

/-! Actions. -/

section

variable {w : World} {firsts : List (Option Evaluation)} {i : Nat} {s : Session}

theorem Exact.setShow (h : w.Exact firsts) (hs : w.sessions[i]? = some s) (showResult : Bool) :
    (w.setShow i s showResult).Exact firsts := by
  unfold World.setShow
  split
  · exact h
  · exact h.of_set_same (u := { s with showResult }.render) hs rfl rfl
      (fun _ hl => ⟨hl.subscriptions, hl.disposed_of_dropped, hl.evaluated, hl.first⟩) ⟨rfl, rfl, rfl⟩ rfl

theorem Exact.dispose (h : w.Exact firsts) (hs : w.sessions[i]? = some s) : (w.dispose i s).Exact firsts := by
  unfold World.dispose
  split
  · exact h
  · rw [unsubscribe_all]
    refine h.of_set (u := { s with state := .disposed, subscriptions := [] }) hs rfl
      (fun r _ hl => ⟨rfl, fun _ => rfl, hl.evaluated, hl.first⟩) rfl rfl rfl ?_
    rw [registrationsFrom_dispose hs rfl, ← h.registrations]
    · rfl
    exact fun j v hv hsame => Nat.succ.inj ((h.numbered j v hv).symm.trans (hsame.trans (h.numbered i s hs)))

theorem Exact.drop (h : w.Exact firsts) (hs : w.session? i = some s) :
    ((w.dispose i s).setSession i { ((w.dispose i s).sessions[i]?).getD s with hold := .dropped }).Exact firsts := by
  obtain ⟨subscriptions, hs'⟩ := (getElem?_dispose (getElem?_of_session? hs) hs).1 rfl
  rw [hs', Option.getD_some]
  exact (h.dispose (getElem?_of_session? hs)).of_set_same
    (u := { s with state := .disposed, subscriptions, hold := .dropped }) hs' rfl rfl
    (fun _ hl => ⟨hl.subscriptions, fun _ => rfl, hl.evaluated, hl.first⟩) ⟨rfl, rfl, rfl⟩ rfl

/-- Telling the listeners of a variable belongs to evaluations. -/
theorem Exact.registering_announce (h : w.Exact firsts) (hlength : w.sessions.length = firsts.length) (ident : Ident) :
    Registering firsts ⟨(w.announce ident).1, (w.announce ident).2⟩ := by
  unfold announce
  split
  · exact .listening h hlength (by simp)
  · exact .listening (h.of_same ⟨rfl, rfl, rfl⟩ rfl) hlength fun t ht => (h.ofEvaluations_tell ht).1

theorem Exact.registering_evaluate (h : w.Exact firsts) (hlength : w.sessions.length = firsts.length) (latex : Text) :
    Registering firsts ⟨(w.evaluate latex).1, (w.evaluate latex).2.1⟩ := by
  have hafter : (w.afterEvaluation latex).Exact firsts := h.of_same (w.sameRegistry_afterEvaluation latex) rfl
  unfold evaluate
  cases houtcome : (w.store.evaluate latex).2 with
  | error reason =>
    simp only [houtcome]
    exact .listening hafter hlength (by simp)
  | ok e =>
    simp only [houtcome]
    cases e.defined with
    | none => exact .listening hafter hlength (by simp)
    | some ident => exact hafter.registering_announce hlength ident

/-- Opening a session makes no registration at first. -/
theorem Exact.opened (h : w.Exact firsts) (hlength : w.sessions.length = firsts.length) (latex : Text)
    (showResult : Bool) : Exact firsts { w with
      store := w.store.mintSubscriber.1
      sessions := w.sessions ++ [.new latex w.store.mintSubscriber.2 showResult] } := by
  have hsession (i : Nat) (s : Session)
      (hs : (w.sessions ++ [Session.new latex w.store.mintSubscriber.2 showResult])[i]? = some s) :
      w.sessions[i]? = some s ∨ i = w.sessions.length ∧ s = .new latex w.store.mintSubscriber.2 showResult := by
    by_cases hi : i < w.sessions.length
    · exact .inl (List.getElem?_append_left hi ▸ hs)
    · have hwithin := (List.getElem?_eq_some_iff.mp hs).1
      rw [List.length_append, List.length_singleton] at hwithin
      obtain rfl : i = w.sessions.length := by omega
      rw [List.getElem?_concat_length] at hs
      exact .inr ⟨rfl, (Option.some.inj hs).symm⟩
  refine ⟨h.hasStore, ?_, fun i s hs => ?_, ?_, fun i r s hr hs => ?_⟩
  · simp [Store.mintSubscriber, h.minted]
  · rcases hsession i s hs with hs | ⟨rfl, rfl⟩
    · exact h.numbered i s hs
    · exact congrArg (· + 1) h.minted
  · rw [registrationsFrom_concat]
    exact h.registrations.trans (List.append_nil _).symm
  · rcases hsession i s hs with hs | ⟨rfl, rfl⟩
    · exact h.listens i r s hr hs
    · have hknown := (List.getElem?_eq_some_iff.mp hr).1
      omega

/-- What an action begins with: the first evaluation of a session that it opens comes to what is expected of it. -/
theorem Exact.registering_take (h : w.Exact firsts) (hlength : w.sessions.length = firsts.length) {action : Action}
    (haction : action.OfReaders) :
    Registering (firsts ++ action.firstEvaluation w) ⟨(w.take action).1, (w.take action).2.1⟩ := by
  have hlistening {w' : World} (h' : w'.Exact firsts) (hlength' : w'.sessions.length = w.sessions.length) :
      Registering (firsts ++ []) ⟨w', []⟩ :=
    (List.append_nil firsts).symm ▸ .listening h' (hlength'.trans hlength) (by simp)
  cases action with
  | openSession latex showResult subscriber? =>
    cases subscriber? with
    | some subscriber => exact haction.elim
    | none =>
      have hopened := h.opened hlength latex showResult
      have htake : w.take (.openSession latex showResult none) = w.onStore (.openSession latex showResult none) := by
        simp only [take, h.hasStore, ↓reduceIte]
      simp only [htake, onStore, hlength]
      refine .evaluating hopened (by simp [hlength]) (s := .new latex w.store.mintSubscriber.2 showResult) ?_
        ⟨rfl, rfl⟩ ?_
      · rw [← hlength, List.getElem?_concat_length]
      · simp only [Action.firstEvaluation, Store.evaluate_mintSubscriber, Session.new]
  | dispose i =>
    simp only [take, onSession]
    cases hs : w.session? i with
    | none => exact hlistening h rfl
    | some s => exact hlistening (h.dispose (getElem?_of_session? hs)) (length_sessions_dispose w i s)
  | toggle i | setShow i =>
    simp only [take, onSession]
    cases hs : w.session? i with
    | none => exact hlistening h rfl
    | some s => exact hlistening (h.setShow (getElem?_of_session? hs) _) (length_sessions_setShow w i s _)
  | drop i =>
    simp only [take]
    cases hs : w.session? i with
    | none => exact hlistening h rfl
    | some s => exact hlistening (h.drop hs) (List.length_set.trans (length_sessions_dispose w i s))
  | evaluate latex quiet =>
    have hevaluate := h.registering_evaluate hlength latex
    simp only [take, h.hasStore, ↓reduceIte, onStore, Action.firstEvaluation, List.append_nil]
    cases (w.evaluate latex).2.2 <;> exact hevaluate
  | _ => exact haction.elim

/-- An action leaves the registrations exact when it is over. -/
theorem Exact.act (h : w.Exact firsts) (hlength : w.sessions.length = firsts.length) {action : Action}
    (haction : action.OfReaders) : (w.act action).1.Exact (firsts ++ action.firstEvaluation w) ∧
      (w.act action).1.sessions.length = (firsts ++ action.firstEvaluation w).length := by
  have hsettles := settles_of_watcherless h.heardBySessions haction.watcherless
  have hover := hsettles.of_moment (k := 0) (h.registering_take hlength haction) fun _ _ hm => hm.next
  exact hover.exact_of_idle

theorem Exact.acts {actions : List Action} (h : w.Exact firsts) (hlength : w.sessions.length = firsts.length)
    (hactions : ∀ action ∈ actions, action.OfReaders) : (w.acts actions).Exact (firsts ++ w.firstEvaluations actions) ∧
      (w.acts actions).sessions.length = (firsts ++ w.firstEvaluations actions).length := by
  induction actions generalizing w firsts with
  | nil => simpa [firstEvaluations] using ⟨h, hlength⟩
  | cons action rest ih =>
    obtain ⟨hact, hlength'⟩ := h.act hlength (hactions action (List.mem_cons_self ..))
    rw [acts_cons, firstEvaluations, ← List.append_assoc]
    exact ih hact hlength' fun a ha => hactions a (List.mem_cons_of_mem _ ha)

end

/-! What can be seen of the registrations. -/

end World

end LiveTex
