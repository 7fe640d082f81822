import LiveTex.Proofs.Sheet.Opening

/-!
What is on the screen, in runs of any actions. A cell is written when a session takes in an outcome and when its
result is shown or hidden, and never otherwise; so it shows what the session has, and the number of times that it
was written can be told from the session and the actions that were taken.
-/

namespace LiveTex

/-- The action changes whether the result of the session is shown. -/
def Call.ChangesShow (i : Nat) (c : Call) : Prop :=
  c.action.shows i = true ∧ ∃ s ∈ c.world.sessions[i]?, ∃ s' ∈ (c.world.take c.action).1.sessions[i]?,
    s'.showResult ≠ s.showResult

instance (i : Nat) (c : Call) : Decidable (c.ChangesShow i) := inferInstanceAs (Decidable (_ ∧ _))

/-- The cell shows the value of the session, if the session wants its result to be shown. -/
structure Session.OnScreen (s : Session) : Prop where
  text : s.cell.text = s.text
  visible : s.cell.visible = s.showResult

namespace Session

variable {shows attaches : Prop} {s s' : Session}

theorem onScreen_render (s : Session) : s.render.OnScreen := ⟨rfl, rfl⟩

/-- A session that was evaluated is on the screen. -/
theorem Change.onScreen (h : s.Change shows attaches s') (hs : s.version ≠ 0 → s.OnScreen)
    (hversion : s'.version ≠ 0) : s'.OnScreen := by
  cases h with
  | kept => exact hs hversion
  | shown | settled => exact onScreen_render _
  | ended | dropped | attached => exact ⟨(hs hversion).text, (hs hversion).visible⟩

/-- The cell is written when the session is evaluated and when it is decided otherwise whether its result is shown. -/
theorem Change.renders_eq (h : s.Change shows attaches s') :
    s'.cell.renders + s.version =
      s.cell.renders + s'.version + if s'.showResult = s.showResult then 0 else 1 := by
  cases h with
  | shown _ _ _ showResult hne =>
    have hrender : ({ s with showResult }.render).showResult ≠ s.showResult := hne
    rw [if_neg hrender]
    simp only [render]
    omega
  | settled hlive r =>
    have hrender : (s.take r).render.showResult = s.showResult := rfl
    rw [if_pos hrender]
    simp only [render, take]
    omega
  | kept | ended | dropped | attached => simp

end Session

namespace Moment

variable {m m' : Moment} {calls taken : List Call} {i : Nat} {s s' : Session}

/-- In one step, at most one action changes whether the result is shown, and nothing else does. -/
theorem Step.countP_changesShow (h : m.Step taken m') (hs : m.world.sessions[i]? = some s)
    (hs' : m'.world.sessions[i]? = some s') :
    taken.countP (·.ChangesShow i) = if s'.showResult = s.showResult then 0 else 1 := by
  have hchanges {c : Call} (hc : c ∈ taken) :
      c.ChangesShow i ↔ c.action.shows i = true ∧ s'.showResult ≠ s.showResult := by
    obtain ⟨-, hworld, hworld'⟩ := h.of_mem hc
    rw [Call.ChangesShow, hworld, ← hworld', hs, hs']
    simp
  split
  · next hsame =>
    rw [List.countP_eq_zero]
    intro c hc hchange
    exact ((hchanges hc).mp (of_decide_eq_true hchange)).2 hsame
  · next hne =>
    obtain ⟨u, hu, hchange⟩ := h.exists_change hs
    obtain rfl := Option.some.inj (hs'.symm.trans hu)
    obtain ⟨c, hc, hshows⟩ : ∃ c ∈ taken, c.action.shows i = true := by
      cases hchange with
      | shown hshows => exact hshows
      | _ => exact absurd rfl hne
    have hchange : decide (c.ChangesShow i) = true := decide_eq_true ((hchanges hc).mpr ⟨hshows, hne⟩)
    rw [(h.of_mem hc).1, List.countP_singleton, if_pos hchange]

/-- Whoever has not been opened has not been shown or hidden. -/
theorem Step.countP_changesShow_of_none (h : m.Step taken m') (hs : m.world.sessions[i]? = none) :
    taken.countP (·.ChangesShow i) = 0 := by
  rw [List.countP_eq_zero]
  intro c hc hchanges
  obtain ⟨-, hworld, -⟩ := h.of_mem hc
  obtain ⟨-, s, hs', -⟩ := of_decide_eq_true hchanges
  rw [hworld, hs] at hs'
  cases hs'

/-- What holds of the cells after the actions of a run. -/
structure Displayed (calls : List Call) (m : Moment) : Prop where
  onScreen : ∀ (i : Nat) (s : Session), m.world.sessions[i]? = some s → s.version ≠ 0 → s.OnScreen
  renders : ∀ (i : Nat) (s : Session), m.world.sessions[i]? = some s →
    s.cell.renders = s.version + calls.countP (·.ChangesShow i)
  unopened : ∀ i : Nat, m.world.sessions[i]? = none → calls.countP (·.ChangesShow i) = 0

theorem Displayed.step (h : Displayed calls m) (hstep : m.Step taken m') : Displayed (calls ++ taken) m' where
  onScreen i s' hs' := by
    rcases hstep.exists_change_or_new hs' with ⟨s, hs, hchange⟩ | ⟨-, latex, subscriber, showResult, rfl⟩
    · exact hchange.onScreen (h.onScreen i s hs)
    · exact fun hversion => absurd rfl hversion
  renders i s' hs' := by
    rw [List.countP_append]
    rcases hstep.exists_change_or_new hs' with ⟨s, hs, hchange⟩ | ⟨hi, latex, subscriber, showResult, rfl⟩
    · have hrenders := hchange.renders_eq
      rw [← hstep.countP_changesShow hs hs'] at hrenders
      have hbefore := h.renders i s hs
      omega
    · have hnone : m.world.sessions[i]? = none := List.getElem?_eq_none_iff.mpr (Nat.le_of_eq hi)
      rw [h.unopened i hnone, hstep.countP_changesShow_of_none hnone]
      rfl
  unopened i hnone := by
    have hbefore : m.world.sessions[i]? = none := by
      cases hs : m.world.sessions[i]? with
      | none => rfl
      | some s =>
        obtain ⟨s', hs', -⟩ := hstep.exists_change hs
        rw [hs'] at hnone
        cases hnone
    rw [List.countP_append, h.unopened i hbefore, hstep.countP_changesShow_of_none hbefore]

theorem Reaches.displayed {stem : Text} (h : (⟨World.new stem, []⟩ : Moment).Reaches calls m) : Displayed calls m := by
  induction h with
  | refl => exact ⟨fun i s hs => (by cases hs), fun i s hs => (by cases hs), fun i _ => rfl⟩
  | step _ hstep ih => exact ih.step hstep

/-- What is displayed is what is stored. At every moment of every run, a session whose opening is over has its value
and its visibility in its cell, and the cell was written once for each evaluation and once for each action that
changed whether the result is shown. -/
theorem Reaches.cell_eq {stem : Text} (h : (⟨World.new stem, []⟩ : Moment).Reaches calls m)
    (hs : m.world.sessions[i]? = some s) (hopened : s.hold ≠ .opening) :
    s.cell = ⟨resultText s.value, s.showResult, s.version + calls.countP (·.ChangesShow i)⟩ := by
  have hversion : s.version ≠ 0 := fun hversion => hopened ((h.timely.sessions i s hs).opening hversion)
  obtain ⟨htext, hvisible⟩ := h.displayed.onScreen i s hs hversion
  have hrenders := h.displayed.renders i s hs
  rw [← hrenders, ← hvisible, ← Session.text, ← htext]

/-- Sessions assign `a` and, from it, `b`, and a watcher of `b` toggles the session that assigns `b`. When `a` has
changed, the result of that session is hidden by a second action, which changes nothing. -/
def toggled : Moment :=
  ((((after ⟨World.new ['V'], []⟩ (.openSession "a := 1".toList true none) 12).after
    (.openSession "b := a + 1".toList true none) 12).after (.watch "Vb".toList 9 [] [.toggle 1]) 0).after
    (.evaluate "a := 5".toList false) 12).after (.setShow 1 false) 0

/-- Two evaluations and one change of what is shown make three writes. -/
theorem cell_eq_of_toggled : toggled.tasks = [] ∧ ∃ s ∈ toggled.world.sessions[1]?, s.version = 2 ∧
    s.cell = ⟨"=6".toList, false, 3⟩ := by
  have htoggled := ((((Reaches.refl.after (m := ⟨World.new ['V'], []⟩) (.openSession "a := 1".toList true none) 12).after
    (.openSession "b := a + 1".toList true none) 12).after (.watch "Vb".toList 9 [] [.toggle 1]) 0).after
    (.evaluate "a := 5".toList false) 12).after (.setShow 1 false) 0
  have hsession : ∃ s ∈ toggled.world.sessions[1]?,
      s.hold = .held ∧ s.version = 2 ∧ resultText s.value = "=6".toList ∧ s.showResult = false := by decide +kernel
  obtain ⟨s, hs, hheld, hversion, htext, hshow⟩ := hsession
  have hcell := Reaches.cell_eq htoggled hs (by simp [hheld])
  rw [hversion, htext, hshow] at hcell
  refine ⟨by decide +kernel, s, hs, hversion, hcell.trans ?_⟩
  decide +kernel

end Moment

end LiveTex
