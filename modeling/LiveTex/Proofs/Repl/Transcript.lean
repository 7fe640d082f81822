import LiveTex.Proofs.Repl.Lines
import LiveTex.Proofs.Sheet.Slots

/-!
Transcripts of a sheet that is written line by line. What was written last for a session is what it shows, so a
reader who keeps the latest notice of each session sees the sheet as it is.
-/

namespace LiveTex

namespace Repl

/-- The sheet and what has been written of it. -/
structure Tracks (lines : List Text) (written : List Notice) (r : Repl) : Prop where
  heard : r.world.store.HeardBySessions
  hasStore : r.world.hasStore = true
  length : r.shown.length = r.world.sessions.length
  latexes : r.world.latexes = expressions lines
  holds : .opening ∉ r.world.holds
  numbers : ∀ n ∈ written, 0 < n.number ∧ (expressions lines)[n.number - 1]? = some n.latex
  shown : ∀ i last, r.shown[i]? = some last → last = (Notice.latest (i + 1) written).map (·.text)
  current : ∀ i s, r.world.session? i = some s → Notice.latest (i + 1) written = some (s.notice i)

variable {start r r' : Repl} {lines later : List Text} {written more : List Notice} {t out : Text} {line : Line}

namespace Tracks

theorem new (stem : Text) : (Repl.new stem).Tracks [] [] where
  heard := World.heardBySessions_new stem
  hasStore := rfl
  length := rfl
  latexes := rfl
  holds := nofun
  numbers := nofun
  shown := nofun
  current := nofun

theorem length_expressions (h : r.Tracks lines written) : (expressions lines).length = r.shown.length := by
  rw [← h.latexes, World.length_latexes, h.length]

/-- What was shown last is what was written last, for a session that is to be opened as well. -/
theorem shown_append (h : r.Tracks lines written) {i : Nat} {last : Option Text}
    (hlast : (r.shown ++ [none])[i]? = some last) : last = (Notice.latest (i + 1) written).map (·.text) := by
  rw [List.getElem?_append] at hlast
  split at hlast
  · exact h.shown i last hlast
  · next hbeyond =>
    obtain rfl : last = none := by
      have hmem := List.mem_of_getElem? hlast
      simpa using hmem
    rw [Notice.latest_eq_none, Option.map_none]
    intro n hn hnumber
    obtain ⟨-, hlatex⟩ := h.numbers n hn
    have hlength := (List.getElem?_eq_some_iff.mp hlatex).1
    rw [h.length_expressions, hnumber] at hlength
    omega

section

variable {latex : Text} {w : World} {i : Nat} {s : Session}

/-- What a session within reach showed last is known. -/
theorem exists_shown (h : r.Tracks lines written) (hopened : r.world.Opened latex w) (hs : w.session? i = some s) :
    ∃ last, (r.shown ++ [none])[i]? = some last := by
  have hlength := (List.getElem?_eq_some_iff.mp (World.session?_eq_some_iff.mp hs).1).1
  have hlatexes := congrArg List.length hopened.latexes
  simp only [World.length_latexes, List.length_append, List.length_singleton] at hlatexes
  refine ⟨_, List.getElem?_eq_getElem (?_ : i < _)⟩
  rw [List.length_append, List.length_singleton, h.length]
  omega

/-- The new notice of a session, or the former one when it shows what it showed, is the session as it is. -/
theorem latest_opened (h : r.Tracks lines written) (hopened : r.world.Opened latex w) (hs : w.session? i = some s) :
    Notice.latest (i + 1) (written ++ noticesFrom w 0 (r.shown ++ [none])) = some (s.notice i) := by
  obtain ⟨last, hlast⟩ := h.exists_shown hopened hs
  have hnew := latest_noticesFrom w 0 i (r.shown ++ [none])
  rw [Nat.zero_add, hlast, Option.bind_some] at hnew
  rw [Notice.latest_append, hnew]
  by_cases hsame : last = some s.cell.text
  · have hnone : notice? w i last = none := by rw [notice?, hs, Option.bind_some, if_pos hsame]
    have hbefore := h.shown_append hlast
    rw [hsame, eq_comm, Option.map_eq_some_iff] at hbefore
    obtain ⟨n, hn, htext⟩ := hbefore
    obtain ⟨hmem, hnumber⟩ := Notice.mem_of_latest hn
    obtain ⟨-, hlatex⟩ := h.numbers n hmem
    rw [hnumber, Nat.add_sub_cancel] at hlatex
    have hplace := (World.getElem?_session? hs).2
    rw [hopened.latexes, h.latexes, List.getElem?_append_left (List.getElem?_eq_some_iff.mp hlatex).1, hlatex] at hplace
    rw [hnone, Option.none_or, hn, Session.notice, ← hnumber, ← Option.some.inj hplace, ← htext]
  · rw [notice?_eq_some_iff.mpr ⟨s, hs, hsame, rfl⟩, Option.some_or]

theorem opened (h : r.Tracks lines written) (hline : Line.read t = .expression latex) :
    (r.openSession latex).1.Tracks (lines ++ [t]) (written ++ r.notices (.read t)) := by
  have hopened := World.opened_act h.heard h.hasStore latex
  have hexpressions : expressions (lines ++ [t]) = expressions lines ++ [latex] := by
    rw [expressions_append, hline]
    rfl
  have hlatexes : (r.openSession latex).1.world.latexes = expressions (lines ++ [t]) := by
    rw [hexpressions, ← h.latexes]
    exact hopened.latexes
  rw [hline]
  refine ⟨hopened.heard, hopened.hasStore, ?_, hlatexes, ?_, fun n hn => ?_, fun i last hlast => ?_, fun i s hs => ?_⟩
  · have hlength := congrArg List.length hopened.latexes
    simp only [World.length_latexes, List.length_append, List.length_singleton] at hlength
    change (changes _ 0 (r.shown ++ [none])).2.length = _
    rw [length_changes, List.length_append, List.length_singleton, h.length]
    exact hlength.symm
  · have hholds : (r.openSession latex).1.world.holds = r.world.holds ++ [.held] := hopened.holds
    rw [hholds]
    simpa using h.holds
  · rw [hexpressions]
    obtain hn | hn := List.mem_append.mp hn
    · obtain ⟨hpositive, hlatex⟩ := h.numbers n hn
      exact ⟨hpositive, by rw [List.getElem?_append_left (List.getElem?_eq_some_iff.mp hlatex).1, hlatex]⟩
    · obtain ⟨i, last, -, hn⟩ := mem_noticesFrom_iff.mp hn
      obtain ⟨s, hs, -, rfl⟩ := notice?_eq_some_iff.mp hn
      rw [Nat.zero_add] at hs
      have hplace := (World.getElem?_session? hs).2
      rw [hopened.latexes, h.latexes] at hplace
      refine ⟨Nat.succ_pos _, ?_⟩
      rw [Nat.zero_add]
      exact hplace
  · have hafter := changes_snd (r.world.act (.openSession latex true none)).1 0 (r.shown ++ [none]) i
    rw [Nat.zero_add] at hafter
    obtain ⟨before, hbefore, rfl⟩ := Option.map_eq_some_iff.mp (hafter.symm.trans hlast)
    rw [shownAfter]
    cases hs : (r.world.act (.openSession latex true none)).1.session? i with
    | some s => rw [notices, h.latest_opened hopened hs, Option.map_some, Option.map_some, Option.some_or, Session.notice]
    | none =>
      have hnew := latest_noticesFrom (r.world.act (.openSession latex true none)).1 0 i (r.shown ++ [none])
      rw [Nat.zero_add, hbefore, Option.bind_some, notice?, hs, Option.bind_none] at hnew
      rw [notices, Notice.latest_append, hnew, Option.none_or, Option.map_none, Option.none_or]
      exact h.shown_append hbefore
  · exact h.latest_opened hopened hs

/-- A dropped session is out of reach, and the others are as they were. -/
theorem session?_dropped (hdropped : r.world.Dropped i w) {j : Nat} {u : Session} :
    w.session? j = some u ↔ j ≠ i ∧ r.world.session? j = some u := by
  by_cases hij : j = i
  · subst hij
    have hgone : w.session? j ≠ some u := by
      intro hu
      have hheld := (World.getElem?_session? hu).1
      rw [hdropped.holds, List.getElem?_set_self'] at hheld
      cases hhold : r.world.holds[j]? <;> simp [hhold] at hheld
    simp [hgone]
  · rw [World.session?_eq_some_iff, World.session?_eq_some_iff, hdropped.others j hij]
    simp [hij]

theorem dropped (h : r.Tracks lines written) (hdropped : r.world.Dropped i w) (hline : (Line.read t).latex? = none) :
    ({ r with world := w } : Repl).Tracks (lines ++ [t]) written where
  heard := hdropped.heard
  hasStore := hdropped.hasStore.trans h.hasStore
  length := by
    have hlength := congrArg List.length hdropped.latexes
    simp only [World.length_latexes] at hlength
    exact h.length.trans hlength.symm
  latexes := by
    rw [expressions_append_of_none lines hline]
    exact hdropped.latexes.trans h.latexes
  holds := by
    change .opening ∉ w.holds
    rw [hdropped.holds]
    intro hmem
    obtain hmem | hopening := List.mem_or_eq_of_mem_set hmem
    · exact h.holds hmem
    · cases hopening
  numbers := by
    rw [expressions_append_of_none lines hline]
    exact h.numbers
  shown := h.shown
  current j u hu := h.current j u ((session?_dropped hdropped).mp hu).2

theorem kept (h : r.Tracks lines written) (hline : (Line.read t).latex? = none) : r.Tracks (lines ++ [t]) written where
  heard := h.heard
  hasStore := h.hasStore
  length := h.length
  latexes := by
    rw [expressions_append_of_none lines hline]
    exact h.latexes
  holds := h.holds
  numbers := by
    rw [expressions_append_of_none lines hline]
    exact h.numbers
  shown := h.shown
  current := h.current

end

theorem step (h : r.Tracks lines written) (hline : r.handle (.read t) = some (r', out)) :
    r'.Tracks (lines ++ [t]) (written ++ r.notices (.read t)) := by
  have hhandled := handled_of_handle hline
  generalize hread : Line.read t = line at hhandled
  cases hhandled with
  | opened latex => exact hread ▸ h.opened hread
  | dropped argument i s hnumber hs =>
    rw [notices_eq_nil rfl, List.append_nil]
    exact h.dropped (World.dropped_act h.heard hs) (by rw [hread]; rfl)
  | kept _ hlatex _ =>
    rw [notices_eq_nil hlatex, List.append_nil]
    exact h.kept (by rw [hread]; exact hlatex)

end Tracks

/-- The sheet after a line that opens a session and so many tasks, with the notices it brings about. -/
def after (r : Repl) (latex : Text) (n : Nat) : Repl × List Notice :=
  let w := (r.world.moment (.openSession latex true none) n).world
  (⟨w, (changes w 0 (r.shown ++ [none])).2⟩, noticesFrom w 0 (r.shown ++ [none]))

theorem Handles.after (h : start.Handles lines written r) (hheard : r.world.store.HeardBySessions) (t latex : Text)
    (n : Nat) (more : List Notice) (hread : Line.read t = .expression latex)
    (hidle : (r.world.moment (.openSession latex true none) n).tasks.isEmpty = true) (hmore : (r.after latex n).2 = more) :
    start.Handles (lines ++ [t]) (written ++ more) (r.after latex n).1 := by
  have hmoment : r.world.moment (.openSession latex true none) n =
      ⟨(r.world.moment (.openSession latex true none) n).world, []⟩ := by
    rw [List.isEmpty_iff] at hidle
    rw [← hidle]
  have hsettles : r.world.Settles (.openSession latex true none) := World.settles_of_heardBySessions hheard trivial
  have hhandle : r.handle (.read t) = some (r.openSession latex) := by
    rw [hread]
    rfl
  have hact := hsettles.act_eq hmoment
  have hline := h.line hhandle
  rw [hread, notices, hact] at hline
  exact hmore ▸ hline

end Repl

end LiveTex
