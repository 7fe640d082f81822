import LiveTex.Repl

/-!
Notices: the lines that show sessions. After a session is opened, each session within reach is shown that does not
show what it showed last, in the order of their numbers.
-/

namespace LiveTex

/-- A line that shows a session. -/
structure Notice where
  number : Nat
  latex : Text
  text : Text
  deriving DecidableEq, Repr

/-- The notice as it is written. -/
def Notice.line (n : Notice) : Text :=
  ['['] ++ Decimal.digits n.number ++ "] ".toList ++ n.latex ++ [' '] ++ n.text ++ ['\n']

/-- The notice of the session with that index. -/
def Session.notice (s : Session) (i : Nat) : Notice := ⟨i + 1, s.latex, s.cell.text⟩

namespace Notice

/-- The latest notice of the session with that number. -/
def latest (number : Nat) (notices : List Notice) : Option Notice :=
  (notices.filter fun n => n.number == number).getLast?

variable {number : Nat} {n : Notice} {notices : List Notice}

theorem latest_append (notices notices' : List Notice) :
    latest number (notices ++ notices') = (latest number notices').or (latest number notices) := by
  rw [latest, List.filter_append, List.getLast?_append]
  rfl

theorem mem_of_latest (h : latest number notices = some n) : n ∈ notices ∧ n.number = number := by
  simpa using List.mem_filter.mp (List.mem_of_getLast? h)

theorem latest_eq_none (h : ∀ n ∈ notices, n.number ≠ number) : latest number notices = none := by
  rw [latest, List.getLast?_eq_none_iff, List.filter_eq_nil_iff]
  simpa using h

end Notice

namespace Repl

/-- The notice of the session with that index, if it is within reach and does not show what it showed last. -/
def notice? (w : World) (i : Nat) (last : Option Text) : Option Notice :=
  (w.session? i).bind fun s => if last = some s.cell.text then none else some (s.notice i)

/-- The notices of the sessions from index `i` on. -/
def noticesFrom (w : World) (i : Nat) : List (Option Text) → List Notice
  | [] => []
  | last :: rest => (notice? w i last).toList ++ noticesFrom w (i + 1) rest

variable {w : World} {i k : Nat} {s : Session} {last : Option Text} {n : Notice}

theorem notice?_eq_some_iff : notice? w i last = some n ↔
    ∃ s, w.session? i = some s ∧ last ≠ some s.cell.text ∧ n = s.notice i := by
  unfold notice?
  cases w.session? i with
  | none => simp
  | some s =>
    by_cases hlast : last = some s.cell.text
    · simp [hlast]
    · simp [hlast, eq_comm]

theorem notice?_number (h : notice? w i last = some n) : n.number = i + 1 := by
  obtain ⟨s, -, -, rfl⟩ := notice?_eq_some_iff.mp h
  rfl

theorem mem_noticesFrom_iff {shown : List (Option Text)} : n ∈ noticesFrom w i shown ↔
    ∃ k last, shown[k]? = some last ∧ notice? w (i + k) last = some n := by
  induction shown generalizing i with
  | nil => simp [noticesFrom]
  | cons first rest ih =>
    rw [noticesFrom, List.mem_append, Option.mem_toList, ih]
    constructor
    · rintro (hfirst | ⟨k, last, hlast, hn⟩)
      · exact ⟨0, first, rfl, hfirst⟩
      · exact ⟨k + 1, last, hlast, by rwa [← Nat.add_assoc, Nat.add_right_comm]⟩
    · rintro ⟨k, last, hlast, hn⟩
      cases k with
      | zero =>
        cases hlast
        exact .inl hn
      | succ k => exact .inr ⟨k, last, hlast, by rwa [Nat.add_right_comm, Nat.add_assoc]⟩

theorem lt_number_of_mem_noticesFrom {shown : List (Option Text)} (h : n ∈ noticesFrom w i shown) : i < n.number := by
  obtain ⟨k, last, -, hn⟩ := mem_noticesFrom_iff.mp h
  rw [notice?_number hn]
  omega

/-- The notice of one session among those of all. -/
theorem latest_noticesFrom (w : World) (i k : Nat) (shown : List (Option Text)) :
    Notice.latest (i + k + 1) (noticesFrom w i shown) = shown[k]?.bind (notice? w (i + k)) := by
  induction shown generalizing i k with
  | nil => rfl
  | cons first rest ih =>
    rw [noticesFrom, Notice.latest_append]
    cases k with
    | zero =>
      have hrest : Notice.latest (i + 0 + 1) (noticesFrom w (i + 1) rest) = none :=
        Notice.latest_eq_none fun n hn => Nat.ne_of_gt (lt_number_of_mem_noticesFrom hn)
      rw [hrest, Option.none_or]
      cases hfirst : notice? w i first with
      | none => simp [Notice.latest, hfirst]
      | some n => simp [Notice.latest, hfirst, notice?_number hfirst]
    | succ k =>
      have hfirst : Notice.latest (i + (k + 1) + 1) (notice? w i first).toList = none := by
        apply Notice.latest_eq_none
        intro n hn
        rw [notice?_number (Option.mem_toList.mp hn)]
        omega
      rw [hfirst, Option.or_none, ← Nat.add_assoc, Nat.add_right_comm i k 1, ih]
      rfl

/-- What is shown after that for the session with that index. -/
def shownAfter (w : World) (i : Nat) (last : Option Text) : Option Text := ((w.session? i).map (·.cell.text)).or last

theorem changes_snd (w : World) (i : Nat) (shown : List (Option Text)) (k : Nat) :
    (changes w i shown).2[k]? = shown[k]?.map (shownAfter w (i + k)) := by
  induction shown generalizing i k with
  | nil => rfl
  | cons last rest ih =>
    have hcons : (changes w i (last :: rest)).2 = shownAfter w i last :: (changes w (i + 1) rest).2 := by
      rw [changes, shownAfter]
      cases w.session? i with
      | none => rfl
      | some s =>
        by_cases hlast : last = some s.cell.text
        · simp [hlast]
        · simp [hlast]
    rw [hcons]
    cases k with
    | zero => rfl
    | succ k => rw [List.getElem?_cons_succ, List.getElem?_cons_succ, ih, Nat.add_right_comm, Nat.add_assoc]

theorem length_changes (w : World) (i : Nat) (shown : List (Option Text)) :
    (changes w i shown).2.length = shown.length := by
  have hbound : ∀ k, (changes w i shown).2.length ≤ k ↔ shown.length ≤ k := fun k => by
    rw [← List.getElem?_eq_none_iff, ← List.getElem?_eq_none_iff, changes_snd, Option.map_eq_none_iff]
  exact Nat.le_antisymm ((hbound _).mpr (Nat.le_refl _)) ((hbound _).mp (Nat.le_refl _))

end Repl

end LiveTex
