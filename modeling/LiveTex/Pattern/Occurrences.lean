import LiveTex.Pattern.Search
import LiveTex.Span.Occurrence

/-!
Cutting a text at the matches of a pattern. The search goes on behind each match; a match of nothing
directly behind another match does not count.
-/

namespace LiveTex.Pattern

/-- The occurrence that a match makes of its text. The first group is the mathematics, and without it
there is none. -/
def Hit.occurrence (hit : Hit) (whole : Text) : Occurrence :=
  match hit.group with
  | none => ⟨[], [], [], whole⟩
  | some (start, stop) =>
    let rest := whole.drop start
    ⟨[], whole.take start, rest.take (stop - start), rest.drop (stop - start)⟩

@[simp] theorem Hit.whole_occurrence (hit : Hit) (whole : Text) :
    (hit.occurrence whole).whole = whole := by
  unfold Hit.occurrence Occurrence.whole
  split
  · simp
  · rw [List.append_assoc, List.take_append_drop, List.take_append_drop]

@[simp] theorem Hit.gap_occurrence (hit : Hit) (whole : Text) : (hit.occurrence whole).gap = [] := by
  unfold Hit.occurrence
  split <;> rfl

/-- The matches in a text, given the character before it and whether that one ends a match. -/
def occurrencesFrom (program : Array Instr) (afterHit : Bool) (before : Option Char) (t : Text) : Cut :=
  match search program before t with
  | none => .none t
  | some hit =>
    let counts := 0 < hit.start || !afterHit
    match _h : t.drop hit.start with
    | [] => if counts then ((Cut.none []).found (hit.occurrence [])).behind t else .none t
    | c :: rest =>
      let cut :=
        if hit.length = 0 then
          let later := (occurrencesFrom program false (some c) rest).behind [c]
          if counts then later.found (hit.occurrence []) else later
        else
          let whole := (c :: rest).take hit.length
          (occurrencesFrom program true whole.getLast? ((c :: rest).drop hit.length)).found
            (hit.occurrence whole)
      cut.behind (t.take hit.start)
termination_by t.length
decreasing_by
  all_goals
    have hlength := congrArg List.length _h
    simp only [List.length_drop, List.length_cons] at hlength ⊢
    omega

@[simp] theorem text_occurrencesFrom (program : Array Instr) (afterHit : Bool) (before : Option Char)
    (t : Text) : (occurrencesFrom program afterHit before t).text = t := by
  fun_induction occurrencesFrom program afterHit before t with
  | case1 | case3 => rfl
  | case2 => simp
  | case4 afterHit before t hit hfound counts c rest hrest cut ihEmpty ih =>
    have hcut : cut.text = c :: rest := by
      by_cases hlength : hit.length = 0
      · by_cases hcounts : counts = true <;> simp [cut, hlength, hcounts, ihEmpty]
      · simp only [cut, dif_neg hlength, Cut.text_found, Hit.gap_occurrence, Hit.whole_occurrence,
          ih hlength, List.nil_append, List.take_append_drop]
    rw [Cut.text_behind, hcut, ← hrest, List.take_append_drop]

/-- The matches in a text on its own: what stands around it is out of sight. An empty text is not
searched. -/
def occurrences (program : Array Instr) (t : Text) : Cut :=
  if t.isEmpty then .none t else occurrencesFrom program false none t

theorem text_occurrences (program : Array Instr) (t : Text) : (occurrences program t).text = t := by
  unfold occurrences
  split <;> simp

end LiveTex.Pattern
