import LiveTex.Name.Zones

/-!
The steps of the scanner of names. On the line a mark begins a script, a space ends the name, and a command ends it
once it has begun. Everything else stands in the zone that is being read.
-/

namespace LiveTex.Name

/-- The mark that begins a script. -/
inductive Marks : Char → Zone → Prop
  | sub : Marks '_' .sub
  | sup : Marks '^' .sup

theorem Marks.ne_main {mark : Char} {zone : Zone} (h : Marks mark zone) : zone ≠ .main := by
  cases h <;> simp

namespace Scan

/-- What the scanner knows after a character that stands in the zone that is being read. -/
def after (s : Scan) (c : Char) : Scan := ((s.noteCommand c).noteBrace c).advance

variable {s : Scan} {c mark : Char} {zone : Zone}

@[simp] theorem zone_noteCommand (s : Scan) (c : Char) : (s.noteCommand c).zone = s.zone := by
  unfold noteCommand
  split <;> rfl

@[simp] theorem started_noteCommand (s : Scan) (c : Char) : (s.noteCommand c).started = s.started := by
  unfold noteCommand
  split <;> rfl

@[simp] theorem onLine_noteCommand (s : Scan) (c : Char) : (s.noteCommand c).onLine = s.onLine := by
  unfold noteCommand
  split <;> rfl

@[simp] theorem zone_noteBrace (s : Scan) (c : Char) : (s.noteBrace c).zone = s.zone := by
  unfold noteBrace
  split
  · rfl
  · split <;> rfl

theorem noteBrace_of_ne (hopen : c ≠ '{') (hclose : c ≠ '}') : s.noteBrace c = s := by
  rw [noteBrace, if_neg hopen, if_neg hclose]

theorem onLine_eq_true_iff : s.onLine = true ↔ s.zone = .main ∧ s.depth = 0 := by
  simp [onLine]

theorem zone_of_onLine (h : s.onLine = true) : s.zone = .main := (onLine_eq_true_iff.mp h).1

theorem script?_of_mark (h : Marks mark zone) (hline : s.onLine = true) : s.script? mark = some zone := by
  cases h <;> simp [script?, hline]

theorem script?_eq_none (s : Scan) (hsub : c ≠ '_') (hsup : c ≠ '^') : s.script? c = none := by
  simp [script?, hsub, hsup]

theorem script?_of_onLine_eq_false (h : s.onLine = false) : s.script? c = none := by
  simp [script?, h]

/-- A script ends outside braces, unless a command is being read. -/
theorem advance_eq (s : Scan) : s.advance =
    { s with
      zone := if s.depth = 0 ∧ s.inCommand = false then .main else s.zone
      started := s.started || s.zone == .main } := by
  obtain ⟨zone, depth, escaped, inCommand, started⟩ := s
  cases zone with
  | main => simp [advance]
  | sub | sup =>
    have hends : (depth == 0 && !inCommand) = true ↔ depth = 0 ∧ inCommand = false := by simp
    simp only [advance, hends]
    split <;> simp

theorem after_open (s : Scan) : s.after '{' = advance { s with depth := s.depth + 1, escaped := false } := by
  simp [after, noteCommand, noteBrace]

theorem after_close (s : Scan) : s.after '}' = advance { s with
    depth := s.depth - 1, escaped := false, inCommand := s.inCommand && s.depth - 1 != 0 } := by
  simp [after, noteCommand, noteBrace]

theorem after_backslash (s : Scan) : s.after '\\' = advance { s with
    escaped := !s.escaped, inCommand := s.inCommand || (!s.escaped && s.depth == 0) } := by
  simp [after, noteCommand, noteBrace]

theorem after_of_ne (hbackslash : c ≠ '\\') (hopen : c ≠ '{') (hclose : c ≠ '}') : s.after c = advance { s with
    escaped := false, inCommand := s.inCommand && !(c == ' ' && s.depth == 0) } := by
  rw [after, noteBrace_of_ne hopen hclose, noteCommand, if_neg hbackslash]

/-- A script goes on, or it ends outside braces. -/
theorem after_cases (s : Scan) (c : Char) :
    (s.after c).zone = s.zone ∨ (s.after c).zone = .main ∧ (s.after c).depth = 0 := by
  rw [after, advance_eq]
  split
  · next h => exact .inr ⟨rfl, h.1⟩
  · exact .inl (by simp)

end Scan

variable {s : Scan} {c mark : Char} {zone : Zone} {t : Text}

/-- On the line a mark begins its script. -/
theorem zonesFrom_of_mark (h : Marks mark zone) (hline : s.onLine = true) (t : Text) :
    zonesFrom s (mark :: t) = zonesFrom { s.noteCommand mark with zone } t := by
  rw [zonesFrom, Scan.script?_of_mark h (by rw [Scan.onLine_noteCommand, hline])]

/-- On the line a space ends the name. -/
theorem zonesFrom_space (hline : s.onLine = true) (t : Text) : zonesFrom s (' ' :: t) = .rest t := by
  rw [zonesFrom, Scan.script?_eq_none _ (by decide) (by decide), Scan.noteBrace_of_ne (by decide) (by decide)]
  simp [hline]

/-- On the line a command ends the name that has begun. -/
theorem zonesFrom_backslash (hline : s.onLine = true) (hstarted : s.started = true) (t : Text) :
    zonesFrom s ('\\' :: t) = .rest ('\\' :: t) := by
  rw [zonesFrom, Scan.script?_eq_none _ (by decide) (by decide), Scan.noteBrace_of_ne (by decide) (by decide)]
  simp [hline, hstarted]

/-- A character that means nothing where the scanner is stands in the zone that is being read. -/
theorem zonesFrom_stands (h : s.onLine = true → c ∉ ['_', '^', ' '] ∧ (c = '\\' → s.started = false)) (t : Text) :
    zonesFrom s (c :: t) = (zonesFrom (s.after c) t).push s.zone c := by
  have hscript : (s.noteCommand c).script? c = none := by
    cases hline : s.onLine with
    | false => exact Scan.script?_of_onLine_eq_false (by rw [Scan.onLine_noteCommand, hline])
    | true =>
      have hmark := (h hline).1
      simp only [List.mem_cons, not_or] at hmark
      exact Scan.script?_eq_none _ hmark.1 hmark.2.1
  have hspace : (((s.noteCommand c).noteBrace c).onLine && c == ' ') = false := by
    rw [Bool.and_eq_false_imp, beq_eq_false_iff_ne]
    rintro hline rfl
    rw [Scan.noteBrace_of_ne (by decide) (by decide), Scan.onLine_noteCommand] at hline
    exact (h hline).1 (by simp)
  have hcommand : (((s.noteCommand c).noteBrace c).onLine && c == '\\' && ((s.noteCommand c).noteBrace c).started) =
      false := by
    rw [Bool.and_eq_false_imp, Bool.and_eq_true, beq_iff_eq]
    rintro ⟨hline, rfl⟩
    rw [Scan.noteBrace_of_ne (by decide) (by decide), Scan.onLine_noteCommand] at hline
    rw [Scan.noteBrace_of_ne (by decide) (by decide), Scan.started_noteCommand, (h hline).2 rfl]
  simp only [zonesFrom, hscript, hspace, hcommand, Bool.false_eq_true, if_false, Scan.zone_noteBrace,
    Scan.zone_noteCommand]
  rfl

/-- In a script every character belongs to the script. -/
theorem zonesFrom_of_script (hzone : s.zone ≠ .main) (c : Char) (t : Text) :
    zonesFrom s (c :: t) = (zonesFrom (s.after c) t).push s.zone c :=
  zonesFrom_stands (fun hline => absurd (Scan.zone_of_onLine hline) hzone) t

/-- What one character can do: open a script, end the name, or stand in the zone that is being read. -/
theorem zonesFrom_cons (s : Scan) (c : Char) (t : Text) :
    (s.onLine = true ∧ ∃ zone, Marks c zone ∧ zonesFrom s (c :: t) = zonesFrom { s.noteCommand c with zone } t) ∨
    (s.onLine = true ∧ ∃ rest, (rest = t ∧ c = ' ' ∨ rest = c :: t ∧ c = '\\') ∧ zonesFrom s (c :: t) = .rest rest) ∨
    (s.onLine = true → c ∉ ['_', '^', ' ']) ∧ zonesFrom s (c :: t) = (zonesFrom (s.after c) t).push s.zone c := by
  by_cases hline : s.onLine = true
  · by_cases hsub : c = '_'
    · subst hsub
      exact .inl ⟨hline, .sub, .sub, zonesFrom_of_mark .sub hline t⟩
    by_cases hsup : c = '^'
    · subst hsup
      exact .inl ⟨hline, .sup, .sup, zonesFrom_of_mark .sup hline t⟩
    by_cases hspace : c = ' '
    · subst hspace
      exact .inr (.inl ⟨hline, t, .inl ⟨rfl, rfl⟩, zonesFrom_space hline t⟩)
    by_cases hcommand : c = '\\' ∧ s.started = true
    · obtain ⟨rfl, hstarted⟩ := hcommand
      exact .inr (.inl ⟨hline, _, .inr ⟨rfl, rfl⟩, zonesFrom_backslash hline hstarted t⟩)
    have hplain : c ∉ ['_', '^', ' '] := by simp [hsub, hsup, hspace]
    refine .inr (.inr ⟨fun _ => hplain, zonesFrom_stands (fun _ => ⟨hplain, fun hc => ?_⟩) t⟩)
    rw [← Bool.not_eq_true]
    exact fun hstarted => hcommand ⟨hc, hstarted⟩
  · exact .inr (.inr ⟨fun h => absurd h hline, zonesFrom_stands (fun h => absurd h hline) t⟩)

end LiveTex.Name
