import LiveTex.Proofs.Name.Scanning
import LiveTex.Proofs.Name.Wrapping

/-!
What the scanner makes of the pieces of a name. Ordinary characters stand on the line. A script in braces ends with its
brace, and one character without braces ends with itself. A command without braces goes on: what stands behind it
belongs to the script too, up to a space and with the space.
-/

namespace LiveTex.Name

/-- A character that the scanner of names takes as it is. -/
def isOrdinary (c : Char) : Bool := isQuiet c && c != '_' && c != '^' && !Text.isBlank c

/-- The scanner on the line, outside scripts. -/
def Scan.main (started : Bool) : Scan := ⟨.main, 0, false, false, started⟩

@[simp] theorem Scan.start_eq_main : Scan.start = .main false := rfl

/-- Puts a text in front of the main zone. -/
def Zones.onLine (z : Zones) (t : Text) : Zones := { z with main := t ++ z.main }

theorem isQuiet_of_isOrdinary {c : Char} (h : isOrdinary c = true) : isQuiet c = true := by
  simp only [isOrdinary, Bool.and_eq_true] at h
  exact h.1.1.1

theorem isBlank_of_isOrdinary {c : Char} (h : isOrdinary c = true) : Text.isBlank c = false := by
  simp only [isOrdinary, Bool.and_eq_true, Bool.not_eq_true'] at h
  exact h.2

/-- What the scanner tests a character for is not there. -/
theorem ne_of_isOrdinary {c : Char} (h : isOrdinary c = true) :
    c ≠ '\\' ∧ c ≠ '{' ∧ c ≠ '}' ∧ c ≠ '_' ∧ c ≠ '^' ∧ c ≠ ' ' := by
  refine ⟨?_, ?_, ?_, ?_, ?_, ?_⟩ <;> (rintro rfl; revert h; decide)

theorem isOrdinary_of_isAlphanum {c : Char} (h : c.isAlphanum = true) : isOrdinary c = true := by
  simp only [isOrdinary, isQuiet, Text.isBlank_of_isAlphanum h, Bool.and_eq_true, bne_iff_ne, Bool.not_false,
    and_true]
  refine ⟨⟨⟨⟨?_, ?_⟩, ?_⟩, ?_⟩, ?_⟩ <;> (rintro rfl; revert h; decide)

theorem zonesFrom_main_cons {c : Char} (hc : isOrdinary c = true) (started : Bool) (t : Text) :
    zonesFrom (.main started) (c :: t) = (zonesFrom (.main true) t).push .main c := by
  obtain ⟨hbackslash, hopen, hclose, hsub, hsup, hspace⟩ := ne_of_isOrdinary hc
  rw [zonesFrom_stands (by simp [hbackslash, hsub, hsup, hspace]), Scan.after_of_ne hbackslash hopen hclose,
    Scan.advance_eq]
  simp [Scan.main]

theorem zonesFrom_ordinary {b : Text} (started : Bool) (t : Text) (hb : ∀ c ∈ b, isOrdinary c = true) :
    zonesFrom (.main started) (b ++ t) = (zonesFrom (.main (started || !b.isEmpty)) t).onLine b := by
  induction b generalizing started with
  | nil => simp [Zones.onLine]
  | cons c b ih =>
    rw [List.cons_append, zonesFrom_main_cons (hb c (.head _)), ih true fun d hd => hb d (.tail _ hd)]
    simp [Zones.push, Zones.onLine]

/-- On the line a space ends the name, and so does the end of the text. -/
theorem zonesFrom_main_end (started : Bool) {t : Text} (ht : ∀ c ∈ t.head?, c = ' ') :
    zonesFrom (.main started) t = .rest t.tail := by
  cases t with
  | nil => rfl
  | cons c t =>
    obtain rfl := ht c rfl
    exact zonesFrom_space rfl t

/-- What stands on the line in front of a mark, a space or a command begins the name. -/
theorem zones_ordinary_append {b : Text} (t : Text) (hne : b ≠ []) (hb : ∀ c ∈ b, isOrdinary c = true) :
    zones (b ++ t) = (zonesFrom (.main true) t).onLine b := by
  have hstart : Text.trimStart (b ++ t) = b ++ t := by
    obtain ⟨c, b, rfl⟩ := List.exists_cons_of_ne_nil hne
    apply Text.trimStart_eq_self
    simpa using isBlank_of_isOrdinary (hb c (.head _))
  have hempty : b.isEmpty = false := by simpa using hne
  rw [zones, hstart, Scan.start_eq_main, zonesFrom_ordinary false t hb, hempty]
  rfl

/-- Puts a text in front of a zone. -/
def Zones.put (z : Zones) (zone : Zone) (t : Text) : Zones :=
  match zone with
  | .main => { z with main := t ++ z.main }
  | .sub => { z with sub := t ++ z.sub }
  | .sup => { z with sup := t ++ z.sup }

theorem Zones.put_nil (z : Zones) (zone : Zone) : z.put zone [] = z := by
  cases zone <;> rfl

theorem Zones.put_cons (z : Zones) (zone : Zone) (c : Char) (t : Text) :
    z.put zone (c :: t) = (z.put zone t).push zone c := by
  cases zone <;> rfl

theorem Zones.put_singleton (z : Zones) (zone : Zone) (c : Char) : z.put zone [c] = z.push zone c := by
  cases zone <;> rfl

theorem Zones.put_append (z : Zones) (zone : Zone) (s t : Text) : z.put zone (s ++ t) = (z.put zone t).put zone s := by
  cases zone <;> simp [put]

/-- The scanner behind a command that stands in a script without braces. -/
def Scan.behindCommand (zone : Zone) : Scan := ⟨zone, 0, false, true, true⟩

section

variable {mark : Char} {zone : Zone} {c : Char} {u t : Text}

theorem zonesFrom_mark (h : Marks mark zone) {started : Bool} (t : Text) :
    zonesFrom (.main started) (mark :: t) = zonesFrom ⟨zone, 0, false, false, started⟩ t := by
  rw [zonesFrom_of_mark h rfl]
  cases h <;> rfl

/-- A script without braces ends with its first character, whatever that is. -/
theorem zonesFrom_behindMark (hzone : zone ≠ .main) (hc : isQuiet c = true) (started : Bool) (t : Text) :
    zonesFrom ⟨zone, 0, false, false, started⟩ (c :: t) = (zonesFrom (.main started) t).push zone c := by
  obtain ⟨hbackslash, hopen, hclose⟩ := isQuiet_iff.mp hc
  rw [zonesFrom_of_script hzone, Scan.after_of_ne hbackslash hopen hclose, Scan.advance_eq]
  simp [Scan.main, beq_eq_false_iff_ne.mpr hzone]

/-- In braces only braces count, and for the scanner escaped ones count, too. -/
theorem exists_zonesFrom_inside_cons (hzone : zone ≠ .main) {depth : Int} (hdepth : 0 < depth)
    (hstays : ([c].count '}' : Int) < depth + [c].count '{') (escaped : Bool) (t : Text) :
    ∃ escaped', zonesFrom ⟨zone, depth, escaped, false, true⟩ (c :: t) =
      (zonesFrom ⟨zone, depth + [c].count '{' - [c].count '}', escaped', false, true⟩ t).push zone c := by
  have houter : depth ≠ 0 := by omega
  rw [zonesFrom_of_script hzone]
  by_cases hopen : c = '{'
  · subst hopen
    have hinner : depth + 1 ≠ 0 := by omega
    exact ⟨false, by simp [Scan.after_open, Scan.advance_eq, hinner]⟩
  by_cases hclose : c = '}'
  · subst hclose
    have hinner : depth - 1 ≠ 0 := by simp at hstays; omega
    exact ⟨false, by simp [Scan.after_close, Scan.advance_eq, hinner]⟩
  by_cases hbackslash : c = '\\'
  · subst hbackslash
    exact ⟨!escaped, by simp [Scan.after_backslash, Scan.advance_eq, houter, beq_eq_false_iff_ne.mpr houter]⟩
  · exact ⟨false, by simp [Scan.after_of_ne hbackslash hopen hclose, Scan.advance_eq, houter, hopen, hclose]⟩

/-- A text in braces belongs to the script, as long as it does not close them. -/
theorem exists_zonesFrom_inside (hzone : zone ≠ .main) (depth : Int)
    (hu : ∀ front, front <+: u → (front.count '}' : Int) < depth + front.count '{') (escaped : Bool) (t : Text) :
    ∃ escaped', zonesFrom ⟨zone, depth, escaped, false, true⟩ (u ++ t) =
      (zonesFrom ⟨zone, depth + u.count '{' - u.count '}', escaped', false, true⟩ t).put zone u := by
  induction u generalizing depth escaped with
  | nil => exact ⟨escaped, by simp [Zones.put_nil]⟩
  | cons c u ih =>
    have hcount (x : Char) (v : Text) : ((c :: v).count x : Int) = [c].count x + v.count x := by
      rw [← List.singleton_append, List.count_append, Int.natCast_add]
    have hdepth : 0 < depth := by simpa using hu [] List.nil_prefix
    obtain ⟨escaped', hstep⟩ :=
      exists_zonesFrom_inside_cons hzone hdepth (hu [c] (List.prefix_append [c] u)) escaped (u ++ t)
    have hinner : ∀ front, front <+: u →
        (front.count '}' : Int) < depth + [c].count '{' - [c].count '}' + front.count '{' := by
      intro front hfront
      have hcounts := hu (c :: front) ((List.prefix_cons_inj c).mpr hfront)
      rw [hcount '{' front, hcount '}' front] at hcounts
      omega
    obtain ⟨escaped'', hscan⟩ := ih _ hinner escaped'
    have hopen : depth + ((c :: u).count '{' : Int) - ((c :: u).count '}' : Int) =
        depth + [c].count '{' - [c].count '}' + u.count '{' - u.count '}' := by
      rw [hcount '{' u, hcount '}' u]
      omega
    exact ⟨escaped'', by rw [List.cons_append, hstep, hscan, Zones.put_cons, hopen]⟩

/-- The brace that closes the last group ends the script. -/
theorem zonesFrom_closing (hzone : zone ≠ .main) (escaped : Bool) (t : Text) :
    zonesFrom ⟨zone, 1, escaped, false, true⟩ ('}' :: t) = (zonesFrom (.main true) t).push zone '}' := by
  rw [zonesFrom_of_script hzone, Scan.after_close, Scan.advance_eq]
  simp [Scan.main]

theorem zonesFrom_mark_brace (h : Marks mark zone) (t : Text) :
    zonesFrom (.main true) (mark :: '{' :: t) = (zonesFrom ⟨zone, 1, false, false, true⟩ t).push zone '{' := by
  rw [zonesFrom_mark h, zonesFrom_of_script h.ne_main, Scan.after_open, Scan.advance_eq]
  simp

/-- A script in braces ends where they are closed, and commands, spaces and marks are nothing special in it. -/
theorem zonesFrom_braces (h : Marks mark zone) (hu : ∀ front, front <+: u → front.count '}' ≤ front.count '{')
    (hall : u.count '{' = u.count '}') (t : Text) :
    zonesFrom (.main true) (mark :: '{' :: u ++ '}' :: t) = (zonesFrom (.main true) t).put zone ('{' :: u ++ ['}']) := by
  obtain ⟨escaped, hscan⟩ := exists_zonesFrom_inside h.ne_main 1 (u := u)
    (fun front hfront => by have := hu front hfront; omega) false ('}' :: t)
  rw [hall, Int.add_sub_cancel] at hscan
  rw [List.cons_append, List.cons_append, zonesFrom_mark_brace h, hscan, zonesFrom_closing h.ne_main,
    List.cons_append, Zones.put_cons, Zones.put_append, Zones.put_singleton]

theorem zonesFrom_inBraces (h : Marks mark zone) (hu : ∀ c ∈ u, c ≠ '{' ∧ c ≠ '}') (t : Text) :
    zonesFrom (.main true) (mark :: '{' :: u ++ '}' :: t) =
      (zonesFrom (.main true) t).put zone ('{' :: u ++ ['}']) := by
  have hnone {c : Char} (hc : c = '{' ∨ c = '}') {front : Text} (hfront : front <+: u) : front.count c = 0 := by
    rw [List.count_eq_zero]
    intro hmem
    have hne := hu c (hfront.subset hmem)
    exact hc.elim hne.1 hne.2
  apply zonesFrom_braces h
  · intro front hfront
    rw [hnone (.inr rfl) hfront]
    exact Nat.zero_le _
  · rw [hnone (.inl rfl) (List.prefix_refl u), hnone (.inr rfl) (List.prefix_refl u)]

theorem zonesFrom_one (h : Marks mark zone) (hc : isOrdinary c = true) (t : Text) :
    zonesFrom (.main true) (mark :: c :: t) = (zonesFrom (.main true) t).push zone c := by
  rw [zonesFrom_mark h, zonesFrom_behindMark h.ne_main (isQuiet_of_isOrdinary hc)]

/-- Behind a command all goes on to belong to the script, letters as well as marks. -/
theorem zonesFrom_behindCommand_cons (hzone : zone ≠ .main) (hquiet : isQuiet c = true) (hspace : c ≠ ' ')
    (escaped : Bool) (t : Text) :
    zonesFrom ⟨zone, 0, escaped, true, true⟩ (c :: t) = (zonesFrom (.behindCommand zone) t).push zone c := by
  obtain ⟨hbackslash, hopen, hclose⟩ := isQuiet_iff.mp hquiet
  have hgoes : (c == ' ') = false := beq_eq_false_iff_ne.mpr hspace
  rw [zonesFrom_of_script hzone, Scan.after_of_ne hbackslash hopen hclose, Scan.advance_eq]
  simp [Scan.behindCommand, hgoes]

theorem zonesFrom_behindCommand_append (hzone : zone ≠ .main) (hu : ∀ c ∈ u, isQuiet c = true ∧ c ≠ ' ')
    (t : Text) : zonesFrom (.behindCommand zone) (u ++ t) = (zonesFrom (.behindCommand zone) t).put zone u := by
  induction u with
  | nil => rw [Zones.put_nil, List.nil_append]
  | cons c u ih =>
    obtain ⟨hquiet, hspace⟩ := hu c (.head _)
    have hstep := zonesFrom_behindCommand_cons hzone hquiet hspace false (u ++ t)
    rw [List.cons_append, Scan.behindCommand, hstep, ih fun d hd => hu d (.tail _ hd), Zones.put_cons]
    rfl

theorem zonesFrom_command (h : Marks mark zone) (hname : ∀ d ∈ c :: u, isQuiet d = true ∧ d ≠ ' ') (t : Text) :
    zonesFrom (.main true) (mark :: '\\' :: c :: u ++ t) =
      (zonesFrom (.behindCommand zone) t).put zone ('\\' :: c :: u) := by
  have hbegin : zonesFrom ⟨zone, 0, false, false, true⟩ ('\\' :: c :: (u ++ t)) =
      (zonesFrom ⟨zone, 0, true, true, true⟩ (c :: (u ++ t))).push zone '\\' := by
    rw [zonesFrom_of_script h.ne_main, Scan.after_backslash, Scan.advance_eq]
    simp
  obtain ⟨hquiet, hspace⟩ := hname c (.head _)
  rw [List.cons_append, List.cons_append, List.cons_append, zonesFrom_mark h, hbegin,
    zonesFrom_behindCommand_cons h.ne_main hquiet hspace,
    zonesFrom_behindCommand_append h.ne_main fun d hd => hname d (.tail _ hd), Zones.put_cons, Zones.put_cons]

/-- The first space behind a command is part of the script, and then the line goes on. -/
theorem zonesFrom_behindCommand_space (hzone : zone ≠ .main) (t : Text) :
    zonesFrom (.behindCommand zone) (' ' :: t) = (zonesFrom (.main true) t).push zone ' ' := by
  rw [zonesFrom_of_script hzone, Scan.after_of_ne (by decide) (by decide) (by decide), Scan.advance_eq]
  simp [Scan.behindCommand, Scan.main]

/-- What the scanner leaves on the line does not begin with a mark, since the mark would begin a script. -/
theorem head?_main_zonesFrom_ne (h : Marks mark zone) {s : Scan} (hs : s.zone = .main → s.depth = 0) (t : Text) :
    (zonesFrom s t).main.head? ≠ some mark := by
  induction t generalizing s with
  | nil => simp [zonesFrom, Zones.rest]
  | cons c t ih =>
    obtain ⟨-, zone', hmark, hscan⟩ | ⟨-, rest, -, hscan⟩ | ⟨hplain, hscan⟩ := zonesFrom_cons s c t
    · rw [hscan]
      exact ih fun hmain => absurd hmain hmark.ne_main
    · simp [hscan, Zones.rest]
    rw [hscan]
    cases hzone : s.zone with
    | main =>
      have hplain := hplain (Scan.onLine_eq_true_iff.mpr ⟨hzone, hs hzone⟩)
      have hne : c ≠ mark := by
        rintro rfl
        cases h <;> simp at hplain
      simpa [Zones.push] using hne
    | sub | sup =>
      refine ih fun hmain => ?_
      obtain hstays | ⟨-, hends⟩ := s.after_cases c
      · rw [hstays, hzone] at hmain
        cases hmain
      · exact hends

end

end LiveTex.Name
