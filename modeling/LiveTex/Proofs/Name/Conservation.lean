import Mathlib.Data.List.Perm.Basic
import LiveTex.Proofs.Name.Readback
import LiveTex.Proofs.Name.Scripts

/-!
What canonical names keep. Blanks, marks and braces come and go, and the other characters change their places at most:
none is lost and none is written twice, however the braces stand and whatever is escaped.
-/

namespace LiveTex.Name

/-- A character that says something by itself: no blank, no mark of a script and no brace. -/
def isSubstance (c : Char) : Bool := !Text.isBlank c && c != '_' && c != '^' && c != '{' && c != '}'

/-- The characters of a text that say something, in order. -/
def substance (t : Text) : Text := t.filter isSubstance

variable {s t : Text} {c : Char}

@[simp] theorem substance_nil : substance [] = [] := rfl

@[simp] theorem substance_append (s t : Text) : substance (s ++ t) = substance s ++ substance t :=
  List.filter_append ..

theorem substance_cons (c : Char) (t : Text) : substance (c :: t) = substance [c] ++ substance t :=
  substance_append [c] t

theorem substance_singleton_of_marks {zone : Zone} (h : Marks c zone) : substance [c] = [] := by
  cases h <;> decide

theorem substance_of_allBlank (h : Text.AllBlank t) : substance t = [] := by
  rw [substance, List.filter_eq_nil_iff]
  intro c hc
  simp [isSubstance, h c hc]

theorem substance_trim (t : Text) : substance (Text.trim t) = substance t := by
  obtain ⟨front, back, hfront, hback, hsplit⟩ := Text.exists_blanks_around t
  calc substance (Text.trim t) = substance (front ++ Text.trim t ++ back) := by
        simp [substance_of_allBlank hfront, substance_of_allBlank hback]
    _ = substance t := by rw [← hsplit]

theorem substance_trimStart (t : Text) : substance (Text.trimStart t) = substance t := by
  have hsplit : substance t = substance (t.takeWhile Text.isBlank) ++ substance (Text.trimStart t) := by
    rw [← substance_append, Text.trimStart, List.takeWhile_append_dropWhile]
  rw [hsplit, substance_of_allBlank fun c hc => List.all_eq_true.mp List.all_takeWhile c hc, List.nil_append]

theorem substance_braces (t : Text) : substance ('{' :: t ++ ['}']) = substance t := by
  have hopen : substance ['{'] = [] := by decide
  have hclose : substance ['}'] = [] := by decide
  rw [substance_append, substance_cons, hopen, hclose, List.nil_append, List.append_nil]

theorem substance_of_unbraced? {inner : Text} (h : unbraced? t = some inner) : substance inner = substance t := by
  rw [eq_braced_of_unbraced? h]
  exact (substance_braces inner).symm

theorem substance_stripped (t : Text) : substance (stripped t) = substance t := by
  induction t using stripped.induct with
  | case1 t hnone => rw [stripped_of_none hnone, substance_trim]
  | case2 t inner hinner ih => rw [stripped_of_unbraced? hinner, ih, substance_of_unbraced? hinner, substance_trim]

/-- A script is written with its mark and at most one pair of braces. -/
theorem substance_script {mark : Char} {zone : Zone} (hmark : Marks mark zone) (spelling : Spelling) (t : Text) :
    substance (script mark spelling t) = substance t := by
  have hmark := substance_singleton_of_marks hmark
  unfold script
  split
  · rw [substance_cons, hmark, List.nil_append]
  · rw [List.cons_append, substance_cons, hmark, List.nil_append, substance_braces]

theorem substance_zoneScript {mark : Char} {zone : Zone} (hmark : Marks mark zone) (spelling : Spelling) (t : Text) :
    substance (zoneScript mark spelling t) = substance t := by
  have hinner : substance ((unbraced? t).getD t) = substance t := by
    cases h : unbraced? t with
    | none => rfl
    | some inner => exact substance_of_unbraced? h
  rw [zoneScript]
  split
  · next hempty => rw [← hinner, hempty]
  · next d u hfull => rw [substance_script hmark, substance_trim, ← hinner, hfull]

/-- What the zones of a name and the text behind it say. -/
def Zones.substance (z : Zones) : Text :=
  Name.substance z.main ++ (Name.substance z.sub ++ (Name.substance z.sup ++ Name.substance z.trailing))

theorem Zones.substance_push_perm (z : Zones) (zone : Zone) (c : Char) :
    (z.push zone c).substance.Perm (Name.substance [c] ++ z.substance) := by
  cases zone with
  | main =>
    simp only [push, substance, substance_cons c z.main, List.append_assoc]
    exact .refl _
  | sub =>
    simp only [push, substance, substance_cons c z.sub, List.append_assoc]
    exact List.perm_append_comm_assoc ..
  | sup =>
    simp only [push, substance, substance_cons c z.sup, List.append_assoc]
    exact ((List.perm_append_comm_assoc ..).append_left _).trans (List.perm_append_comm_assoc ..)

/-- The scanner gives every character its zone or leaves it to the text behind the name. Only marks are passed over. -/
theorem substance_zonesFrom_perm (s : Scan) (t : Text) : (zonesFrom s t).substance.Perm (substance t) := by
  induction t generalizing s with
  | nil => exact .refl _
  | cons c t ih =>
    rw [substance_cons]
    obtain ⟨-, zone, hmark, hscan⟩ | ⟨-, rest, hrest, hscan⟩ | ⟨-, hscan⟩ := zonesFrom_cons s c t
    · rw [hscan, substance_singleton_of_marks hmark]
      exact ih _
    · rw [hscan]
      obtain ⟨rfl, rfl⟩ | ⟨rfl, -⟩ := hrest
      · exact .refl _
      · rw [← substance_cons]
        exact .refl _
    · rw [hscan]
      exact (Zones.substance_push_perm _ _ _).trans ((ih _).append_left _)

theorem substance_zones_perm (t : Text) : (zones t).substance.Perm (substance t) := by
  have h := substance_zonesFrom_perm .start (Text.trimStart t)
  rwa [substance_trimStart] at h

/-- The loop over the names of a text: with `n` further names to come, it writes `out`. -/
inductive Assembles : Spelling → (n : Nat) → (t out : Text) → Prop
  | last {spelling : Spelling} {t : Text} (h : (zones t).trailing = []) :
      Assembles spelling 0 t ((zones t).name spelling)
  | further {spelling : Spelling} {n : Nat} {t out : Text} (h : (zones t).trailing ≠ [])
      (hrest : Assembles .braced n (zones t).trailing out) :
      Assembles spelling (n + 1) t ((zones t).name spelling ++ ' ' :: out)

/-- The loop ends, since every name takes a character of the text at least. -/
theorem exists_assembles (spelling : Spelling) (t : Text) : ∃ n ≤ t.length, Assembles spelling n t (names spelling t) := by
  induction spelling, t using names.induct with
  | case1 spelling t z htrailing =>
    rw [names, dif_pos htrailing]
    exact ⟨0, Nat.zero_le _, .last htrailing⟩
  | case2 spelling t z htrailing ih =>
    obtain ⟨n, hn, hrest⟩ := ih
    rw [names, dif_neg htrailing]
    exact ⟨n + 1, Nat.lt_of_le_of_lt hn (length_trailing_lt htrailing), .further htrailing hrest⟩

theorem Zones.substance_name (z : Zones) (spelling : Spelling) :
    Name.substance (z.name spelling) ++ Name.substance z.trailing = z.substance := by
  simp [name, substance, substance_zoneScript .sub, substance_zoneScript .sup]

theorem Assembles.substance_perm {spelling : Spelling} {n : Nat} {out : Text} (h : Assembles spelling n t out) :
    (substance out).Perm (substance t) := by
  induction h with
  | @last spelling t htrailing =>
    have hname := Zones.substance_name (zones t) spelling
    rw [htrailing, substance_nil, List.append_nil] at hname
    rw [hname]
    exact substance_zones_perm t
  | @further spelling n t out htrailing hrest ih =>
    have hspace : substance [' '] = [] := by decide
    rw [substance_append, substance_cons, hspace, List.nil_append]
    refine (ih.append_left _).trans ?_
    rw [Zones.substance_name]
    exact substance_zones_perm t

/-- Without color commands, a name in either spelling is made of the characters of the text that say something, each as
often as it stands there. The loop that writes it has no more rounds than the text has characters. -/
theorem substance_spelled_perm (spelling : Spelling) (t : Text)
    (hcolor : ∀ command ∈ colorCommands, mentions command t = false) :
    (substance (spelled spelling t)).Perm (substance t) ∧
      ∃ n ≤ t.length, Assembles spelling n (stripped t) (spelled spelling t) := by
  have huncolored : uncolored (stripped t) = stripped t :=
    uncolored_eq_self fun command hcommand => mentions_eq_false_of_part (isInfix_stripped t) (hcolor command hcommand)
  obtain ⟨n, hn, hassembles⟩ := exists_assembles spelling (stripped t)
  rw [spelled, huncolored]
  refine ⟨?_, n, Nat.le_trans hn (length_stripped_le t), hassembles⟩
  rw [← substance_stripped t]
  exact hassembles.substance_perm

/-- A script without a text, a superscript that is a mark, a brace that closes nothing and a backslash at the end. -/
theorem substance_spelled_of_stray_marks :
    let t : Text := "a_1^^b é_ \\\\_\x7b\\c_\x7dd\x7d ^2 _\\".toList
    (∀ command ∈ colorCommands, mentions command t = false) ∧
      spelled .compact t = "ab_1^^ é_\x7b\x7d \\ \\d\x7d ^2 _\\_\x7b\\c_\x7d".toList ∧
      (substance (spelled .compact t)).Perm (substance t) ∧
      ∃ n ≤ t.length, Assembles .compact n (stripped t) (spelled .compact t) := by
  intro t
  have hcolor : ∀ command ∈ colorCommands, mentions command t = false := by decide
  exact ⟨hcolor, by decide +kernel, substance_spelled_perm .compact t hcolor⟩

end LiveTex.Name
