import LiveTex.Proofs.Name.Runs
import LiveTex.Proofs.Name.Scripts

/-!
Plain names: letters with an optional subscript of letters and digits. However such a name is typed, it
comes to the same canonical name, and its two aliases tell it from every other one.
-/

namespace LiveTex.Name

/-- A text without scripts, spaces and commands is one name, the whole of it on the line. -/
theorem names_ordinary {t : Text} (spelling : Spelling) (ht : ∀ c ∈ t, isOrdinary c = true) :
    names spelling t = t := by
  have hzones : zones t = ⟨t, [], [], []⟩ := by
    have hstart : Text.trimStart t = t :=
      Text.trimStart_eq_self fun c hc => isBlank_of_isOrdinary (ht c (List.mem_of_mem_head? hc))
    have hscan := zonesFrom_ordinary false [] ht
    rw [List.append_nil] at hscan
    rw [zones, hstart, Scan.start_eq_main, hscan]
    simp [zonesFrom, Zones.rest, Zones.onLine]
  rw [names, hzones]
  simp [Zones.name, zoneScript, unbraced?]

theorem inert_of_isOrdinary {t : Text} (ht : ∀ c ∈ t, isOrdinary c = true) : Inert t := by
  apply Inert.of_passed (Passed.of_quiet fun c hc => isQuiet_of_isOrdinary (ht c hc))
  · exact Text.trimmed_of_mem fun c hc => isBlank_of_isOrdinary (ht c hc)
  · intro hhead
    exact (ne_of_isOrdinary (ht '{' (List.mem_of_mem_head? hhead))).2.1 rfl
  · intro c hc
    exact (ne_of_isOrdinary (ht c hc)).1

/-- Such a text is its own canonical name. -/
theorem spelled_ordinary {t : Text} (spelling : Spelling) (ht : ∀ c ∈ t, isOrdinary c = true) :
    spelled spelling t = t := by
  rw [Wrapped.core.spelled_eq (inert_of_isOrdinary ht), names_ordinary spelling ht]

/-- A name of letters with a subscript of letters and digits; without a subscript the script is empty. -/
structure Plain where
  base : Text
  script : Text
  base_ne_nil : base ≠ []
  letters : AllLetters base
  alphanumeric : ∀ c ∈ script, c.isAlphanum = true
  deriving DecidableEq, Repr

namespace Plain

variable {n : Plain}

theorem ext' {m n : Plain} (hbase : m.base = n.base) (hscript : m.script = n.script) : m = n := by
  cases m
  cases n
  cases hbase
  cases hscript
  rfl

/-- The name with its script in braces. -/
def canonical (n : Plain) : Text := if n.script = [] then n.base else n.base ++ '_' :: '{' :: n.script ++ ['}']

/-- The name with a script of one character without braces. -/
def compact (n : Plain) : Text :=
  match n.script with
  | [c] => n.base ++ ['_', c]
  | _ => n.canonical

/-- The ways to type a name without blanks and color commands. -/
inductive Typed (n : Plain) : Text → Prop
  | base (h : n.script = []) : Typed n n.base
  | bare {c : Char} (h : n.script = [c]) : Typed n (n.base ++ ['_', c])
  | braced : Typed n (n.base ++ '_' :: '{' :: n.script ++ ['}'])

theorem isAlphanum_of_mem_base {c : Char} (h : c ∈ n.base) : c.isAlphanum = true := by
  simp [Char.isAlphanum, n.letters c h]

theorem ordinary_base (n : Plain) : ∀ c ∈ n.base, isOrdinary c = true :=
  fun _ hc => isOrdinary_of_isAlphanum (isAlphanum_of_mem_base hc)

theorem ordinary_script (n : Plain) : ∀ c ∈ n.script, isOrdinary c = true :=
  fun c hc => isOrdinary_of_isAlphanum (n.alphanumeric c hc)

/-- A name begins with a letter, whatever follows its base. -/
theorem exists_head (n : Plain) (t : Text) : ∃ c rest, n.base ++ t = c :: rest ∧ c.isAlphanum = true := by
  obtain ⟨c, rest, hbase⟩ := List.exists_cons_of_ne_nil n.base_ne_nil
  exact ⟨c, rest ++ t, by rw [hbase]; rfl, isAlphanum_of_mem_base (by rw [hbase]; exact .head _)⟩

theorem zones_base (n : Plain) (t : Text) : zones (n.base ++ t) = (zonesFrom (.main true) t).onLine n.base :=
  zones_ordinary_append t n.base_ne_nil n.ordinary_base

/-- The zones of a name, however it is typed. -/
theorem zones_of_typed {t : Text} (h : n.Typed t) :
    ∃ sub, zones t = ⟨n.base, sub, [], []⟩ ∧ (unbraced? sub).getD sub = n.script := by
  cases h with
  | base h =>
    have hzones := n.zones_base []
    rw [List.append_nil] at hzones
    exact ⟨[], by rw [hzones]; simp [zonesFrom, Zones.rest, Zones.onLine], h.symm⟩
  | @bare c h =>
    have hc := n.ordinary_script c (by simp [h])
    refine ⟨[c], ?_, ?_⟩
    · rw [zones_base, zonesFrom_one .sub hc]
      simp [zonesFrom, Zones.rest, Zones.push, Zones.onLine]
    · have hopen := (ne_of_isOrdinary hc).2.1
      rw [h]
      unfold unbraced?
      split
      · next heq => exact absurd (List.cons.inj heq).1 hopen
      · rfl
  | braced =>
    have hpassed : Passed n.script := Passed.of_quiet fun c hc => isQuiet_of_isOrdinary (n.ordinary_script c hc)
    refine ⟨'{' :: n.script ++ ['}'], ?_, by rw [hpassed.unbraced?_braces]; rfl⟩
    have hquiet (c : Char) (hc : c ∈ n.script) : c ≠ '{' ∧ c ≠ '}' :=
      ⟨(ne_of_isOrdinary (n.ordinary_script c hc)).2.1, (ne_of_isOrdinary (n.ordinary_script c hc)).2.2.1⟩
    rw [List.append_assoc, zones_base, zonesFrom_inBraces .sub hquiet]
    simp [zonesFrom, Zones.rest, Zones.onLine, Zones.put]

theorem mem_typed {t : Text} (h : n.Typed t) {c : Char} (hc : c ∈ t) :
    c.isAlphanum = true ∨ c = '_' ∨ c = '{' ∨ c = '}' := by
  cases h with
  | base => exact .inl (isAlphanum_of_mem_base hc)
  | @bare d h =>
    have hd := n.alphanumeric d (by simp [h])
    simp only [List.mem_append, List.mem_cons, List.not_mem_nil, or_false] at hc
    obtain hc | rfl | rfl := hc
    · exact .inl (isAlphanum_of_mem_base hc)
    · exact .inr (.inl rfl)
    · exact .inl hd
  | braced =>
    simp only [List.mem_append, List.mem_cons, List.not_mem_nil, or_false] at hc
    obtain (hc | rfl | rfl | hc) | rfl := hc
    · exact .inl (isAlphanum_of_mem_base hc)
    · exact .inr (.inl rfl)
    · exact .inr (.inr (.inl rfl))
    · exact .inl (n.alphanumeric c hc)
    · exact .inr (.inr (.inr rfl))

theorem exists_head_typed {t : Text} (h : n.Typed t) : ∃ c rest, t = c :: rest ∧ c.isAlphanum = true := by
  cases h with
  | base => simpa using n.exists_head []
  | bare => exact n.exists_head _
  | braced =>
    rw [List.append_assoc]
    exact n.exists_head _

theorem passed_typed {t : Text} (h : n.Typed t) : Passed t := by
  have hbase : ∀ c ∈ n.base, isQuiet c = true := fun c hc => isQuiet_of_isOrdinary (n.ordinary_base c hc)
  have hscript : ∀ c ∈ n.script, isQuiet c = true := fun c hc => isQuiet_of_isOrdinary (n.ordinary_script c hc)
  cases h with
  | base => exact Passed.of_quiet hbase
  | @bare c h =>
    apply (Passed.of_quiet hbase).append (Passed.of_quiet _)
    have hc := hscript c (by simp [h])
    simpa using ⟨by decide, hc⟩
  | braced =>
    rw [List.append_assoc]
    have hmark : ∀ c ∈ ['_'], isQuiet c = true := List.all_eq_true.mp (by decide)
    exact (Passed.of_quiet hbase).append ((Passed.of_quiet hmark).append (Passed.of_quiet hscript).braces)

theorem not_mem_typed {t : Text} (h : n.Typed t) {c : Char} (halphanum : c.isAlphanum = false)
    (hc : c ≠ '_' ∧ c ≠ '{' ∧ c ≠ '}') : c ∉ t := by
  intro hmem
  obtain hmem | hmem | hmem | hmem := mem_typed h hmem
  · rw [halphanum] at hmem
    cases hmem
  · exact hc.1 hmem
  · exact hc.2.1 hmem
  · exact hc.2.2 hmem

theorem ne_of_mem_typed {t : Text} (h : n.Typed t) {c : Char} (halphanum : c.isAlphanum = false)
    (hc : c ≠ '_' ∧ c ≠ '{' ∧ c ≠ '}') : ∀ d ∈ t, d ≠ c := by
  rintro d hd rfl
  exact not_mem_typed h halphanum hc hd

theorem trimmed_typed {t : Text} (h : n.Typed t) : Text.Trimmed t := by
  apply Text.trimmed_of_mem
  intro c hc
  obtain hc | rfl | rfl | rfl := mem_typed h hc
  · exact Text.isBlank_of_isAlphanum hc
  all_goals decide

theorem inert_of_typed {t : Text} (h : n.Typed t) : Inert t := by
  apply Inert.of_passed (passed_typed h) (trimmed_typed h)
  · obtain ⟨c, rest, rfl, hc⟩ := exists_head_typed h
    have hopen := (ne_of_isOrdinary (isOrdinary_of_isAlphanum hc)).2.1
    simpa using hopen
  · exact ne_of_mem_typed h (by decide) (by decide)

theorem trim_script (n : Plain) : Text.trim n.script = n.script :=
  Text.trim_eq_self (Text.trimmed_of_mem fun c hc => Text.isBlank_of_isAlphanum (n.alphanumeric c hc))

/-- However a name is typed, it has the same two spellings. -/
theorem names_of_typed {t : Text} (h : n.Typed t) :
    names .braced t = n.canonical ∧ names .compact t = n.compact := by
  obtain ⟨sub, hzones, hsub⟩ := zones_of_typed h
  have hscript := n.trim_script
  have hnames : ∀ spelling, names spelling t = n.base ++ zoneScript '_' spelling sub := by
    intro spelling
    rw [names, hzones]
    simp [Zones.name, zoneScript, unbraced?]
  rw [hnames, hnames, zoneScript, zoneScript, hsub, canonical, compact, canonical]
  cases hcases : n.script with
  | nil => simp
  | cons c s =>
    rw [hcases] at hscript
    cases s with
    | nil => simp [hscript, Name.script, isSingle]
    | cons d s =>
      have hc := (ne_of_isOrdinary (n.ordinary_script c (by simp [hcases]))).1
      have hlong : isSingle (c :: d :: s) = false := by
        unfold isSingle
        split
        · next heq => cases heq
        · next heq => exact absurd (List.cons.inj heq).1 hc
        · rfl
      simp [hscript, Name.script, hlong]

/-- Braces, blanks and color commands make no difference to a name. -/
theorem canonical_of_wrapped {t w : Text} (h : n.Typed t) (hw : Wrapped colorCommands t w) :
    Name.canonical w = n.canonical := by
  rw [Name.canonical, hw.spelled_eq (inert_of_typed h), (names_of_typed h).1]

theorem aliases_of_typed {t : Text} (h : n.Typed t) : aliases t = [n.canonical, n.compact] := by
  have hspelled := Wrapped.core.spelled_eq (inert_of_typed h)
  rw [aliases, Name.canonical, hspelled, hspelled, (names_of_typed h).1, (names_of_typed h).2]

end Plain

end LiveTex.Name
