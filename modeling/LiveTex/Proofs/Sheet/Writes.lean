import LiveTex.Proofs.Decimal.Nearest
import LiveTex.Proofs.Formula.Lexemes
import LiveTex.Proofs.Sheet.Holdings
import LiveTex.Proofs.Sheet.Outcome
import LiveTex.Proofs.Statement.Reading

/-!
Reading plain names back. A store that numbers were assigned to in one run holds the names in the order of
their first assignment, each with the number that was assigned last. A name comes to its number in every
spelling unless a name of letters, defined before it, captures it.
-/

namespace LiveTex

open Name (Plain Shape)
open Formula (Numeral)

/-- An assignment of a decimal to a plain name. -/
structure Write where
  name : Plain
  typed : Text
  front : Text
  back : Text
  literal : Numeral
  isTyped : name.Typed typed
  front_blank : Text.AllBlank front
  back_blank : Text.AllBlank back

namespace Write

/-- The line that is evaluated. -/
def text (w : Write) : Text := w.typed ++ w.front ++ ':' :: '=' :: w.back ++ w.literal.text

/-- The number that is assigned. -/
def value (w : Write) : Float := Decimal.read w.literal.text

end Write

namespace Formula.Numeral

theorem mem_text {x : Numeral} {c : Char} (h : c ∈ x.text) : c.isDigit = true ∨ c = '.' := by
  obtain h | h := List.mem_append.mp h
  · exact .inl (x.whole_digits c h)
  · split at h
    · simp at h
    · obtain rfl | h := List.mem_cons.mp h
      · exact .inr rfl
      · exact .inl (x.decimal_digits c h)

theorem not_mem_text {x : Numeral} {c : Char} (hdigit : c.isDigit = false) (hpoint : c ≠ '.') : c ∉ x.text := by
  intro h
  obtain h | h := mem_text h
  · rw [hdigit] at h
    cases h
  · exact hpoint h

theorem text_ne_nil (x : Numeral) : x.text ≠ [] := by
  intro h
  obtain ⟨hwhole, hrest⟩ := List.append_eq_nil_iff.mp h
  obtain hne | hne := x.ne_nil
  · exact hne hwhole
  · rw [if_neg hne] at hrest
    cases hrest

theorem isOrdinary_of_mem {x : Numeral} {c : Char} (h : c ∈ x.text) : Name.isOrdinary c = true := by
  obtain h | rfl := mem_text h
  · exact Name.isOrdinary_of_isAlphanum (by simp [Char.isAlphanum, h])
  · decide

theorem not_isAlpha_of_mem {x : Numeral} {c : Char} (h : c ∈ x.text) : c.isAlpha = false := by
  obtain h | rfl := mem_text h
  · exact not_isAlpha_of_isDigit h
  · decide

theorem trimmed_text (x : Numeral) : Text.Trimmed x.text :=
  Text.trimmed_of_mem fun _ hc => Name.isBlank_of_isOrdinary (isOrdinary_of_mem hc)

end Formula.Numeral

theorem Write.read_text (w : Write) : Statement.read w.text = ⟨w.literal.text, some w.typed⟩ := by
  have hne : w.typed ≠ [] := by
    obtain ⟨c, rest, htyped, -⟩ := Plain.exists_head_typed w.isTyped
    simp [htyped]
  have hpi : ∀ c ∈ w.typed ++ w.literal.text, c ≠ '\\' := by
    intro c hc
    obtain hc | hc := List.mem_append.mp hc
    · exact Plain.ne_of_mem_typed w.isTyped (by decide) (by decide) c hc
    · exact (Name.ne_of_isOrdinary (Numeral.isOrdinary_of_mem hc)).1
  have hread := Statement.read_assignment (Plain.trimmed_typed w.isTyped) hne
    (Plain.not_mem_typed w.isTyped (by decide) (by decide)) w.front_blank w.back_blank w.literal.trimmed_text
    w.literal.text_ne_nil (Numeral.not_mem_text (by decide) (by decide)) (Numeral.not_mem_text (by decide) (by decide)) hpi
  rw [Write.text, hread, Name.canonical, Name.spelled_ordinary _ fun c hc => Numeral.isOrdinary_of_mem hc]

namespace Store

variable {s : Store} {stem : Text} {named : List (Plain × Ident)} {value : Plain → Float} {n : Plain}
  {ident : Ident}

/-- The names with their identifiers after an assignment. -/
def recorded (stem : Text) (named : List (Plain × Ident)) (n : Plain) : List (Plain × Ident) :=
  if n ∈ named.map Prod.fst then named else named ++ [(n, Ident.numbered stem named.length)]

theorem isNotifying_eq_false (h : s.Holds stem named value) (ident : Ident) : s.isNotifying ident = false := by
  simp [isNotifying, h.quiet]

/-- An assignment to a plain name succeeds, and only its own number changes. -/
theorem Holds.evaluate_write (h : s.Holds stem named value) (w : Write)
    (hapart : ∀ k, w.name.base ≠ Ident.numbered stem k) :
    ∃ s' ident, s.evaluate w.text = (s', .ok ⟨some ident, [], some w.value⟩) ∧
      (w.name, ident) ∈ recorded stem named w.name ∧
      s'.Holds stem (recorded stem named w.name) (Holds.assigned value w.name w.value) := by
  have hresolved : s.resolved ⟨w.literal.text, some w.typed⟩ = w.literal.text := by
    rw [resolved, h.aliasTable]
    exact Name.substitute_of_not_isAlpha fun c hc => Numeral.not_isAlpha_of_mem hc
  have hnumber : w.value.isNaN = false := Decimal.isNaN_read _
  have hassign : s.evaluate w.text =
      ((s.assign [w.name.canonical, w.name.compact] [] w.value).1,
        (s.assign [w.name.canonical, w.name.compact] [] w.value).2.map fun ident => ⟨some ident, [], some w.value⟩) := by
    rw [evaluate_eq (f := ⟨[⟨.number, w.literal.text, 0, w.literal.text.bytes⟩], .number w.value⟩) (x := w.value)]
    · rw [w.read_text]
      simp only [Plain.aliases_of_typed w.isTyped, hnumber, Formula.symbols, Formula.symbolLexemes]
      rfl
    · rw [w.read_text, hresolved, Formula.compile_numeral]
      rfl
    · rfl
  by_cases hn : w.name ∈ named.map Prod.fst
  · obtain ⟨m, hm, hname⟩ := List.mem_map.mp hn
    have hmem : (w.name, m.2) ∈ named := hname ▸ hm
    have hstore := h.insert_of_mem hmem w.value
    refine ⟨s.insert m.2 ⟨w.value, [w.name.canonical, w.name.compact]⟩, m.2, ?_, ?_, ?_⟩
    rotate_left
    · rwa [recorded, if_pos hn]
    · rw [recorded, if_pos hn]
      exact hstore
    · rw [hassign, assign, h.resolveAny_of_mem hmem]
      simp [define, isNotifying_eq_false h, Except.map]
  · have hstore := h.insert_of_not_mem hn w.value hapart
    have hident : s.mintIdent.2 = Ident.numbered stem named.length := by
      rw [mintIdent, h.stem_eq, h.minted]
    refine ⟨s.mintIdent.1.insert s.mintIdent.2 ⟨w.value, [w.name.canonical, w.name.compact]⟩, s.mintIdent.2, ?_, ?_, ?_⟩
    rotate_left
    · rw [recorded, if_neg hn, hident]
      simp
    · rw [recorded, if_neg hn, ← hident]
      exact hstore
    · rw [hassign, assign, h.resolveAny_of_not_mem hn]
      simp [define, isNotifying, mintIdent, h.quiet, Except.map]

/-- A text that braces, blanks and color commands stand around is an expression. -/
theorem read_spelling {typed t : Text} (htyped : n.Typed typed) (ht : Name.Wrapped Name.colorCommands typed t) :
    Statement.read t = ⟨n.canonical, none⟩ := by
  have hmem : ∀ c : Char, c.isAlphanum = false ∧ c ≠ '_' ∧ c ≠ '{' ∧ c ≠ '}' ∧ c ≠ '\\' →
      Text.isBlank c = false → c ∉ t := by
    rintro c ⟨halphanum, hsub, hopen, hclose, hbackslash⟩ hblank hc
    obtain hc | hc | hc | hc | hc | hc := ht.mem (List.Subset.refl _) hc
    · exact Plain.not_mem_typed htyped halphanum ⟨hsub, hopen, hclose⟩ hc
    · rw [hblank] at hc
      cases hc
    · simp [Name.isColorChar, halphanum, hsub] at hc
    · exact hopen hc
    · exact hclose hc
    · exact hbackslash hc
  have hpi := Statement.withPi_wrapped (Plain.ne_of_mem_typed htyped (by decide) (by decide)) ht
  rw [Statement.read_expression hpi (hmem '=' (by decide) (by decide)),
    Plain.canonical_of_wrapped htyped ht]

/-- A formula that is the text of a shape has one symbol only when it is that symbol. -/
theorem shape_of_symbolsOf {p : Shape} (hp : p.WellFormed) (h : Formula.symbolsOf p.text = [ident]) :
    p = ⟨ident, []⟩ := by
  rw [Formula.symbolsOf] at h
  split at h
  · cases h
  · next f hcompile =>
    by_cases hscript : p.script = []
    · have htext : p.text = p.base := by rw [Shape.text, if_pos hscript]
      rw [htext, Formula.compile_letters hp.letters hp.base_ne_nil] at hcompile
      cases hcompile
      have hbase : p.base = ident := by
        simpa [Formula.symbols, Formula.symbolLexemes, List.eraseDups_cons] using h
      cases p
      exact congrArg₂ Shape.mk hbase hscript
    · exfalso
      apply Formula.not_compile_of_underscore _ _ f hcompile
      · intro c hc
        obtain hc | rfl | rfl | rfl := hp.mem_text hc
        · exact (Name.ne_of_isOrdinary (Name.isOrdinary_of_isAlphanum hc)).1
        all_goals decide
      · rw [Shape.text, if_neg hscript]
        simp

/-- A name comes to its number exactly when no name before it captures it. -/
theorem Holds.evaluate_spelling (h : s.Holds stem named value) (hstem : Name.AllLetters stem)
    (hn : (n, ident) ∈ named) (hnumber : (value n).isNaN = false) {typed t : Text} (htyped : n.Typed typed)
    (ht : Name.Wrapped Name.colorCommands typed t) :
    s.evaluate t = (s, .ok ⟨none, [ident], some (value n)⟩) ↔
      ∀ m ∈ (named.map Prod.fst).takeWhile (· ≠ n), ¬ m.Captures n := by
  have hread := read_spelling htyped ht
  have hnaming := h.naming hstem
  have hidents : ∀ m ∈ named, Name.AllLetters m.2 ∧ m.2 ≠ [] := fun m hm => hnaming.letters _ (hnaming.ident m hm)
  obtain ⟨hresolved, hwell⟩ := n.wellFormed_shape.substitute_table hidents
  have hformula : s.resolved (Statement.read t) = (n.shape.renamedAll named).text := by
    rw [hread, resolved, h.aliasTable, ← hresolved, n.text_shape]
  rw [← Shape.renamedAll_eq_ident_iff hnaming h.nodup hn]
  constructor
  · intro hresult
    obtain ⟨hexpected, -, -⟩ := of_evaluate_ok (congrArg Prod.snd hresult)
    have hused := Evaluation.used_of_expected hexpected
    rw [formulaOf, hformula] at hused
    exact shape_of_symbolsOf hwell hused.symm
  · intro hshape
    have hletters := hidents _ hn
    rw [hshape] at hformula
    rw [evaluate_eq (f := ⟨[⟨.symbol, ident, 0, ident.bytes⟩], .symbol ident⟩) (x := value n), hread]
    · simp only [hnumber, Formula.symbols, Formula.symbolLexemes]
      rfl
    · rw [hformula]
      exact Formula.compile_letters hletters.1 hletters.2
    · simp only [Formula.evaluate, Formula.Expr.value, Formula.symbolValue, h.bindings hn]

/-- The store after the assignments. -/
def written (s : Store) (writes : List Write) : Store := writes.foldl (fun s w => (s.evaluate w.text).1) s

/-- The names with their identifiers after the assignments. -/
def recordedAll (stem : Text) (named : List (Plain × Ident)) (writes : List Write) : List (Plain × Ident) :=
  writes.foldl (fun named w => recorded stem named w.name) named

/-- The numbers of the names after the assignments. -/
def assignedAll (value : Plain → Float) (writes : List Write) : Plain → Float :=
  writes.foldl (fun value w => Holds.assigned value w.name w.value) value

theorem Holds.written (h : s.Holds stem named value) {writes : List Write}
    (hapart : ∀ w ∈ writes, ∀ k, w.name.base ≠ Ident.numbered stem k) :
    (s.written writes).Holds stem (recordedAll stem named writes) (assignedAll value writes) := by
  induction writes generalizing s named value with
  | nil => exact h
  | cons w writes ih =>
    obtain ⟨s', ident, hresult, -, hstore⟩ := h.evaluate_write w (hapart w (.head _))
    have hnext := ih hstore fun w hw => hapart w (.tail _ hw)
    rwa [Store.written, List.foldl_cons, hresult]

theorem holds_empty (stem : Text) (value : Plain → Float) : (empty stem).Holds stem [] value := by
  constructor <;> simp [empty]

theorem subset_recordedAll (named : List (Plain × Ident)) (writes : List Write) :
    named ⊆ recordedAll stem named writes := by
  induction writes generalizing named with
  | nil => exact List.Subset.refl _
  | cons w writes ih =>
    have hfirst : named ⊆ recorded stem named w.name := by
      unfold recorded
      split
      · exact List.Subset.refl _
      · exact List.subset_append_left ..
    exact List.Subset.trans hfirst (ih _)

theorem assignedAll_of_not_written (value : Plain → Float) {writes : List Write} (h : ∀ w ∈ writes, w.name ≠ n) :
    assignedAll value writes n = value n := by
  induction writes generalizing value with
  | nil => rfl
  | cons w writes ih =>
    have hrest := ih (Holds.assigned value w.name w.value) fun w hw => h w (.tail _ hw)
    rw [assignedAll] at hrest ⊢
    rw [List.foldl_cons, hrest, Holds.assigned, if_neg (Ne.symm (h w (.head _)))]

theorem map_recorded (named : List (Plain × Ident)) (m : Plain) :
    (recorded stem named m).map Prod.fst =
      if m ∈ named.map Prod.fst then named.map Prod.fst else named.map Prod.fst ++ [m] := by
  unfold recorded
  split
  · rfl
  · rw [List.map_append, List.map_singleton]

theorem recordedAll_concat (writes : List Write) (w : Write) :
    recordedAll stem [] (writes ++ [w]) = recorded stem (recordedAll stem [] writes) w.name := by
  rw [recordedAll, List.foldl_append]
  rfl

theorem mem_recordedAll_iff (writes : List Write) (m : Plain) :
    m ∈ (recordedAll stem [] writes).map Prod.fst ↔ m ∈ writes.map (·.name) := by
  induction writes using List.reverseRecOn with
  | nil => rfl
  | append_singleton writes w ih =>
    rw [recordedAll_concat, map_recorded, List.map_append, List.mem_append, ← ih, List.map_singleton,
      List.mem_singleton]
    split
    · next hmem =>
      constructor
      · exact .inl
      · rintro (hm | rfl)
        · exact hm
        · exact hmem
    · rw [List.mem_append, List.mem_singleton]

theorem takeWhile_append_of_mem {names : List Plain} (rest : List Plain) (h : n ∈ names) :
    (names ++ rest).takeWhile (· ≠ n) = names.takeWhile (· ≠ n) := by
  induction names with
  | nil => cases h
  | cons m names ih =>
    by_cases hm : m = n
    · simp [hm]
    · have hrest := ih ((List.mem_cons.mp h).resolve_left (Ne.symm hm))
      rw [List.cons_append, List.takeWhile_cons_of_pos (by simpa using hm), hrest,
        List.takeWhile_cons_of_pos (by simpa using hm)]

/-- The names are in the order of their first assignment. -/
theorem mem_takeWhile_recordedAll_iff (writes : List Write) (m : Plain) :
    m ∈ ((recordedAll stem [] writes).map Prod.fst).takeWhile (· ≠ n) ↔
      m ∈ (writes.map (·.name)).takeWhile (· ≠ n) := by
  induction writes using List.reverseRecOn with
  | nil => rfl
  | append_singleton writes w ih =>
    have hsame := @mem_recordedAll_iff stem writes
    rw [recordedAll_concat, map_recorded, List.map_append, List.map_singleton]
    by_cases hn : n ∈ writes.map (·.name)
    · rw [takeWhile_append_of_mem _ hn, ← ih]
      split
      · rfl
      · rw [takeWhile_append_of_mem _ ((hsame n).mpr hn)]
    · have hne : ∀ m ∈ writes.map (·.name), decide (m ≠ n) = true := by
        intro m hm
        rw [decide_eq_true_eq]
        rintro rfl
        exact hn hm
      have hne' : ∀ m ∈ (recordedAll stem [] writes).map Prod.fst, decide (m ≠ n) = true :=
        fun m hm => hne m ((hsame m).mp hm)
      rw [List.takeWhile_append_of_pos hne, List.mem_append, ← hsame]
      split
      · next hmem =>
        rw [List.takeWhile_eq_self_iff.mpr hne']
        constructor
        · exact .inl
        · rintro (hm | hm)
          · exact hm
          · rwa [List.mem_singleton.mp (List.takeWhile_subset _ hm)]
      · rw [List.takeWhile_append_of_pos hne', List.mem_append]

/-- Reading a plain name back, after any assignments to plain names: in every spelling it comes to the number
that was assigned to it last, and uses just its own identifier, exactly when no name of letters that
captures it was assigned before its first assignment. -/
theorem evaluate_spelling_iff (hstem : Name.AllLetters stem) {earlier later : List Write} {w : Write}
    (hapart : ∀ v ∈ earlier ++ w :: later, ∀ k, v.name.base ≠ Ident.numbered stem k)
    (hlast : ∀ v ∈ later, v.name ≠ w.name) {typed t : Text} (htyped : w.name.Typed typed)
    (ht : Name.Wrapped Name.colorCommands typed t) :
    ∃ ident, (((empty stem).written earlier).evaluate w.text).2 = .ok ⟨some ident, [], some w.value⟩ ∧
      (((empty stem).written (earlier ++ w :: later)).evaluate t =
          ((empty stem).written (earlier ++ w :: later), .ok ⟨none, [ident], some w.value⟩) ↔
        ∀ m ∈ ((earlier ++ w :: later).map (·.name)).takeWhile (· ≠ w.name), ¬ m.Captures w.name) := by
  have hbefore : ∀ v ∈ earlier, ∀ k, v.name.base ≠ Ident.numbered stem k :=
    fun v hv => hapart v (List.mem_append_left _ hv)
  have hearlier := (holds_empty stem fun _ => 0).written hbefore
  obtain ⟨s', ident, hresult, hident, -⟩ := hearlier.evaluate_write w (hapart w (by simp))
  refine ⟨ident, congrArg Prod.snd hresult, ?_⟩
  have hall := (holds_empty stem fun _ => 0).written hapart
  have hsplit : recordedAll stem [] (earlier ++ w :: later) =
      recordedAll stem (recorded stem (recordedAll stem [] earlier) w.name) later := by
    rw [recordedAll, List.foldl_append, List.foldl_cons]
    rfl
  have hmem : (w.name, ident) ∈ recordedAll stem [] (earlier ++ w :: later) := by
    rw [hsplit]
    exact subset_recordedAll _ _ hident
  have hvalue : assignedAll (fun _ => 0) (earlier ++ w :: later) w.name = w.value := by
    have hlater := assignedAll_of_not_written
      (Holds.assigned (assignedAll (fun _ => 0) earlier) w.name w.value) hlast
    rw [assignedAll, List.foldl_append, List.foldl_cons]
    rw [Holds.assigned, if_pos rfl] at hlater
    exact hlater
  have hspelling := hall.evaluate_spelling hstem hmem (by rw [hvalue]; exact Decimal.isNaN_read _) htyped ht
  rw [hvalue] at hspelling
  rw [hspelling]
  constructor
  · intro h m hm
    exact h m ((mem_takeWhile_recordedAll_iff _ m).mpr hm)
  · intro h m hm
    exact h m ((mem_takeWhile_recordedAll_iff _ m).mp hm)

/-- The assignment of one digit to the name `x`, with a subscript that is typed in braces. -/
def digitTo (script : Text) (digit : Char) (hscript : ∀ c ∈ script, c.isAlphanum = true)
    (hdigit : digit.isDigit = true) : Write where
  name := ⟨['x'], script, by simp, by simp [Name.AllLetters], hscript⟩
  typed := ['x'] ++ '_' :: '{' :: script ++ ['}']
  front := [' ']
  back := [' ']
  literal := ⟨[digit], [], by simpa using hdigit, by simp, .inl (by simp)⟩
  isTyped := .braced
  front_blank := by simp only [Text.AllBlank, List.mem_singleton, forall_eq]; decide
  back_blank := by simp only [Text.AllBlank, List.mem_singleton, forall_eq]; decide

/-- A name with a script is read back when the name of its base comes later. -/
theorem evaluate_spelling_of_script_first :
    let first := digitTo ['1'] '2' (List.all_eq_true.mp (by decide)) (by decide)
    let base := digitTo [] '1' (by simp) (by decide)
    let last := digitTo ['1'] '3' (List.all_eq_true.mp (by decide)) (by decide)
    let s := (empty Ident.shortStem).written ([first, base] ++ last :: [base])
    ∃ ident, (((empty Ident.shortStem).written [first, base]).evaluate last.text).2 =
        .ok ⟨some ident, [], some last.value⟩ ∧
      s.evaluate "\\color\x7bred\x7d \x7bx_1\x7d".toList = (s, .ok ⟨none, [ident], some last.value⟩) := by
  intro first base last s
  have hapart : ∀ v ∈ [first, base] ++ last :: [base], ∀ k, v.name.base ≠ Ident.numbered Ident.shortStem k := by
    intro v hv k
    have hbase : v.name.base = ['x'] := by
      simp only [List.mem_append, List.mem_cons, List.not_mem_nil, or_false] at hv
      obtain (rfl | rfl) | rfl | rfl := hv <;> rfl
    rw [hbase]
    simp [Ident.numbered, Ident.shortStem]
  have hwrapped : Name.Wrapped Name.colorCommands "x_1".toList "\\color\x7bred\x7d \x7bx_1\x7d".toList := by
    have hblank : Text.AllBlank [' '] := by
      simp only [Text.AllBlank, List.mem_singleton, forall_eq]
      decide
    have hcore : Name.Wrapped Name.colorCommands "x_1".toList "x_1".toList := .core
    have hblanks := hcore.braces.blanks hblank Text.allBlank_nil
    exact hblanks.colored (.head _) (List.all_eq_true.mp (by decide : "red".toList.all Name.isColorChar = true))
  have hstem : Name.AllLetters Ident.shortStem := by
    simp [Name.AllLetters, Ident.shortStem]
  obtain ⟨ident, hwrite, hread⟩ := evaluate_spelling_iff hstem hapart (by decide) (.bare rfl) hwrapped
  exact ⟨ident, hwrite, hread.mpr (by decide)⟩

/-- A name of letters that comes first captures the name with the script: nothing is read back. -/
theorem evaluate_fails_of_base_first :
    let s := ((empty Ident.shortStem).evaluate "x := 1".toList).1
    (s.evaluate "x_1 := 2".toList).2.toOption.map (·.defined) = some (some "Vb".toList) ∧
      ((s.evaluate "x_1 := 2".toList).1.evaluate "x_1".toList).2.toOption.map (·.used) = none := by
  decide +kernel

end Store

end LiveTex
