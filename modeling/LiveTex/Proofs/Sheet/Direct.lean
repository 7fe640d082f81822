import LiveTex.Proofs.Formula.Room
import LiveTex.Proofs.Name.InPlace
import LiveTex.Proofs.Sheet.Outcome
import LiveTex.Proofs.Statement.Reading

/-!
Formulas without names. On an empty store a formula whose names stay in place comes to the value that it
has when it is compiled as it was typed. Only the limits of the parser can get in the way, since braces
around scripts are tokens and take room.
-/

namespace LiveTex

open Formula (Token Lexes Braced Reads)

namespace Store

variable {stem s : Text} {f : Formula} {v : Float} {levels : Nat}

/-- The formula in its canonical spelling: its tokens have some more braces. -/
theorem exists_canonical (hcompile : Formula.compile s = .ok f) (hlast : (Name.stripped s).getLast? ≠ some '\\')
    (hplace : Name.InPlace levels (Name.stripped s)) :
    ∃ us, Formula.tokenize (Name.canonical s) = .ok us ∧
      us.length ≤ f.tokens.length + 2 * f.tokens.countP (·.kind.script?.isSome) ∧
      Formula.symbolLexemes us = Formula.symbolLexemes f.tokens ∧
      ∀ n es, Reads n (.sum false) f.tokens es [] → Reads (levels + n) (.sum false) us es [] := by
  obtain ⟨htokens, hparse⟩ := Formula.tokens_of_compile hcompile
  have hlexes := Lexes.of_tokenizeFrom htokens
  have hreads := (Formula.reads_of_parse hparse).2
  have hknown : ∀ x ∈ f.tokens, x.Known := fun x hx => (hreads.known x hx).resolve_left (by simp)
  obtain ⟨front, ts, back, hsplit, hbraces, hstripped, hopened⟩ := hlexes.stripped hlast
  obtain ⟨us, hcanonical, hbraced⟩ := hplace.kept ts hstripped
  obtain ⟨ws, htokens', halike⟩ := hcanonical.tokenizeFrom 0
  rw [← Name.canonical_of_known hlexes hknown] at htokens'
  refine ⟨ws, htokens', ?_, ?_, ?_⟩
  · have hlength := hbraced.length_le_add
    have heq := halike.length_eq
    rw [hsplit]
    simp only [List.length_append, List.countP_append]
    omega
  · have hnone : ∀ xs : List Token, xs ⊆ front ++ back → Formula.symbolLexemes xs = [] := by
      intro xs hxs
      rw [Formula.symbolLexemes, List.map_eq_nil_iff, List.filter_eq_nil_iff]
      intro x hx
      obtain hkind | hkind := hbraces x (hxs hx) <;> simp [hkind]
    rw [← Formula.symbolLexemes_eq_of_alike halike, hbraced.symbolLexemes_eq, hsplit, Formula.symbolLexemes_append,
      Formula.symbolLexemes_append, hnone front (List.subset_append_left ..), hnone back (List.subset_append_right ..)]
    simp
  · exact fun n es h => ((hopened n es h).braced hbraced).of_alike halike

/-- The canonical spelling compiles to the same tree, unless the braces around scripts make it too long, or too
deep where the formula takes the last levels. -/
theorem compile_canonical (hcompile : Formula.compile s = .ok f) (hlast : (Name.stripped s).getLast? ≠ some '\\')
    (hplace : Name.InPlace levels (Name.stripped s)) :
    (∃ us, Formula.compile (Name.canonical s) = .ok ⟨us, f.expr⟩ ∧
        Formula.symbols ⟨us, f.expr⟩ = f.symbols) ∨
      (∃ n, Formula.compile (Name.canonical s) = .error (.tooLong n Formula.maxTokens) ∧ Formula.maxTokens < n ∧
        n ≤ f.tokens.length + 2 * f.tokens.countP (·.kind.script?.isSome)) ∨
      (Formula.compile (Name.canonical s) = .error (.nestingTooDeep Formula.maxDepth) ∧
        ∀ n, Reads n (.sum false) f.tokens [f.expr] [] → Formula.maxDepth < levels + n) := by
  obtain ⟨us, htokens, hlength, hsymbols, hreads⟩ := exists_canonical hcompile hlast hplace
  have hformula := (Formula.reads_of_parse (Formula.tokens_of_compile hcompile).2).2
  have hcanonical : Formula.compile (Name.canonical s) = (Formula.parse us).map fun e => ⟨us, e⟩ := by
    rw [Formula.compile, htokens, Formula.ok_bind]
    cases Formula.parse us <;> rfl
  rw [hcanonical]
  by_cases hshort : us.length ≤ Formula.maxTokens
  · obtain hparse | hparse := Formula.parse_of_reads hshort (hreads _ _ hformula)
    · exact .inl ⟨us, by rw [hparse]; rfl, by rw [Formula.symbols, Formula.symbols, hsymbols]⟩
    · refine .inr (.inr ⟨by rw [hparse]; rfl, fun n hn => ?_⟩)
      -- With levels to spare the formula would have been read.
      by_contra hroom
      have hfits := (hreads n _ hn).mono (Nat.le_of_not_lt hroom)
      rw [Formula.parse_eq_ok_iff.mpr ⟨hshort, hfits⟩] at hparse
      cases hparse
  · refine .inr (.inl ⟨us.length, ?_, Nat.lt_of_not_le hshort, hlength⟩)
    rw [Formula.parse, if_pos (Nat.lt_of_not_le hshort)]
    rfl

theorem resolved_empty (hpi : ¬ ['\\', 'p', 'i'] <:+: s) (hequals : '=' ∉ s) :
    (Store.empty stem).resolved (Statement.read s) = Name.canonical s ∧ (Statement.read s).defines = none := by
  rw [Statement.read_expression (Statement.withPi_eq_self_of_not_infix hpi) hequals]
  exact ⟨rfl, rfl⟩

/-- On an empty store a formula whose names stay in place has the value that it has as it was typed, and the
same symbols, unless one of the parser's limits is met by the braces around its scripts. -/
theorem evaluate_eq_of_inPlace (hpi : ¬ ['\\', 'p', 'i'] <:+: s) (hequals : '=' ∉ s)
    (hcompile : Formula.compile s = .ok f) (hvalue : f.evaluate (fun _ => none) = .ok v)
    (hlast : (Name.stripped s).getLast? ≠ some '\\') (hplace : Name.InPlace levels (Name.stripped s)) :
    (Store.empty stem).evaluate s =
        (Store.empty stem, .ok ⟨none, f.symbols, if v.isNaN then none else some v⟩) ∨
      (∃ n, (Store.empty stem).evaluate s =
          (Store.empty stem, .error (.formula (.tooLong n Formula.maxTokens))) ∧ Formula.maxTokens < n ∧
        n ≤ f.tokens.length + 2 * f.tokens.countP (·.kind.script?.isSome)) ∨
      ((Store.empty stem).evaluate s =
          (Store.empty stem, .error (.formula (.nestingTooDeep Formula.maxDepth))) ∧
        ∀ n, Reads n (.sum false) f.tokens [f.expr] [] → Formula.maxDepth < levels + n) := by
  obtain ⟨hresolved, hdefines⟩ :
      (Store.empty stem).resolved (Statement.read s) = Name.canonical s ∧ (Statement.read s).defines = none :=
    resolved_empty hpi hequals
  obtain ⟨us, hcanonical, hsymbols⟩ | ⟨n, hcanonical, hlength⟩ | ⟨hcanonical, hroom⟩ :=
    compile_canonical hcompile hlast hplace
  · rw [← hresolved] at hcanonical
    left
    rw [evaluate_eq hcanonical hvalue, hdefines, hsymbols]
  · rw [← hresolved] at hcanonical
    exact .inr (.inl ⟨n, evaluate_eq_error hcanonical, hlength⟩)
  · rw [← hresolved] at hcanonical
    exact .inr (.inr ⟨evaluate_eq_error hcanonical, hroom⟩)

theorem exists_value {t : Text}
    (h : ((Formula.compile t).toOption.bind fun f => (f.evaluate fun _ => none).toOption).isSome = true) :
    ∃ f v, Formula.compile t = .ok f ∧ f.evaluate (fun _ => none) = .ok v := by
  cases hcompile : Formula.compile t with
  | error e => simp [hcompile, Except.toOption] at h
  | ok f =>
    cases hvalue : f.evaluate (fun _ => none) with
    | error e => simp [hcompile, hvalue, Except.toOption] at h
    | ok v => exact ⟨f, v, rfl, hvalue⟩

/-- Names may have scripts: `\log_{2} 8^2` takes the base in its braces and the exponent without. -/
theorem evaluate_of_base_and_exponent :
    ∃ f v, Formula.compile "\\log_\x7b2\x7d 8^2".toList = .ok f ∧ f.evaluate (fun _ => none) = .ok v ∧
      (Store.empty Ident.shortStem).evaluate "\\log_\x7b2\x7d 8^2".toList =
        (Store.empty Ident.shortStem, .ok ⟨none, f.symbols, if v.isNaN then none else some v⟩) := by
  have hpi : ¬ ['\\', 'p', 'i'] <:+: "\\log_\x7b2\x7d 8^2".toList := by decide +kernel
  have hequals : '=' ∉ "\\log_\x7b2\x7d 8^2".toList := by decide +kernel
  have hstripped : Name.stripped "\\log_\x7b2\x7d 8^2".toList = "\\log_\x7b2\x7d 8^2".toList := by decide +kernel
  have hlast : (Name.stripped "\\log_\x7b2\x7d 8^2".toList).getLast? ≠ some '\\' := by decide +kernel
  have hzones : Name.zones "\\log_\x7b2\x7d 8^2".toList =
      ⟨"\\log".toList, "\x7b2\x7d".toList, [], "8^2".toList⟩ := by decide +kernel
  have htyped : Text.trimStart "\\log_\x7b2\x7d 8^2".toList =
      Name.Zones.typed ⟨"\\log".toList, "\x7b2\x7d".toList, [], "8^2".toList⟩ ++ " 8^2".toList := by decide +kernel
  obtain ⟨f, v, hcompile, hvalue⟩ := exists_value (t := "\\log_\x7b2\x7d 8^2".toList) (by decide +kernel)
  have hevaluated : ((Store.empty Ident.shortStem).evaluate "\\log_\x7b2\x7d 8^2".toList).2.toOption.isSome = true := by
    decide +kernel
  generalize "\\log_\x7b2\x7d 8^2".toList = s at *
  have hnext : Name.InPlace 0 "8^2".toList := by
    have hzones : Name.zones "8^2".toList = ⟨['8'], [], ['2'], []⟩ := by decide +kernel
    refine .last ?_ ⟨?_, fun _ => ?_⟩ ?_ <;> rw [hzones]
    · decide +kernel
    · exact fun h => absurd rfl h
    · refine .of_isAlphanum (by decide) fun ts hts => ?_
      cases hts
      exact ⟨rfl, rfl⟩
  have hplace : Name.InPlace 0 (Name.stripped s) := by
    have hbraces : Name.unbraced? "\x7b2\x7d".toList = some ['2'] := by decide +kernel
    rw [hstripped]
    refine .next (hzones ▸ htyped) ?_ ⟨fun _ => ?_, ?_⟩ ?_ ?_ <;> rw [hzones]
    · exact .inl (by decide +kernel)
    · exact .of_unbraced? hbraces (by decide +kernel) (by decide +kernel)
    · exact fun h => absurd rfl h
    · decide +kernel
    · exact hnext
  refine ⟨f, v, hcompile, hvalue, ?_⟩
  obtain h | ⟨n, h, -⟩ | ⟨h, -⟩ := evaluate_eq_of_inPlace hpi hequals hcompile hvalue hlast hplace
  · exact h
  all_goals
    rw [h] at hevaluated
    cases hevaluated

/-- Where an exponent begins with a sign the scanner ends it behind the sign: `2^-1` has a value, and its
canonical spelling `21^{-}` is not even a formula. -/
theorem evaluate_fails_of_signed_exponent :
    '=' ∉ "2^-1".toList ∧ ¬ ['\\', 'p', 'i'] <:+: "2^-1".toList ∧
      ((Formula.compile "2^-1".toList).toOption.map (·.symbols)) = some [] ∧
      ((Formula.compile "2^-1".toList).toOption.bind fun f => (f.evaluate fun _ => none).toOption).isSome = true ∧
      ((Store.empty Ident.shortStem).evaluate "2^-1".toList).2.toOption.isSome = false := by
  decide +kernel

/-- Without scripts there is nothing to put in braces: a formula has the value that it has as it was typed. -/
theorem evaluate_eq_of_not_mem (hpi : ¬ ['\\', 'p', 'i'] <:+: s) (hequals : '=' ∉ s) (hsub : '_' ∉ s) (hsup : '^' ∉ s)
    (hcompile : Formula.compile s = .ok f) (hvalue : f.evaluate (fun _ => none) = .ok v)
    (hlast : (Name.stripped s).getLast? ≠ some '\\') :
    (Store.empty stem).evaluate s =
      (Store.empty stem, .ok ⟨none, f.symbols, if v.isNaN then none else some v⟩) := by
  obtain ⟨hresolved, hdefines⟩ :
      (Store.empty stem).resolved (Statement.read s) = Name.canonical s ∧ (Statement.read s).defines = none :=
    resolved_empty hpi hequals
  have hmem := fun {c : Char} (h : c ∈ Name.stripped s) => (Name.isInfix_stripped s).subset h
  have hplace := Name.inPlace_of_not_mem 0 (Name.trimEnd_stripped s) (fun h => hsub (hmem h)) (fun h => hsup (hmem h))
  obtain ⟨htokens, hparse⟩ := Formula.tokens_of_compile hcompile
  obtain ⟨hlength, hreads⟩ := Formula.reads_of_parse hparse
  have hnone : f.tokens.countP (·.kind.script?.isSome) = 0 := by
    rw [List.countP_eq_zero]
    intro x hx hscript
    have hlexes := Lexes.of_tokenizeFrom htokens
    cases hkind : x.kind <;> simp [hkind, Token.Kind.script?] at hscript
    · exact hsup (hlexes.mem_of_ofMark? hx (by rw [hkind]; rfl))
    · exact hsub (hlexes.mem_of_ofMark? hx (by rw [hkind]; rfl))
  obtain ⟨us, hcanonical, hsymbols⟩ | ⟨n, -, hlong, hle⟩ | ⟨-, hroom⟩ := compile_canonical hcompile hlast hplace
  · rw [← hresolved] at hcanonical
    rw [evaluate_eq hcanonical hvalue, hdefines, hsymbols]
  · omega
  · have hdeep := hroom _ hreads
    omega

end Store

end LiveTex
