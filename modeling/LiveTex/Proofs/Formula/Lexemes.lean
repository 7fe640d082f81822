import LiveTex.Proofs.Formula.Completeness
import LiveTex.Proofs.Formula.Pieces
import LiveTex.Proofs.Formula.Symbols
import LiveTex.Proofs.Name.Runs

/-!
Formulas of one token, and formulas that cannot be read: an underscore belongs to the command of a
logarithm, so without a command there is no place for it.
-/

namespace LiveTex.Formula

open Name (AllLetters noLetter)

/-- An unsigned decimal: digits, with a point and more digits behind them or not. -/
structure Numeral where
  whole : Text
  decimals : Text
  whole_digits : ∀ c ∈ whole, c.isDigit = true
  decimal_digits : ∀ c ∈ decimals, c.isDigit = true
  ne_nil : whole ≠ [] ∨ decimals ≠ []

/-- The text of a decimal; without decimals there is no point. -/
def Numeral.text (x : Numeral) : Text := x.whole ++ (if x.decimals = [] then [] else '.' :: x.decimals)

theorem not_isAlpha_of_isDigit {c : Char} (h : c.isDigit = true) : c.isAlpha = false := by
  unfold Char.isAlpha Char.isUpper Char.isLower
  simp only [Char.isDigit, UInt32.le_iff_toNat_le, Bool.and_eq_true, Bool.or_eq_false_iff,
    Bool.and_eq_false_iff, decide_eq_true_eq, decide_eq_false_iff_not] at *
  simp at *
  omega

/-- A run of letters is one symbol. -/
theorem head_run {c : Char} {u rest : Text} (hu : AllLetters (c :: u)) (hrest : noLetter rest.head? = true) :
    head c (u ++ rest) = ⟨.token .symbol, c :: u, rest⟩ := by
  have hc := hu c (.head _)
  have hspace : isSpace c = false := isSpace_of_isAlphanum (by simp [Char.isAlphanum, hc])
  have hrun := Name.takeWhile_run (fun d hd => hu d (.tail _ hd)) hrest
  rw [head, if_neg (by simp [hspace]), if_pos hc, hrun.1, hrun.2]

/-- The whole of a text of letters is one item. -/
theorem head_letters {c : Char} {t : Text} (ht : AllLetters (c :: t)) : head c t = ⟨.token .symbol, c :: t, []⟩ := by
  have hrun : head c (t ++ []) = _ := head_run ht rfl
  rwa [List.append_nil] at hrun

/-- A text of letters is one symbol. -/
theorem tokenize_letters {t : Text} (ht : AllLetters t) (hne : t ≠ []) :
    tokenize t = .ok [⟨.symbol, t, 0, t.bytes⟩] := by
  obtain ⟨c, t, rfl⟩ := List.exists_cons_of_ne_nil hne
  rw [tokenize, tokenizeFrom, head_letters ht]
  simp only [tokenizeFrom, Except.map, Nat.zero_add]

theorem fraction_decimals {t : Text} (ht : ∀ c ∈ t, c.isDigit = true) (hne : t ≠ []) :
    fraction ('.' :: t) = ('.' :: t, []) := by
  obtain ⟨d, t, rfl⟩ := List.exists_cons_of_ne_nil hne
  have hrest : ∀ c ∈ t, c.isDigit = true := fun c hc => ht c (.tail _ hc)
  rw [fraction, if_pos (ht d (.head _)), List.takeWhile_eq_self_iff.mpr hrest, List.dropWhile_eq_nil_iff.mpr hrest]

/-- The whole of a decimal is one item. -/
theorem head_numeral (x : Numeral) : ∃ c t, x.text = c :: t ∧ head c t = ⟨.token .number, c :: t, []⟩ := by
  cases hwhole : x.whole with
  | nil =>
    have hne := x.ne_nil.resolve_left (fun h => h hwhole)
    refine ⟨'.', x.decimals, by rw [Numeral.text, hwhole, if_neg hne]; rfl, ?_⟩
    rw [head, if_neg (by decide), if_neg (by decide), if_neg (by decide), if_pos rfl,
      fraction_decimals x.decimal_digits hne]
    rfl
  | cons c w =>
    have hc := x.whole_digits c (by simp [hwhole])
    have hw : ∀ d ∈ w, d.isDigit = true := fun d hd => x.whole_digits d (by simp [hwhole, hd])
    obtain ⟨part, hpart⟩ : ∃ part, part = if x.decimals = [] then [] else '.' :: x.decimals := ⟨_, rfl⟩
    have hfraction : fraction part = (part, []) := by
      rw [hpart]
      split
      · rfl
      · next hne => exact fraction_decimals x.decimal_digits hne
    have hpoint : part.takeWhile Char.isDigit = [] ∧ part.dropWhile Char.isDigit = part := by
      rw [hpart]
      split <;> exact ⟨rfl, rfl⟩
    have hspace : isSpace c = false := isSpace_of_isAlphanum (by simp [Char.isAlphanum, hc])
    refine ⟨c, w ++ part, by rw [Numeral.text, hwhole, hpart]; rfl, ?_⟩
    rw [head, if_neg (by simp [hspace]), if_neg (by simp [not_isAlpha_of_isDigit hc]), if_pos hc,
      List.takeWhile_append_of_pos hw, List.dropWhile_append_of_pos hw, hpoint.1, hpoint.2, hfraction,
      List.append_nil]
    rfl

/-- A decimal is one number. -/
theorem tokenize_numeral (x : Numeral) : tokenize x.text = .ok [⟨.number, x.text, 0, x.text.bytes⟩] := by
  obtain ⟨c, t, htext, hhead⟩ := head_numeral x
  rw [htext, tokenize, tokenizeFrom, hhead]
  simp only [tokenizeFrom, Except.map, Nat.zero_add]

/-- A formula that is one number or one symbol. -/
theorem parse_single {t : Token} {e : Expr} (hkind : t.kind = .number ∨ t.kind = .symbol)
    (h : ∀ n, Reads (n + 1) .primary [t] [e] []) : parse [t] = .ok e := by
  have hplus : passing? .plus [t] = none := by
    obtain hkind | hkind := hkind <;> simp [hkind]
  have hminus : passing? .minus [t] = none := by
    obtain hkind | hkind := hkind <;> simp [hkind]
  have hsigned : Reads maxDepth .signed [t] [e] [] :=
    .unsigned hplus hminus (.power (h 254) (.marksEnd rfl) rfl)
  rw [parse_eq_ok_iff]
  exact ⟨by simp [maxTokens], .sum (.product hsigned (.factorsEnd rfl)) (.termsEnd rfl)⟩

theorem compile_letters {t : Text} (ht : AllLetters t) (hne : t ≠ []) :
    compile t = .ok ⟨[⟨.symbol, t, 0, t.bytes⟩], .symbol t⟩ := by
  have hparse : parse [⟨.symbol, t, 0, t.bytes⟩] = .ok (.symbol t) := parse_single (.inr rfl) fun _ => .symbol rfl
  rw [compile, tokenize_letters ht hne, ok_bind, hparse, ok_bind]
  rfl

theorem compile_numeral (x : Numeral) :
    compile x.text = .ok ⟨[⟨.number, x.text, 0, x.text.bytes⟩], .number (Decimal.read x.text)⟩ := by
  have hparse : parse [⟨.number, x.text, 0, x.text.bytes⟩] = .ok (.number (Decimal.read x.text)) :=
    parse_single (.inl rfl) fun _ => .number rfl
  rw [compile, tokenize_numeral, ok_bind, hparse, ok_bind]
  rfl

theorem head_underscore (t : Text) : head '_' t = ⟨.token .underscore, ['_'], t⟩ := rfl

theorem not_mem_fraction (t : Text) : '_' ∉ (fraction t).1 := by
  unfold fraction
  split
  · split
    · next d t hd =>
      intro hmem
      have hall : ∀ c ∈ d :: t.takeWhile Char.isDigit, c.isDigit = true := by
        intro c hc
        obtain rfl | hc := List.mem_cons.mp hc
        · exact hd
        · exact List.all_eq_true.mp List.all_takeWhile _ hc
      obtain hmem | hmem := List.mem_cons.mp hmem
      · exact absurd hmem (by decide)
      · exact absurd (hall _ hmem) (by decide)
    · simp
  · simp

/-- An underscore is an item by itself. -/
theorem not_mem_taken {c : Char} (t : Text) (hc : c ≠ '\\') (hunderscore : c ≠ '_') : '_' ∉ (head c t).taken := by
  have htake : ∀ p : Char → Bool, p '_' = false → '_' ∉ t.takeWhile p := by
    intro p hp hmem
    rw [List.all_eq_true.mp List.all_takeWhile _ hmem] at hp
    cases hp
  have hne : '_' ≠ c := Ne.symm hunderscore
  unfold head
  split
  · simpa using hne
  split
  · simpa [hne] using htake _ (by decide)
  split
  · simpa [hne] using ⟨htake _ (by decide), not_mem_fraction _⟩
  split
  · simp only
    split
    · simpa using hne
    · exact not_mem_fraction _
  split <;> simpa using hne

/-- Without a backslash there is no command. -/
theorem item_ne_command {c : Char} (t : Text) (hc : c ≠ '\\') : (head c t).item ≠ .token .command := by
  have hmark : Token.Kind.ofMark? c ≠ some .command := fun h => (Token.Kind.ne_of_ofMark? h).2.2 rfl
  unfold head
  split
  · simp
  split
  · simp
  split
  · simp
  split
  · simp only
    split <;> simp
  split
  · next kind hkind =>
    intro hcommand
    cases hcommand
    exact hmark hkind
  · simp

/-- Without backslashes there are no commands, and every underscore is a token. -/
theorem kinds_of_tokenizeFrom {offset : Nat} {t : Text} {ts : List Token} (h : tokenizeFrom offset t = .ok ts)
    (ht : ∀ c ∈ t, c ≠ '\\') :
    (∀ x ∈ ts, x.kind ≠ .command) ∧ ('_' ∈ t → ∃ x ∈ ts, x.kind = .underscore) := by
  -- The rest of a text has no backslashes either, and its first item no underscore unless it is one.
  have hrest {c : Char} {t : Text} (ht : ∀ d ∈ c :: t, d ≠ '\\') : ∀ d ∈ (head c t).rest, d ≠ '\\' :=
    fun d hd => ht d (by rw [← head_append c t]; exact List.mem_append_right _ hd)
  have hbehind {c : Char} {t : Text} (ht : ∀ d ∈ c :: t, d ≠ '\\') (hne : c ≠ '_') (hmem : '_' ∈ c :: t) :
      '_' ∈ (head c t).rest := by
    rw [← head_append c t] at hmem
    exact (List.mem_append.mp hmem).resolve_left (not_mem_taken t (ht c (.head _)) hne)
  replace h := Tokenizes.of_tokenizeFrom h
  induction h with
  | nil => simp
  | @layout _ c t _ hitem _ ih =>
    obtain ⟨hcommands, hunderscore⟩ := ih (hrest ht)
    have hne : c ≠ '_' := by
      rintro rfl
      rw [head_underscore] at hitem
      cases hitem
    exact ⟨hcommands, fun hmem => hunderscore (hbehind ht hne hmem)⟩
  | @token _ c t kind _ hitem _ ih =>
    obtain ⟨hcommands, hunderscore⟩ := ih (hrest ht)
    constructor
    · intro x hx
      obtain rfl | hx := List.mem_cons.mp hx
      · rintro rfl
        exact item_ne_command t (ht c (.head _)) hitem
      · exact hcommands x hx
    · intro hmem
      by_cases hne : c = '_'
      · subst hne
        rw [head_underscore] at hitem
        cases hitem
        exact ⟨_, .head _, rfl⟩
      · obtain ⟨x, hx, hkind⟩ := hunderscore (hbehind ht hne hmem)
        exact ⟨x, .tail _ hx, hkind⟩

theorem Token.kind_ne_underscore {t : Token} {op : Operator}
    (h : t.factorOperator? = some op ∨ t.termOperator? = some op) : t.kind ≠ .underscore := by
  intro hkind
  simp [factorOperator?, termOperator?, hkind] at h

theorem Token.Kind.ne_underscore_of_closer? {kind close : Token.Kind} (h : kind.closer? = some close) :
    kind ≠ .underscore ∧ close ≠ .underscore := by
  obtain ⟨rfl, rfl⟩ | ⟨rfl, rfl⟩ | ⟨rfl, rfl⟩ := closer?_eq_some h <;> simp

/-- Without commands no phrase takes an underscore, apart from the base of a logarithm. -/
theorem Reads.count_underscores {n : Nat} {phrase : Phrase} {ts rest : List Token} {es : List Expr}
    (h : Reads n phrase ts es rest) (hphrase : phrase ≠ .base) (hts : ∀ x ∈ ts, x.kind ≠ .command) :
    (∀ x ∈ rest, x.kind ≠ .command) ∧
      rest.countP (·.kind == .underscore) = ts.countP (·.kind == .underscore) := by
  induction h with
  | fraction ht | root ht | abs ht | log ht | func ht => exact absurd ht (hts _ (.head _))
  | baseEnd | baseArgument => exact absurd rfl hphrase
  | factor hnext _ _ ihRight ihMore =>
    obtain ⟨t, hop, rfl⟩ := Continuation.of_eq_operator hnext
    have hkind := Token.kind_ne_underscore (.inl hop)
    simp_all
  | term hop _ _ ihRight ihMore =>
    have hkind := Token.kind_ne_underscore (.inr hop)
    simp_all
  | group ht _ ih | argumentsListed ht _ _ _ ihFirst ihMore =>
    have hkinds := Token.Kind.ne_underscore_of_closer? ht
    simp_all
  | _ => simp_all

/-- A text with an underscore and without backslashes is no formula. -/
theorem not_compile_of_underscore {t : Text} (ht : ∀ c ∈ t, c ≠ '\\') (hunderscore : '_' ∈ t) (f : Formula) :
    compile t ≠ .ok f := by
  intro hcompile
  obtain ⟨htokens, hparse⟩ := tokens_of_compile hcompile
  obtain ⟨hcommands, hkinds⟩ := kinds_of_tokenizeFrom htokens ht
  obtain ⟨x, hx, hkind⟩ := hkinds hunderscore
  have hcount := ((reads_of_parse hparse).2.count_underscores (by simp) hcommands).2
  rw [List.countP_nil, eq_comm, List.countP_eq_zero] at hcount
  exact hcount x hx (by simp [hkind])

end LiveTex.Formula
