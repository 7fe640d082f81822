import LiveTex.Proofs.Formula.Completeness
import LiveTex.Proofs.Formula.Symbols
import LiveTex.Proofs.Formula.Pieces

/-!
Scripts in braces. A script that was read as a whole is read to the same expression when it is put in
braces. An exponent in braces is on the level of the power itself; the base of a logarithm needs a level
more, since what stands in braces is a sum.
-/

namespace LiveTex.Formula

namespace Token.Alike

variable {x y : Token}

theorem refl (x : Token) : x.Alike x := ⟨rfl, rfl⟩

theorem kind_eq (h : x.Alike y) : x.kind = y.kind := h.1

theorem commandName_eq (h : x.Alike y) : x.commandName = y.commandName := by
  rw [commandName, commandName, h.1, h.2]

theorem factorOperator?_eq (h : x.Alike y) : x.factorOperator? = y.factorOperator? := by
  rw [factorOperator?, factorOperator?, h.1, h.commandName_eq]

theorem termOperator?_eq (h : x.Alike y) : x.termOperator? = y.termOperator? := by
  rw [termOperator?, termOperator?, h.1]

theorem beginsOperand_eq (h : x.Alike y) (barred : Bool) : x.beginsOperand barred = y.beginsOperand barred := by
  rw [beginsOperand, beginsOperand, h.1, h.factorOperator?_eq]

end Token.Alike

theorem Continuation.of_cons_eq_none {barred : Bool} {t : Token} {ts : List Token} :
    Continuation.of barred (t :: ts) = .none ↔ t.factorOperator? = Option.none ∧ t.beginsOperand barred = false := by
  rw [Continuation.of]
  cases t.factorOperator? <;> cases t.beginsOperand barred <;> simp

theorem Continuation.of_cons_eq_juxtaposed {barred : Bool} {t : Token} {ts : List Token} :
    Continuation.of barred (t :: ts) = .juxtaposed ↔ t.factorOperator? = Option.none ∧ t.beginsOperand barred = true := by
  rw [Continuation.of]
  cases t.factorOperator? <;> cases t.beginsOperand barred <;> simp

/-- What is read behind a mark that opens a script. -/
def Token.Kind.script? : Token.Kind → Option Phrase
  | .caret => some .exponent
  | .underscore => some .argument
  | _ => none

theorem script?_of_closer? {kind close : Token.Kind} (h : kind.closer? = some close) :
    kind.script? = none ∧ close.script? = none := by
  obtain ⟨rfl, rfl⟩ | ⟨rfl, rfl⟩ | ⟨rfl, rfl⟩ := Token.Kind.closer?_eq_some h <;> exact ⟨rfl, rfl⟩

/-- How many levels more a script takes inside braces. -/
def extraLevels (phrase : Phrase) (script : List Token) : Nat :=
  match passing? .leftBrace script, phrase with
  | some _, _ => 2
  | none, .argument => 1
  | none, _ => 0

/-- The phrase at the head of the two parts together is the first of them. -/
def Whole (phrase : Phrase) (script ts : List Token) : Prop :=
  ∀ n es rest, Reads n phrase (script ++ ts) es rest → rest.length = ts.length

/-- The second list is the first with some of its scripts in braces. From `stop` on it is `stop'`. -/
inductive Braced (levels : Nat) (stop stop' : List Token) : List Token → List Token → Prop
  | stop : Braced levels stop stop' stop stop'
  | same {x x' : Token} {ts us : List Token} (halike : x.Alike x') (h : Braced levels stop stop' ts us) :
      Braced levels stop stop' (x :: ts) (x' :: us)
  | script {m m' l c : Token} {phrase : Phrase} {script script' ts us : List Token} (hmark : m.Alike m')
      (hopens : m.kind.script? = some phrase) (hl : l.kind = .leftBrace) (hc : c.kind = .rightBrace)
      (hlevels : extraLevels phrase script ≤ levels) (halike : List.Forall₂ Token.Alike script script')
      (hwhole : Whole phrase script ts) (h : Braced levels stop stop' ts us) :
      Braced levels stop stop' (m :: (script ++ ts)) (m' :: l :: (script' ++ c :: us))

/-- No phrase goes on behind these tokens. -/
def Closes (ts : List Token) : Prop := ∀ c ∈ ts.head?, c.kind = .rightBrace

namespace Closes

variable {ts : List Token}

theorem nil : Closes [] := by
  simp [Closes]

theorem cons {c : Token} (hc : c.kind = .rightBrace) : Closes (c :: ts) := by
  simpa [Closes] using hc

theorem passing?_eq_none (h : Closes ts) {kind : Token.Kind} (hkind : kind ≠ .rightBrace) : passing? kind ts = none := by
  cases ts with
  | nil => rfl
  | cons c ts => exact if_neg (by rw [h c rfl]; exact hkind.symm)

theorem of_eq_none (h : Closes ts) (barred : Bool) : Continuation.of barred ts = .none := by
  cases ts with
  | nil => rfl
  | cons c ts => simp [Continuation.of, Token.factorOperator?, Token.beginsOperand, h c rfl]

theorem termOperator?_eq_none (h : Closes ts) : ts.head?.bind Token.termOperator? = none := by
  cases ts with
  | nil => rfl
  | cons c ts => simp [Token.termOperator?, h c rfl]

end Closes

/-- What a phrase leaves is the end of what it was read from. -/
theorem Reads.suffix {n : Nat} {phrase : Phrase} {ts rest : List Token} {es : List Expr}
    (h : Reads n phrase ts es rest) : rest <:+ ts := by
  induction h with
  | factor hnext _ _ ihRight ihMore =>
    obtain ⟨t, -, rfl⟩ := Continuation.of_eq_operator hnext
    exact (ihMore.trans ihRight).trans (List.suffix_cons ..)
  | _ => grind [List.IsSuffix.trans, List.suffix_cons, List.suffix_refl]

namespace Braced

variable {levels : Nat} {stop stop' ts us : List Token}

theorem length_le (h : Braced levels stop stop' ts us) : stop.length ≤ ts.length := by
  induction h with
  | stop => exact Nat.le_refl _
  | same _ _ ih => exact Nat.le_succ_of_le ih
  | script _ _ _ _ _ _ _ _ ih =>
    simp only [List.length_cons, List.length_append]
    omega

theorem eq_of_length_le (h : Braced levels stop stop' ts us) (hlength : ts.length ≤ stop.length) :
    ts = stop ∧ us = stop' := by
  cases h with
  | stop => exact ⟨rfl, rfl⟩
  | same _ h =>
    have hle := h.length_le
    simp only [List.length_cons] at hlength
    omega
  | script _ _ _ _ _ _ _ h =>
    have hle := h.length_le
    simp only [List.length_cons, List.length_append] at hlength
    omega

theorem of_alike {script script' : List Token} (halike : List.Forall₂ Token.Alike script script') :
    Braced levels stop stop' (script ++ stop) (script' ++ stop') := by
  induction halike with
  | nil => exact .stop
  | cons hx _ ih => exact .same hx ih

theorem append_left (h : Braced levels stop stop' ts us) (xs : List Token) :
    Braced levels stop stop' (xs ++ ts) (xs ++ us) := by
  induction xs with
  | nil => exact h
  | cons x xs ih => exact .same (.refl x) ih

/-- Before the stop the two lists begin with the same token. -/
theorem head (h : Braced levels stop stop' ts us) (hlength : stop.length < ts.length) :
    ∃ x x' ts' us', ts = x :: ts' ∧ us = x' :: us' ∧ x.Alike x' := by
  cases h with
  | stop => omega
  | same halike => exact ⟨_, _, _, _, rfl, rfl, halike⟩
  | script hmark => exact ⟨_, _, _, _, rfl, rfl, hmark⟩

theorem of_cons {x : Token} (h : Braced levels stop stop' (x :: ts) us) (hlength : stop.length ≤ ts.length)
    (hx : x.kind.script? = none) :
    ∃ x' us', us = x' :: us' ∧ x.Alike x' ∧ Braced levels stop stop' ts us' := by
  generalize hxs : x :: ts = xs at h
  cases h with
  | stop =>
    rw [← hxs, List.length_cons] at hlength
    omega
  | same halike h =>
    obtain ⟨rfl, rfl⟩ := List.cons.inj hxs
    exact ⟨_, _, rfl, halike, h⟩
  | script _ hopens =>
    obtain ⟨rfl, -⟩ := List.cons.inj hxs
    rw [hopens] at hx
    cases hx

theorem passing?_eq_none (h : Braced levels stop stop' ts us) (hcloses : Closes stop') {kind : Token.Kind}
    (hkind : kind ≠ .rightBrace) (hend : passing? kind ts = none) : passing? kind us = none := by
  cases h with
  | stop => exact hcloses.passing?_eq_none hkind
  | same halike | script halike => simp_all [Token.Alike]

theorem of_eq_none (h : Braced levels stop stop' ts us) (hcloses : Closes stop') {barred : Bool}
    (hend : Continuation.of barred ts = .none) : Continuation.of barred us = .none := by
  cases h with
  | stop => exact hcloses.of_eq_none barred
  | same halike | script halike =>
    rw [Continuation.of_cons_eq_none] at hend ⊢
    rwa [← halike.factorOperator?_eq, ← halike.beginsOperand_eq]

theorem of_eq_juxtaposed (h : Braced levels stop stop' ts us) (hlength : stop.length < ts.length) {barred : Bool}
    (hnext : Continuation.of barred ts = .juxtaposed) : Continuation.of barred us = .juxtaposed := by
  obtain ⟨x, x', ts', us', rfl, rfl, halike⟩ := h.head hlength
  rw [Continuation.of_cons_eq_juxtaposed] at hnext ⊢
  rwa [← halike.factorOperator?_eq, ← halike.beginsOperand_eq]

theorem of_eq_operator (h : Braced levels stop stop' ts us) {barred : Bool} {op : Operator} {rest : List Token}
    (hnext : Continuation.of barred ts = .operator op rest) (hlength : stop.length ≤ rest.length) :
    ∃ us', Continuation.of barred us = .operator op us' ∧ Braced levels stop stop' rest us' := by
  obtain ⟨t, hop, rfl⟩ := Continuation.of_eq_operator hnext
  have hmark : t.kind.script? = none := by
    cases hkind : t.kind <;> simp_all [Token.factorOperator?, Token.Kind.script?]
  obtain ⟨x', us', rfl, halike, h⟩ := h.of_cons hlength hmark
  refine ⟨us', ?_, h⟩
  rw [halike.factorOperator?_eq] at hop
  simp only [Continuation.of, hop]

theorem termOperator?_eq_none (h : Braced levels stop stop' ts us) (hcloses : Closes stop')
    (hend : ts.head?.bind Token.termOperator? = none) : us.head?.bind Token.termOperator? = none := by
  cases h with
  | stop => exact hcloses.termOperator?_eq_none
  | same halike | script halike =>
    rw [List.head?_cons, Option.bind_some] at hend ⊢
    rwa [← halike.termOperator?_eq]

end Braced

/-- The phrase is read to the same expressions when scripts are put in braces. -/
def Carries (n : Nat) (phrase : Phrase) (ts : List Token) (es : List Expr) (rest : List Token) : Prop :=
  ∀ levels stop stop' us, Braced levels stop stop' ts us → Closes stop' → stop.length ≤ rest.length →
    ∃ rest', Braced levels stop stop' rest rest' ∧ Reads (levels + n) phrase us es rest'

/-- What stands in braces is the whole sum up to the closing brace. -/
theorem Reads.sum_of_signed {n : Nat} {ts rest : List Token} {es : List Expr} (h : Reads n .signed ts es rest)
    (hcloses : Closes rest) : Reads n (.sum false) ts es rest := by
  obtain ⟨e, rfl⟩ := List.length_eq_one_iff.mp h.length_outputs
  exact .sum (.product h (.factorsEnd (hcloses.of_eq_none false))) (.termsEnd hcloses.termOperator?_eq_none)

theorem Reads.primary_unsigned {n : Nat} {ts rest : List Token} {es : List Expr} (h : Reads n .primary ts es rest) :
    passing? .plus ts = none ∧ passing? .minus ts = none := by
  cases h with
  | group ht =>
    obtain ⟨hkind, -⟩ | ⟨hkind, -⟩ | ⟨hkind, -⟩ := Token.Kind.closer?_eq_some ht <;> simp [hkind]
  | _ => simp_all

theorem Reads.sum_of_primary {n : Nat} {ts rest : List Token} {es : List Expr} (h : Reads n .primary ts es rest)
    (hcloses : Closes rest) : Reads (n + 1) (.sum false) ts es rest := by
  obtain ⟨e, rfl⟩ := List.length_eq_one_iff.mp h.length_outputs
  apply Reads.sum_of_signed _ hcloses
  exact .unsigned h.primary_unsigned.1 h.primary_unsigned.2
    (.power h (.marksEnd (hcloses.passing?_eq_none (by simp))) (hcloses.passing?_eq_none (by simp)))

/-- A script on its own is a sum, too. -/
theorem Reads.sum_of_script {n : Nat} {kind : Token.Kind} {phrase : Phrase} {ts rest : List Token} {es : List Expr}
    (hphrase : kind.script? = some phrase) (h : Reads n phrase ts es rest) (hcloses : Closes rest) :
    Reads (extraLevels phrase ts + n) (.sum false) ts es rest := by
  have hphrase : phrase = .exponent ∨ phrase = .argument := by
    cases kind <;> cases hphrase <;> simp
  obtain rfl | rfl := hphrase
  · cases h with
    | exponentGroup ht hsum hc =>
      have hgroup : Reads (n + 1) .primary _ es rest := .group (by rw [ht, hc]; rfl) hsum
      simp only [extraLevels, passing?_cons, if_pos ht, Nat.add_comm 2 n]
      exact hgroup.sum_of_primary hcloses
    | exponentSigned hbrace hsigned => simpa [extraLevels, hbrace] using hsigned.sum_of_signed hcloses
  · cases h with
    | argumentGroup ht hsum hc =>
      have hgroup : Reads (n + 1) .primary _ es rest := .group (by rw [ht, hc]; rfl) hsum
      simp only [extraLevels, passing?_cons, if_pos ht, Nat.add_comm 2 n]
      exact hgroup.sum_of_primary hcloses
    | argumentPrimary hbrace hprimary =>
      simpa [extraLevels, hbrace, Nat.add_comm] using hprimary.sum_of_primary hcloses

theorem Reads.braced_script {n : Nat} {kind : Token.Kind} {phrase : Phrase} {l c : Token} {ts rest : List Token}
    {es : List Expr} (hphrase : kind.script? = some phrase) (hl : l.kind = .leftBrace) (hc : c.kind = .rightBrace)
    (h : Reads n (.sum false) ts es (c :: rest)) : Reads n phrase (l :: ts) es rest := by
  cases kind <;> cases hphrase
  · exact .exponentGroup hl h hc
  · exact .argumentGroup hl h hc

theorem extraLevels_eq {phrase : Phrase} {script script' us : List Token} (halike : List.Forall₂ Token.Alike script script')
    (hcloses : Closes us) : extraLevels phrase (script' ++ us) = extraLevels phrase script := by
  have hnone : passing? .leftBrace us = none := hcloses.passing?_eq_none (by simp)
  cases halike with
  | nil =>
    simp only [extraLevels, List.nil_append, hnone]
    rfl
  | @cons x y _ _ hx =>
    have hkind := hx.kind_eq
    by_cases hy : y.kind = .leftBrace <;> simp [extraLevels, hkind, hy]

/-- A script that was read as a whole is read again when braces stand around it. -/
theorem Carries.braces {n levels : Nat} {kind : Token.Kind} {phrase : Phrase} {script script' ts us rest : List Token}
    {es : List Expr} {l c : Token} (h : Reads n phrase (script ++ ts) es rest)
    (hcarries : Carries n phrase (script ++ ts) es rest) (hphrase : kind.script? = some phrase)
    (hl : l.kind = .leftBrace) (hc : c.kind = .rightBrace) (hlevels : extraLevels phrase script ≤ levels)
    (halike : List.Forall₂ Token.Alike script script') (hwhole : Whole phrase script ts) :
    rest = ts ∧ Reads (levels + n) phrase (l :: (script' ++ c :: us)) es us := by
  have hlength := hwhole n es rest h
  obtain ⟨read, hread⟩ := h.suffix
  have hrest : rest = ts := (List.append_inj' hread hlength).2
  subst hrest
  have hcloses : Closes (c :: us) := .cons hc
  -- Inside the braces the script is read on its own.
  obtain ⟨rest', hbraced, hinside⟩ :=
    hcarries (levels - extraLevels phrase script) rest (c :: us) (script' ++ c :: us) (.of_alike halike) hcloses
      (Nat.le_refl _)
  rw [(hbraced.eq_of_length_le (Nat.le_refl _)).2] at hinside
  have hsum := hinside.sum_of_script hphrase hcloses
  rw [extraLevels_eq halike hcloses, ← Nat.add_assoc, Nat.add_sub_cancel' hlevels] at hsum
  exact ⟨rfl, hsum.braced_script hphrase hl hc⟩

/-- What stands behind a mark that opens a script, with its scripts in braces. -/
theorem Carries.script {n levels : Nat} {phrase : Phrase} {stop stop' ts us rest : List Token} {es : List Expr} {m : Token}
    (h : Reads n phrase ts es rest) (hcarries : Carries n phrase ts es rest)
    (hphrase : m.kind.script? = some phrase)
    (hbraced : Braced levels stop stop' (m :: ts) us) (hcloses : Closes stop') (hlength : stop.length ≤ rest.length) :
    ∃ m' us' rest', us = m' :: us' ∧ m.Alike m' ∧ Braced levels stop stop' rest rest' ∧
      Reads (levels + n) phrase us' es rest' := by
  have hle := h.suffix.length_le
  generalize hxs : m :: ts = xs at hbraced
  cases hbraced with
  | stop =>
    rw [← hxs, List.length_cons] at hlength
    omega
  | same halike hbraced =>
    obtain ⟨rfl, rfl⟩ := List.cons.inj hxs
    obtain ⟨rest', hrest, hreads⟩ := hcarries levels stop stop' _ hbraced hcloses hlength
    exact ⟨_, _, rest', rfl, halike, hrest, hreads⟩
  | @script _ m' l c phrase' script script' ts₁ us₁ hmark hopens hl hc hlevels halike hwhole hbraced =>
    obtain ⟨rfl, rfl⟩ := List.cons.inj hxs
    obtain rfl := Option.some.inj (hopens.symm.trans hphrase)
    obtain ⟨rfl, hreads⟩ := Carries.braces h hcarries hopens hl hc hlevels halike hwhole
    exact ⟨m', _, us₁, rfl, hmark, hbraced, hreads⟩

/-- What stands behind a token that opens no script, with its scripts in braces. -/
theorem Carries.behind {n levels : Nat} {phrase : Phrase} {stop stop' ts us rest : List Token} {es : List Expr} {t : Token}
    (h : Reads n phrase ts es rest) (hcarries : Carries n phrase ts es rest) (ht : t.kind.script? = none)
    (hbraced : Braced levels stop stop' (t :: ts) us) (hcloses : Closes stop') (hlength : stop.length ≤ rest.length) :
    ∃ t' us' rest', us = t' :: us' ∧ t.Alike t' ∧ Braced levels stop stop' rest rest' ∧
      Reads (levels + n) phrase us' es rest' := by
  obtain ⟨t', us', rfl, halike, hbraced⟩ := hbraced.of_cons (hlength.trans h.suffix.length_le) ht
  obtain ⟨rest', hrest, hreads⟩ := hcarries levels stop stop' us' hbraced hcloses hlength
  exact ⟨t', us', rest', rfl, halike, hrest, hreads⟩

/-- What stands between two tokens that open no script, with its scripts in braces. -/
theorem Carries.enclosed {n levels : Nat} {phrase : Phrase} {stop stop' ts us rest : List Token} {es : List Expr}
    {t c : Token} (h : Reads n phrase ts es (c :: rest)) (hcarries : Carries n phrase ts es (c :: rest))
    (ht : t.kind.script? = none) (hc : c.kind.script? = none) (hbraced : Braced levels stop stop' (t :: ts) us)
    (hcloses : Closes stop') (hlength : stop.length ≤ rest.length) :
    ∃ t' us' c' rest', us = t' :: us' ∧ t.Alike t' ∧ c.Alike c' ∧ Braced levels stop stop' rest rest' ∧
      Reads (levels + n) phrase us' es (c' :: rest') := by
  obtain ⟨t', us', after, rfl, halike, hafter, hreads⟩ :=
    hcarries.behind h ht hbraced hcloses (hlength.trans (Nat.le_succ _))
  obtain ⟨c', rest', rfl, halike', hrest⟩ := hafter.of_cons hlength hc
  exact ⟨t', us', c', rest', rfl, halike, halike', hrest, hreads⟩

/-- Two phrases, one behind the other, with their scripts in braces. -/
theorem Carries.both {n levels : Nat} {phrase phrase' : Phrase} {stop stop' ts ts₁ us rest : List Token}
    {es es' : List Expr} (h' : Reads n phrase' ts₁ es' rest) (hcarries : Carries n phrase ts es ts₁)
    (hcarries' : Carries n phrase' ts₁ es' rest) (hbraced : Braced levels stop stop' ts us) (hcloses : Closes stop')
    (hlength : stop.length ≤ rest.length) :
    ∃ us₁ rest', Braced levels stop stop' rest rest' ∧ Reads (levels + n) phrase us es us₁ ∧
      Reads (levels + n) phrase' us₁ es' rest' := by
  obtain ⟨us₁, hbraced₁, hreads⟩ := hcarries levels stop stop' us hbraced hcloses (hlength.trans h'.suffix.length_le)
  obtain ⟨rest', hrest, hreads'⟩ := hcarries' levels stop stop' us₁ hbraced₁ hcloses hlength
  exact ⟨us₁, rest', hrest, hreads, hreads'⟩

/-- Putting scripts in braces keeps what is read. -/
theorem Reads.carries {n : Nat} {phrase : Phrase} {ts rest : List Token} {es : List Expr}
    (h : Reads n phrase ts es rest) : Carries n phrase ts es rest := by
  induction h with
  | plus ht h ih =>
    intro levels stop stop' us hbraced hcloses hlength
    obtain ⟨t', us, rest', rfl, halike, hrest, hreads⟩ := ih.behind h (by rw [ht]; rfl) hbraced hcloses hlength
    exact ⟨rest', hrest, .plus (halike.kind_eq ▸ ht) hreads⟩
  | minus ht h ih =>
    intro levels stop stop' us hbraced hcloses hlength
    obtain ⟨t', us, rest', rfl, halike, hrest, hreads⟩ := ih.behind h (by rw [ht]; rfl) hbraced hcloses hlength
    exact ⟨rest', hrest, .minus (halike.kind_eq ▸ ht) hreads⟩
  | unsigned hplus hminus _ ih =>
    intro levels stop stop' us hbraced hcloses hlength
    obtain ⟨rest', hrest, hreads⟩ := ih _ _ _ _ hbraced hcloses hlength
    exact ⟨rest', hrest, .unsigned (hbraced.passing?_eq_none hcloses (by simp) hplus)
      (hbraced.passing?_eq_none hcloses (by simp) hminus) hreads⟩
  | number ht =>
    intro levels stop stop' us hbraced hcloses hlength
    obtain ⟨t', us, rfl, halike, hbraced⟩ := hbraced.of_cons hlength (by rw [ht]; rfl)
    refine ⟨us, hbraced, ?_⟩
    rw [halike.2]
    exact .number (halike.kind_eq ▸ ht)
  | symbol ht =>
    intro levels stop stop' us hbraced hcloses hlength
    obtain ⟨t', us, rfl, halike, hbraced⟩ := hbraced.of_cons hlength (by rw [ht]; rfl)
    refine ⟨us, hbraced, ?_⟩
    rw [halike.2]
    exact .symbol (halike.kind_eq ▸ ht)
  | group ht h ih =>
    intro levels stop stop' us hbraced hcloses hlength
    obtain ⟨t', us, c', rest', rfl, halike, halike', hrest, hreads⟩ :=
      ih.enclosed h (script?_of_closer? ht).1 (script?_of_closer? ht).2 hbraced hcloses hlength
    exact ⟨rest', hrest, .group (by rw [← halike.kind_eq, ← halike'.kind_eq]; exact ht) hreads⟩
  | bars ht h hc ih =>
    intro levels stop stop' us hbraced hcloses hlength
    obtain ⟨t', us, c', rest', rfl, halike, halike', hrest, hreads⟩ :=
      ih.enclosed h (by rw [ht]; rfl) (by rw [hc]; rfl) hbraced hcloses hlength
    exact ⟨rest', hrest, .bars (halike.kind_eq ▸ ht) hreads (halike'.kind_eq ▸ hc)⟩
  | fraction ht hname h₁ h₂ ih₁ ih₂ =>
    intro levels stop stop' us hbraced hcloses hlength
    obtain ⟨t', us, us₁, rfl, halike, hbraced₁, hreads₁⟩ :=
      ih₁.behind h₁ (by rw [ht]; rfl) hbraced hcloses (hlength.trans h₂.suffix.length_le)
    obtain ⟨rest', hrest, hreads₂⟩ := ih₂ _ _ _ _ hbraced₁ hcloses hlength
    exact ⟨rest', hrest, .fraction (halike.kind_eq ▸ ht) (halike.commandName_eq ▸ hname) hreads₁ hreads₂⟩
  | root ht hname h₁ h₂ ih₁ ih₂ =>
    intro levels stop stop' us hbraced hcloses hlength
    obtain ⟨t', us, us₁, rfl, halike, hbraced₁, hreads₁⟩ :=
      ih₁.behind h₁ (by rw [ht]; rfl) hbraced hcloses (hlength.trans h₂.suffix.length_le)
    obtain ⟨rest', hrest, hreads₂⟩ := ih₂ _ _ _ _ hbraced₁ hcloses hlength
    exact ⟨rest', hrest, .root (halike.kind_eq ▸ ht) (halike.commandName_eq ▸ hname) hreads₁ hreads₂⟩
  | abs ht hname h ih =>
    intro levels stop stop' us hbraced hcloses hlength
    obtain ⟨t', us, rest', rfl, halike, hrest, hreads⟩ := ih.behind h (by rw [ht]; rfl) hbraced hcloses hlength
    exact ⟨rest', hrest, .abs (halike.kind_eq ▸ ht) (halike.commandName_eq ▸ hname) hreads⟩
  | log ht hname h₁ h₂ h₃ ih₁ ih₂ ih₃ =>
    intro levels stop stop' us hbraced hcloses hlength
    have hlength₂ := hlength.trans h₃.suffix.length_le
    obtain ⟨t', us, us₁, rfl, halike, hbraced₁, hreads₁⟩ :=
      ih₁.behind h₁ (by rw [ht]; rfl) hbraced hcloses (hlength₂.trans h₂.suffix.length_le)
    obtain ⟨us₂, rest', hrest, hreads₂, hreads₃⟩ := ih₂.both h₃ ih₃ hbraced₁ hcloses hlength
    exact ⟨rest', hrest, .log (halike.kind_eq ▸ ht) (halike.commandName_eq ▸ hname) hreads₁ hreads₂ hreads₃⟩
  | func ht hname h₁ h₂ harity ih₁ ih₂ =>
    intro levels stop stop' us hbraced hcloses hlength
    obtain ⟨t', us, us₁, rfl, halike, hbraced₁, hreads₁⟩ :=
      ih₁.behind h₁ (by rw [ht]; rfl) hbraced hcloses (hlength.trans h₂.suffix.length_le)
    obtain ⟨rest', hrest, hreads₂⟩ := ih₂ _ _ _ _ hbraced₁ hcloses hlength
    exact ⟨rest', hrest, .func (halike.kind_eq ▸ ht) (halike.commandName_eq ▸ hname) hreads₁ hreads₂ harity⟩
  | marksEnd hend =>
    intro levels stop stop' us hbraced hcloses hlength
    exact ⟨us, hbraced, .marksEnd (hbraced.passing?_eq_none hcloses (by simp) hend)⟩
  | mark ht h ih =>
    intro levels stop stop' us hbraced hcloses hlength
    obtain ⟨t', us, rest', rfl, halike, hrest, hreads⟩ := ih.behind h (by rw [ht]; rfl) hbraced hcloses hlength
    exact ⟨rest', hrest, .mark (halike.kind_eq ▸ ht) hreads⟩
  | power _ h₂ hend ih₁ ih₂ =>
    intro levels stop stop' us hbraced hcloses hlength
    obtain ⟨us₁, rest', hrest, hreads₁, hreads₂⟩ := ih₁.both h₂ ih₂ hbraced hcloses hlength
    exact ⟨rest', hrest, .power hreads₁ hreads₂ (hrest.passing?_eq_none hcloses (by simp) hend)⟩
  | raised _ h₂ ht h₃ h₄ ih₁ ih₂ ih₃ ih₄ =>
    intro levels stop stop' us hbraced hcloses hlength
    have hlength₃ := hlength.trans h₄.suffix.length_le
    have hlength₂ := hlength₃.trans h₃.suffix.length_le
    obtain ⟨us₁, us₂, hbraced₂, hreads₁, hreads₂⟩ :=
      ih₁.both h₂ ih₂ hbraced hcloses (hlength₂.trans (Nat.le_succ _))
    obtain ⟨t', us₂, us₃, rfl, halike, hbraced₃, hreads₃⟩ :=
      ih₃.script h₃ (by rw [ht]; rfl) hbraced₂ hcloses hlength₃
    obtain ⟨rest', hrest, hreads₄⟩ := ih₄ _ _ _ _ hbraced₃ hcloses hlength
    exact ⟨rest', hrest, .raised hreads₁ hreads₂ (halike.kind_eq ▸ ht) hreads₃ hreads₄⟩
  | exponentGroup ht h hc ih =>
    intro levels stop stop' us hbraced hcloses hlength
    obtain ⟨t', us, c', rest', rfl, halike, halike', hrest, hreads⟩ :=
      ih.enclosed h (by rw [ht]; rfl) (by rw [hc]; rfl) hbraced hcloses hlength
    exact ⟨rest', hrest, .exponentGroup (halike.kind_eq ▸ ht) hreads (halike'.kind_eq ▸ hc)⟩
  | exponentSigned hbrace _ ih =>
    intro levels stop stop' us hbraced hcloses hlength
    obtain ⟨rest', hrest, hreads⟩ := ih _ _ _ _ hbraced hcloses hlength
    exact ⟨rest', hrest, .exponentSigned (hbraced.passing?_eq_none hcloses (by simp) hbrace) hreads⟩
  | factorsEnd hend =>
    intro levels stop stop' us hbraced hcloses hlength
    exact ⟨us, hbraced, .factorsEnd (hbraced.of_eq_none hcloses hend)⟩
  | factor hnext h₁ h₂ ih₁ ih₂ =>
    intro levels stop stop' us hbraced hcloses hlength
    obtain ⟨us₁, hnext', hbraced₁⟩ :=
      hbraced.of_eq_operator hnext (hlength.trans (h₂.suffix.trans h₁.suffix).length_le)
    obtain ⟨us₂, rest', hrest, hreads₁, hreads₂⟩ := ih₁.both h₂ ih₂ hbraced₁ hcloses hlength
    exact ⟨rest', hrest, .factor hnext' hreads₁ hreads₂⟩
  | juxtaposed hnext h₁ h₂ ih₁ ih₂ =>
    intro levels stop stop' us hbraced hcloses hlength
    have hlt := Nat.lt_of_le_of_lt (hlength.trans h₂.suffix.length_le) (h₁.length_lt rfl)
    obtain ⟨us₂, rest', hrest, hreads₁, hreads₂⟩ := ih₁.both h₂ ih₂ hbraced hcloses hlength
    exact ⟨rest', hrest, .juxtaposed (hbraced.of_eq_juxtaposed hlt hnext) hreads₁ hreads₂⟩
  | product _ h₂ ih₁ ih₂ =>
    intro levels stop stop' us hbraced hcloses hlength
    obtain ⟨us₁, rest', hrest, hreads₁, hreads₂⟩ := ih₁.both h₂ ih₂ hbraced hcloses hlength
    exact ⟨rest', hrest, .product hreads₁ hreads₂⟩
  | termsEnd hend =>
    intro levels stop stop' us hbraced hcloses hlength
    exact ⟨us, hbraced, .termsEnd (hbraced.termOperator?_eq_none hcloses hend)⟩
  | @term n barred l op t ts ts₁ r es rest ht h₁ h₂ ih₁ ih₂ =>
    intro levels stop stop' us hbraced hcloses hlength
    have hmark : t.kind.script? = none := by
      cases hkind : t.kind <;> simp_all [Token.termOperator?, Token.Kind.script?]
    obtain ⟨t', us, us₁, rfl, halike, hbraced₁, hreads₁⟩ :=
      ih₁.behind h₁ hmark hbraced hcloses (hlength.trans h₂.suffix.length_le)
    obtain ⟨rest', hrest, hreads₂⟩ := ih₂ _ _ _ _ hbraced₁ hcloses hlength
    exact ⟨rest', hrest, .term (halike.termOperator?_eq ▸ ht) hreads₁ hreads₂⟩
  | sum _ h₂ ih₁ ih₂ =>
    intro levels stop stop' us hbraced hcloses hlength
    obtain ⟨us₁, rest', hrest, hreads₁, hreads₂⟩ := ih₁.both h₂ ih₂ hbraced hcloses hlength
    exact ⟨rest', hrest, .sum hreads₁ hreads₂⟩
  | argumentGroup ht h hc ih =>
    intro levels stop stop' us hbraced hcloses hlength
    obtain ⟨t', us, c', rest', rfl, halike, halike', hrest, hreads⟩ :=
      ih.enclosed h (by rw [ht]; rfl) (by rw [hc]; rfl) hbraced hcloses hlength
    exact ⟨rest', hrest, .argumentGroup (halike.kind_eq ▸ ht) hreads (halike'.kind_eq ▸ hc)⟩
  | argumentPrimary hbrace _ ih =>
    intro levels stop stop' us hbraced hcloses hlength
    obtain ⟨rest', hrest, hreads⟩ := ih _ _ _ _ hbraced hcloses hlength
    exact ⟨rest', hrest, .argumentPrimary (hbraced.passing?_eq_none hcloses (by simp) hbrace) hreads⟩
  | commasEnd hend =>
    intro levels stop stop' us hbraced hcloses hlength
    exact ⟨us, hbraced, .commasEnd (hbraced.passing?_eq_none hcloses (by simp) hend)⟩
  | comma ht h₁ h₂ ih₁ ih₂ =>
    intro levels stop stop' us hbraced hcloses hlength
    obtain ⟨t', us, us₁, rfl, halike, hbraced₁, hreads₁⟩ :=
      ih₁.behind h₁ (by rw [ht]; rfl) hbraced hcloses (hlength.trans h₂.suffix.length_le)
    obtain ⟨rest', hrest, hreads₂⟩ := ih₂ _ _ _ _ hbraced₁ hcloses hlength
    exact ⟨rest', hrest, .comma (halike.kind_eq ▸ ht) hreads₁ hreads₂⟩
  | argumentsListed ht hbracket h₁ h₂ ih₁ ih₂ =>
    intro levels stop stop' us hbraced hcloses hlength
    have hlength₂ := hlength.trans (Nat.le_succ _)
    obtain ⟨t', us, us₁, rfl, halike, hbraced₁, hreads₁⟩ :=
      ih₁.behind h₁ (script?_of_closer? ht).1 hbraced hcloses (hlength₂.trans h₂.suffix.length_le)
    obtain ⟨after, hafter, hreads₂⟩ := ih₂ _ _ _ _ hbraced₁ hcloses hlength₂
    obtain ⟨c', rest', rfl, halike', hrest⟩ := hafter.of_cons hlength (script?_of_closer? ht).2
    exact ⟨rest', hrest, .argumentsListed (by rw [← halike.kind_eq, ← halike'.kind_eq]; exact ht)
      (by rw [← halike.kind_eq]; exact hbracket) hreads₁ hreads₂⟩
  | argumentsSigned hparen hbrace _ ih =>
    intro levels stop stop' us hbraced hcloses hlength
    obtain ⟨rest', hrest, hreads⟩ := ih _ _ _ _ hbraced hcloses hlength
    exact ⟨rest', hrest, .argumentsSigned (hbraced.passing?_eq_none hcloses (by simp) hparen)
      (hbraced.passing?_eq_none hcloses (by simp) hbrace) hreads⟩
  | raisingEnd hend =>
    intro levels stop stop' us hbraced hcloses hlength
    exact ⟨us, hbraced, .raisingEnd (hbraced.passing?_eq_none hcloses (by simp) hend)⟩
  | raisingPower ht h ih =>
    intro levels stop stop' us hbraced hcloses hlength
    obtain ⟨t', us, rest', rfl, halike, hrest, hreads⟩ := ih.script h (by rw [ht]; rfl) hbraced hcloses hlength
    exact ⟨rest', hrest, .raisingPower (halike.kind_eq ▸ ht) hreads⟩
  | degreeEnd hend =>
    intro levels stop stop' us hbraced hcloses hlength
    exact ⟨us, hbraced, .degreeEnd (hbraced.passing?_eq_none hcloses (by simp) hend)⟩
  | degreeGroup ht h hc ih =>
    intro levels stop stop' us hbraced hcloses hlength
    obtain ⟨t', us, c', rest', rfl, halike, halike', hrest, hreads⟩ :=
      ih.enclosed h (by rw [ht]; rfl) (by rw [hc]; rfl) hbraced hcloses hlength
    exact ⟨rest', hrest, .degreeGroup (halike.kind_eq ▸ ht) hreads (halike'.kind_eq ▸ hc)⟩
  | baseEnd hend =>
    intro levels stop stop' us hbraced hcloses hlength
    exact ⟨us, hbraced, .baseEnd (hbraced.passing?_eq_none hcloses (by simp) hend)⟩
  | baseArgument ht h ih =>
    intro levels stop stop' us hbraced hcloses hlength
    obtain ⟨t', us, rest', rfl, halike, hrest, hreads⟩ := ih.script h (by rw [ht]; rfl) hbraced hcloses hlength
    exact ⟨rest', hrest, .baseArgument (halike.kind_eq ▸ ht) hreads⟩

/-- Tokens that close, or none, can stand in the place of what a phrase leaves. -/
theorem Reads.append_of_closes {n : Nat} (levels : Nat) {phrase : Phrase} {ts stop stop' : List Token} {es : List Expr}
    (h : Reads n phrase (ts ++ stop) es stop) (hcloses : Closes stop') :
    Reads (levels + n) phrase (ts ++ stop') es stop' := by
  have halike : List.Forall₂ Token.Alike ts ts := List.forall₂_same.mpr fun x _ => .refl x
  obtain ⟨rest', hrest, hreads⟩ := h.carries levels stop stop' _ (.of_alike halike) hcloses (Nat.le_refl _)
  rwa [(hrest.eq_of_length_le (Nat.le_refl _)).2] at hreads

/-- More room does no harm. -/
theorem Reads.mono {m n : Nat} {phrase : Phrase} {ts : List Token} {es : List Expr} (h : Reads n phrase ts es [])
    (hle : n ≤ m) : Reads m phrase ts es [] := by
  rw [← List.append_nil ts] at h
  have hmore := h.append_of_closes (m - n) .nil
  rwa [List.append_nil, Nat.sub_add_cancel hle] at hmore

/-- A formula with scripts in braces comes to the same expression. -/
theorem Reads.braced {n levels : Nat} {phrase : Phrase} {ts us : List Token} {es : List Expr}
    (h : Reads n phrase ts es []) (hbraced : Braced levels [] [] ts us) : Reads (levels + n) phrase us es [] := by
  obtain ⟨rest', hrest, hreads⟩ := h.carries levels [] [] us hbraced .nil (Nat.le_refl _)
  rwa [(hrest.eq_of_length_le (Nat.le_refl _)).2] at hreads

/-- Where the tokens stand does not matter. -/
theorem Reads.of_alike {n : Nat} {phrase : Phrase} {ts us : List Token} {es : List Expr} (h : Reads n phrase ts es [])
    (halike : List.Forall₂ Token.Alike ts us) : Reads n phrase us es [] := by
  have hbraced : Braced 0 [] [] (ts ++ []) (us ++ []) := .of_alike halike
  rw [List.append_nil, List.append_nil] at hbraced
  simpa using h.braced hbraced

theorem symbolLexemes_append (ts us : List Token) : symbolLexemes (ts ++ us) = symbolLexemes ts ++ symbolLexemes us := by
  simp [symbolLexemes]

theorem symbolLexemes_eq_of_alike {ts us : List Token} (h : List.Forall₂ Token.Alike ts us) :
    symbolLexemes ts = symbolLexemes us := by
  induction h with
  | nil => rfl
  | cons hx _ ih => rw [symbolLexemes_cons, symbolLexemes_cons, hx.1, hx.2, ih]

/-- Braces are no symbols. -/
theorem Braced.symbolLexemes_eq {levels : Nat} {ts us : List Token} (h : Braced levels [] [] ts us) :
    symbolLexemes us = symbolLexemes ts := by
  induction h with
  | stop => rfl
  | same halike _ ih => rw [symbolLexemes_cons, symbolLexemes_cons, halike.1, halike.2, ih]
  | script hmark _ hl hc _ halike _ _ ih =>
    simp [symbolLexemes_cons, symbolLexemes_append, symbolLexemes_eq_of_alike halike, hmark.1, hmark.2, hl, hc, ih]

/-- Each script gets two braces at most. -/
theorem Braced.length_le_add {levels : Nat} {ts us : List Token} (h : Braced levels [] [] ts us) :
    us.length ≤ ts.length + 2 * ts.countP (·.kind.script?.isSome) := by
  induction h with
  | stop => simp
  | same _ _ ih =>
    simp only [List.length_cons, List.countP_cons]
    omega
  | script hmark hopens _ _ _ halike _ _ ih =>
    have hlength := halike.length_eq
    simp only [List.length_cons, List.length_append, List.countP_cons, List.countP_append, hopens, Option.isSome_some, if_true]
    omega

theorem Reads.primary_of_single {n : Nat} {x : Token} {ts rest : List Token} {es : List Expr}
    (hx : x.kind = .number ∨ x.kind = .symbol) (h : Reads n .primary (x :: ts) es rest) : rest = ts := by
  cases h with
  | group ht =>
    obtain ⟨hkind, -⟩ | ⟨hkind, -⟩ | ⟨hkind, -⟩ := Token.Kind.closer?_eq_some ht <;> simp [hkind] at hx
  | _ => simp_all

theorem Reads.marks_of_none {n : Nat} {e : Expr} {ts rest : List Token} {es : List Expr}
    (hbang : passing? .bang ts = none) (h : Reads n (.marks e) ts es rest) : rest = ts := by
  cases h with
  | marksEnd => rfl
  | mark ht => simp [ht] at hbang

/-- A number or a symbol is a whole exponent, unless a factorial mark or another exponent follows it. -/
theorem whole_exponent_of_single {x : Token} {ts : List Token} (hx : x.kind = .number ∨ x.kind = .symbol)
    (hbang : passing? .bang ts = none) (hcaret : passing? .caret ts = none) : Whole .exponent [x] ts := by
  intro n es rest h
  cases h with
  | exponentGroup ht => simp [ht] at hx
  | exponentSigned _ hsigned =>
  cases hsigned with
  | plus ht | minus ht => simp [ht] at hx
  | unsigned _ _ hpower =>
  cases hpower with
  | power hbase hmarks =>
    obtain rfl := hbase.primary_of_single hx
    rw [hmarks.marks_of_none hbang]
  | raised hbase hmarks ht =>
    obtain rfl := hbase.primary_of_single hx
    rw [← hmarks.marks_of_none hbang] at hcaret
    simp [ht] at hcaret

end LiveTex.Formula
