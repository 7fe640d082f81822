import LiveTex.Proofs.Formula.Bracing
import LiveTex.Proofs.Name.Wrapping

/-!
Braces around a whole formula. Taking them off leaves a formula that comes to the same expression.
-/

namespace LiveTex.Formula

/-- What follows the brace that closes the group, when so many groups are open inside it. -/
def closing (depth : Nat) : List Token → Option (List Token)
  | [] => none
  | t :: ts =>
    if t.kind = .leftBrace then closing (depth + 1) ts
    else if t.kind = .rightBrace then
      match depth with
      | 0 => some ts
      | depth + 1 => closing depth ts
    else closing depth ts

theorem closing_cons {t : Token} (ts : List Token) (depth : Nat) (ht : t.kind ≠ .leftBrace ∧ t.kind ≠ .rightBrace) :
    closing depth (t :: ts) = closing depth ts := by
  rw [closing.eq_def]
  simp only [if_neg ht.1, if_neg ht.2]

theorem closing_leftBrace {t : Token} (ts : List Token) (depth : Nat) (ht : t.kind = .leftBrace) :
    closing depth (t :: ts) = closing (depth + 1) ts := by
  rw [closing.eq_def]
  simp only [if_pos ht]

theorem closing_rightBrace {t : Token} (ts : List Token) (depth : Nat) (ht : t.kind = .rightBrace) :
    closing (depth + 1) (t :: ts) = closing depth ts := by
  rw [closing.eq_def]
  simp [ht]

theorem closing_zero {t : Token} (ts : List Token) (ht : t.kind = .rightBrace) : closing 0 (t :: ts) = some ts := by
  rw [closing.eq_def]
  simp [ht]

/-- The search for the closing brace passes over every phrase. -/
theorem Reads.closing_eq {n : Nat} {phrase : Phrase} {ts rest : List Token} {es : List Expr}
    (h : Reads n phrase ts es rest) (depth : Nat) : closing depth ts = closing depth rest := by
  induction h generalizing depth with
  | factor hnext _ _ ihRight ihMore =>
    obtain ⟨t, hop, rfl⟩ := Continuation.of_eq_operator hnext
    have hkind : t.kind ≠ .leftBrace ∧ t.kind ≠ .rightBrace := by
      constructor <;> (intro hkind; simp [Token.factorOperator?, hkind] at hop)
    rw [closing_cons _ _ hkind, ihRight, ihMore]
  | @term _ _ _ _ t _ _ _ _ _ hop _ _ ihRight ihMore =>
    have hkind : t.kind ≠ .leftBrace ∧ t.kind ≠ .rightBrace := by
      constructor <;> (intro hkind; simp [Token.termOperator?, hkind] at hop)
    rw [closing_cons _ _ hkind, ihRight, ihMore]
  | group ht _ ih =>
    obtain ⟨ht, hc⟩ | ⟨ht, hc⟩ | ⟨ht, hc⟩ := Token.Kind.closer?_eq_some ht
    · rw [closing_cons _ _ (by simp [ht]), ih, closing_cons _ _ (by simp [hc])]
    · rw [closing_cons _ _ (by simp [ht]), ih, closing_cons _ _ (by simp [hc])]
    · rw [closing_leftBrace _ _ ht, ih, closing_rightBrace _ _ hc]
  | argumentsListed ht _ _ _ ihFirst ihMore =>
    obtain ⟨ht, hc⟩ | ⟨ht, hc⟩ | ⟨ht, hc⟩ := Token.Kind.closer?_eq_some ht
    · rw [closing_cons _ _ (by simp [ht]), ihFirst, ihMore, closing_cons _ _ (by simp [hc])]
    · rw [closing_cons _ _ (by simp [ht]), ihFirst, ihMore, closing_cons _ _ (by simp [hc])]
    · rw [closing_leftBrace _ _ ht, ihFirst, ihMore, closing_rightBrace _ _ hc]
  | exponentGroup ht _ hc ih | argumentGroup ht _ hc ih =>
    rw [closing_leftBrace _ _ ht, ih, closing_rightBrace _ _ hc]
  | _ => simp_all [closing_cons]

theorem Reads.marks_nil {n : Nat} {e : Expr} {es : List Expr} {rest : List Token} (h : Reads n (.marks e) [] es rest) :
    es = [e] ∧ rest = [] := by
  cases h
  exact ⟨rfl, rfl⟩

theorem Reads.factors_nil {n : Nat} {barred : Bool} {e : Expr} {es : List Expr} {rest : List Token}
    (h : Reads n (.factors barred e) [] es rest) : es = [e] ∧ rest = [] := by
  cases h with
  | factorsEnd => exact ⟨rfl, rfl⟩
  | factor hnext | juxtaposed hnext => cases hnext

theorem Reads.terms_nil {n : Nat} {barred : Bool} {e : Expr} {es : List Expr} {rest : List Token}
    (h : Reads n (.terms barred e) [] es rest) : es = [e] ∧ rest = [] := by
  cases h
  exact ⟨rfl, rfl⟩

variable {n : Nat} {l c : Token} {ts rest : List Token} {es : List Expr}

/-- The group is all there is, so it is the whole of the primary. -/
theorem Reads.primary_of_enclosed (hl : l.kind = .leftBrace) (hclosing : closing 0 (ts ++ [c]) = some [])
    (h : Reads n .primary (l :: (ts ++ [c])) es rest) (levels : Nat) :
    rest = [] ∧ Reads (levels + n) (.sum false) ts es [] := by
  cases h with
  | @group m _ c' _ _ _ ht h =>
    have hc' : c'.kind = .rightBrace := by
      rw [hl] at ht
      exact (Option.some.inj ht).symm
    have hrest : rest = [] := by
      rw [h.closing_eq, closing_zero _ hc'] at hclosing
      exact Option.some.inj hclosing
    subst hrest
    have hlast : [c'] = [c] := by
      obtain ⟨read, hread⟩ := h.suffix
      exact (List.append_inj' hread rfl).2
    rw [hlast] at h
    have hsum := h.append_of_closes (levels + 1) .nil
    rw [List.append_nil, Nat.add_right_comm] at hsum
    exact ⟨rfl, hsum⟩
  | _ => simp_all

/-- Without the braces around it a formula comes to the same expression. -/
theorem Reads.of_enclosed (hl : l.kind = .leftBrace) (hclosing : closing 0 (ts ++ [c]) = some [])
    (h : Reads n (.sum false) (l :: (ts ++ [c])) es []) : Reads n (.sum false) ts es [] := by
  cases h with
  | sum hproduct hterms =>
  cases hproduct with
  | product hsigned hfactors =>
  cases hsigned with
  | plus ht | minus ht => simp [hl] at ht
  | @unsigned m _ _ _ _ _ hpower =>
  rw [Nat.add_comm]
  cases hpower with
  | power hbase hmarks =>
    obtain ⟨rfl, hsum⟩ := hbase.primary_of_enclosed hl hclosing 1
    obtain ⟨heq, rfl⟩ := hmarks.marks_nil
    cases heq
    obtain ⟨heq, rfl⟩ := hfactors.factors_nil
    cases heq
    obtain ⟨rfl, -⟩ := hterms.terms_nil
    exact hsum
  | raised hbase hmarks =>
    obtain ⟨rfl, -⟩ := hbase.primary_of_enclosed hl hclosing 1
    exact absurd hmarks.marks_nil.2 (by simp)

section Text

open Name (Passed untilClosing isQuiet)

theorem isQuiet_of_isAlphanum {c : Char} (h : c.isAlphanum = true) : isQuiet c = true :=
  Name.isQuiet_of_isColorChar (by simp [Name.isColorChar, h])

theorem isQuiet_of_mem_takeWhile {p : Char → Bool} (hp : ∀ c, p c = true → isQuiet c = true) (t : Text) :
    ∀ c ∈ t.takeWhile p, isQuiet c = true :=
  fun c hc => hp c (List.all_eq_true.mp List.all_takeWhile c hc)

theorem isQuiet_of_isAlpha {c : Char} (h : c.isAlpha = true) : isQuiet c = true :=
  isQuiet_of_isAlphanum (by simp [Char.isAlphanum, h])

theorem isQuiet_of_isDigit {c : Char} (h : c.isDigit = true) : isQuiet c = true :=
  isQuiet_of_isAlphanum (by simp [Char.isAlphanum, h])

theorem isQuiet_of_mem_fraction (t : Text) : ∀ c ∈ (fraction t).1, isQuiet c = true := by
  unfold fraction
  split
  · split
    · next d t hd =>
      have hrun := isQuiet_of_mem_takeWhile (fun _ => isQuiet_of_isDigit) t
      simpa [isQuiet_of_isDigit hd] using ⟨by decide, hrun⟩
    · simp
  · simp

theorem isQuiet_of_mem_taken {c : Char} (t : Text) (hc : isQuiet c = true) :
    ∀ d ∈ (head c t).taken, isQuiet d = true := by
  have hletters := isQuiet_of_mem_takeWhile (fun _ => isQuiet_of_isAlpha) t
  have hdigits := isQuiet_of_mem_takeWhile (fun _ => isQuiet_of_isDigit) t
  unfold head
  split
  · simpa using hc
  split
  · simpa [hc] using hletters
  split
  · have hpart := isQuiet_of_mem_fraction (t.dropWhile Char.isDigit)
    intro d hd
    obtain hd | hd := List.mem_append.mp hd
    · obtain rfl | hd := List.mem_cons.mp hd
      · exact hc
      · exact hdigits d hd
    · exact hpart d hd
  split
  · simp only
    split
    · simpa using hc
    · exact isQuiet_of_mem_fraction _
  split
  · next hbackslash => exact absurd hbackslash (Name.ne_backslash_of_isQuiet hc)
  · split <;> simpa using hc

theorem passed_escape {t : Text} (h : (escape t).item ≠ .stray) : Passed (escape t).taken := by
  cases t with
  | nil => exact absurd rfl h
  | cons d t =>
    by_cases halpha : d.isAlpha = true
    · simp only [escape, if_pos halpha]
      exact .escape (.of_quiet (isQuiet_of_mem_takeWhile (fun _ => isQuiet_of_isAlpha) t))
    · by_cases hmark : isSpacingMark d = true
      · simp only [escape, if_neg halpha, if_pos hmark]
        exact .escape (.of_quiet (by simp))
      · simp [escape, halpha, hmark] at h

/-- Every item but a brace is passed over by the search for the closing brace. -/
theorem passed_taken {c : Char} {t : Text} (h : (head c t).item ≠ .stray) (hopen : c ≠ '{') (hclose : c ≠ '}') :
    Passed (head c t).taken := by
  by_cases hbackslash : c = '\\'
  · subst hbackslash
    exact passed_escape h
  · exact .of_quiet (isQuiet_of_mem_taken t (by simp [isQuiet, hbackslash, hopen, hclose]))

/-- The search for the closing brace comes to the end in the tokens when it does in the text. -/
theorem Lexes.closing_eq {t inner : Text} {us : List Token} {depth : Nat} (h : Lexes t us)
    (hclosing : untilClosing depth t = some inner) : closing depth us = some [] := by
  induction h generalizing depth inner with
  | nil => simp [untilClosing] at hclosing
  | @layout c t us hitem _ ih =>
    have hbrace : c ≠ '{' ∧ c ≠ '}' := by
      constructor <;> (rintro rfl; cases hitem)
    have hpassed := passed_taken (t := t) (by simp [hitem]) hbrace.1 hbrace.2
    rw [← head_append, hpassed] at hclosing
    obtain ⟨inner, hinner, -⟩ := Option.map_eq_some_iff.mp hclosing
    exact ih hinner
  | @token c t x us hitem _ h ih =>
    by_cases hopen : c = '{'
    · subst hopen
      have hkind : x.kind = .leftBrace := (Item.token.inj hitem).symm
      have hnext : untilClosing depth ('{' :: t) = (untilClosing (depth + 1) t).map ('{' :: ·) := by
        rw [untilClosing.eq_def]
        rfl
      rw [hnext] at hclosing
      obtain ⟨inner, hinner, -⟩ := Option.map_eq_some_iff.mp hclosing
      rw [closing_leftBrace _ _ hkind]
      exact ih hinner
    by_cases hclose : c = '}'
    · subst hclose
      have hkind : x.kind = .rightBrace := (Item.token.inj hitem).symm
      have hrest : Lexes t us := h
      cases depth with
      | zero =>
        have hnil : t = [] := by
          rw [untilClosing.eq_def] at hclosing
          by_contra hne
          simp [hne] at hclosing
        subst hnil
        cases hrest
        exact closing_zero _ hkind
      | succ depth =>
        have hnext : untilClosing (depth + 1) ('}' :: t) = (untilClosing depth t).map ('}' :: ·) := by
          rw [untilClosing.eq_def]
          rfl
        rw [hnext] at hclosing
        obtain ⟨inner, hinner, -⟩ := Option.map_eq_some_iff.mp hclosing
        rw [closing_rightBrace _ _ hkind]
        exact ih hinner
    · have hpassed := passed_taken (t := t) (by simp [hitem]) hopen hclose
      have hkind : x.kind ≠ .leftBrace ∧ x.kind ≠ .rightBrace := by
        constructor
        · exact fun hkind => hopen (eq_of_item (c := '{') (hkind ▸ hitem) rfl)
        · exact fun hkind => hclose (eq_of_item (c := '}') (hkind ▸ hitem) rfl)
      rw [← head_append, hpassed] at hclosing
      obtain ⟨inner, hinner, -⟩ := Option.map_eq_some_iff.mp hclosing
      rw [closing_cons _ _ hkind]
      exact ih hinner

/-- A text in braces has its tokens in braces. -/
theorem Lexes.of_braced {t : Text} {ts : List Token} (h : Lexes ('{' :: (t ++ ['}'])) ts) :
    ∃ l c us, ts = l :: (us ++ [c]) ∧ l.kind = .leftBrace ∧ c.kind = .rightBrace ∧ Lexes t us ∧
      Lexes (t ++ ['}']) (us ++ [c]) := by
  obtain ⟨l, rest, rfl, hl, -, hrest⟩ := h.of_head rfl
  have hlast : t.getLast? ≠ some '\\' := hrest.unescaped (by simpa [Unescapable] using by decide)
  obtain ⟨us, vs, rfl, hinner, hclose⟩ := hrest.split ⟨hlast, .inr (by simpa using by decide)⟩
  obtain ⟨c, ws, rfl, hc, -, hnone⟩ := hclose.of_head rfl
  cases hnone
  exact ⟨l, c, us, rfl, hl, hc, hinner, hrest⟩

/-- Without the blanks and braces around it a text has its tokens without some braces, and as a formula it
comes to the same. -/
theorem Lexes.stripped {t : Text} {ts : List Token} (h : Lexes t ts) (hlast : (Name.stripped t).getLast? ≠ some '\\') :
    ∃ front us back, ts = front ++ us ++ back ∧ (∀ x ∈ front ++ back, x.kind = .leftBrace ∨ x.kind = .rightBrace) ∧
      Lexes (Name.stripped t) us ∧ ∀ n es, Reads n (.sum false) ts es [] → Reads n (.sum false) us es [] := by
  induction t using Name.stripped.induct generalizing ts with
  | case1 t hnone =>
    rw [Name.stripped_of_none hnone] at hlast ⊢
    exact ⟨[], ts, [], by simp, by simp, h.trim hlast, fun _ _ hreads => hreads⟩
  | case2 t inner hinner ih =>
    rw [Name.stripped_of_unbraced? hinner] at hlast ⊢
    have hbraced := Name.eq_braced_of_unbraced? hinner
    have htrim := h.trim (by rw [hbraced, List.getLast?_concat]; decide)
    have hclosing : untilClosing 0 (inner ++ ['}']) = some inner := by
      rwa [hbraced] at hinner
    rw [hbraced, List.append_assoc, List.singleton_append] at htrim
    obtain ⟨l, c, us, rfl, hl, hc, hinner, hgroup⟩ := htrim.of_braced
    obtain ⟨front, vs, back, rfl, hbraces, hlexes, hreads⟩ := ih hinner hlast
    refine ⟨l :: front, vs, back ++ [c], by simp, ?_, hlexes, ?_⟩
    · intro x hx
      simp only [List.cons_append, List.mem_cons, List.mem_append, List.not_mem_nil, or_false] at hx hbraces
      obtain rfl | hx | hx | rfl := hx
      · exact .inl hl
      · exact hbraces x (.inl hx)
      · exact hbraces x (.inr hx)
      · exact .inr hc
    · intro n es h
      exact hreads n es (h.of_enclosed hl (hgroup.closing_eq hclosing))

end Text

/-- The parser knows the command. -/
def Token.Known (t : Token) : Prop :=
  t.kind = .command → Command.ofName t.commandName ≠ .unknown ∨ Operator.ofCommand? t.commandName ≠ none

/-- Unknown commands are not read. -/
theorem Reads.known {n : Nat} {phrase : Phrase} {ts rest : List Token} {es : List Expr}
    (h : Reads n phrase ts es rest) : ∀ x ∈ ts, x ∈ rest ∨ x.Known := by
  induction h with
  | factor hnext _ _ ihRight ihMore =>
    obtain ⟨t, hop, rfl⟩ := Continuation.of_eq_operator hnext
    have ht : t.Known := by
      intro hkind
      simp [Token.factorOperator?, hkind] at hop
      exact .inr (by simp [hop])
    grind
  | @term _ _ _ _ t _ _ _ _ _ hop _ _ ihRight ihMore =>
    have ht : t.Known := by
      intro hkind
      simp [Token.termOperator?, hkind] at hop
    grind
  | group ht _ ih =>
    have hkinds := Token.Kind.closer?_eq_some ht
    grind [Token.Known]
  | argumentsListed ht _ _ _ ihFirst ihMore =>
    have hkinds := Token.Kind.closer?_eq_some ht
    grind [Token.Known]
  | _ => grind [Token.Known]

end LiveTex.Formula
