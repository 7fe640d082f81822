import LiveTex.Proofs.Formula.Placement
import LiveTex.Proofs.Formula.Respelling
import LiveTex.Proofs.Text.Slices

/-!
The layout of a formula: white space, spacing commands and the commands without arithmetic meaning. The tokens of a
source and the layout around them make up the source. More layout in front of a token or at the end changes where the
tokens stand and nothing else.
-/

namespace LiveTex.Formula

open Name (AllLetters noLetter)

/-- What carries no arithmetic meaning. -/
inductive LayoutPiece : Text → Prop
  | space {c : Char} (hc : isSpace c = true) : LayoutPiece [c]
  | spacing {c : Char} (hc : isSpacingMark c = true) : LayoutPiece ['\\', c]
  | command {name : Text} (hname : name ∈ layoutCommands) : LayoutPiece ('\\' :: name)

/-- Pieces of layout, one after the other. -/
inductive Layout : Text → Prop
  | nil : Layout []
  | append {p t : Text} (hpiece : LayoutPiece p) (h : Layout t) : Layout (p ++ t)

/-- The tokens stand in the text at their places, the first byte of the text being at `offset`. All else is layout. -/
inductive Cut : (offset : Nat) → Text → List Token → Prop
  | rest {offset : Nat} {t : Text} (h : Layout t) : Cut offset t []
  | token {offset : Nat} {gap t : Text} {x : Token} {ts : List Token} (hgap : Layout gap) (hlexeme : x.lexeme ≠ [])
      (hstart : x.start = offset + Text.bytes gap) (hstop : x.stop = x.start + Text.bytes x.lexeme)
      (h : Cut x.stop t ts) : Cut offset (gap ++ x.lexeme ++ t) (x :: ts)

/-! Items of layout. -/

theorem layoutPiece_of_escape {t : Text} (h : (escape t).item = .layout) : LayoutPiece (escape t).taken := by
  cases t with
  | nil => cases h
  | cons d t =>
    rw [escape] at h ⊢
    by_cases halpha : d.isAlpha = true
    · rw [if_pos halpha] at h ⊢
      by_cases hname : d :: t.takeWhile Char.isAlpha ∈ layoutCommands
      · exact .command hname
      · simp only [if_neg hname] at h
        cases h
    · rw [if_neg halpha] at h ⊢
      by_cases hmark : isSpacingMark d = true
      · rw [if_pos hmark]
        exact .spacing hmark
      · rw [if_neg hmark] at h
        cases h

theorem layoutPiece_of_item {c : Char} {t : Text} (h : (head c t).item = .layout) : LayoutPiece (head c t).taken := by
  unfold head at h ⊢
  by_cases hspace : isSpace c = true
  · rw [if_pos hspace]
    exact .space hspace
  rw [if_neg hspace] at h ⊢
  by_cases halpha : c.isAlpha = true
  · rw [if_pos halpha] at h
    cases h
  rw [if_neg halpha] at h ⊢
  by_cases hdigit : c.isDigit = true
  · rw [if_pos hdigit] at h
    cases h
  rw [if_neg hdigit] at h ⊢
  by_cases hpoint : c = '.'
  · rw [if_pos hpoint] at h
    simp only at h
    split at h <;> cases h
  rw [if_neg hpoint] at h ⊢
  by_cases hbackslash : c = '\\'
  · rw [if_pos hbackslash] at h ⊢
    exact layoutPiece_of_escape h
  rw [if_neg hbackslash] at h
  split at h <;> cases h

theorem letters_of_layoutCommands {name : Text} (h : name ∈ layoutCommands) : AllLetters name ∧ name ≠ [] := by
  revert name
  decide

theorem glues_of_isSpace {c : Char} (hc : isSpace c = true) : glues c = false := by
  simp only [isSpace, Bool.or_eq_true, beq_iff_eq] at hc
  obtain ((rfl | rfl) | rfl) | rfl := hc <;> decide

theorem escape_of_isSpacingMark {c : Char} (t : Text) (hc : isSpacingMark c = true) :
    escape (c :: t) = ⟨.layout, ['\\', c], t⟩ := by
  have halpha : c.isAlpha = false := by
    simp only [isSpacingMark, Bool.or_eq_true, beq_iff_eq] at hc
    obtain (((rfl | rfl) | rfl) | rfl) | rfl := hc <;> decide
  rw [escape, if_neg (by simp [halpha]), if_pos hc]

/-- A piece of layout is an item, unless it ends in a letter and letters follow it. It goes on nothing. -/
theorem LayoutPiece.head_eq {p : Text} (h : LayoutPiece p) : ∃ c s, p = c :: s ∧ glues c = false ∧
    ∀ v, noLetter p.getLast? = true ∨ noLetter v.head? = true → head c (s ++ v) = ⟨.layout, p, v⟩ := by
  cases h with
  | @space c hc => exact ⟨c, [], rfl, glues_of_isSpace hc, fun v _ => if_pos hc⟩
  | @spacing c hc => exact ⟨'\\', [c], rfl, by decide, fun v _ => escape_of_isSpacingMark v hc⟩
  | @command name hname =>
    obtain ⟨hletters, hne⟩ := letters_of_layoutCommands hname
    obtain ⟨d, s, rfl⟩ := List.exists_cons_of_ne_nil hne
    refine ⟨'\\', d :: s, rfl, by decide, fun v hv => ?_⟩
    have hlast : noLetter ('\\' :: d :: s).getLast? ≠ true := by
      have hletter := hletters _ (List.getLast_mem hne)
      rw [List.getLast?_cons_cons, List.getLast?_eq_some_getLast hne]
      simp [noLetter, hletter]
    have hescape := escape_run hletters (hv.resolve_left hlast)
    rwa [if_pos hname] at hescape

namespace Layout

variable {u v : Text} {vs : List Token}

/-- Layout goes on nothing. -/
theorem glues_head (h : Layout u) : ∀ c ∈ u.head?, glues c = false := by
  cases h with
  | nil => simp
  | append hpiece =>
    obtain ⟨c, s, rfl, hc, -⟩ := hpiece.head_eq
    simpa using hc

theorem noLetter_head (h : Layout u) : noLetter u.head? = true := by
  cases u with
  | nil => rfl
  | cons c u =>
    cases hc : c.isAlpha with
    | false => simp [noLetter, hc]
    | true =>
      have hglues := h.glues_head c rfl
      rw [glues_of_isAlpha hc] at hglues
      cases hglues

/-- Layout brings no tokens, if it does not end in a letter. -/
theorem lexes (h : Layout u) (hlast : noLetter u.getLast? = true) (hv : Lexes v vs) : Lexes (u ++ v) vs := by
  induction h with
  | nil => exact hv
  | @append p t hpiece h ih =>
    obtain ⟨c, s, rfl, -, hhead⟩ := hpiece.head_eq
    have hpiece : head c (s ++ (t ++ v)) = ⟨.layout, c :: s, t ++ v⟩ := by
      apply hhead
      cases t with
      | nil => exact .inl (by simpa using hlast)
      | cons d t => exact .inr h.noLetter_head
    have hrest : noLetter t.getLast? = true := by
      cases t with
      | nil => rfl
      | cons d t => rwa [List.getLast?_append_of_ne_nil _ (List.cons_ne_nil d t)] at hlast
    rw [List.append_assoc, List.cons_append]
    exact .layout (by rw [hpiece]) (by rw [hpiece]; exact ih hrest)

end Layout

/-! The tokens and the layout make up the source. -/

namespace Cut

variable {offset : Nat} {t : Text} {ts : List Token}

theorem layout {p : Text} (hpiece : LayoutPiece p) (h : Cut (offset + Text.bytes p) t ts) : Cut offset (p ++ t) ts := by
  cases h with
  | rest h => exact .rest (.append hpiece h)
  | @token _ gap t x ts hgap hlexeme hstart hstop h =>
    have hstart' : x.start = offset + Text.bytes (p ++ gap) := by rw [hstart, Text.bytes_append, Nat.add_assoc]
    simpa using Cut.token (.append hpiece hgap) hlexeme hstart' hstop h

theorem of_tokenizes (h : Tokenizes offset t ts) : Cut offset t ts := by
  induction h with
  | nil => exact .rest .nil
  | @layout _ c t _ hitem _ ih =>
    rw [← head_append c t]
    exact ih.layout (layoutPiece_of_item hitem)
  | @token offset c t kind _ hitem _ ih =>
    rw [← head_append c t]
    exact .token (x := ⟨kind, (head c t).taken, offset, offset + Text.bytes (head c t).taken⟩) .nil (head_taken_ne_nil c t)
      rfl rfl ih

theorem le_start (h : Cut offset t ts) : ∀ x ∈ ts, offset ≤ x.start := by
  induction h with
  | rest => simp
  | @token offset gap t x ts _ _ hstart hstop _ ih =>
    intro y hy
    obtain rfl | hy := List.mem_cons.mp hy
    · omega
    · have hle := ih y hy
      omega

/-- Each token ends before the next one starts. -/
theorem pairwise (h : Cut offset t ts) : ts.Pairwise fun x y => x.stop ≤ y.start := by
  induction h with
  | rest => exact .nil
  | token _ _ _ _ h ih => exact .cons h.le_start ih

theorem lexeme_ne_nil (h : Cut offset t ts) : ∀ x ∈ ts, x.lexeme ≠ [] := by
  induction h with
  | rest => simp
  | token _ hlexeme _ _ _ ih => exact List.forall_mem_cons.mpr ⟨hlexeme, ih⟩

/-- The lexemes are slices of the whole text, whatever is in front of the tokens. -/
theorem slice? (h : Cut offset t ts) (front : Text) (hoffset : offset = Text.bytes front) :
    ∀ x ∈ ts, Text.slice? (front ++ t) x.start x.stop = some x.lexeme := by
  induction h generalizing front with
  | rest => simp
  | @token offset gap t x ts _ _ hstart hstop _ ih =>
    subst hoffset
    have hfront : x.start = Text.bytes (front ++ gap) := by rw [hstart, Text.bytes_append]
    refine List.forall_mem_cons.mpr ⟨?_, ?_⟩
    · have hslice := Text.slice?_append (front ++ gap) x.lexeme t
      rw [hstop, hfront]
      simpa using hslice
    · have hrest := ih (front ++ gap ++ x.lexeme) (by rw [hstop, hfront, Text.bytes_append (front ++ gap)])
      simpa using hrest

end Cut

/-! An item is the same without what stands behind it. -/

section

variable {u v r : Text}

theorem takeWhile_of_append {p : Char → Bool} (h : (u ++ v).dropWhile p = r ++ v) :
    u.takeWhile p = (u ++ v).takeWhile p ∧ u.dropWhile p = r := by
  induction u with
  | nil =>
    have hsplit := List.takeWhile_append_dropWhile (p := p) (l := v)
    rw [List.nil_append] at h
    have hlength := congrArg List.length hsplit
    rw [h, List.length_append, List.length_append] at hlength
    rw [List.nil_append, List.eq_nil_of_length_eq_zero (show (v.takeWhile p).length = 0 by omega),
      List.eq_nil_of_length_eq_zero (show r.length = 0 by omega)]
    exact ⟨rfl, rfl⟩
  | cons c u ih =>
    rw [List.cons_append] at h ⊢
    by_cases hc : p c = true
    · rw [List.dropWhile_cons_of_pos hc] at h ⊢
      rw [List.takeWhile_cons_of_pos hc, List.takeWhile_cons_of_pos hc, (ih h).1]
      exact ⟨rfl, (ih h).2⟩
    · rw [List.dropWhile_cons_of_neg hc] at h ⊢
      rw [List.takeWhile_cons_of_neg hc, List.takeWhile_cons_of_neg hc]
      exact ⟨rfl, List.append_cancel_right h⟩

theorem fraction_cases (t : Text) :
    (∃ d s, t = '.' :: d :: s ∧ d.isDigit = true ∧ fraction t = ('.' :: d :: s.takeWhile Char.isDigit, s.dropWhile Char.isDigit)) ∨
      (∀ d s, t = '.' :: d :: s → d.isDigit = false) ∧ fraction t = ([], t) := by
  unfold fraction
  split
  · next d s =>
    cases hd : d.isDigit with
    | true => exact .inl ⟨d, s, rfl, hd, rfl⟩
    | false => exact .inr ⟨fun _ _ heq => by cases heq; exact hd, rfl⟩
  · next hnone => exact .inr ⟨fun d s heq => absurd heq (hnone d s), rfl⟩

theorem fraction_of_append (h : (fraction (u ++ v)).2 = r ++ v) : fraction u = ((fraction (u ++ v)).1, r) := by
  have hu : (fraction (u ++ v)).1 ++ r = u := by
    have happend := fraction_append (u ++ v)
    rw [h, ← List.append_assoc] at happend
    exact List.append_cancel_right happend
  obtain ⟨d, s, hs, hd, hfraction⟩ | ⟨hnone, hfraction⟩ := fraction_cases (u ++ v)
  · rw [hfraction] at h hu ⊢
    have hsplit : s.takeWhile Char.isDigit ++ r ++ v = s := by
      rw [← hu] at hs
      simpa using hs
    rw [← hsplit] at h
    obtain ⟨htake, hdrop⟩ := takeWhile_of_append h
    rw [hsplit] at htake
    rw [← hu, List.cons_append, List.cons_append, fraction, if_pos hd, htake, hdrop]
  · rw [hfraction, List.nil_append] at hu
    obtain ⟨d, s, rfl, hd, -⟩ | ⟨-, hu'⟩ := fraction_cases u
    · have hdigit := hnone d (s ++ v) rfl
      rw [hd] at hdigit
      cases hdigit
    · rw [hu', hfraction, hu]

/-- A backslash is no item by itself. -/
theorem two_le_length_escape (t : Text) (hitem : (escape t).item ≠ .stray) : 2 ≤ (escape t).taken.length := by
  cases t with
  | nil => exact absurd rfl hitem
  | cons d t =>
    rw [escape] at hitem ⊢
    split
    · simp
    · next halpha =>
      rw [if_neg halpha] at hitem
      split
      · simp
      · next hmark =>
        rw [if_neg hmark] at hitem
        exact absurd rfl hitem

theorem escape_of_append (h : (escape (u ++ v)).rest = r ++ v) (hitem : (escape (u ++ v)).item ≠ .stray) :
    escape u = { escape (u ++ v) with rest := r } := by
  cases u with
  | nil =>
    have hlong := two_le_length_escape _ hitem
    have happend := congrArg List.length (escape_append ([] ++ v))
    rw [h] at happend
    simp only [List.length_append, List.length_cons, List.nil_append] at happend hlong
    omega
  | cons d u =>
    rw [List.cons_append, escape] at h hitem ⊢
    rw [escape]
    by_cases halpha : d.isAlpha = true
    · rw [if_pos halpha] at h ⊢
      obtain ⟨htake, hdrop⟩ := takeWhile_of_append h
      rw [if_pos halpha, htake, hdrop]
    · rw [if_neg halpha] at h hitem ⊢
      rw [if_neg halpha]
      by_cases hmark : isSpacingMark d = true
      · rw [if_pos hmark] at h ⊢
        rw [if_pos hmark, List.append_cancel_right h]
      · rw [if_neg hmark] at hitem
        exact absurd rfl hitem

theorem head_of_append {c : Char} (h : (head c (u ++ v)).rest = r ++ v) (hitem : (head c (u ++ v)).item ≠ .stray) :
    head c u = { head c (u ++ v) with rest := r } := by
  unfold head at h hitem ⊢
  by_cases hspace : isSpace c = true
  · rw [if_pos hspace] at h ⊢
    rw [if_pos hspace, List.append_cancel_right h]
  rw [if_neg hspace] at h hitem ⊢
  rw [if_neg hspace]
  by_cases halpha : c.isAlpha = true
  · rw [if_pos halpha] at h ⊢
    obtain ⟨htake, hdrop⟩ := takeWhile_of_append h
    rw [if_pos halpha, htake, hdrop]
  rw [if_neg halpha] at h hitem ⊢
  rw [if_neg halpha]
  by_cases hdigit : c.isDigit = true
  · rw [if_pos hdigit] at h ⊢
    rw [if_pos hdigit]
    replace h : (fraction ((u ++ v).dropWhile Char.isDigit)).2 = r ++ v := h
    -- The digits end in front of the fraction part, and this ends in front of `r`.
    have hdigits := fraction_append ((u ++ v).dropWhile Char.isDigit)
    rw [h, ← List.append_assoc] at hdigits
    obtain ⟨htake, hdrop⟩ := takeWhile_of_append hdigits.symm
    rw [← hdrop] at hdigits
    rw [← hdigits] at h ⊢
    rw [fraction_of_append h, htake]
  rw [if_neg hdigit] at h hitem ⊢
  rw [if_neg hdigit]
  by_cases hpoint : c = '.'
  · subst hpoint
    rw [if_pos rfl] at h hitem ⊢
    rw [if_pos rfl]
    by_cases hnone : (fraction ('.' :: (u ++ v))).1 = []
    · exact absurd (by simp only [hnone, if_true]) hitem
    · simp only [hnone, if_false] at h
      have hpart := fraction_of_append (u := '.' :: u) h
      simp only [hpart, List.cons_append, hnone, if_false]
  rw [if_neg hpoint] at h hitem ⊢
  rw [if_neg hpoint]
  by_cases hbackslash : c = '\\'
  · rw [if_pos hbackslash] at h hitem ⊢
    rw [if_pos hbackslash]
    exact escape_of_append h hitem
  rw [if_neg hbackslash] at h hitem ⊢
  rw [if_neg hbackslash]
  cases hmark : Token.Kind.ofMark? c with
  | none => simp [hmark] at hitem
  | some kind =>
    simp only [hmark] at h ⊢
    rw [List.append_cancel_right h]

end

/-! More layout. -/

/-- An item that ends in front of a cut, or at it, is an item of the text in front of the cut. -/
theorem exists_rest_of_le {c : Char} {t front back : Text} (ht : c :: t = front ++ back)
    (hle : Text.bytes (head c t).taken ≤ Text.bytes front) (hitem : (head c t).item ≠ .stray) :
    ∃ f w, front = c :: f ∧ (head c t).rest = w ++ back ∧ Text.bytes front = Text.bytes (head c t).taken + Text.bytes w ∧
      head c f = { head c t with rest := w } := by
  obtain ⟨w, hfront, hrest⟩ := Text.exists_append_of_bytes_le ((head_append c t).trans ht) hle
  obtain ⟨d, s, htaken⟩ := List.exists_cons_of_ne_nil (head_taken_ne_nil c t)
  obtain ⟨f, hf⟩ : ∃ f, front = d :: f := ⟨s ++ w, by rw [hfront, htaken]; rfl⟩
  obtain ⟨rfl, rfl⟩ : c = d ∧ t = f ++ back := by
    rw [hf] at ht
    exact List.cons.inj ht
  exact ⟨f, w, hf, hrest, by rw [hfront, Text.bytes_append], head_of_append hrest hitem⟩

/-- Where a token starts the tokens fall into two parts. -/
theorem exists_lexes_of_start {offset : Nat} {front back : Text} {ts : List Token}
    (h : Tokenizes offset (front ++ back) ts) (hstart : ∃ x ∈ ts, x.start = offset + Text.bytes front) :
    ∃ before after, ts = before ++ after ∧ Lexes front before ∧ Lexes back after := by
  generalize ht : front ++ back = t at h
  induction h generalizing front with
  | nil => simp at hstart
  | layout hitem h ih =>
    obtain ⟨x, hx, hstart⟩ := hstart
    have hle := (Cut.of_tokenizes h).le_start x hx
    obtain ⟨f, w, rfl, hrest, hbytes, hhead⟩ := exists_rest_of_le ht.symm (by omega) (by simp [hitem])
    obtain ⟨before, after, hts, hbefore, hafter⟩ := ih ⟨x, hx, by omega⟩ hrest.symm
    exact ⟨before, after, hts, .layout (by rw [hhead]; exact hitem) (by rw [hhead]; exact hbefore), hafter⟩
  | token hitem h ih =>
    obtain ⟨x, hx, hstart⟩ := hstart
    obtain rfl | hx := List.mem_cons.mp hx
    · obtain rfl : front = [] := Text.bytes_eq_zero_iff.mp (Nat.left_eq_add.mp hstart)
      rw [List.nil_append] at ht
      exact ⟨[], _, rfl, .nil, ht ▸ .token hitem rfl h.lexes⟩
    · have hle := (Cut.of_tokenizes h).le_start x hx
      obtain ⟨f, w, rfl, htail, hbytes, hhead⟩ := exists_rest_of_le ht.symm (by omega) (by simp [hitem])
      obtain ⟨before, after, rfl, hbefore, hafter⟩ := ih ⟨x, hx, by omega⟩ htail.symm
      exact ⟨_ :: before, after, rfl, .token (by rw [hhead]; exact hitem) (by rw [hhead]) (by rw [hhead]; exact hbefore),
        hafter⟩

/-- Layout that does not end in a letter can be put where the tokens fall into two parts. -/
theorem Lexes.insert {front u back : Text} {before after : List Token} (hbefore : Lexes front before)
    (hafter : Lexes back after) (hsplit : Lexes (front ++ back) (before ++ after)) (hu : Layout u)
    (hlast : noLetter u.getLast? = true) : Lexes (front ++ (u ++ back)) (before ++ after) := by
  cases u with
  | nil => exact hsplit
  | cons c u =>
    have hfront : front.getLast? ≠ some '\\' := by
      rw [← List.append_nil front] at hbefore
      simpa using hbefore.unescaped (by simp [Unescapable])
    exact hbefore.append (hu.lexes hlast hafter) ⟨hfront, .inr hu.glues_head⟩

/-- The tree of a compiled source, or the reason why there is none, without the place that it names. -/
def treeOf (source : Text) : Except Error Expr := ((compile source).map (·.expr)).mapError Error.placeless

theorem treeOf_of_tokenize {source : Text} {ts : List Token} (h : tokenize source = .ok ts) :
    treeOf source = (parse ts).mapError Error.placeless := by
  rw [treeOf, compile, h, ok_bind]
  cases parse ts <;> rfl

/-- The tokens of a source and the layout around them make up the source: the tokens are not empty and stand in order,
each where its lexeme is, and all else is white space, spacing commands and commands without arithmetic meaning. More of
these in front of a token or at the end, the last of them no command of letters, leave the kinds and the lexemes of the
tokens as they are. So they leave the tree as it is, or the reason why there is none. -/
theorem tokens_stand_in_layout {source : Text} {ts : List Token} (h : tokenize source = .ok ts) :
    (∀ x ∈ ts, x.lexeme ≠ [] ∧ Text.slice? source x.start x.stop = some x.lexeme) ∧
      ts.Pairwise (fun x y => x.stop ≤ y.start) ∧ Cut 0 source ts ∧
      ∀ front back u, source = front ++ back → back = [] ∨ (∃ x ∈ ts, x.start = Text.bytes front) →
        Layout u → noLetter u.getLast? = true →
          (∃ ts', tokenize (front ++ u ++ back) = .ok ts' ∧ List.Forall₂ Token.Alike ts ts') ∧
            treeOf (front ++ u ++ back) = treeOf source := by
  have htokenizes := Tokenizes.of_tokenizeFrom h
  have hcut := Cut.of_tokenizes htokenizes
  refine ⟨fun x hx => ⟨hcut.lexeme_ne_nil x hx, hcut.slice? [] rfl x hx⟩, hcut.pairwise, hcut, ?_⟩
  rintro front back u rfl hplace hu hlast
  have hlexes := htokenizes.lexes
  obtain ⟨before, after, rfl, hbefore, hafter⟩ : ∃ before after, ts = before ++ after ∧ Lexes front before ∧
      Lexes back after := by
    obtain rfl | ⟨x, hx, hstart⟩ := hplace
    · exact ⟨ts, [], by simp, by simpa using hlexes, .nil⟩
    · exact exists_lexes_of_start htokenizes ⟨x, hx, by rw [hstart, Nat.zero_add]⟩
  obtain ⟨ts', htokens, halike⟩ := (hbefore.insert hafter hlexes hu hlast).tokenizeFrom 0
  rw [← List.append_assoc] at htokens
  refine ⟨⟨ts', htokens, halike⟩, ?_⟩
  rw [treeOf_of_tokenize htokens, treeOf_of_tokenize h, parse_eq_of_alike halike]

/-- A sizing command, two spacing commands and a space in front of a symbol. -/
theorem tokens_stand_in_layout_of_group :
    let ts : List Token := [⟨.number, ['2'], 0, 1⟩, ⟨.leftParen, ['('], 6, 7⟩, ⟨.symbol, ['x'], 7, 8⟩,
      ⟨.rightParen, [')'], 14, 15⟩]
    let u := "\\left\\quad\\, ".toList
    tokenize "2\\left(x\\right)".toList = .ok ts ∧ Cut 0 "2\\left(x\\right)".toList ts ∧
      Layout u ∧ noLetter u.getLast? = true ∧ (∃ x ∈ ts, x.start = Text.bytes "2\\left(".toList) ∧
      (∃ ts', tokenize ("2\\left(".toList ++ u ++ "x\\right)".toList) = .ok ts' ∧ List.Forall₂ Token.Alike ts ts') ∧
      treeOf ("2\\left(".toList ++ u ++ "x\\right)".toList) = treeOf "2\\left(x\\right)".toList := by
  intro ts u
  have htokens : tokenize "2\\left(x\\right)".toList = .ok ts := eq_ok_of_toOption (by decide +kernel)
  have hleft : "left".toList ∈ layoutCommands := by decide
  have hquad : "quad".toList ∈ layoutCommands := by decide
  have hlayout : Layout u := .append (.command hleft) <| .append (.command hquad) <| .append (.spacing (c := ',') rfl) <|
    .append (.space rfl) .nil
  have hstart : ∃ x ∈ ts, x.start = Text.bytes "2\\left(".toList := ⟨⟨.symbol, ['x'], 7, 8⟩, by decide, rfl⟩
  obtain ⟨-, -, hcut, hmore⟩ := tokens_stand_in_layout htokens
  obtain ⟨hkinds, htree⟩ := hmore "2\\left(".toList "x\\right)".toList u rfl (.inr hstart) hlayout rfl
  exact ⟨htokens, hcut, hlayout, rfl, hstart, hkinds, htree⟩

end LiveTex.Formula
