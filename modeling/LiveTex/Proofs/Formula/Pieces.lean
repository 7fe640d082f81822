import Mathlib.Data.List.Forall2
import LiveTex.Formula.Lexing
import LiveTex.Proofs.Text.Blank

/-!
The tokens of a text from the tokens of its pieces. Where a token stands does not matter for that, so beside the
relation that the lexer computes there is one that leaves the offsets open.
-/

namespace LiveTex.Formula

open Text (AllBlank)

/-- The text is made of these tokens, wherever they stand. -/
inductive Lexes : Text → List Token → Prop
  | nil : Lexes [] []
  | layout {c : Char} {t : Text} {ts : List Token} (hitem : (head c t).item = .layout)
      (h : Lexes (head c t).rest ts) : Lexes (c :: t) ts
  | token {c : Char} {t : Text} {x : Token} {ts : List Token} (hitem : (head c t).item = .token x.kind)
      (hlexeme : x.lexeme = (head c t).taken) (h : Lexes (head c t).rest ts) : Lexes (c :: t) (x :: ts)

/-- The same token, perhaps at another place. -/
def Token.Alike (x y : Token) : Prop := x.kind = y.kind ∧ x.lexeme = y.lexeme

theorem eq_ok_of_toOption {α : Type} {x : Except Error α} {a : α} (h : x.toOption = some a) : x = .ok a := by
  cases x with
  | error => cases h
  | ok => exact congrArg Except.ok (Option.some.inj h)

theorem map_eq_ok {α β : Type} {x : Except Error α} {f : α → β} {b : β} (h : x.map f = .ok b) :
    ∃ a, x = .ok a ∧ b = f a := by
  cases x with
  | error reason => cases h
  | ok a => exact ⟨a, rfl, (Except.ok.inj h).symm⟩

/-- The text is made of these tokens, the first byte of it being at `offset`. -/
inductive Tokenizes : (offset : Nat) → Text → List Token → Prop
  | nil {offset : Nat} : Tokenizes offset [] []
  | layout {offset : Nat} {c : Char} {t : Text} {ts : List Token} (hitem : (head c t).item = .layout)
      (h : Tokenizes (offset + Text.bytes (head c t).taken) (head c t).rest ts) : Tokenizes offset (c :: t) ts
  | token {offset : Nat} {c : Char} {t : Text} {kind : Token.Kind} {ts : List Token} (hitem : (head c t).item = .token kind)
      (h : Tokenizes (offset + Text.bytes (head c t).taken) (head c t).rest ts) :
      Tokenizes offset (c :: t) (⟨kind, (head c t).taken, offset, offset + Text.bytes (head c t).taken⟩ :: ts)

theorem Tokenizes.of_tokenizeFrom {offset : Nat} {t : Text} {ts : List Token} (h : tokenizeFrom offset t = .ok ts) :
    Tokenizes offset t ts := by
  induction offset, t using tokenizeFrom.induct generalizing ts with
  | case1 offset =>
    rw [tokenizeFrom] at h
    cases h
    exact .nil
  | case2 offset c t hitem =>
    rw [tokenizeFrom, hitem] at h
    cases h
  | case3 offset c t stop hitem =>
    rename_i ih
    rw [tokenizeFrom, hitem] at h
    exact .layout hitem (ih h)
  | case4 offset c t stop kind hitem =>
    rename_i ih
    rw [tokenizeFrom, hitem] at h
    obtain ⟨rest, hrest, rfl⟩ := map_eq_ok h
    exact .token hitem (ih hrest)

theorem Tokenizes.lexes {offset : Nat} {t : Text} {ts : List Token} (h : Tokenizes offset t ts) : Lexes t ts := by
  induction h with
  | nil => exact .nil
  | layout hitem _ ih => exact .layout hitem ih
  | token hitem _ ih => exact .token hitem rfl ih

theorem Lexes.of_tokenizeFrom {offset : Nat} {t : Text} {ts : List Token} (h : tokenizeFrom offset t = .ok ts) :
    Lexes t ts :=
  (Tokenizes.of_tokenizeFrom h).lexes

/-- The lexer finds these tokens from any offset on. -/
theorem Lexes.tokenizeFrom {t : Text} {ts : List Token} (h : Lexes t ts) (offset : Nat) :
    ∃ ts', tokenizeFrom offset t = .ok ts' ∧ List.Forall₂ Token.Alike ts ts' := by
  induction h generalizing offset with
  | nil => exact ⟨[], by rw [Formula.tokenizeFrom], .nil⟩
  | @layout c t ts hitem _ ih =>
    obtain ⟨ts', htokens, halike⟩ := ih (offset + Text.bytes (head c t).taken)
    exact ⟨ts', by rw [Formula.tokenizeFrom, hitem]; exact htokens, halike⟩
  | @token c t x ts hitem hlexeme _ ih =>
    obtain ⟨ts', htokens, halike⟩ := ih (offset + Text.bytes (head c t).taken)
    refine ⟨_, ?_, .cons (b := ⟨x.kind, (head c t).taken, offset, offset + Text.bytes (head c t).taken⟩) ⟨rfl, hlexeme⟩ halike⟩
    rw [Formula.tokenizeFrom, hitem]
    simp only [htokens, Except.map]

/-- Numbers, symbols and commands are more than marks. -/
theorem Token.Kind.ne_of_ofMark? {c : Char} {kind : Token.Kind} (h : Token.Kind.ofMark? c = some kind) :
    kind ≠ .number ∧ kind ≠ .symbol ∧ kind ≠ .command := by
  unfold Token.Kind.ofMark? at h
  split at h <;> cases h <;> simp

/-- A token that is a mark stands for this mark. -/
theorem eq_of_item {c d : Char} {t : Text} {kind : Token.Kind} (h : (head d t).item = .token kind)
    (hmark : Token.Kind.ofMark? c = some kind) : d = c := by
  have hkind := Token.Kind.ne_of_ofMark? hmark
  have hescape : (escape t).item ≠ .token kind := by
    unfold escape
    split
    · simp
    · split
      · simp only
        split <;> simp [Ne.symm hkind.2.2]
      · split <;> simp
  have hd : Token.Kind.ofMark? d = some kind := by
    unfold head at h
    split at h
    · cases h
    split at h
    · exact absurd (Item.token.inj h).symm hkind.2.1
    split at h
    · exact absurd (Item.token.inj h).symm hkind.1
    split at h
    · simp only at h
      split at h
      · cases h
      · exact absurd (Item.token.inj h).symm hkind.1
    split at h
    · exact absurd h hescape
    split at h
    · next kind' hkind' => rw [hkind', Item.token.inj h]
    · cases h
  unfold Token.Kind.ofMark? at hmark
  split at hmark <;> cases hmark <;> (unfold Token.Kind.ofMark? at hd; split at hd <;> first | rfl | cases hd)

/-- A character that can go on a word or a number. -/
def glues (c : Char) : Bool := c.isAlphanum || c == '.'

/-- No item runs over the seam between the two texts. -/
structure Seam (u v : Text) : Prop where
  unescaped : u.getLast? ≠ some '\\'
  apart : (∀ c ∈ u.getLast?, glues c = false) ∨ ∀ c ∈ v.head?, glues c = false

theorem isSpace_of_isAlphanum {c : Char} (h : c.isAlphanum = true) : isSpace c = false := by
  simp only [isSpace, Bool.or_eq_false_iff, beq_eq_false_iff_ne]
  refine ⟨⟨⟨?_, ?_⟩, ?_⟩, ?_⟩ <;> (rintro rfl; revert h; decide)

theorem glues_of_isAlpha {c : Char} (h : c.isAlpha = true) : glues c = true := by
  simp [glues, Char.isAlphanum, h]

theorem glues_of_isDigit {c : Char} (h : c.isDigit = true) : glues c = true := by
  simp [glues, Char.isAlphanum, h]

/-- Without a point there is no fraction part. -/
theorem fraction_eq_none (t : Text) (ht : ∀ d ∈ t.head?, d ≠ '.') : fraction t = ([], t) := by
  unfold fraction
  split
  · exact absurd rfl (ht '.' rfl)
  · rfl

namespace Seam

variable {u v : Text}

theorem suffix {a : Text} (h : Seam (a ++ u) v) : Seam u v := by
  cases u using List.reverseRecOn with
  | nil => exact ⟨by simp, .inl (by simp)⟩
  | append_singleton u c =>
    rw [← List.append_assoc] at h
    exact ⟨by simpa using h.unescaped, by simpa using h.apart⟩

/-- A run of gluing characters at the end of the first text stops at the seam. -/
theorem head?_of_forall {c : Char} {p : Char → Bool} (h : Seam (c :: u) v) (hp : ∀ d, p d = true → glues d = true)
    (hc : glues c = true) (hu : ∀ d ∈ u, p d = true) : ∀ d ∈ v.head?, p d = false := by
  intro d hd
  cases hpd : p d with
  | false => rfl
  | true =>
    obtain hlast | hhead := h.apart
    · exfalso
      cases u using List.reverseRecOn with
      | nil => simp [hc] at hlast
      | append_singleton u e =>
        have he := hlast e (by rw [← List.cons_append, List.getLast?_concat]; rfl)
        rw [hp e (hu e (by simp))] at he
        cases he
    · exact absurd (hp d hpd) (by simp [hhead d hd])

theorem takeWhile {c : Char} {p : Char → Bool} (h : Seam (c :: u) v) (hp : ∀ d, p d = true → glues d = true)
    (hc : glues c = true) :
    (u ++ v).takeWhile p = u.takeWhile p ∧ (u ++ v).dropWhile p = u.dropWhile p ++ v := by
  by_cases hu : ∀ d ∈ u, p d = true
  · have hhead := h.head?_of_forall hp hc hu
    rw [List.takeWhile_append_of_pos hu, List.dropWhile_append_of_pos hu]
    rw [List.takeWhile_eq_self_iff.mpr hu, List.dropWhile_eq_nil_iff.mpr hu]
    cases v with
    | nil => simp
    | cons d v =>
      have hd := hhead d rfl
      simp [hd]
  · have hne : u.dropWhile p ≠ [] := by
      rw [ne_eq, List.dropWhile_eq_nil_iff]
      exact hu
    have htake : (u.takeWhile p).length ≠ u.length := by
      intro hlength
      have hsplit := congrArg List.length (List.takeWhile_append_dropWhile (p := p) (l := u))
      rw [List.length_append, hlength] at hsplit
      exact hne (List.eq_nil_of_length_eq_zero (by omega))
    rw [List.takeWhile_append, if_neg htake, List.dropWhile_append, if_neg (by simpa using hu)]
    exact ⟨rfl, rfl⟩

/-- A first text of gluing characters only lets none follow. -/
def Stops (u v : Text) : Prop := (∀ c ∈ u, glues c = true) → ∀ c ∈ v.head?, glues c = false

theorem stops {c : Char} (h : Seam (c :: u) v) (hc : glues c = true) : Stops u v :=
  h.head?_of_forall (fun _ hd => hd) hc

theorem fraction (h : Seam u v) (hstops : Stops u v) :
    Formula.fraction (u ++ v) = ((Formula.fraction u).1, (Formula.fraction u).2 ++ v) := by
  cases u with
  | nil =>
    rw [List.nil_append, fraction_eq_none [] (by simp), fraction_eq_none v]
    · rfl
    · rintro d hd rfl
      exact absurd (hstops (by simp) '.' hd) (by decide)
  | cons d u =>
    by_cases hpoint : d = '.'
    · subst hpoint
      cases u with
      | nil =>
        -- The point could only go on with a digit of the second text.
        cases v with
        | nil => rfl
        | cons d v =>
          have hd : d.isDigit = false := by
            cases hdigit : d.isDigit with
            | false => rfl
            | true => exact absurd (glues_of_isDigit hdigit) (by simp [hstops (by simp [glues]) d rfl])
          simp [Formula.fraction, hd]
      | cons d u =>
        by_cases hd : d.isDigit = true
        · have hrun := (h.suffix (a := ['.'])).takeWhile (fun _ => glues_of_isDigit) (glues_of_isDigit hd)
          simp only [List.cons_append, Formula.fraction, if_pos hd, hrun.1, hrun.2]
        · simp only [List.cons_append, Formula.fraction, if_neg hd]
    · rw [fraction_eq_none (d :: u) (by simpa using hpoint), fraction_eq_none (d :: u ++ v) (by simpa using hpoint)]

theorem escape (h : Seam ('\\' :: u) v) :
    Formula.escape (u ++ v) = { Formula.escape u with rest := (Formula.escape u).rest ++ v } := by
  cases u with
  | nil => exact absurd rfl h.unescaped
  | cons d u =>
    simp only [List.cons_append, Formula.escape]
    split
    · next halpha =>
      have hrun := (h.suffix (a := ['\\'])).takeWhile (fun _ => glues_of_isAlpha) (glues_of_isAlpha halpha)
      rw [hrun.1, hrun.2]
    · split <;> rfl

/-- An item before the seam is the same without what stands behind the seam. -/
theorem head {c : Char} (h : Seam (c :: u) v) :
    Formula.head c (u ++ v) = { Formula.head c u with rest := (Formula.head c u).rest ++ v } := by
  unfold Formula.head
  split
  · rfl
  split
  · next halpha =>
    have hrun := h.takeWhile (fun _ => glues_of_isAlpha) (glues_of_isAlpha halpha)
    rw [hrun.1, hrun.2]
  split
  · next hdigit =>
    have hrun := h.takeWhile (fun _ => glues_of_isDigit) (glues_of_isDigit hdigit)
    have hsplit := List.takeWhile_append_dropWhile (p := Char.isDigit) (l := u)
    have hseam : Seam (u.dropWhile Char.isDigit) v := by
      rw [← hsplit] at h
      exact h.suffix (a := c :: u.takeWhile Char.isDigit)
    have hstops : Stops (u.dropWhile Char.isDigit) v := by
      intro hall
      apply h.stops (glues_of_isDigit hdigit)
      intro d hd
      rw [← hsplit] at hd
      obtain hd | hd := List.mem_append.mp hd
      · exact glues_of_isDigit (List.all_eq_true.mp List.all_takeWhile d hd)
      · exact hall d hd
    rw [hrun.1, hrun.2, hseam.fraction hstops]
  split
  · next hpoint =>
    subst hpoint
    have hstops : Stops ('.' :: u) v := fun hall => h.stops (by decide) fun d hd => hall d (.tail _ hd)
    rw [← List.cons_append, h.fraction hstops]
    simp only
    split <;> rfl
  split
  · next hbackslash =>
    subst hbackslash
    exact h.escape
  · split <;> rfl

end Seam

/-- What cannot follow a backslash. -/
def Unescapable (v : Text) : Prop := ∀ c ∈ v.head?, c.isAlpha = false ∧ isSpacingMark c = false

namespace Lexes

variable {u v : Text} {us vs ts : List Token}

theorem exists_eq_append_rest (c : Char) (u : Text) : ∃ a, c :: u = a ++ (head c u).rest :=
  ⟨_, (head_append c u).symm⟩

/-- At a seam the tokens fall into two parts. -/
theorem split (h : Lexes (u ++ v) ts) (hseam : Seam u v) : ∃ us vs, ts = us ++ vs ∧ Lexes u us ∧ Lexes v vs := by
  generalize ht : u ++ v = t at h
  induction h generalizing u with
  | nil =>
    obtain ⟨rfl, rfl⟩ := List.append_eq_nil_iff.mp ht
    exact ⟨[], [], rfl, .nil, .nil⟩
  | @layout c t ts hitem h ih =>
    cases u with
    | nil => exact ⟨[], ts, rfl, .nil, by rw [List.nil_append] at ht; rw [ht]; exact .layout hitem h⟩
    | cons d u =>
      obtain ⟨rfl, htail⟩ : d = c ∧ u ++ v = t := by simpa using ht
      have hhead := hseam.head
      rw [htail] at hhead
      rw [hhead] at hitem ih
      obtain ⟨a, ha⟩ := exists_eq_append_rest d u
      rw [ha] at hseam
      obtain ⟨us, vs, rfl, hu, hv⟩ := ih hseam.suffix rfl
      exact ⟨us, vs, rfl, .layout hitem hu, hv⟩
  | @token c t x ts hitem hlexeme h ih =>
    cases u with
    | nil => exact ⟨[], x :: ts, rfl, .nil, by rw [List.nil_append] at ht; rw [ht]; exact .token hitem hlexeme h⟩
    | cons d u =>
      obtain ⟨rfl, htail⟩ : d = c ∧ u ++ v = t := by simpa using ht
      have hhead := hseam.head
      rw [htail] at hhead
      rw [hhead] at hitem hlexeme ih
      obtain ⟨a, ha⟩ := exists_eq_append_rest d u
      rw [ha] at hseam
      obtain ⟨us, vs, rfl, hu, hv⟩ := ih hseam.suffix rfl
      exact ⟨x :: us, vs, rfl, .token hitem hlexeme hu, hv⟩

/-- Two texts with a seam between them have their tokens one after the other. -/
theorem append (hu : Lexes u us) (hv : Lexes v vs) (hseam : Seam u v) : Lexes (u ++ v) (us ++ vs) := by
  induction hu with
  | nil => exact hv
  | @layout c u us hitem _ ih =>
    obtain ⟨a, ha⟩ := exists_eq_append_rest c u
    have hhead := hseam.head
    rw [ha] at hseam
    rw [List.cons_append]
    exact .layout (by rw [hhead]; exact hitem) (by rw [hhead]; exact ih hseam.suffix)
  | @token c u x us hitem hlexeme _ ih =>
    obtain ⟨a, ha⟩ := exists_eq_append_rest c u
    have hhead := hseam.head
    rw [ha] at hseam
    rw [List.cons_append]
    exact .token (by rw [hhead]; exact hitem) (by rw [hhead]; exact hlexeme) (by rw [hhead]; exact ih hseam.suffix)

theorem of_head {c : Char} {t taken rest : Text} {kind : Token.Kind} (h : Lexes (c :: t) ts)
    (hhead : head c t = ⟨.token kind, taken, rest⟩) :
    ∃ x us, ts = x :: us ∧ x.kind = kind ∧ x.lexeme = taken ∧ Lexes rest us := by
  cases h with
  | layout hitem =>
    rw [hhead] at hitem
    cases hitem
  | @token _ _ x us hitem hlexeme h =>
    rw [hhead] at hitem hlexeme h
    exact ⟨x, us, rfl, (Item.token.inj hitem).symm, hlexeme, h⟩

/-- The mark of a token stands in the text. -/
theorem mem_of_ofMark? {t : Text} {x : Token} {c : Char} (h : Lexes t ts) (hx : x ∈ ts)
    (hmark : Token.Kind.ofMark? c = some x.kind) : c ∈ t := by
  have hrest : ∀ {d : Char} {t : Text}, c ∈ (head d t).rest → c ∈ d :: t := by
    intro d t hc
    rw [← head_append]
    exact List.mem_append_right _ hc
  induction h with
  | nil => cases hx
  | layout _ _ ih => exact hrest (ih hx)
  | token hitem _ _ ih =>
    obtain rfl | hx := List.mem_cons.mp hx
    · rw [eq_of_item hitem hmark]
      exact .head _
    · exact hrest (ih hx)

theorem not_stray {c : Char} {t : Text} (h : Lexes (c :: t) ts) : (head c t).item ≠ .stray := by
  intro hstray
  cases h with
  | layout hitem | token hitem =>
    rw [hstray] at hitem
    cases hitem

theorem not_backslash {ts : List Token} (hv : Unescapable v) : ¬ Lexes ('\\' :: v) ts := by
  intro h
  apply h.not_stray
  cases v with
  | nil => rfl
  | cons c v =>
    obtain ⟨halpha, hmark⟩ := hv c rfl
    have hhead : head '\\' (c :: v) = escape (c :: v) := rfl
    rw [hhead, escape]
    simp [halpha, hmark]

/-- A backslash needs a letter or a spacing mark behind it. -/
theorem unescaped (h : Lexes (u ++ v) ts) (hv : Unescapable v) : u.getLast? ≠ some '\\' := by
  intro hlast
  obtain ⟨u, rfl⟩ := List.getLast?_eq_some_iff.mp hlast
  rw [List.append_assoc, List.singleton_append] at h
  clear hlast
  -- A backslash before the last one would need something behind it, too.
  induction u using List.reverseRecOn generalizing v with
  | nil => exact not_backslash hv h
  | append_singleton u c ih =>
    by_cases hc : c = '\\'
    · subst hc
      rw [List.append_assoc, List.singleton_append] at h
      exact ih (by simpa [Unescapable] using by decide) h
    · obtain ⟨us, vs, rfl, -, hrest⟩ := h.split ⟨by simpa using hc, .inr (by simpa using by decide)⟩
      exact not_backslash hv hrest

theorem head_of_isBlank {c : Char} (t : Text) (hc : Text.isBlank c = true) :
    head c t = ⟨if isSpace c then .layout else .stray, [c], t⟩ := by
  have hne : ∀ d : Char, Text.isBlank d = false → c ≠ d := by
    rintro d hd rfl
    rw [hc] at hd
    cases hd
  have halphanum : c.isAlphanum = false := by
    cases h : c.isAlphanum with
    | false => rfl
    | true =>
      rw [Text.isBlank_of_isAlphanum h] at hc
      cases hc
  simp only [Char.isAlphanum, Bool.or_eq_false_iff] at halphanum
  have hmark : Token.Kind.ofMark? c = none := by
    unfold Token.Kind.ofMark?
    split <;> first | rfl | exact absurd rfl (hne _ (by decide))
  unfold head
  split
  · rfl
  · rw [if_neg (by simp [halphanum.1]), if_neg (by simp [halphanum.2]), if_neg (hne '.' (by decide)),
      if_neg (hne '\\' (by decide)), hmark]

/-- A letter or a digit on its own is a symbol or a number. -/
theorem head_of_isAlphanum {c : Char} (hc : c.isAlphanum = true) :
    ∃ kind : Token.Kind, (kind = .number ∨ kind = .symbol) ∧ head c [] = ⟨.token kind, [c], []⟩ := by
  have hspace := isSpace_of_isAlphanum hc
  by_cases halpha : c.isAlpha = true
  · exact ⟨.symbol, .inr rfl, by simp [head, hspace, halpha]⟩
  · have hdigit : c.isDigit = true := by simpa [Char.isAlphanum, halpha] using hc
    exact ⟨.number, .inl rfl, by simp [head, hspace, halpha, hdigit, fraction]⟩

theorem glues_of_isBlank {c : Char} (hc : Text.isBlank c = true) : glues c = false := by
  cases h : glues c with
  | false => rfl
  | true =>
    simp only [glues, Bool.or_eq_true, beq_iff_eq] at h
    obtain h | rfl := h
    · rw [Text.isBlank_of_isAlphanum h] at hc
      cases hc
    · revert hc
      decide

theorem of_blanks {b : Text} (h : Lexes (b ++ v) ts) (hb : AllBlank b) : Lexes v ts := by
  induction b with
  | nil => exact h
  | cons c b ih =>
    have hhead := head_of_isBlank (b ++ v) (hb c (.head _))
    rw [List.cons_append] at h
    cases h with
    | layout hitem h =>
      rw [hhead] at h
      exact ih h fun d hd => hb d (.tail _ hd)
    | token hitem =>
      rw [hhead] at hitem
      simp only at hitem
      split at hitem <;> cases hitem

theorem trimStart (h : Lexes u us) : Lexes (Text.trimStart u) us := by
  have hsplit : u.takeWhile Text.isBlank ++ Text.trimStart u = u := List.takeWhile_append_dropWhile
  rw [← hsplit] at h
  exact h.of_blanks fun c hc => List.all_eq_true.mp List.all_takeWhile c hc

/-- Trimming keeps the tokens, unless it takes a space from behind a backslash. -/
theorem trim (h : Lexes u us) (hlast : (Text.trim u).getLast? ≠ some '\\') : Lexes (Text.trim u) us := by
  obtain ⟨front, back, hfront, hback, hu⟩ := Text.exists_blanks_around u
  rw [hu, List.append_assoc] at h
  have hseam : Seam (Text.trim u) back := by
    refine ⟨hlast, .inr fun c hc => glues_of_isBlank (hback c (List.mem_of_mem_head? hc))⟩
  obtain ⟨vs, ws, rfl, hkept, hblank⟩ := (h.of_blanks hfront).split hseam
  rw [← List.append_nil back] at hblank
  have hnone : ws = [] := by
    cases hblank.of_blanks hback
    rfl
  rwa [hnone, List.append_nil]

end Lexes

end LiveTex.Formula
