import LiveTex.Proofs.Formula.Lexemes

/-!
Printed formulas. A printing of an expression is a list of tokens in which parentheses stand wherever the
precedence of the operations asks for them, and perhaps elsewhere. It is written down with spaces between
its tokens.
-/

namespace LiveTex.Formula

open Name (AllLetters)

/-- The token that is one mark, wherever it stands. -/
def Token.mark (c : Char) : Token := ⟨(Token.Kind.ofMark? c).getD .symbol, [c], 0, 0⟩

/-- The token of a command, wherever it stands. -/
def Token.command (name : Text) : Token := ⟨.command, '\\' :: name, 0, 0⟩

/-- The tokens between two marks. -/
def Token.between (opening closing : Char) (ts : List Token) : List Token :=
  .mark opening :: (ts ++ [.mark closing])

/-- The tokens that write an operator of a sum. -/
def Operator.termSigns : Operator → List Token
  | .add => [.mark '+']
  | .sub => [.mark '-']
  | _ => []

/-- The tokens that write an operator of a product. -/
def Operator.factorSigns : Operator → List Token
  | .mul => [.mark '*', .command "cdot".toList, .command "times".toList]
  | .div => [.mark '/', .command "div".toList]
  | _ => []

/-- How tightly a printing holds together, loosest first. -/
inductive Shape where
  /-- Directly between bars, no right factor without an operator begins with a bar. -/
  | sum (barred : Bool)
  | product (barred : Bool)
  | signed
  | power
  /-- A power that has an exponent, with its factorial marks. -/
  | raised
  /-- A primary with its factorial marks. -/
  | marked
  | primary
  /-- Sums with commas between them. -/
  | listed

open Token (mark command between) in
/-- The tokens print the expressions in the shape; signed operands and primaries nest so many levels deep. -/
inductive Prints : Shape → List Expr → List Token → (levels : Nat) → Prop
  | number (x : Numeral) : Prints .primary [.number (Decimal.read x.text)] [⟨.number, x.text, 0, 0⟩] 1
  | symbol {name} (hname : AllLetters name) (hne : name ≠ []) :
      Prints .primary [.symbol name] [⟨.symbol, name, 0, 0⟩] 1
  | parens {e ts k} (h : Prints (.sum false) [e] ts k) : Prints .primary [e] (between '(' ')' ts) (k + 1)
  | bars {e ts k} (h : Prints (.sum true) [e] ts k) : Prints .primary [.abs e] (between '|' '|' ts) (k + 1)
  | fraction {l r ts us k m} (hl : Prints (.sum false) [l] ts k) (hr : Prints (.sum false) [r] us m) :
      Prints .primary [.binary .div l r]
        (command "frac".toList :: (between '{' '}' ts ++ between '{' '}' us)) (max k m + 1)
  | sqrt {e ts k} (h : Prints (.sum false) [e] ts k) :
      Prints .primary [.sqrt e] (command "sqrt".toList :: between '{' '}' ts) (k + 1)
  | root {d e ts us k m} (hd : Prints (.sum false) [d] ts k) (he : Prints (.sum false) [e] us m) :
      Prints .primary [.root d e]
        (command "sqrt".toList :: (between '[' ']' ts ++ between '{' '}' us)) (max k m + 1)
  | log {b e ts us k m} (hb : Prints (.sum false) [b] ts k) (he : Prints (.sum false) [e] us m) :
      Prints .primary [.log b e]
        (command "log".toList :: mark '_' :: (between '{' '}' ts ++ between '(' ')' us)) (max k m + 1)
  | call {f args ts k} (harity : f.arity.admits args.length = true) (h : Prints .listed args ts k) :
      Prints .primary [.call f args] (command f.name :: between '(' ')' ts) (k + 1)
  | last {e ts k} (h : Prints (.sum false) [e] ts k) : Prints .listed [e] ts k
  | comma {e es ts us k m} (hfirst : Prints (.sum false) [e] ts k) (hmore : Prints .listed es us m) :
      Prints .listed (e :: es) (ts ++ mark ',' :: us) (max k m)
  | marked {e ts k} (h : Prints .primary [e] ts k) : Prints .marked [e] ts k
  | raised {b e ts us k m} (hb : Prints .marked [b] ts k) (he : Prints (.sum false) [e] us m) :
      Prints .raised [.binary .pow b e] (ts ++ mark '^' :: between '{' '}' us) (max k m)
  | factorial {shape e ts k} (hshape : shape = .marked ∨ shape = .raised) (h : Prints shape [e] ts k) :
      Prints shape [.factorial e] (ts ++ [mark '!']) k
  | power {shape e ts k} (hshape : shape = .marked ∨ shape = .raised) (h : Prints shape [e] ts k) :
      Prints .power [e] ts k
  | unsigned {e ts k} (h : Prints .power [e] ts k) : Prints .signed [e] ts (k + 1)
  | neg {e ts k} (h : Prints .signed [e] ts k) : Prints .signed [.neg e] (mark '-' :: ts) (k + 1)
  | product {barred e ts k} (h : Prints .signed [e] ts k) : Prints (.product barred) [e] ts k
  | factor {barred op t l r ts us k m} (ht : t ∈ op.factorSigns) (hl : Prints (.product barred) [l] ts k)
      (hr : Prints .signed [r] us m) : Prints (.product barred) [.binary op l r] (ts ++ t :: us) (max k m)
  | juxtaposed {barred l r ts us k m} (hl : Prints (.product barred) [l] ts k) (hr : Prints .power [r] us m)
      (hbar : barred = true → ∀ t ∈ us.head?, t.kind ≠ .pipe) :
      Prints (.product barred) [.binary .mul l r] (ts ++ us) (max k m)
  | sum {barred e ts k} (h : Prints (.product barred) [e] ts k) : Prints (.sum barred) [e] ts k
  | term {barred op t l r ts us k m} (ht : t ∈ op.termSigns) (hl : Prints (.sum barred) [l] ts k)
      (hr : Prints (.product barred) [r] us m) : Prints (.sum barred) [.binary op l r] (ts ++ t :: us) (max k m)

/-- The texts, in order, with one or more spaces between them. -/
inductive Spaced : List Text → Text → Prop
  | nil : Spaced [] []
  | single (w : Text) : Spaced [w] w
  | space {ws t} (h : Spaced ws t) : Spaced ws (' ' :: t)
  | next {w ws t} (h : Spaced ws t) : Spaced (w :: ws) (w ++ ' ' :: t)

/-!
The tokens of a printing are those of its text.
-/

@[simp] theorem Token.between_append (opening closing : Char) (ts rest : List Token) :
    between opening closing ts ++ rest = mark opening :: (ts ++ mark closing :: rest) := by
  simp [between]

/-- The text of the token is this token and nothing else. -/
def Token.Stands (t : Token) : Prop := ∃ c u, t.lexeme = c :: u ∧ head c u = ⟨.token t.kind, t.lexeme, []⟩

theorem Token.Stands.lexes {t : Token} (h : t.Stands) : Lexes t.lexeme [t] := by
  obtain ⟨c, u, htext, hhead⟩ := h
  rw [htext]
  exact .token (by rw [hhead]) (by rw [hhead]) (by rw [hhead]; exact .nil)

theorem Token.stands_mark {c : Char} (hc : Token.Kind.ofMark? c ≠ none) : (Token.mark c).Stands := by
  refine ⟨c, [], rfl, ?_⟩
  unfold Token.Kind.ofMark? at hc
  split at hc
  all_goals first | rfl | exact absurd rfl hc

theorem Token.stands_name (f : Func) : (Token.command f.name).Stands :=
  ⟨'\\', f.name, rfl, by cases f <;> decide⟩

theorem Operator.stands_sign {op : Operator} {t : Token} (ht : t ∈ op.termSigns ∨ t ∈ op.factorSigns) : t.Stands := by
  cases op <;>
    simp only [termSigns, factorSigns, List.mem_cons, List.not_mem_nil, or_false, false_or] at ht
  · exact ht ▸ Token.stands_mark (by decide)
  · exact ht ▸ Token.stands_mark (by decide)
  · rcases ht with rfl | rfl | rfl
    · exact Token.stands_mark (by decide)
    · exact ⟨_, _, rfl, by decide⟩
    · exact ⟨_, _, rfl, by decide⟩
  · rcases ht with rfl | rfl
    · exact Token.stands_mark (by decide)
    · exact ⟨_, _, rfl, by decide⟩

/-- Each token of a printing is the only token of its text. -/
theorem Prints.stands {shape : Shape} {es : List Expr} {ts : List Token} {k : Nat} (h : Prints shape es ts k) :
    ∀ t ∈ ts, t.Stands := by
  have hfrac : (Token.command "frac".toList).Stands := ⟨_, _, rfl, by decide⟩
  have hsqrt : (Token.command "sqrt".toList).Stands := ⟨_, _, rfl, by decide⟩
  have hlog : (Token.command "log".toList).Stands := ⟨_, _, rfl, by decide⟩
  induction h with
  | number x =>
    obtain ⟨c, u, htext, hhead⟩ := head_numeral x
    exact List.forall_mem_singleton.mpr ⟨c, u, htext, htext ▸ hhead⟩
  | @symbol name hname hne =>
    obtain ⟨c, u, rfl⟩ := List.exists_cons_of_ne_nil hne
    exact List.forall_mem_singleton.mpr ⟨c, u, rfl, head_letters hname⟩
  | factor ht _ _ ihl ihr => simpa [or_imp, forall_and] using ⟨ihl, Operator.stands_sign (.inr ht), ihr⟩
  | term ht _ _ ihl ihr => simpa [or_imp, forall_and] using ⟨ihl, Operator.stands_sign (.inl ht), ihr⟩
  | _ => simp_all +decide [Token.between, or_imp, Token.stands_mark, Token.stands_name]

/-- A text with spaces between tokens has these tokens. -/
theorem lexes_of_spaced {ts : List Token} {text : Text} (hts : ∀ t ∈ ts, t.Stands)
    (h : Spaced (ts.map (·.lexeme)) text) : Lexes text ts := by
  generalize hws : ts.map (·.lexeme) = ws at h
  induction h generalizing ts with
  | nil =>
    obtain rfl := List.map_eq_nil_iff.mp hws
    exact .nil
  | single w =>
    obtain ⟨t, rfl, rfl⟩ := List.map_eq_singleton_iff.mp hws
    exact (hts t (List.mem_singleton_self t)).lexes
  | space _ ih => exact .layout rfl (ih hts hws)
  | next _ ih =>
    obtain ⟨t, ts, rfl, rfl, hrest⟩ := List.map_eq_cons_iff.mp hws
    have ht := (hts t (List.mem_cons_self ..)).lexes
    have hspace : Lexes (' ' :: _) ts := .layout rfl (ih (fun u hu => hts u (List.mem_cons_of_mem _ hu)) hrest)
    have hlast : t.lexeme.getLast? ≠ some '\\' := Lexes.unescaped (v := []) (by simpa using ht) (by simp [Unescapable])
    exact ht.append hspace ⟨hlast, .inr (by simp; decide)⟩

/-!
Which expressions can be printed.
-/

mutual

/-- Calls have as many arguments as they need, symbols are made of letters, and numbers are those of decimals. -/
def Expr.Printable : Expr → Prop
  | .number x => ∃ numeral : Numeral, Decimal.read numeral.text = x
  | .symbol name => AllLetters name ∧ name ≠ []
  | .neg e | .factorial e | .abs e | .sqrt e => e.Printable
  | .binary _ l r | .root l r | .log l r => l.Printable ∧ r.Printable
  | .call f args => f.arity.admits args.length = true ∧ Expr.AllPrintable args

def Expr.AllPrintable : List Expr → Prop
  | [] => True
  | e :: rest => e.Printable ∧ Expr.AllPrintable rest

end

namespace Prints

variable {e l r : Expr} {ts us : List Token} {k m : Nat}

theorem power_of_primary (h : Prints .primary [e] ts k) : Prints .power [e] ts k := .power (.inl rfl) (.marked h)

theorem product_of_primary (h : Prints .primary [e] ts k) (barred : Bool) : Prints (.product barred) [e] ts (k + 1) :=
  .product (.unsigned h.power_of_primary)

theorem sum_of_primary (h : Prints .primary [e] ts k) (barred : Bool) : Prints (.sum barred) [e] ts (k + 1) :=
  .sum (h.product_of_primary barred)

/-- Two operands in parentheses of their own, with an operator between them. -/
theorem exists_binary (op : Operator) (hl : Prints .primary [l] ts k) (hr : Prints .primary [r] us m) :
    ∃ vs n, Prints .primary [.binary op l r] vs n := by
  have hsum := hl.sum_of_primary false
  have hproduct := hl.product_of_primary false
  have hsigned : Prints .signed [r] us (m + 1) := .unsigned hr.power_of_primary
  cases op with
  | add => exact ⟨_, _, .parens (.term (List.mem_cons_self ..) hsum (hr.product_of_primary false))⟩
  | sub => exact ⟨_, _, .parens (.term (List.mem_cons_self ..) hsum (hr.product_of_primary false))⟩
  | mul => exact ⟨_, _, .parens (.sum (.factor (List.mem_cons_self ..) hproduct hsigned))⟩
  | div => exact ⟨_, _, .parens (.sum (.factor (List.mem_cons_self ..) hproduct hsigned))⟩
  | pow =>
    have hraised := Prints.raised (.marked hl) (hr.sum_of_primary false)
    exact ⟨_, _, .parens (.sum (.product (.unsigned (.power (.inr rfl) hraised))))⟩

end Prints

mutual

/-- Every such expression can be printed. -/
theorem Expr.Printable.exists_primary : ∀ e : Expr, e.Printable → ∃ ts k, Prints .primary [e] ts k
  | .number _, h => by
    obtain ⟨numeral, rfl⟩ := h
    exact ⟨_, _, .number numeral⟩
  | .symbol _, h => ⟨_, _, .symbol h.1 h.2⟩
  | .neg e, h => by
    obtain ⟨ts, k, he⟩ := Expr.Printable.exists_primary e h
    exact ⟨_, _, .parens (.sum (.product (.neg (.unsigned he.power_of_primary))))⟩
  | .factorial e, h => by
    obtain ⟨ts, k, he⟩ := Expr.Printable.exists_primary e h
    exact ⟨_, _, .parens (.sum (.product (.unsigned (.power (.inl rfl) (.factorial (.inl rfl) (.marked he))))))⟩
  | .abs e, h => by
    obtain ⟨ts, k, he⟩ := Expr.Printable.exists_primary e h
    exact ⟨_, _, .bars (he.sum_of_primary true)⟩
  | .sqrt e, h => by
    obtain ⟨ts, k, he⟩ := Expr.Printable.exists_primary e h
    exact ⟨_, _, .sqrt (he.sum_of_primary false)⟩
  | .binary op l r, h => by
    obtain ⟨ts, k, hl⟩ := Expr.Printable.exists_primary l h.1
    obtain ⟨us, m, hr⟩ := Expr.Printable.exists_primary r h.2
    exact Prints.exists_binary op hl hr
  | .root d e, h => by
    obtain ⟨ts, k, hd⟩ := Expr.Printable.exists_primary d h.1
    obtain ⟨us, m, he⟩ := Expr.Printable.exists_primary e h.2
    exact ⟨_, _, .root (hd.sum_of_primary false) (he.sum_of_primary false)⟩
  | .log b e, h => by
    obtain ⟨ts, k, hb⟩ := Expr.Printable.exists_primary b h.1
    obtain ⟨us, m, he⟩ := Expr.Printable.exists_primary e h.2
    exact ⟨_, _, .log (hb.sum_of_primary false) (he.sum_of_primary false)⟩
  | .call f args, h => by
    obtain ⟨harity, hargs⟩ := h
    have hne : args ≠ [] := by
      rintro rfl
      cases f <;> simp [Func.arity, Arity.admits] at harity
    obtain ⟨ts, k, hlisted⟩ := Expr.AllPrintable.exists_listed args hargs hne
    exact ⟨_, _, .call harity hlisted⟩

theorem Expr.AllPrintable.exists_listed : ∀ es : List Expr, Expr.AllPrintable es → es ≠ [] →
    ∃ ts k, Prints .listed es ts k
  | [], _, hne => absurd rfl hne
  | [e], h, _ => by
    obtain ⟨ts, k, he⟩ := Expr.Printable.exists_primary e h.1
    exact ⟨_, _, .last (he.sum_of_primary false)⟩
  | e :: e' :: es, h, _ => by
    obtain ⟨ts, k, he⟩ := Expr.Printable.exists_primary e h.1
    obtain ⟨us, m, hmore⟩ := Expr.AllPrintable.exists_listed (e' :: es) h.2 (List.cons_ne_nil _ _)
    exact ⟨_, _, .comma (he.sum_of_primary false) hmore⟩

end

theorem exists_spaced (ws : List Text) : ∃ text, Spaced ws text := by
  induction ws with
  | nil => exact ⟨_, .nil⟩
  | cons w ws ih =>
    obtain ⟨text, htext⟩ := ih
    exact ⟨_, .next htext⟩

end LiveTex.Formula
