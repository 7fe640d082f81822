import LiveTex.Span.Occurrence
import LiveTex.Text.Blank

/-!
Mathematics between dollar signs.

A block stands between double dollars. It does not begin with a blank, holds no newline, and ends with
the first double dollar that directly follows the opening or has no backslash before it.

Mathematics in a line stands between single dollars. The opening dollar has none before it; the content
does not begin with a dollar, a blank, a comma or a point, and holds dollars only behind backslashes. It
must not end with a blank, with an opening parenthesis or bracket, or with a quotation mark. So prices
such as `$5 and $6` are not taken for mathematics.
-/

namespace LiveTex.Dollar

/-- The content of a block up to its closing dollars and the text behind them, given the character
before. -/
def untilDoubleDollar (before : Option Char) : Text → Option (Text × Text)
  | [] | [_] => none
  | c :: d :: t =>
    if c = '$' && d = '$' && before != some '\\' then some ([], t)
    else if c = '\n' then none
    else (untilDoubleDollar (some c) (d :: t)).map fun (content, rest) => (c :: content, rest)

/-- A block at the head of the text: its content and the text behind it. -/
def block? (t : Text) : Option (Text × Text) := do
  let body ← Text.after? ['$', '$'] t
  if body.head?.any Text.isBlank then none else untilDoubleDollar none body

/-- Whether content may begin with a character. -/
def begins (c : Char) : Bool := !(c == '$' || c == ',' || c == '.' || Text.isBlank c)

/-- Whether content may end with a character. -/
def ends (c : Char) : Bool :=
  !(c == '\\' || Text.isBlank c || c == '(' || c == '[' || c == '"')

/-- The content up to the first dollar that no backslash escapes, and the text behind that dollar; none
when the content is empty or may not end as it does. -/
def untilDollar (last : Option Char) : Text → Option (Text × Text)
  | [] => none
  | [c] => if c = '$' && last.any ends then some ([], []) else none
  | c :: d :: t =>
    if c = '$' then if last.any ends then some ([], d :: t) else none
    else if c = '\\' && d = '$' then
      (untilDollar (some '$') t).map fun (content, rest) => (c :: d :: content, rest)
    else (untilDollar (some c) (d :: t)).map fun (content, rest) => (c :: content, rest)

/-- Mathematics at the head of the text, given the character before. -/
def inline? (before : Option Char) (t : Text) : Option (Text × Text) := do
  let body ← Text.after? ['$'] t
  if before == some '$' || !body.head?.any begins then none else untilDollar none body

theorem eq_append_of_untilDoubleDollar {before : Option Char} {t content rest : Text}
    (h : untilDoubleDollar before t = some (content, rest)) : t = content ++ ['$', '$'] ++ rest := by
  fun_induction untilDoubleDollar before t generalizing content with
  | case1 | case2 | case4 => simp at h
  | case3 => simp_all
  | case5 _ _ _ _ _ _ ih =>
    obtain ⟨⟨front, tail⟩, hfront, hpair⟩ := Option.map_eq_some_iff.mp h
    cases hpair
    simp [ih hfront]

theorem eq_append_of_untilDollar {last : Option Char} {t content rest : Text}
    (h : untilDollar last t = some (content, rest)) : t = content ++ ['$'] ++ rest := by
  fun_induction untilDollar last t generalizing content with
  | case1 | case3 | case5 => simp at h
  | case2 | case4 => simp_all
  | case6 _ _ _ _ _ _ ih | case7 _ _ _ _ _ _ ih =>
    obtain ⟨⟨front, tail⟩, hfront, hpair⟩ := Option.map_eq_some_iff.mp h
    cases hpair
    simp_all

theorem eq_append_of_block? {t content rest : Text} (h : block? t = some (content, rest)) :
    t = ['$', '$'] ++ content ++ ['$', '$'] ++ rest := by
  simp only [block?, Option.bind_eq_bind, Option.bind_eq_some_iff] at h
  obtain ⟨body, hbody, h⟩ := h
  split at h
  · simp at h
  · rw [Text.after?_eq_some_iff.mp hbody, eq_append_of_untilDoubleDollar h]
    simp

theorem eq_append_of_inline? {before : Option Char} {t content rest : Text}
    (h : inline? before t = some (content, rest)) : t = ['$'] ++ content ++ ['$'] ++ rest := by
  simp only [inline?, Option.bind_eq_bind, Option.bind_eq_some_iff] at h
  obtain ⟨body, hbody, h⟩ := h
  split at h
  · simp at h
  · rw [Text.after?_eq_some_iff.mp hbody, eq_append_of_untilDollar h]
    simp

/-- The blocks of a text. -/
def blocks : Text → Cut
  | [] => .none []
  | c :: t =>
    match _h : block? (c :: t) with
    | some (content, rest) => (blocks rest).found ⟨[], ['$', '$'], content, ['$', '$']⟩
    | none => (blocks t).skip c
termination_by t => t.length
decreasing_by
  · rw [eq_append_of_block? _h]; simp; omega
  · simp

/-- The mathematics in a line of text, given the character before it. -/
def inlines (before : Option Char) : Text → Cut
  | [] => .none []
  | c :: t =>
    match _h : inline? before (c :: t) with
    | some (content, rest) => (inlines (some '$') rest).found ⟨[], ['$'], content, ['$']⟩
    | none => (inlines (some c) t).skip c
termination_by t => t.length
decreasing_by
  · rw [eq_append_of_inline? _h]; simp; omega
  · simp

end LiveTex.Dollar
