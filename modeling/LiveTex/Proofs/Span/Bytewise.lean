import LiveTex.Proofs.Span.Places

/-!
Scanning a text by its bytes. Here the scanner walks along byte offsets and takes a slice wherever it looks at the text;
a slice that does not lie between two characters ends the scan without a result. It always comes to its end, and the
spans are those of the scan that cuts the text into pieces.
-/

namespace LiveTex.Bytewise

open Text (bytes)

/-- Whether the cursor stands behind a backslash of the content, which begins at byte `body`. -/
def isEscaped? (t : Text) (body cursor : Nat) : Option Bool :=
  if body < cursor then (t.slice? 0 cursor).map fun front => front.getLast? == some '\\' else some false

/-- Whether a block ends at the cursor, before the slice `tail`. -/
def closes? (t : Text) (body cursor : Nat) (tail : Text) : Option Bool :=
  if (Text.after? ['$', '$'] tail).isSome then (isEscaped? t body cursor).map (!·) else some false

/-- Where the content of a block ends, when it begins at byte `body` and is read from the cursor on. -/
def blockEnd? (t : Text) (body limit cursor : Nat) : Option (Option Nat) :=
  match _h : t.slice? cursor limit with
  | none => none
  | some [] => some none
  | some (c :: tail) => match closes? t body cursor (c :: tail) with
    | none => none
    | some true => some (some cursor)
    | some false => if c = '\n' then some none else blockEnd? t body limit (cursor + c.utf8Size)
termination_by limit - cursor
decreasing_by
  obtain ⟨-, -, -, -, hlimit⟩ := Text.slice?_eq_some_iff.mp _h
  have hpos := c.utf8Size_pos
  rw [Text.bytes_cons] at hlimit
  omega

/-- A block that begins at byte `start`. -/
def block? (t : Text) (start limit : Nat) : Option (Option Match) := do
  let rest ← t.slice? start limit
  if (Text.after? ['$', '$'] rest).isNone then return none
  let body ← t.slice? (start + 2) limit
  if body.head?.any Text.isBlank then return none
  let stop ← blockEnd? t (start + 2) limit (start + 2)
  return stop.map fun stop => ⟨⟨start, stop + 2⟩, ⟨start + 2, stop⟩⟩

/-- Whether the character at the head of the slice is a backslash that escapes a dollar. -/
def escapesDollar? (c : Char) (tail : Text) : Option Bool :=
  if c = '\\' then (Text.slice? (c :: tail) 1 (bytes (c :: tail))).map fun rest => rest.head? == some '$'
  else some false

/-- Where the content of mathematics in a line ends, read from the cursor on. -/
def inlineEnd? (t : Text) (limit cursor : Nat) (last : Option Char) : Option (Option Nat) :=
  match _h : t.slice? cursor limit with
  | none => none
  | some [] => some none
  | some (c :: tail) =>
    if c = '$' then some (if last.any Dollar.ends then some cursor else none)
    else match escapesDollar? c tail with
      | none => none
      | some true => inlineEnd? t limit (cursor + 2) (some '$')
      | some false => inlineEnd? t limit (cursor + c.utf8Size) (some c)
termination_by limit - cursor
decreasing_by
  all_goals
    obtain ⟨-, -, -, -, hlimit⟩ := Text.slice?_eq_some_iff.mp _h
    have hpos := c.utf8Size_pos
    rw [Text.bytes_cons] at hlimit
    omega

/-- Mathematics in a line that begins at byte `start`. -/
def inline? (t : Text) (start limit : Nat) : Option (Option Match) := do
  let rest ← t.slice? start limit
  if rest.head? != some '$' then return none
  let front ← t.slice? 0 start
  if front.getLast? == some '$' then return none
  let body ← t.slice? (start + 1) limit
  if !body.head?.any Dollar.begins then return none
  let stop ← inlineEnd? t limit (start + 1) none
  return stop.map fun stop => ⟨⟨start, stop + 1⟩, ⟨start + 1, stop⟩⟩

/-- What is tried at each offset, by the display mode. -/
def dollars? : DisplayMode → (t : Text) → (start limit : Nat) → Option (Option Match)
  | .inline => inline?
  | .block => block?

/-- The matches between two offsets. No step is shorter than a byte, so as many steps as there are bytes are enough. -/
def dollarMatches? (mode : DisplayMode) (t : Text) (limit : Nat) : (steps start : Nat) → Option (List Match)
  | steps, start =>
    if limit ≤ start then some []
    else match steps with
      | 0 => none
      | steps + 1 => match dollars? mode t start limit with
        | none => none
        | some (some m) => (dollarMatches? mode t limit steps m.whole.stop).map (m :: ·)
        | some none => match t.slice? start (bytes t) with
          | none => none
          | some rest => dollarMatches? mode t limit steps (start + (rest.head?.elim 1 Char.utf8Size))

/-- How the mathematics of a display mode is found. -/
inductive Matcher where
  | dollars (mode : DisplayMode)
  /-- A search for a pattern, which cuts a piece of text on its own. -/
  | search (find : Text → Cut)

/-- The matches in a window of the text. -/
def Matcher.matches? (m : Matcher) (t : Text) (window : Range) : Option (List Match) :=
  if window.stop ≤ window.start then some []
  else match m with
    | .dollars mode => dollarMatches? mode t window.stop (window.stop - window.start) window.start
    | .search find => (t.slice? window.start window.stop).map fun piece =>
      Occurrence.located window.start (find piece).occurrences

/-- The spans that are made of matches. -/
def collect? (t : Text) (mode : DisplayMode) : List Match → Option (List Span)
  | [] => some []
  | m :: more => do
    let raw ← t.slice? m.latex.start m.latex.stop
    let spans ← collect? t mode more
    if raw.isEmpty then return spans
    let (latex, showResult) := Scanner.splitResult (mode.source raw)
    return ⟨m.whole.start, m.whole.stop, latex, mode, showResult⟩ :: spans

/-- How blocks and mathematics in a line are found. -/
structure Matchers where
  inline : Option Matcher
  block : Option Matcher

namespace Matchers

/-- The spans in a window without blocks. -/
def inlineSpans? (s : Matchers) (t : Text) (window : Range) : Option (List Span) :=
  match s.inline with
  | none => some []
  | some m => (m.matches? t window).bind (collect? t .inline)

/-- The spans in and between blocks, from byte `start` on. -/
def around? (s : Matchers) (t : Text) (start : Nat) : List Match → Option (List Span)
  | [] => s.inlineSpans? t ⟨start, bytes t⟩
  | m :: more => do
    let between ← s.inlineSpans? t ⟨start, m.whole.start⟩
    let block ← collect? t .block [m]
    let rest ← s.around? t m.whole.stop more
    return between ++ block ++ rest

/-- The blocks of a text. -/
def blocks? (s : Matchers) (t : Text) : Option (List Match) :=
  match s.block with
  | none => some []
  | some m => m.matches? t ⟨0, bytes t⟩

/-- The mathematics in a text. There is none when a slice does not exist. -/
def scan? (s : Matchers) (t : Text) : Option (List Span) := (s.blocks? t).bind (s.around? t 0)

/-- A search for a pattern. -/
def ofPattern (pattern : Text) : Except Pattern.Fault Matcher := do
  let p ← Pattern.read pattern
  return .search (Pattern.occurrencesFrom p.program false none)

/-- The matchers for a choice of delimiters. -/
def new : Delimiters → Except Pattern.Fault Matchers
  | .dollar => .ok ⟨some (.dollars .inline), some (.dollars .block)⟩
  | .bracket => do
    let inline ← ofPattern Scanner.bracketInline
    let block ← ofPattern Scanner.bracketBlock
    return ⟨some inline, some block⟩
  | .custom d => do
    let inline ← d.inlinePattern.mapM ofPattern
    let block ← d.blockPattern.mapM ofPattern
    return ⟨inline, block⟩

end Matchers

/-! The dollar matchers. -/

section

variable {t front done tail piece back : Text} {body start limit cursor : Nat} {last : Option Char}

theorem slice?_eq (ht : t = front ++ piece ++ back) (hstart : start = bytes front) (hlimit : limit = start + bytes piece) :
    t.slice? start limit = some piece :=
  Text.slice?_eq_some_iff.mpr ⟨front, back, ht, hstart, hlimit⟩

theorem closes?_eq (ht : t = front ++ done ++ tail ++ back) (hbody : body = bytes front)
    (hcursor : cursor = body + bytes done) :
    closes? t body cursor tail = some ((Text.after? ['$', '$'] tail).isSome && done.getLast? != some '\\') := by
  have hescaped : isEscaped? t body cursor = some (done.getLast? == some '\\') := by
    rw [isEscaped?]
    cases done with
    | nil =>
      rw [if_neg (by simp [hcursor])]
      rfl
    | cons c done =>
      have hpos := c.utf8Size_pos
      rw [if_pos (by rw [hcursor, Text.bytes_cons]; omega)]
      have ht' : t = [] ++ (front ++ c :: done) ++ (tail ++ back) := by simp [ht]
      have hfront : t.slice? 0 cursor = some (front ++ c :: done) := slice?_eq ht' rfl (by simp [hcursor, hbody])
      rw [hfront, Option.map_some, List.getLast?_append]
      simp [List.getLast?_cons]
  rw [closes?, hescaped]
  split
  · next hpair => rw [hpair, Bool.true_and, Option.map_some, bne]
  · next hpair => rw [Bool.eq_false_iff.mpr hpair, Bool.false_and]

theorem blockEnd?_nil (hslice : t.slice? cursor limit = some []) : blockEnd? t body limit cursor = some none := by
  rw [blockEnd?]
  split <;> simp_all

theorem blockEnd?_cons {c : Char} (hslice : t.slice? cursor limit = some (c :: tail)) {closes : Bool}
    (hcloses : closes? t body cursor (c :: tail) = some closes) :
    blockEnd? t body limit cursor =
      if closes then some (some cursor)
      else if c = '\n' then some none else blockEnd? t body limit (cursor + c.utf8Size) := by
  rw [blockEnd?]
  split
  · simp_all
  · simp_all
  · next d rest hrest =>
    obtain ⟨rfl, rfl⟩ := List.cons.inj (Option.some.inj (hslice.symm.trans hrest))
    rw [hcloses]
    cases closes <;> rfl

theorem blockEnd?_eq (ht : t = front ++ done ++ tail ++ back) (hbody : body = bytes front)
    (hcursor : cursor = body + bytes done) (hlimit : limit = cursor + bytes tail) :
    blockEnd? t body limit cursor =
      some ((Dollar.untilDoubleDollar done.getLast? tail).map fun (content, _) => cursor + bytes content) := by
  induction tail generalizing done cursor with
  | nil =>
    have hslice : t.slice? cursor limit = some [] := slice?_eq ht (by simp [hcursor, hbody]) hlimit
    rw [blockEnd?_nil hslice]
    simp [Dollar.untilDoubleDollar]
  | cons c tail ih =>
    have hslice : t.slice? cursor limit = some (c :: tail) := slice?_eq ht (by simp [hcursor, hbody]) hlimit
    have ht' : t = front ++ (done ++ [c]) ++ tail ++ back := by simp [ht]
    have hcursor' : cursor + c.utf8Size = body + bytes (done ++ [c]) := by simp [hcursor, Nat.add_assoc]
    have hnext := ih ht' hcursor' (by rw [hlimit, Text.bytes_cons, Nat.add_assoc])
    rw [List.getLast?_concat] at hnext
    rw [blockEnd?_cons hslice (closes?_eq ht hbody hcursor), hnext]
    cases tail with
    | nil => simp [Text.after?, Dollar.untilDoubleDollar]
    | cons d tail =>
      have hpair : (Text.after? ['$', '$'] (c :: d :: tail)).isSome = (c = '$' && d = '$') := by
        simp only [Text.after?, eq_comm (a := '$')]
        by_cases hc : c = '$' <;> by_cases hd : d = '$' <;> simp [hc, hd]
      rw [hpair, Dollar.untilDoubleDollar]
      split
      · rfl
      · split
        · rfl
        · simp [Option.map_map, Function.comp_def, Nat.add_assoc]

/-- The bytes of mathematics between dollars that begins at byte `start`. -/
def dollarMatch (mode : DisplayMode) (start : Nat) (content : Text) : Match :=
  ⟨⟨start, start + bytes (mode.dollars ++ content ++ mode.dollars)⟩,
    ⟨start + bytes mode.dollars, start + bytes mode.dollars + bytes content⟩⟩

theorem dollarMatch_block (start : Nat) (content : Text) :
    dollarMatch .block start content = ⟨⟨start, start + 2 + bytes content + 2⟩, ⟨start + 2, start + 2 + bytes content⟩⟩ := by
  have hdollars : bytes ['$', '$'] = 2 := by decide
  simp only [dollarMatch, DisplayMode.dollars, Text.bytes_append, hdollars, Nat.add_assoc]

theorem dollarMatch_inline (start : Nat) (content : Text) :
    dollarMatch .inline start content = ⟨⟨start, start + 1 + bytes content + 1⟩, ⟨start + 1, start + 1 + bytes content⟩⟩ := by
  have hdollar : bytes ['$'] = 1 := by decide
  simp only [dollarMatch, DisplayMode.dollars, Text.bytes_append, hdollar, Nat.add_assoc]

/-- Where a character begins, a block is found if the text there begins with one. -/
theorem block?_eq (ht : t = front ++ piece ++ back) (hstart : start = bytes front) (hlimit : limit = start + bytes piece) :
    block? t start limit = some ((Dollar.block? piece).map fun p => dollarMatch .block start p.1) := by
  have hslice : t.slice? start limit = some piece := slice?_eq ht hstart hlimit
  cases hpair : Text.after? ['$', '$'] piece with
  | none => simp [block?, Dollar.block?, hslice, hpair]
  | some body =>
    have hpiece := Text.after?_eq_some_iff.mp hpair
    have hdollars : bytes ['$', '$'] = 2 := by decide
    have ht' : t = front ++ ['$', '$'] ++ body ++ back := by simp [ht, hpiece]
    have hstart' : start + 2 = bytes (front ++ ['$', '$']) := by simp [hstart, hdollars]
    have hlimit' : limit = start + 2 + bytes body := by rw [hlimit, hpiece, Text.bytes_append, hdollars, Nat.add_assoc]
    have hbody : t.slice? (start + 2) limit = some body := slice?_eq ht' hstart' hlimit'
    have hdone : t = front ++ ['$', '$'] ++ [] ++ body ++ back := by simpa using ht'
    have hend : blockEnd? t (start + 2) limit (start + 2) =
        some ((Dollar.untilDoubleDollar none body).map fun p => start + 2 + bytes p.1) :=
      blockEnd?_eq hdone hstart' rfl hlimit'
    simp only [block?, Dollar.block?, hslice, hpair, hbody, hend, Option.bind_eq_bind, Option.bind_some,
      Option.isNone_some, Bool.false_eq_true, ↓reduceIte, dollarMatch_block]
    split
    · rfl
    · rw [Option.map_map]
      rfl

theorem escapesDollar?_eq (c : Char) (tail : Text) :
    escapesDollar? c tail = some (c = '\\' && tail.head? == some '$') := by
  rw [escapesDollar?]
  split
  · next hc =>
    subst hc
    have hsplit : '\\' :: tail = ['\\'] ++ tail ++ [] := by simp
    have hrest : Text.slice? ('\\' :: tail) 1 (bytes ('\\' :: tail)) = some tail :=
      slice?_eq hsplit (by decide) (by rw [Text.bytes_cons]; rfl)
    rw [hrest]
    rfl
  · next hc => simp [hc]

theorem inlineEnd?_nil (hslice : t.slice? cursor limit = some []) : inlineEnd? t limit cursor last = some none := by
  rw [inlineEnd?]
  split <;> simp_all

theorem inlineEnd?_cons {c : Char} (hslice : t.slice? cursor limit = some (c :: tail)) :
    inlineEnd? t limit cursor last =
      if c = '$' then some (if last.any Dollar.ends then some cursor else none)
      else if c = '\\' && tail.head? == some '$' then inlineEnd? t limit (cursor + 2) (some '$')
      else inlineEnd? t limit (cursor + c.utf8Size) (some c) := by
  rw [inlineEnd?]
  split
  · simp_all
  · simp_all
  · next d rest hrest =>
    obtain ⟨rfl, rfl⟩ := List.cons.inj (Option.some.inj (hslice.symm.trans hrest))
    rw [escapesDollar?_eq]
    cases c = '\\' && tail.head? == some '$' <;> rfl

theorem inlineEnd?_eq (ht : t = front ++ tail ++ back) (hcursor : cursor = bytes front)
    (hlimit : limit = cursor + bytes tail) : inlineEnd? t limit cursor last =
      some ((Dollar.untilDollar last tail).map fun p => cursor + bytes p.1) := by
  have hslice : t.slice? cursor limit = some tail := slice?_eq ht hcursor hlimit
  fun_induction Dollar.untilDollar last tail generalizing front cursor with
  | case1 =>
    rw [inlineEnd?_nil hslice]
    rfl
  | case2 last c hcloses =>
    obtain ⟨rfl, hlast⟩ : c = '$' ∧ last.any Dollar.ends = true := by simpa using hcloses
    simp [inlineEnd?_cons hslice, hlast]
  | case3 last c hopen =>
    rw [inlineEnd?_cons hslice]
    split
    · next hc => simp_all
    · have ht' : t = front ++ [c] ++ [] ++ back := by simpa using ht
      have hnil : t.slice? (cursor + c.utf8Size) limit = some [] :=
        slice?_eq ht' (by simp [hcursor]) (by simpa using hlimit)
      simp [inlineEnd?_nil hnil]
  | case4 last d tail hlast => simp [inlineEnd?_cons hslice, hlast]
  | case5 last d tail hlast => simp [inlineEnd?_cons hslice, hlast]
  | case6 last c d tail hc hescape ih =>
    obtain ⟨rfl, rfl⟩ : c = '\\' ∧ d = '$' := by simpa using hescape
    have hbytes (u : Text) : bytes ('\\' :: '$' :: u) = 2 + bytes u := Nat.add_assoc 1 1 _ ▸ rfl
    have ht' : t = front ++ ['\\', '$'] ++ tail ++ back := by simp [ht]
    have hcursor' : cursor + 2 = bytes (front ++ ['\\', '$']) := by rw [Text.bytes_append, hbytes, hcursor, Text.bytes_nil]
    have hlimit' : limit = cursor + 2 + bytes tail := by rw [hlimit, hbytes, Nat.add_assoc]
    rw [inlineEnd?_cons hslice, if_neg hc, if_pos (by simp), ih ht' hcursor' hlimit' (slice?_eq ht' hcursor' hlimit'),
      Option.map_map]
    simp only [Function.comp_def, hbytes, Nat.add_assoc]
  | case7 last c d tail hc hescape ih =>
    have ht' : t = front ++ [c] ++ d :: tail ++ back := by simp [ht]
    have hcursor' : cursor + c.utf8Size = bytes (front ++ [c]) := by simp [hcursor]
    have hlimit' : limit = cursor + c.utf8Size + bytes (d :: tail) := by rw [hlimit, Text.bytes_cons c, Nat.add_assoc]
    rw [inlineEnd?_cons hslice, if_neg hc, if_neg (by simpa using hescape),
      ih ht' hcursor' hlimit' (slice?_eq ht' hcursor' hlimit'), Option.map_map]
    simp only [Function.comp_def, Text.bytes_cons, Nat.add_assoc]

/-- Where a character begins, mathematics in a line is found if the text there begins with it. -/
theorem inline?_eq (ht : t = front ++ piece ++ back) (hstart : start = bytes front) (hlimit : limit = start + bytes piece) :
    inline? t start limit =
      some ((Dollar.inline? front.getLast? piece).map fun p => dollarMatch .inline start p.1) := by
  have hslice : t.slice? start limit = some piece := slice?_eq ht hstart hlimit
  have ht₀ : t = [] ++ front ++ (piece ++ back) := by simp [ht]
  have hfront : t.slice? 0 start = some front := slice?_eq ht₀ rfl (by simp [hstart])
  have hhead : piece.head? = some '$' ↔ ∃ body, Text.after? ['$'] piece = some body := by
    simp only [Text.after?_eq_some_iff, List.head?_eq_some_iff, List.singleton_append]
  cases hpair : Text.after? ['$'] piece with
  | none =>
    have hother : piece.head? ≠ some '$' := by simp [hhead, hpair]
    simp [inline?, Dollar.inline?, hslice, hpair, hother]
  | some body =>
    have hpiece := Text.after?_eq_some_iff.mp hpair
    have hdollar : bytes ['$'] = 1 := by decide
    have ht' : t = front ++ ['$'] ++ body ++ back := by simp [ht, hpiece]
    have hstart' : start + 1 = bytes (front ++ ['$']) := by simp [hstart, hdollar]
    have hlimit' : limit = start + 1 + bytes body := by rw [hlimit, hpiece, Text.bytes_append, hdollar, Nat.add_assoc]
    have hbody : t.slice? (start + 1) limit = some body := slice?_eq ht' hstart' hlimit'
    have hend : inlineEnd? t limit (start + 1) none = _ := inlineEnd?_eq ht' hstart' hlimit'
    have hthere : piece.head? = some '$' := hhead.mpr ⟨body, hpair⟩
    simp only [inline?, Dollar.inline?, hslice, hfront, hpair, hbody, hend, hthere, Option.bind_eq_bind, Option.bind_some,
      bne_self_eq_false, Bool.false_eq_true, ↓reduceIte, dollarMatch_inline, Bool.or_eq_true]
    by_cases hbefore : front.getLast? == some '$'
    · simp [hbefore]
    · by_cases hbegins : body.head?.any Dollar.begins <;> simp [hbefore, hbegins, Option.map_map, Function.comp_def]

theorem dollars?_eq (mode : DisplayMode) (ht : t = front ++ piece ++ back) (hstart : start = bytes front)
    (hlimit : limit = start + bytes piece) : dollars? mode t start limit =
      some ((Dollar.head? mode front.getLast? piece).map fun p => dollarMatch mode start p.1) := by
  cases mode with
  | inline => exact inline?_eq ht hstart hlimit
  | block => exact block?_eq ht hstart hlimit

theorem located_skip (offset : Nat) (c : Char) (cut : Cut) :
    Occurrence.located offset (cut.skip c).occurrences = Occurrence.located (offset + c.utf8Size) cut.occurrences := by
  obtain ⟨os, rest⟩ := cut
  cases os with
  | nil => rfl
  | cons o os => simp only [Cut.skip, Occurrence.located, Text.bytes_cons, Nat.add_assoc, Occurrence.whole]

/-- The matches between two characters are the occurrences of the cut. -/
theorem dollarMatches?_eq (mode : DisplayMode) {steps : Nat} (ht : t = front ++ piece ++ back) (hstart : start = bytes front)
    (hlimit : limit = start + bytes piece) (hsteps : bytes piece ≤ steps) : dollarMatches? mode t limit steps start =
      some (Occurrence.located start (Dollar.cut mode front.getLast? piece).occurrences) := by
  induction steps generalizing front piece start with
  | zero =>
    obtain rfl : piece = [] := Text.bytes_eq_zero_iff.mp (by omega)
    rw [dollarMatches?, if_pos (by simp [hlimit])]
    simp [Dollar.cut_nil, Cut.none, Occurrence.located]
  | succ steps ih =>
    cases piece with
    | nil =>
      rw [dollarMatches?, if_pos (by simp [hlimit])]
      simp [Dollar.cut_nil, Cut.none, Occurrence.located]
    | cons c tail =>
      have hpos := c.utf8Size_pos
      rw [Text.bytes_cons] at hsteps
      rw [dollarMatches?, if_neg (by rw [hlimit, Text.bytes_cons]; omega), dollars?_eq mode ht hstart hlimit]
      cases hhead : Dollar.head? mode front.getLast? (c :: tail) with
      | some found =>
        obtain ⟨content, rest⟩ := found
        have hwhole : (⟨[], mode.dollars, content, mode.dollars⟩ : Occurrence).whole =
            mode.dollars ++ content ++ mode.dollars := rfl
        have hpiece := Dollar.eq_append_of_head? hhead
        have hbytes := congrArg bytes hpiece
        rw [Text.bytes_append, Text.bytes_cons] at hbytes
        have hdollars : 0 < bytes mode.dollars := by cases mode <;> decide
        have hlong : bytes mode.dollars ≤ bytes (mode.dollars ++ content ++ mode.dollars) := by
          rw [List.append_assoc, Text.bytes_append]
          exact Nat.le_add_right _ _
        have ht' : t = front ++ (mode.dollars ++ content ++ mode.dollars) ++ rest ++ back := by simp [ht, hpiece]
        have hstart' : start + bytes (mode.dollars ++ content ++ mode.dollars) =
            bytes (front ++ (mode.dollars ++ content ++ mode.dollars)) := by rw [hstart, ← Text.bytes_append]
        have hnext := ih ht' hstart' (by rw [hlimit, Text.bytes_cons, hbytes, Nat.add_assoc]) (by omega)
        rw [Dollar.getLast?_append_dollars] at hnext
        simp only [Option.map_some, dollarMatch, hnext, Dollar.cut_of_some hhead, Cut.found, Occurrence.located, hwhole,
          Text.bytes_nil, Nat.add_zero]
      | none =>
        have hback : t = front ++ (c :: tail ++ back) ++ [] := by simp [ht]
        have hrest : t.slice? start (bytes t) = some (c :: tail ++ back) :=
          slice?_eq hback hstart (by simp [ht, hstart])
        have ht' : t = front ++ [c] ++ tail ++ back := by simp [ht]
        have hstart' : start + c.utf8Size = bytes (front ++ [c]) := by simp [hstart]
        have hnext := ih ht' hstart' (by rw [hlimit, Text.bytes_cons, Nat.add_assoc]) (by omega)
        simp only [Option.map_none, hrest, List.cons_append, List.head?_cons, Option.elim_some, hnext,
          Dollar.cut_of_none hhead, located_skip, List.getLast?_concat]

end

/-! The scan. -/

namespace Matcher

/-- The way to cut a text that a matcher stands for. Nothing is searched in an empty text. -/
def finder : Matcher → Finder
  | .dollars mode => Dollar.cut mode
  | .search find => fun _ t => if t.isEmpty then .none t else find t

theorem matches?_eq (m : Matcher) {t front piece back : Text} {start : Nat} (ht : t = front ++ piece ++ back)
    (hstart : start = bytes front) : m.matches? t ⟨start, start + bytes piece⟩ =
      some (Occurrence.located start (m.finder front.getLast? piece).occurrences) := by
  unfold matches?
  cases m with
  | dollars mode =>
    have hmatches := dollarMatches?_eq mode ht hstart rfl (Nat.le_refl _)
    split
    · next hempty =>
      obtain rfl : piece = [] := Text.bytes_eq_zero_iff.mp (by dsimp only at hempty; omega)
      simp [finder, Dollar.cut_nil, Cut.none, Occurrence.located]
    · rw [Nat.add_sub_cancel_left]
      exact hmatches
  | search find =>
    simp only [finder, slice?_eq ht hstart rfl, Option.map_some]
    cases piece with
    | nil => simp [Cut.none, Occurrence.located]
    | cons c piece =>
      have hpos := c.utf8Size_pos
      rw [if_neg (by simp only [Text.bytes_cons]; omega)]
      rfl

end Matcher

theorem collect?_eq (mode : DisplayMode) {t front back : Text} {os : List Occurrence}
    (ht : t = front ++ Occurrence.texts os ++ back) :
    collect? t mode (Occurrence.located (bytes front) os) = some (Scanner.spans mode (bytes front) os) := by
  induction os generalizing front with
  | nil => rfl
  | cons o os ih =>
    have ht' : t = front ++ o.gap ++ o.opening ++ o.latex ++ (o.closing ++ Occurrence.texts os ++ back) := by
      simp [ht, Occurrence.whole]
    have hraw : t.slice? (bytes front + bytes o.gap + bytes o.opening)
        (bytes front + bytes o.gap + bytes o.opening + bytes o.latex) = some o.latex :=
      slice?_eq ht' (by simp [Nat.add_assoc]) rfl
    have hrest : t = front ++ (o.gap ++ o.whole) ++ Occurrence.texts os ++ back := by simp [ht]
    have hnext := ih hrest
    rw [Text.bytes_append, Text.bytes_append, ← Nat.add_assoc] at hnext
    rw [Occurrence.located, collect?, Scanner.spans]
    unfold Scanner.span?
    simp only [hraw, hnext, Option.bind_eq_bind, Option.bind_some]
    cases o.latex.isEmpty <;> cases mode <;> rfl

namespace Matchers

/-- The scanner that looks for the same. -/
def scanner (s : Matchers) : Scanner := ⟨s.inline.map Matcher.finder, s.block.map Matcher.finder⟩

variable {s : Matchers} {t front piece back rest : Text} {os : List Occurrence}

theorem inlineSpans?_eq (hs : s.scanner.Cuts) (ht : t = front ++ piece ++ back) :
    s.inlineSpans? t ⟨bytes front, bytes front + bytes piece⟩ =
      some (s.scanner.inlineSpans (bytes front) front.getLast? piece) := by
  cases hinline : s.inline with
  | none => simp [inlineSpans?, Scanner.inlineSpans, scanner, hinline]
  | some m =>
    have hcut := hs.inline m.finder (by simp [scanner, hinline]) front.getLast? piece
    rw [Cut.text_eq] at hcut
    have ht' : t = front ++ Occurrence.texts (m.finder front.getLast? piece).occurrences ++
        ((m.finder front.getLast? piece).rest ++ back) := by
      rw [List.append_assoc, ← List.append_assoc (Occurrence.texts _), hcut, ht, List.append_assoc]
    have hcollect := collect?_eq .inline ht'
    simp only [inlineSpans?, hinline, m.matches?_eq ht rfl, Option.bind_some, hcollect, Scanner.inlineSpans, scanner,
      Option.map_some]

theorem around?_eq (hs : s.scanner.Cuts) (ht : t = front ++ Occurrence.texts os ++ rest) :
    s.around? t (bytes front) (Occurrence.located (bytes front) os) =
      some (s.scanner.around (bytes front) front.getLast? rest os) := by
  induction os generalizing front with
  | nil =>
    have ht' : t = front ++ rest ++ [] := by simpa using ht
    have hspans := inlineSpans?_eq hs ht'
    have hbytes : bytes t = bytes front + bytes rest := by simp [ht]
    rwa [Occurrence.located, around?, hbytes]
  | cons o os ih =>
    have hgap : t = front ++ o.gap ++ (o.whole ++ Occurrence.texts os ++ rest) := by simp [ht]
    have hwhole : t = front ++ Occurrence.texts [o] ++ (Occurrence.texts os ++ rest) := by simp [ht]
    have hrest : t = front ++ (o.gap ++ o.whole) ++ Occurrence.texts os ++ rest := by simp [ht]
    have hspans := inlineSpans?_eq hs hgap
    have hblock := collect?_eq .block hwhole
    have hnext := ih hrest
    rw [Text.bytes_append, Text.bytes_append, ← Nat.add_assoc, List.getLast?_append] at hnext
    simp only [Occurrence.located, Scanner.spans, List.append_nil] at hblock
    simp only [Occurrence.located, around?, hspans, hblock, hnext, Option.bind_eq_bind, Option.bind_some, Scanner.around]
    rfl

/-- The scan by bytes always comes to its end, with the spans of the scan by pieces. -/
theorem scan?_eq (hs : s.scanner.Cuts) (t : Text) : s.scan? t = some (s.scanner.scan t) := by
  have hblocks : s.blocks? t = some (Occurrence.located 0 (s.scanner.blockCut t).occurrences) := by
    unfold blocks?
    cases hblock : s.block with
    | none => simp [Scanner.blockCut, scanner, hblock, Cut.none, Occurrence.located]
    | some m =>
      have ht : t = [] ++ t ++ [] := by simp
      have hmatches := m.matches?_eq ht rfl
      simpa [Scanner.blockCut, scanner, hblock] using hmatches
  have htext : t = [] ++ Occurrence.texts (s.scanner.blockCut t).occurrences ++ (s.scanner.blockCut t).rest := by
    rw [List.nil_append, ← Cut.text_eq, hs.text_blockCut]
  rw [scan?, hblocks, Option.bind_some, Scanner.scan_eq]
  exact around?_eq hs htext

/-- Whatever finds the mathematics, as long as its matches cut the text, a scan by bytes comes to its end. The spans are
in order and apart from each other, none is empty, each lies between two characters of the text, and a span in a line
keeps clear of all blocks, those without content included. -/
theorem well_placed_of_cuts (hs : s.scanner.Cuts) (t : Text) :
    s.scan? t = some (s.scanner.scan t) ∧
      (s.scanner.scan t).Pairwise (·.stop ≤ ·.start) ∧
      (∀ span ∈ s.scanner.scan t, span.start < span.stop ∧ ∃ piece, t.slice? span.start span.stop = some piece) ∧
      ∀ span ∈ s.scanner.scan t, span.display = .inline →
        ∀ block ∈ Occurrence.located 0 (s.scanner.blockCut t).occurrences,
          span.stop ≤ block.whole.start ∨ block.whole.stop ≤ span.start := by
  have hordered := Scanner.ordered_around hs 0 none (s.scanner.blockCut t).rest (s.scanner.blockCut t).occurrences
  rw [← Scanner.scan_eq] at hordered
  refine ⟨scan?_eq hs t, hordered.apart, fun span hspan => ⟨(hordered.within span hspan).2.1, ?_⟩,
    fun span hspan hdisplay => Scanner.clear_of_mem_around hs hspan hdisplay⟩
  obtain ⟨o, -, hmade⟩ := Scanner.exists_madeOf_of_mem_scan (P := fun _ _ => True) hs (fun _ _ _ _ _ _ => trivial)
    (fun _ _ _ _ _ _ => trivial) hspan
  exact ⟨_, hmade.slice?_eq⟩

/-- For every choice of delimiters the scanner looks for what the matchers look for. -/
theorem scanner_new (d : Delimiters) : Scanner.new d = (new d).map scanner := by
  have hpattern (pattern : Text) : Scanner.ofPattern pattern = (ofPattern pattern).map Matcher.finder := by
    unfold Scanner.ofPattern ofPattern
    cases Pattern.read pattern <;> rfl
  cases d with
  | dollar => rfl
  | bracket =>
    simp only [Scanner.new, new, hpattern]
    cases ofPattern Scanner.bracketInline <;> cases ofPattern Scanner.bracketBlock <;> rfl
  | custom d =>
    have hmapM (pattern : Option Text) :
        pattern.mapM Scanner.ofPattern = (pattern.mapM ofPattern).map (Option.map Matcher.finder) := by
      cases pattern with
      | none => rfl
      | some pattern =>
        rw [Option.mapM_some, Option.mapM_some, hpattern]
        cases ofPattern pattern <;> rfl
    simp only [Scanner.new, new, hmapM]
    cases d.inlinePattern.mapM ofPattern <;> cases d.blockPattern.mapM ofPattern <;> rfl

end Matchers

end LiveTex.Bytewise

namespace LiveTex.Scanner

/-- Whatever the delimiters are, a scan comes to its end: every slice that is taken on the way lies between two
characters. The spans are in order and apart from each other, none is empty, each lies between two characters of the
text, and a span in a line keeps clear of all blocks, those without content included. -/
theorem spans_are_well_placed {d : Delimiters} {s : Scanner} (h : new d = .ok s) (t : Text) :
    (Bytewise.Matchers.new d).map (·.scan? t) = .ok (some (s.scan t)) ∧
      (s.scan t).Pairwise (·.stop ≤ ·.start) ∧
      (∀ span ∈ s.scan t, span.start < span.stop ∧ ∃ piece, t.slice? span.start span.stop = some piece) ∧
      ∀ span ∈ s.scan t, span.display = .inline →
        ∀ block ∈ Occurrence.located 0 (s.blockCut t).occurrences,
          span.stop ≤ block.whole.start ∨ block.whole.stop ≤ span.start := by
  have hcuts := cuts_of_new h
  rw [Bytewise.Matchers.scanner_new] at h
  cases hnew : Bytewise.Matchers.new d with
  | error e =>
    rw [hnew] at h
    cases h
  | ok m =>
    rw [hnew] at h
    cases h
    obtain ⟨hscan, hplaced⟩ := Bytewise.Matchers.well_placed_of_cuts hcuts t
    exact ⟨congrArg Except.ok hscan, hplaced⟩

theorem spans_are_well_placed_around_empty_block :
    let d : Delimiters := .custom ⟨some "@(a+=?)@".toList, some "%(b*)%".toList, none, none, none, none⟩
    let t : Text := "é @a@%%@aa=@%b%".toList
    ∃ s, new d = .ok s ∧
      s.scan t = [⟨3, 6, ['a'], .inline, false⟩, ⟨8, 13, ['a', 'a'], .inline, true⟩, ⟨13, 16, ['b'], .block, false⟩] ∧
      Occurrence.located 0 (s.blockCut t).occurrences = [⟨⟨6, 8⟩, ⟨7, 7⟩⟩, ⟨⟨13, 16⟩, ⟨14, 15⟩⟩] ∧
      (Bytewise.Matchers.new d).map (·.scan? t) = .ok (some (s.scan t)) ∧
      (s.scan t).Pairwise (·.stop ≤ ·.start) ∧
      (∀ span ∈ s.scan t, span.start < span.stop ∧ ∃ piece, t.slice? span.start span.stop = some piece) ∧
      ∀ span ∈ s.scan t, span.display = .inline →
        ∀ block ∈ Occurrence.located 0 (s.blockCut t).occurrences,
          span.stop ≤ block.whole.start ∨ block.whole.stop ≤ span.start := by
  intro d t
  have hfound : ((new d).map fun s => (s.scan t, Occurrence.located 0 (s.blockCut t).occurrences)).toOption =
      some ([⟨3, 6, ['a'], .inline, false⟩, ⟨8, 13, ['a', 'a'], .inline, true⟩, ⟨13, 16, ['b'], .block, false⟩],
        [⟨⟨6, 8⟩, ⟨7, 7⟩⟩, ⟨⟨13, 16⟩, ⟨14, 15⟩⟩]) := by decide +kernel
  cases hnew : new d with
  | error e =>
    rw [hnew] at hfound
    cases hfound
  | ok s =>
    rw [hnew] at hfound
    obtain ⟨hspans, hblocks⟩ := Prod.mk.inj (Option.some.inj hfound)
    exact ⟨s, rfl, hspans, hblocks, spans_are_well_placed hnew t⟩

end LiveTex.Scanner
