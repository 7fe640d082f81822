import Mathlib.Data.List.Sort
import LiveTex.Proofs.Span.Bytewise
import LiveTex.Proofs.Span.Isolation

/-!
What lies between dollars. The mathematics that a scan finds is said here without the scan: by the characters around an
occurrence and in it. The matches are the leftmost occurrences that do not overlap, first the blocks of the whole text
and then the mathematics in the lines between two blocks.
-/

namespace LiveTex

open Text (bytes)

/-- The matches in a window are in order and apart from each other, and they are exactly the occurrences in it that
overlap no earlier match. -/
structure Leftmost (occurs : Match → Prop) (window : Range) (ms : List Match) : Prop where
  apart : ms.Pairwise fun m m' => m.whole.stop ≤ m'.whole.start
  mem_iff : ∀ m, m ∈ ms ↔ (occurs m ∧ window.start ≤ m.whole.start ∧ m.whole.stop ≤ window.stop) ∧
    ∀ m' ∈ ms, m'.whole.start < m.whole.start → m'.whole.stop ≤ m.whole.start

namespace Leftmost

variable {occurs : Match → Prop} {window : Range} {start limit : Nat} {m : Match} {ms ms' : List Match}

/-- Two lists of leftmost matches have the same members, by the members in front of each. -/
theorem mem_iff_mem (h : Leftmost occurs window ms) (h' : Leftmost occurs window ms') (m : Match) :
    m ∈ ms ↔ m ∈ ms' := by
  -- Whether a match is in the list is decided by the matches that begin before it.
  induction hstart : m.whole.start using Nat.strongRecOn generalizing m with
  | ind start ih =>
    rw [h.mem_iff, h'.mem_iff]
    refine and_congr_right fun _ => forall_congr' fun m' => ?_
    constructor
    · intro hms hm' hlt
      exact hms ((ih _ (hstart ▸ hlt) m' rfl).mpr hm') hlt
    · intro hms hm' hlt
      exact hms ((ih _ (hstart ▸ hlt) m' rfl).mp hm') hlt

/-- There is one list of leftmost matches only, when no occurrence is empty. -/
theorem unique (hpos : ∀ m, occurs m → m.whole.start < m.whole.stop) (h : Leftmost occurs window ms)
    (h' : Leftmost occurs window ms') : ms = ms' := by
  have hsorted {l : List Match} (hl : Leftmost occurs window l) :
      l.Pairwise fun m m' => m.whole.start < m'.whole.start := by
    refine hl.apart.imp_of_mem fun {m m'} hm _ hle => ?_
    exact Nat.lt_of_lt_of_le (hpos m ((hl.mem_iff m).mp hm).1.1) hle
  have hnodup {l : List Match} (hl : Leftmost occurs window l) : l.Nodup :=
    (hsorted hl).imp fun hlt heq => by simp [heq] at hlt
  have hperm : ms.Perm ms' := (List.perm_ext_iff_of_nodup (hnodup h) (hnodup h')).mpr (h.mem_iff_mem h')
  refine hperm.eq_of_pairwise (fun m m' _ _ hlt hlt' => ?_) (hsorted h) (hsorted h')
  exact absurd hlt (Nat.lt_asymm hlt')

/-- A window without occurrences has no matches. -/
theorem nil (h : ∀ m, occurs m → window.start ≤ m.whole.start → window.stop < m.whole.stop) :
    Leftmost occurs window [] where
  apart := .nil
  mem_iff := by
    intro m
    simp only [List.not_mem_nil, false_iff, not_and]
    rintro ⟨hm, hstart, hstop⟩
    exact absurd hstop (Nat.not_le_of_lt (h m hm hstart))

/-- What begins where the window begins is the first match, and the others are those behind it. -/
theorem cons (hm : occurs m) (hpos : m.whole.start < m.whole.stop) (hstop : m.whole.stop ≤ limit)
    (hunique : ∀ m', occurs m' → m'.whole.start = m.whole.start → m' = m)
    (h : Leftmost occurs ⟨m.whole.stop, limit⟩ ms) : Leftmost occurs ⟨m.whole.start, limit⟩ (m :: ms) where
  apart := List.pairwise_cons.mpr ⟨fun m' hm' => ((h.mem_iff m').mp hm').1.2.1, h.apart⟩
  mem_iff := by
    intro m'
    rw [List.mem_cons, List.forall_mem_cons]
    constructor
    · rintro (rfl | hm')
      · refine ⟨⟨hm, Nat.le_refl _, hstop⟩, fun hlt => absurd hlt (Nat.lt_irrefl _), fun x hx hlt => ?_⟩
        have hbehind : m'.whole.stop ≤ x.whole.start := ((h.mem_iff x).mp hx).1.2.1
        omega
      · obtain ⟨⟨hoccurs, hstart, hlimit⟩, hclear⟩ := (h.mem_iff m').mp hm'
        exact ⟨⟨hoccurs, Nat.le_trans (Nat.le_of_lt hpos) hstart, hlimit⟩, fun _ => hstart, hclear⟩
    · rintro ⟨⟨hoccurs, hstart, hlimit⟩, hbehind, hclear⟩
      obtain hlt | heq := Nat.lt_or_eq_of_le hstart
      · exact .inr ((h.mem_iff m').mpr ⟨⟨hoccurs, hbehind hlt, hlimit⟩, hclear⟩)
      · exact .inl (hunique m' hoccurs heq.symm)

/-- Where no occurrence begins, the window can begin later. -/
theorem skip {next : Nat} (hnext : start ≤ next) (hnone : ∀ m, occurs m → start ≤ m.whole.start → m.whole.stop ≤ limit →
    next ≤ m.whole.start) (h : Leftmost occurs ⟨next, limit⟩ ms) : Leftmost occurs ⟨start, limit⟩ ms where
  apart := h.apart
  mem_iff := by
    intro m
    rw [h.mem_iff]
    refine and_congr_left fun _ => and_congr_right fun hm => ?_
    constructor
    · rintro ⟨hstart, hstop⟩
      exact ⟨Nat.le_trans hnext hstart, hstop⟩
    · rintro ⟨hstart, hstop⟩
      exact ⟨hnone m hm hstart hstop, hstop⟩

end Leftmost

namespace Dollar

/-- What stands between the double dollars of a block: one line that does not begin with a blank. The closing dollars
are the first two that directly follow the opening or have no backslash directly before them. -/
structure BlockContent (content : Text) : Prop where
  visible : ∀ c ∈ content.head?, Text.isBlank c = false
  oneLine : '\n' ∉ content
  closes : content.getLast? ≠ some '\\'
  first : ∀ front back, content ++ ['$', '$'] = front ++ ['$', '$'] ++ back → back ≠ [] → front.getLast? = some '\\'

/-- What stands between the dollars of mathematics in a line, when `before` is the character before the opening. The
closing dollar is the first one without a backslash directly before it. -/
structure LineContent (before : Option Char) (content : Text) : Prop where
  opens : before ≠ some '$'
  begins : ∃ c ∈ content.head?, c ≠ '$' ∧ c ≠ ',' ∧ c ≠ '.' ∧ Text.isBlank c = false
  closes : content.getLast? ≠ some '\\'
  first : ∀ front back, content = front ++ '$' :: back → front.getLast? = some '\\'
  ends : ∀ c ∈ content.getLast?, c ≠ '(' ∧ c ≠ '[' ∧ c ≠ '"' ∧ Text.isBlank c = false

/-- The content fits between the dollars of a display mode. -/
def Fits (mode : DisplayMode) (before : Option Char) (content : Text) : Prop :=
  match mode with
  | .inline => LineContent before content
  | .block => BlockContent content

/-- The text holds mathematics between dollars at the bytes of the match. -/
def Occurs (mode : DisplayMode) (t : Text) (m : Match) : Prop :=
  ∃ front content back, t = front ++ (mode.dollars ++ content ++ mode.dollars) ++ back ∧
    Fits mode front.getLast? content ∧ m = Bytewise.dollarMatch mode (bytes front) content

/-- The span of a match. A block without content has none. -/
def span? (mode : DisplayMode) (t : Text) (m : Match) : Option Span := do
  let content ← t.slice? m.latex.start m.latex.stop
  if content.isEmpty then none
  else
    let (latex, showResult) := Scanner.splitResult content
    some ⟨m.whole.start, m.whole.stop, latex, mode, showResult⟩

/-- From byte `start` on, the spans are those of the blocks and of the leftmost mathematics in each gap between them. -/
inductive Reports (t : Text) : (start : Nat) → (blocks : List Match) → List Span → Prop
  | last {start : Nat} {ms : List Match} (hms : Leftmost (Occurs .inline t) ⟨start, bytes t⟩ ms) :
    Reports t start [] (ms.filterMap (span? .inline t))
  | block {start : Nat} {b : Match} {ms blocks : List Match} {spans : List Span}
    (hms : Leftmost (Occurs .inline t) ⟨start, b.whole.start⟩ ms) (hspans : Reports t b.whole.stop blocks spans) :
    Reports t start (b :: blocks) (ms.filterMap (span? .inline t) ++ (span? .block t b).toList ++ spans)

section

variable {mode : DisplayMode} {before last : Option Char} {c : Char} {t content rest front piece back : Text}

theorem getLast?_cons_or (c : Char) (t : Text) (before : Option Char) :
    (c :: t).getLast?.or before = t.getLast?.or (some c) := by
  rw [List.getLast?_cons]
  cases t.getLast? <;> rfl

/-- Double dollars behind the content are the first that close it, when `before` is the character before the content. -/
structure ClosesBlock (before : Option Char) (content : Text) : Prop where
  oneLine : '\n' ∉ content
  closes : content.getLast?.or before ≠ some '\\'
  first : ∀ front back, content ++ ['$', '$'] = front ++ ['$', '$'] ++ back → back ≠ [] →
    front.getLast?.or before = some '\\'

theorem closesBlock_nil : ClosesBlock before [] ↔ before ≠ some '\\' := by
  constructor
  · exact fun h => h.closes
  · refine fun h => ⟨by simp, h, fun front back heq hback => ?_⟩
    have hlength := congrArg List.length heq
    have hpos := List.length_pos_iff.mpr hback
    simp only [List.length_append, List.length_cons, List.length_nil] at hlength
    omega

theorem closesBlock_cons : ClosesBlock before (c :: content) ↔
    c ≠ '\n' ∧ (c = '$' → (content ++ ['$', '$']).head? = some '$' → before = some '\\') ∧ ClosesBlock (some c) content := by
  constructor
  · rintro ⟨hline, hcloses, hfirst⟩
    rw [getLast?_cons_or] at hcloses
    refine ⟨fun hc => hline (hc ▸ .head _), ?_, fun hmem => hline (.tail _ hmem), hcloses, fun front back heq hback => ?_⟩
    · rintro rfl hhead
      obtain ⟨back, hback⟩ := List.head?_eq_some_iff.mp hhead
      refine hfirst [] back (by simp [hback]) ?_
      rintro rfl
      simpa using congrArg List.length hback
    · rw [← getLast?_cons_or c]
      exact hfirst (c :: front) back (by simp [heq]) hback
  · rintro ⟨hline, hopen, hmem, hcloses, hfirst⟩
    refine ⟨?_, by rwa [getLast?_cons_or], fun front back heq hback => ?_⟩
    · rintro (_ | ⟨_, h⟩)
      · exact hline rfl
      · exact hmem h
    · cases front with
      | nil =>
        obtain ⟨rfl, hrest⟩ := List.cons.inj heq
        exact hopen rfl (congrArg List.head? hrest)
      | cons d front =>
        obtain ⟨rfl, hrest⟩ := List.cons.inj heq
        rw [getLast?_cons_or]
        exact hfirst front back hrest hback

theorem untilDoubleDollar_cons (before : Option Char) (c : Char) (t : Text) : untilDoubleDollar before (c :: t) =
    if c = '$' ∧ t.head? = some '$' ∧ before ≠ some '\\' then some ([], t.tail)
    else if c = '\n' then none
    else (untilDoubleDollar (some c) t).map fun (content, rest) => (c :: content, rest) := by
  cases t with
  | nil => simp [untilDoubleDollar]
  | cons d t => simp [untilDoubleDollar, and_assoc]

theorem untilDoubleDollar_eq_some_iff : untilDoubleDollar before t = some (content, rest) ↔
    t = content ++ ['$', '$'] ++ rest ∧ ClosesBlock before content := by
  induction t generalizing before content with
  | nil => simp [untilDoubleDollar]
  | cons c t ih =>
    rw [untilDoubleDollar_cons]
    split
    · next hcloses =>
      obtain ⟨rfl, hhead, hbefore⟩ := hcloses
      obtain ⟨t, rfl⟩ := List.head?_eq_some_iff.mp hhead
      cases content with
      | nil => simp [closesBlock_nil, hbefore]
      | cons d content =>
        refine iff_of_false (by simp) ?_
        rintro ⟨ht, hcontent⟩
        obtain ⟨rfl, hrest⟩ := List.cons.inj ht
        refine hbefore ((closesBlock_cons.mp hcontent).2.1 rfl ?_)
        cases content with
        | nil => rfl
        | cons e content => exact congrArg some (List.cons.inj hrest).1.symm
    · next hopen =>
      split
      · next hline =>
        refine iff_of_false (by simp) ?_
        rintro ⟨ht, hcontent⟩
        cases content with
        | nil => exact absurd (hline ▸ (List.cons.inj ht).1) (by decide)
        | cons d content => exact (closesBlock_cons.mp hcontent).1 ((List.cons.inj ht).1 ▸ hline)
      · next hline =>
        rw [Option.map_eq_some_iff]
        constructor
        · rintro ⟨⟨content, rest⟩, hfound, hpair⟩
          cases hpair
          obtain ⟨rfl, hcontent⟩ := ih.mp hfound
          refine ⟨rfl, closesBlock_cons.mpr ⟨hline, fun hc hhead => ?_, hcontent⟩⟩
          by_contra hbefore
          refine hopen ⟨hc, ?_, hbefore⟩
          cases content with
          | nil => rfl
          | cons d content => exact hhead
        · rintro ⟨ht, hcontent⟩
          cases content with
          | nil =>
            obtain ⟨rfl, rfl⟩ := List.cons.inj ht
            exact absurd ⟨rfl, rfl, closesBlock_nil.mp hcontent⟩ hopen
          | cons d content =>
            obtain ⟨rfl, hrest⟩ := List.cons.inj ht
            exact ⟨(content, rest), ih.mpr ⟨hrest, (closesBlock_cons.mp hcontent).2.2⟩, rfl⟩

/-- A dollar behind the content is the first that closes it, when `last` is the character before the content. -/
structure ClosesLine (last : Option Char) (content : Text) : Prop where
  ends : (content.getLast?.or last).any ends = true
  first : ∀ front back, content = front ++ '$' :: back → front.getLast?.or last = some '\\'

theorem closesLine_nil : ClosesLine last [] ↔ last.any ends = true :=
  ⟨fun h => h.ends, fun h => ⟨h, by simp⟩⟩

theorem closesLine_cons :
    ClosesLine last (c :: content) ↔ (c = '$' → last = some '\\') ∧ ClosesLine (some c) content := by
  constructor
  · rintro ⟨hends, hfirst⟩
    rw [getLast?_cons_or] at hends
    refine ⟨fun hc => hfirst [] content (by rw [hc]; rfl), hends, fun front back heq => ?_⟩
    rw [← getLast?_cons_or c]
    exact hfirst (c :: front) back (by rw [heq]; rfl)
  · rintro ⟨hopen, hends, hfirst⟩
    refine ⟨by rwa [getLast?_cons_or], fun front back heq => ?_⟩
    cases front with
    | nil => exact hopen (List.cons.inj heq).1
    | cons d front =>
      obtain ⟨rfl, hrest⟩ := List.cons.inj heq
      rw [getLast?_cons_or]
      exact hfirst front back hrest

theorem untilDollar_cons (last : Option Char) (c : Char) (t : Text) : untilDollar last (c :: t) =
    if c = '$' then if last.any ends then some ([], t) else none
    else if c = '\\' ∧ t.head? = some '$' then
      (untilDollar (some '$') t.tail).map fun (content, rest) => (c :: '$' :: content, rest)
    else (untilDollar (some c) t).map fun (content, rest) => (c :: content, rest) := by
  cases t with
  | nil =>
    by_cases hc : c = '$' <;> simp [untilDollar, hc]
  | cons d t =>
    rw [untilDollar]
    by_cases hd : d = '$' <;> simp [hd]

theorem untilDollar_eq_some_iff (hlast : last = some '\\' → t.head? ≠ some '$') :
    untilDollar last t = some (content, rest) ↔ t = content ++ ['$'] ++ rest ∧ ClosesLine last content := by
  induction hlength : t.length using Nat.strongRecOn generalizing last t content with
  | ind n ih =>
    cases t with
    | nil => simp [untilDollar]
    | cons c t =>
      rw [untilDollar_cons]
      split
      · next hc =>
        -- This dollar has no backslash before it, so the content ends here or nowhere.
        subst hc
        cases content with
        | nil =>
          rw [closesLine_nil]
          by_cases hends : last.any ends = true <;> simp [hends]
        | cons d content =>
          refine iff_of_false (by split <;> simp) ?_
          rintro ⟨ht, hcontent⟩
          obtain ⟨rfl, -⟩ := List.cons.inj ht
          exact hlast ((closesLine_cons.mp hcontent).1 rfl) rfl
      · next hc =>
        split
        · next hescape =>
          obtain ⟨rfl, hhead⟩ := hescape
          obtain ⟨t, rfl⟩ := List.head?_eq_some_iff.mp hhead
          have ih := @ih t.length (by rw [← hlength, List.length_cons, List.length_cons]; omega) (some '$') t
          rw [Option.map_eq_some_iff]
          constructor
          · rintro ⟨⟨content, rest⟩, hfound, hpair⟩
            cases hpair
            obtain ⟨rfl, hcontent⟩ := (ih (by simp) rfl).mp hfound
            exact ⟨rfl, closesLine_cons.mpr ⟨by simp, closesLine_cons.mpr ⟨fun _ => rfl, hcontent⟩⟩⟩
          · rintro ⟨ht, hcontent⟩
            obtain _ | ⟨d, _ | ⟨e, content⟩⟩ := content
            · exact absurd (List.cons.inj ht).1 hc
            · -- The backslash would be the end of the content.
              obtain ⟨rfl, -⟩ := List.cons.inj ht
              exact absurd (closesLine_cons.mp hcontent).2.ends (by decide)
            · obtain ⟨rfl, hrest⟩ := List.cons.inj ht
              obtain ⟨rfl, htail⟩ := List.cons.inj hrest
              have hinner := (closesLine_cons.mp (closesLine_cons.mp hcontent).2).2
              exact ⟨(content, rest), (ih (by simp) rfl).mpr ⟨htail, hinner⟩, rfl⟩
        · next hescape =>
          have ih := @ih t.length (by simp [← hlength]) (some c) t
          rw [Option.map_eq_some_iff]
          constructor
          · rintro ⟨⟨content, rest⟩, hfound, hpair⟩
            cases hpair
            obtain ⟨rfl, hcontent⟩ := (ih (by simpa using hescape) rfl).mp hfound
            exact ⟨rfl, closesLine_cons.mpr ⟨fun heq => absurd heq hc, hcontent⟩⟩
          · rintro ⟨ht, hcontent⟩
            cases content with
            | nil => exact absurd (List.cons.inj ht).1 hc
            | cons d content =>
              obtain ⟨rfl, hrest⟩ := List.cons.inj ht
              exact ⟨(content, rest), (ih (by simpa using hescape) rfl).mpr ⟨hrest, (closesLine_cons.mp hcontent).2⟩, rfl⟩

theorem blockContent_iff :
    BlockContent content ↔ (∀ c ∈ content.head?, Text.isBlank c = false) ∧ ClosesBlock none content := by
  constructor
  · rintro ⟨hvisible, hline, hcloses, hfirst⟩
    exact ⟨hvisible, hline, by rwa [Option.or_none], by simpa only [Option.or_none] using hfirst⟩
  · rintro ⟨hvisible, hline, hcloses, hfirst⟩
    exact ⟨hvisible, hline, by rwa [Option.or_none] at hcloses, by simpa only [Option.or_none] using hfirst⟩

theorem lineContent_iff : LineContent before content ↔
    before ≠ some '$' ∧ content.head?.any begins = true ∧ ClosesLine none content := by
  constructor
  · rintro ⟨hopens, ⟨c, hc, hbegins⟩, hcloses, hfirst, hends⟩
    obtain ⟨more, rfl⟩ := List.head?_eq_some_iff.mp hc
    have hlast := List.getLast?_eq_some_getLast (List.cons_ne_nil c more)
    refine ⟨hopens, by simpa [begins, and_assoc] using hbegins, ?_, by simpa only [Option.or_none] using hfirst⟩
    have hends := hends _ hlast
    rw [hlast] at hcloses ⊢
    simp_all [ends]
  · rintro ⟨hopens, hbegins, hends, hfirst⟩
    rw [Option.or_none] at hends
    refine ⟨hopens, ?_, ?_, by simpa only [Option.or_none] using hfirst, ?_⟩
    · simpa [begins, Option.any_eq_true, and_assoc] using hbegins
    · intro hlast
      rw [hlast] at hends
      exact absurd hends (by decide)
    · intro c hc
      rw [Option.mem_def.mp hc] at hends
      simp_all [ends]

theorem block?_eq_some_iff :
    block? t = some (content, rest) ↔ t = ['$', '$'] ++ content ++ ['$', '$'] ++ rest ∧ BlockContent content := by
  have hdollar : Text.isBlank '$' = false := by decide
  have hvisible_iff : ¬ content.head?.any Text.isBlank = true ↔ ∀ c ∈ content.head?, Text.isBlank c = false := by
    cases content <;> simp
  have hhead : (content ++ ['$', '$'] ++ rest).head?.any Text.isBlank = content.head?.any Text.isBlank := by
    cases content <;> simp [hdollar]
  simp only [block?, Option.bind_eq_bind, Option.bind_eq_some_iff, Text.after?_eq_some_iff, blockContent_iff]
  constructor
  · rintro ⟨body, rfl, h⟩
    split at h
    · cases h
    · next hvisible =>
      obtain ⟨rfl, hcontent⟩ := untilDoubleDollar_eq_some_iff.mp h
      rw [hhead] at hvisible
      exact ⟨by simp, hvisible_iff.mp hvisible, hcontent⟩
  · rintro ⟨rfl, hvisible, hcontent⟩
    refine ⟨content ++ ['$', '$'] ++ rest, by simp, ?_⟩
    rw [hhead, if_neg (hvisible_iff.mpr hvisible)]
    exact untilDoubleDollar_eq_some_iff.mpr ⟨rfl, hcontent⟩

theorem inline?_eq_some_iff :
    inline? before t = some (content, rest) ↔ t = ['$'] ++ content ++ ['$'] ++ rest ∧ LineContent before content := by
  have hdollar : begins '$' = false := by decide
  have hhead (hends : ClosesLine none content) :
      (content ++ ['$'] ++ rest).head?.any begins = content.head?.any begins := by
    cases content with
    | nil => exact absurd hends.ends (by decide)
    | cons c content => rfl
  simp only [inline?, Option.bind_eq_bind, Option.bind_eq_some_iff, Text.after?_eq_some_iff, lineContent_iff]
  constructor
  · rintro ⟨body, rfl, h⟩
    split at h
    · cases h
    · next hopens =>
      obtain ⟨rfl, hcontent⟩ := (untilDollar_eq_some_iff (by simp)).mp h
      rw [hhead hcontent] at hopens
      simp only [Bool.or_eq_true, beq_iff_eq, Bool.not_eq_true', not_or, Bool.not_eq_false] at hopens
      exact ⟨by simp, hopens.1, hopens.2, hcontent⟩
  · rintro ⟨rfl, hopens, hbegins, hcontent⟩
    refine ⟨content ++ ['$'] ++ rest, by simp, ?_⟩
    rw [hhead hcontent, if_neg (by simp [hopens, hbegins])]
    exact (untilDollar_eq_some_iff (by simp)).mpr ⟨rfl, hcontent⟩

/-- What a text begins with, said without a scan. -/
theorem head?_eq_some_iff : head? mode before t = some (content, rest) ↔
    t = mode.dollars ++ content ++ mode.dollars ++ rest ∧ Fits mode before content := by
  cases mode with
  | inline => exact inline?_eq_some_iff
  | block => exact block?_eq_some_iff

/-- An occurrence that begins where a piece of the text begins and ends in the piece is what the piece begins with. -/
theorem Occurs.exists_head? {m : Match} (h : Occurs mode (front ++ piece ++ back) m) (hstart : m.whole.start = bytes front)
    (hstop : m.whole.stop ≤ bytes front + bytes piece) : ∃ content rest,
      head? mode front.getLast? piece = some (content, rest) ∧ m = Bytewise.dollarMatch mode (bytes front) content := by
  obtain ⟨front', content, back', ht, hfits, rfl⟩ := h
  rw [List.append_assoc, List.append_assoc front'] at ht
  obtain ⟨rfl, hpiece⟩ := Text.append_inj_of_bytes ht hstart.symm
  have hle : bytes (mode.dollars ++ content ++ mode.dollars) ≤ bytes piece := Nat.le_of_add_le_add_left hstop
  obtain ⟨rest, rfl, -⟩ := Text.exists_append_of_bytes_le hpiece.symm hle
  exact ⟨content, rest, head?_eq_some_iff.mpr ⟨rfl, hfits⟩, rfl⟩

/-- What a piece of the text begins with is an occurrence. -/
theorem occurs_of_head? (h : head? mode front.getLast? piece = some (content, rest)) (back : Text) :
    Occurs mode (front ++ piece ++ back) (Bytewise.dollarMatch mode (bytes front) content) := by
  obtain ⟨rfl, hfits⟩ := head?_eq_some_iff.mp h
  exact ⟨front, content, rest ++ back, by simp, hfits, rfl⟩

theorem Occurs.start_lt_stop {m : Match} (h : Occurs mode t m) : m.whole.start < m.whole.stop := by
  obtain ⟨front, content, back, -, -, rfl⟩ := h
  have hdollars : 0 < bytes mode.dollars := by cases mode <;> decide
  simp only [Bytewise.dollarMatch, Text.bytes_append]
  omega

/-- Where mathematics begins in a text, its closing dollars are determined. -/
theorem Occurs.eq_of_start_eq {m m' : Match} (h : Occurs mode t m) (h' : Occurs mode t m')
    (hstart : m.whole.start = m'.whole.start) : m = m' := by
  obtain ⟨front, content, back, ht, hfits, rfl⟩ := h
  obtain ⟨front', content', back', ht', hfits', rfl⟩ := h'
  rw [List.append_assoc] at ht ht'
  obtain ⟨rfl, hrest⟩ := Text.append_inj_of_bytes (ht.symm.trans ht') hstart
  have hhead := head?_eq_some_iff.mpr ⟨hrest, hfits'⟩
  rw [head?_eq_some_iff.mpr ⟨rfl, hfits⟩] at hhead
  cases hhead
  rfl

/-- Mathematics begins at a character, so behind one place it does not begin before the next. -/
theorem Occurs.le_start {m : Match} (h : Occurs mode (front ++ [c] ++ t ++ back) m) (hstart : bytes front < m.whole.start) :
    bytes (front ++ [c]) ≤ m.whole.start := by
  obtain ⟨front', content, back', ht, -, rfl⟩ := h
  rw [List.append_assoc, List.append_assoc, List.append_assoc front'] at ht
  obtain ⟨passed, rfl, hpassed⟩ := Text.exists_append_of_bytes_le ht (Nat.le_of_lt hstart)
  cases passed with
  | nil => simp [Bytewise.dollarMatch] at hstart
  | cons d passed =>
    obtain ⟨rfl, -⟩ := List.cons.inj hpassed
    simp [Bytewise.dollarMatch, ← Nat.add_assoc]

/-- The occurrences of the cut are the leftmost ones in the piece of text that is cut. -/
theorem leftmost_cut (mode : DisplayMode) (front piece back : Text) :
    Leftmost (Occurs mode (front ++ piece ++ back)) ⟨bytes front, bytes front + bytes piece⟩
      (Occurrence.located (bytes front) (cut mode front.getLast? piece).occurrences) := by
  generalize hbefore : front.getLast? = before
  induction before, piece using cut_induction mode generalizing front with
  | nil before =>
    rw [cut_nil]
    refine .nil fun m hm hstart => ?_
    have hpos := hm.start_lt_stop
    simp only [Text.bytes_nil, Nat.add_zero] at hstart ⊢
    omega
  | found before c t content rest hhead ih =>
    subst hbefore
    have hpiece := eq_append_of_head? hhead
    have hm := occurs_of_head? hhead back
    have hstop : bytes front + bytes (c :: t) = bytes (front ++ (mode.dollars ++ content ++ mode.dollars)) + bytes rest := by
      simp only [hpiece, Text.bytes_append]
      omega
    have htext : front ++ (c :: t) ++ back = front ++ (mode.dollars ++ content ++ mode.dollars) ++ rest ++ back := by
      simp [hpiece]
    have hrest := ih _ (getLast?_append_dollars mode front content)
    have hlimit : bytes front + bytes (mode.dollars ++ content ++ mode.dollars) ≤ bytes front + bytes (c :: t) := by
      rw [hstop, ← Text.bytes_append]
      exact Nat.le_add_right ..
    rw [← htext, ← hstop, Text.bytes_append] at hrest
    rw [cut_of_some hhead]
    exact .cons hm hm.start_lt_stop hlimit (fun m' hm' heq => hm'.eq_of_start_eq hm heq) hrest
  | skip before c t hhead ih =>
    subst hbefore
    have hrest := ih (front ++ [c]) (List.getLast?_concat ..)
    have hstop : bytes front + bytes (c :: t) = bytes (front ++ [c]) + bytes t := by
      simp [Nat.add_assoc]
    have hbytes : bytes (front ++ [c]) = bytes front + c.utf8Size := by simp
    have htext : front ++ (c :: t) ++ back = front ++ [c] ++ t ++ back := by simp
    rw [cut_of_none hhead, Bytewise.located_skip, ← hbytes, hstop, htext]
    refine .skip (by rw [hbytes]; exact Nat.le_add_right ..) (fun m hm hstart hlimit => ?_) hrest
    obtain hlt | heq := Nat.lt_or_eq_of_le hstart
    · exact hm.le_start hlt
    · rw [← htext] at hm
      rw [← hstop] at hlimit
      obtain ⟨content, rest, hfound, -⟩ := hm.exists_head? heq.symm hlimit
      cases hhead.symm.trans hfound

/-- The span of a match is the one of the occurrence that the text holds there. -/
theorem span?_eq {o : Occurrence} {start : Nat} (ht : t = front ++ (o.gap ++ o.whole) ++ back) (ho : Encloses mode o)
    (hstart : start = bytes front + bytes o.gap) :
    span? mode t ⟨⟨start, start + bytes o.whole⟩, ⟨start + bytes o.opening, start + bytes o.opening + bytes o.latex⟩⟩ =
      Scanner.span? mode (bytes front) o := by
  have ht' : t = front ++ o.gap ++ o.opening ++ o.latex ++ (o.closing ++ back) := by simp [ht, Occurrence.whole]
  have hcontent : t.slice? (start + bytes o.opening) (start + bytes o.opening + bytes o.latex) = some o.latex :=
    Bytewise.slice?_eq ht' (by simp [hstart, Nat.add_assoc]) rfl
  have hsource := ho.source_eq
  simp only [span?, Scanner.span?, hcontent, Option.bind_eq_bind, Option.bind_some, ← hstart]
  cases mode with
  | inline =>
    rw [DisplayMode.source] at hsource
    simp only [hsource]
  | block => rfl

/-- The spans of a row of occurrences are those of their matches. -/
theorem filterMap_span?_located {os : List Occurrence} (ht : t = front ++ Occurrence.texts os ++ back)
    (hos : ∀ o ∈ os, Encloses mode o) :
    (Occurrence.located (bytes front) os).filterMap (span? mode t) = Scanner.spans mode (bytes front) os := by
  induction os generalizing front with
  | nil => rfl
  | cons o os ih =>
    have hrest : t = front ++ (o.gap ++ o.whole) ++ Occurrence.texts os ++ back := by simp [ht]
    have hnext := ih hrest fun u hu => hos u (.tail _ hu)
    have hfirst := span?_eq (hrest.trans (List.append_assoc ..)) (hos o (.head _)) rfl
    rw [Text.bytes_append, Text.bytes_append, ← Nat.add_assoc] at hnext
    rw [Occurrence.located, Scanner.spans, ← hfirst, ← hnext]
    cases hspan : span? mode t _ with
    | none => rw [List.filterMap_cons_none hspan, Option.toList_none, List.nil_append]
    | some span => rw [List.filterMap_cons_some hspan, Option.toList_some, List.singleton_append]

/-- The matches and the spans of lines that lie between two places of the text. -/
theorem exists_leftmost_inlineSpans (ht : t = front ++ piece ++ back) :
    ∃ ms, Leftmost (Occurs .inline t) ⟨bytes front, bytes front + bytes piece⟩ ms ∧
      ms.filterMap (span? .inline t) = Scanner.dollar.inlineSpans (bytes front) front.getLast? piece := by
  subst ht
  refine ⟨_, leftmost_cut .inline front piece back, ?_⟩
  have hcut := text_cut .inline front.getLast? piece
  rw [Cut.text_eq] at hcut
  have ht : front ++ piece ++ back = front ++ Occurrence.texts (cut .inline front.getLast? piece).occurrences ++
      ((cut .inline front.getLast? piece).rest ++ back) := by
    rw [← List.append_assoc, List.append_assoc front (Occurrence.texts _), hcut]
  rw [Scanner.inlineSpans_dollar]
  exact filterMap_span?_located ht (encloses_of_mem_cut .inline _ piece)

/-- What the scan finds between and in a row of blocks. -/
theorem reports_around {os : List Occurrence} (ht : t = front ++ Occurrence.texts os ++ rest)
    (hos : ∀ o ∈ os, Encloses .block o) : Reports t (bytes front) (Occurrence.located (bytes front) os)
      (Scanner.dollar.around (bytes front) front.getLast? rest os) := by
  induction os generalizing front with
  | nil =>
    have ht' : t = front ++ rest ++ [] := by simpa using ht
    have hbytes : bytes t = bytes front + bytes rest := by simp [ht]
    obtain ⟨ms, hms, hspans⟩ := exists_leftmost_inlineSpans ht'
    rw [Occurrence.located, Scanner.around, ← hspans]
    exact .last (hbytes ▸ hms)
  | cons o os ih =>
    have hgap : t = front ++ o.gap ++ (o.whole ++ Occurrence.texts os ++ rest) := by simp [ht]
    have hwhole : t = front ++ (o.gap ++ o.whole) ++ (Occurrence.texts os ++ rest) := by simp [ht]
    have hrest : t = front ++ (o.gap ++ o.whole) ++ Occurrence.texts os ++ rest := by simp [ht]
    obtain ⟨ms, hms, hspans⟩ := exists_leftmost_inlineSpans hgap
    have hblock := span?_eq hwhole (hos o (.head _)) rfl
    have hnext := ih hrest fun u hu => hos u (.tail _ hu)
    rw [Text.bytes_append, Text.bytes_append, ← Nat.add_assoc, List.getLast?_append] at hnext
    rw [Scanner.around, ← hspans, ← hblock]
    exact .block hms hnext

/-- A row of blocks leaves no choice what is reported. -/
theorem Reports.unique {start : Nat} {blocks : List Match} {spans spans' : List Span} (h : Reports t start blocks spans)
    (h' : Reports t start blocks spans') : spans = spans' := by
  induction h generalizing spans' with
  | last hms =>
    cases h' with
    | last hms' => rw [hms.unique (fun _ => Occurs.start_lt_stop) hms']
  | block hms hspans ih =>
    cases h' with
    | block hms' hspans' => rw [hms.unique (fun _ => Occurs.start_lt_stop) hms', ih hspans']

end

end Dollar

/-- A scan for dollars finds the leftmost blocks of the text and the leftmost mathematics in the lines between them.
It misses none of them and finds nothing else. -/
theorem Scanner.dollar_scan_eq_iff_leftmost (t : Text) (spans : List Span) : dollar.scan t = spans ↔
    ∃ blocks, Leftmost (Dollar.Occurs .block t) ⟨0, bytes t⟩ blocks ∧ Dollar.Reports t 0 blocks spans := by
  have hblocks := Dollar.leftmost_cut .block [] t []
  have htext : t = [] ++ Occurrence.texts (Dollar.cut .block none t).occurrences ++ (Dollar.cut .block none t).rest :=
    (Dollar.text_cut .block none t).symm
  have hscan := Dollar.reports_around htext (Dollar.encloses_of_mem_cut .block none t)
  simp only [List.nil_append, List.append_nil, Text.bytes_nil, Nat.zero_add, List.getLast?_nil] at hblocks hscan
  constructor
  · rintro rfl
    exact ⟨_, hblocks, hscan⟩
  · rintro ⟨blocks, hleftmost, hreports⟩
    obtain rfl := hleftmost.unique (fun _ => Dollar.Occurs.start_lt_stop) hblocks
    exact hscan.unique hreports

end LiveTex
