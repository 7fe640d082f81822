import LiveTex.Proofs.Formula.Machine
import LiveTex.Proofs.Formula.Soundness

/-!
The machine answers. Whatever it begins to read, with so many levels left, it comes to what the rule with that much room
answers, and it is then where it began: the stack and the counter are what they were. This is how it goes with values and
with failures alike, and so the machine comes to an end on every token list.
-/

namespace LiveTex.Formula

namespace Machine

/-- Some steps lead from one machine to the other. -/
def Leads (m m' : Machine) : Prop := ∃ n, next^[n] m = m'

namespace Leads

variable {m m' m'' : Machine} {frame : Frame} {stack : List Frame} {depth : Nat} {x : Except Error (Expr × List Token)}

theorem refl (m : Machine) : Leads m m := ⟨0, rfl⟩

theorem trans (h : Leads m m') (h' : Leads m' m'') : Leads m m'' := by
  obtain ⟨n, rfl⟩ := h
  obtain ⟨k, rfl⟩ := h'
  exact ⟨k + n, Function.iterate_add_apply next k n m⟩

theorem step (h : Leads m.next m') : Leads m m' := by
  obtain ⟨n, hn⟩ := h
  exact ⟨n + 1, hn⟩

/-- When an answer is there, the frame goes on with a value, and a failure passes it by. -/
theorem bind {f : Expr × List Token → Except Error (Expr × List Token)} (h : Leads m ⟨.of x, frame :: stack, depth⟩)
    (hframe : frame.isLevel = false)
    (hf : ∀ e ts, x = .ok (e, ts) → Leads ⟨.value e ts, frame :: stack, depth⟩ ⟨.of (f (e, ts)), stack, depth⟩) :
    Leads m ⟨.of (x >>= f), stack, depth⟩ := by
  refine h.trans ?_
  cases x with
  | ok p => exact hf p.1 p.2 rfl
  | error reason =>
    refine step ?_
    simp only [Control.of, next, popped, hframe, Bool.false_eq_true, ↓reduceIte]
    exact refl _

/-- When an answer is there, a level is left. -/
theorem leave (h : Leads m ⟨.of x, .level :: stack, depth + 1⟩) : Leads m ⟨.of x, stack, depth⟩ := by
  refine h.trans ?_
  cases x <;> exact step (refl _)

end Leads

end Machine

open Machine (Leads next popped resume start nested readArguments readCall readCommand readSigned readPrimary)

theorem OpenCall.tree_func (f : Func) (name : Text) (power : Option Expr) (args : List Expr) (ts : List Token) :
    (do let e ← tree ⟨name, .func f, power⟩ args; return (e, ts)) =
      if f.arity.admits args.length then (.ok (raised (.call f args) power, ts) : Except Error (Expr × List Token))
      else .error (.arity name f.arity args.length) := by
  simp only [tree]
  split <;> rfl

theorem OpenCall.tree_log (base : Expr) (name : Text) (power : Option Expr) (args : List Expr) (ts : List Token) :
    (do let e ← tree ⟨name, .log base, power⟩ args; return (e, ts)) =
      match args with
      | [e] => (.ok (raised (.log base e) power, ts) : Except Error (Expr × List Token))
      | _ => .error (.arity name .one args.length) := by
  obtain _ | ⟨e, _ | ⟨e', es⟩⟩ := args <;> rfl

/-- With so many levels left, the machine comes to the result when it begins to read something. -/
def Answers (room : Nat) (goal : Goal) (barred : Bool) (ts : List Token) (result : Except Error (Expr × List Token)) :
    Prop :=
  ∀ stack depth, depth + room = maxDepth → Leads ⟨.read goal barred ts, stack, depth⟩ ⟨.of result, stack, depth⟩

/-- The machine comes to what the rule answers for no more than `bound` tokens. -/
structure Rule.Answered (rule : Rule) (room bound : Nat) (goal : Goal) (phrase : Bool → Phrase) : Prop where
  answers : ∀ barred ts, ts.length ≤ bound → Answers room goal barred ts (rule barred ts)
  sound : rule.Sound room bound phrase

namespace Level

/-- The machine comes to what the two rules of the level answer. -/
structure Answered (deeper : Level) (room : Nat) : Prop where
  signed : ∀ barred ts, Answers room .signed barred ts (deeper.signed barred ts)
  primary : ∀ barred ts, Answers room .primary barred ts (deeper.primary barred ts)
  sound : deeper.Sound room

namespace Answered

variable {room bound depth : Nat} {deeper : Level} {exponent : Rule} {barred : Bool} {ts : List Token} {stack : List Frame}

theorem answers_power (h : deeper.Answered room) (hexponent : exponent.Answered room bound .exponent fun _ => .exponent)
    (hts : ts.length ≤ bound) : Answers room .power barred ts (deeper.power exponent barred ts) := by
  intro stack depth hroom
  rw [power, marked, bind_assoc]
  refine .step (.bind (h.primary barred ts (.base barred :: stack) depth hroom) rfl fun e ts₁ hprimary => .step ?_)
  simp only [next, popped, resume]
  cases hcaret : passing? .caret (factorials e ts₁).2 with
  | none =>
    simp only [pure_bind, hcaret]
    exact .refl _
  | some ts₂ =>
    simp only [pure_bind, hcaret]
    obtain ⟨t, -, hmarks⟩ := passing?_eq_some hcaret
    have hlength := (h.sound.primary _ barred ts e ts₁ (Nat.le_refl _) hprimary).length_lt rfl
    have hlength' := (reads_factorials room e ts₁).length_le
    rw [hmarks, List.length_cons] at hlength'
    have hbound : ts₂.length ≤ bound := by omega
    exact .bind (hexponent.answers barred ts₂ hbound _ depth hroom) rfl fun x ts₃ _ => .step (.refl _)

theorem leads_factors (h : deeper.Answered room) (hexponent : exponent.Answered room bound .exponent fun _ => .exponent)
    (hroom : depth + room = maxDepth) {rounds : Nat} {e : Expr} {left : Option (Operator × Expr)} (hts : ts.length ≤ bound)
    (hrounds : ts.length ≤ rounds) : Leads ⟨.value e ts, .factor barred left :: stack, depth⟩
      ⟨.of (deeper.factors exponent barred rounds (joined e left) ts), stack, depth⟩ := by
  -- Every round takes a token, so the loop of the rule ends with the tokens and not with its rounds.
  induction rounds generalizing e left ts with
  | zero =>
    obtain rfl := List.eq_nil_of_length_eq_zero (Nat.le_zero.mp hrounds)
    exact .step (.refl _)
  | succ rounds ih =>
    refine .step ?_
    simp only [next, popped, resume]
    rw [factors]
    cases hnext : Continuation.of barred ts with
    | operator op ts₁ =>
      obtain ⟨t, -, rfl⟩ := Continuation.of_eq_operator hnext
      rw [List.length_cons] at hts hrounds
      refine .bind (h.signed barred ts₁ _ depth hroom) rfl fun r ts₂ hright => ?_
      have hlength := (h.sound.signed _ barred ts₁ r ts₂ (Nat.le_refl _) hright).length_lt rfl
      exact ih (by omega) (by omega)
    | juxtaposed =>
      refine .bind (answers_power h hexponent hts _ depth hroom) rfl fun r ts₂ hright => ?_
      have hlength := (sound_power h.sound hexponent.sound barred ts r ts₂ hts hright).length_lt rfl
      exact ih (by omega) (by omega)
    | none => exact .refl _

theorem answers_product (h : deeper.Answered room) (hexponent : exponent.Answered room bound .exponent fun _ => .exponent)
    (hts : ts.length ≤ bound) : Answers room .product barred ts (deeper.product exponent barred ts) := by
  intro stack depth hroom
  refine .step (.bind (h.signed barred ts (.factor barred none :: stack) depth hroom) rfl fun e ts₁ hsigned => ?_)
  have hlength := (h.sound.signed _ barred ts e ts₁ (Nat.le_refl _) hsigned).length_lt rfl
  exact leads_factors h hexponent hroom (by omega) (Nat.le_refl _)

theorem leads_terms (h : deeper.Answered room) (hexponent : exponent.Answered room bound .exponent fun _ => .exponent)
    (hroom : depth + room = maxDepth) {rounds : Nat} {e : Expr} {left : Option (Operator × Expr)} (hts : ts.length ≤ bound)
    (hrounds : ts.length ≤ rounds) : Leads ⟨.value e ts, .term barred left :: stack, depth⟩
      ⟨.of (deeper.terms exponent barred rounds (joined e left) ts), stack, depth⟩ := by
  induction rounds generalizing e left ts with
  | zero =>
    obtain rfl := List.eq_nil_of_length_eq_zero (Nat.le_zero.mp hrounds)
    exact .step (.refl _)
  | succ rounds ih =>
    refine .step ?_
    simp only [next, popped, resume]
    cases ts with
    | nil => exact .refl _
    | cons t ts =>
      rw [List.length_cons] at hts hrounds
      rw [terms]
      cases hop : t.termOperator? with
      | none =>
        simp only [hop]
        exact .refl _
      | some op =>
        simp only [hop]
        refine .bind (answers_product h hexponent (by omega) _ depth hroom) rfl fun r ts₁ hright => ?_
        have hlength := (sound_product h.sound hexponent.sound barred ts r ts₁ (by omega) hright).length_lt rfl
        exact ih (by omega) (by omega)

theorem answers_sumWith (h : deeper.Answered room) (hexponent : exponent.Answered room bound .exponent fun _ => .exponent)
    (hts : ts.length ≤ bound) : Answers room .sum barred ts (deeper.sumWith exponent barred ts) := by
  intro stack depth hroom
  refine .step (.bind (answers_product h hexponent hts (.term barred none :: stack) depth hroom) rfl fun e ts₁ hfirst => ?_)
  have hlength := (sound_product h.sound hexponent.sound barred ts e ts₁ hts hfirst).length_lt rfl
  exact leads_terms h hexponent hroom (by omega) (Nat.le_refl _)

theorem answered_exponentWithin (h : deeper.Answered room) (bound : Nat) :
    (deeper.exponentWithin bound).Answered room bound .exponent fun _ => .exponent := by
  refine ⟨?_, sound_exponentWithin h.sound bound⟩
  induction bound with
  | zero =>
    intro barred ts hts stack depth hroom
    obtain rfl := List.eq_nil_of_length_eq_zero (Nat.le_zero.mp hts)
    exact .step (h.signed barred [] stack depth hroom)
  | succ bound ih =>
    intro barred ts hts stack depth hroom
    refine .step ?_
    simp only [next, start, exponentWithin]
    cases hbrace : passing? .leftBrace ts with
    | none => exact h.signed barred ts stack depth hroom
    | some ts₁ =>
      obtain ⟨t, -, rfl⟩ := passing?_eq_some hbrace
      rw [List.length_cons] at hts
      have hsum : Answers room .sum false ts₁ (deeper.sumWith (deeper.exponentWithin bound) false ts₁) :=
        answers_sumWith h ⟨ih, sound_exponentWithin h.sound bound⟩ (Nat.le_of_succ_le_succ hts)
      exact .step (.bind (hsum _ depth hroom) rfl fun e ts₂ _ => .step (.refl _))

theorem answers_exponent (h : deeper.Answered room) (barred : Bool) (ts : List Token) :
    Answers room .exponent barred ts (deeper.exponent barred ts) :=
  (answered_exponentWithin h ts.length).answers barred ts (Nat.le_refl _)

theorem answered_exponent (h : deeper.Answered room) (bound : Nat) :
    deeper.exponent.Answered room bound .exponent fun _ => .exponent :=
  ⟨fun barred ts _ => answers_exponent h barred ts, sound_exponent h.sound bound⟩

theorem answers_sum (h : deeper.Answered room) (barred : Bool) (ts : List Token) :
    Answers room .sum barred ts (deeper.sum barred ts) :=
  answers_sumWith h (answered_exponentWithin h ts.length) (Nat.le_refl _)

theorem answers_group (h : deeper.Answered room) (close : Token.Kind) (mark : Char) (barred : Bool) (ts : List Token) :
    Answers room (.group close mark) barred ts (deeper.group close mark ts) :=
  fun _ depth hroom => .step (.bind (answers_sum h false ts _ depth hroom) rfl fun _ _ _ => .step (.refl _))

theorem answers_argument (h : deeper.Answered room) (barred : Bool) (ts : List Token) :
    Answers room .argument barred ts (deeper.argument barred ts) := by
  intro stack depth hroom
  refine .step ?_
  simp only [next, start]
  rw [argument]
  cases hbrace : passing? .leftBrace ts with
  | none => exact h.primary barred ts stack depth hroom
  | some ts₁ => exact answers_group h .rightBrace '}' barred ts₁ stack depth hroom

/-! Calls. -/

variable {call : OpenCall}

theorem leads_list (h : deeper.Answered room) (hroom : depth + room = maxDepth) {close : Token.Kind} {mark : Char}
    {rounds : Nat} {e : Expr} {args : List Expr} (hrounds : ts.length ≤ rounds) :
    Leads ⟨.value e ts, .list call args close mark :: stack, depth⟩ ⟨.of do
      let (es, ts) ← deeper.sumsAfterComma rounds ts
      let ts ← expect close mark ts
      let e ← call.tree (args ++ e :: es)
      return (e, ts), stack, depth⟩ := by
  induction rounds generalizing e args ts with
  | zero =>
    obtain rfl := List.eq_nil_of_length_eq_zero (Nat.le_zero.mp hrounds)
    exact .step (.refl _)
  | succ rounds ih =>
    refine .step ?_
    simp only [next, popped, resume]
    rw [sumsAfterComma]
    cases hcomma : passing? .comma ts with
    | none => exact .refl _
    | some ts₁ =>
      obtain ⟨t, -, rfl⟩ := passing?_eq_some hcomma
      rw [List.length_cons] at hrounds
      simp only [bind_assoc, pure_bind]
      refine .bind (answers_sum h false ts₁ _ depth hroom) rfl fun x ts₂ hfirst => ?_
      have hlength := (sound_sum h.sound _ false ts₁ x ts₂ (Nat.le_refl _) hfirst).length_lt rfl
      have hmore := @ih ts₂ x (args ++ [e]) (by omega)
      simpa only [List.append_assoc, List.singleton_append] using hmore

/-- The arguments are read, and the tree of the call is the answer. -/
theorem leads_readArguments (h : deeper.Answered room) (hroom : depth + room = maxDepth) (control : Control) :
    Leads (readArguments ⟨control, stack, depth⟩ call barred ts) ⟨.of do
      let (args, ts) ← deeper.arguments barred ts
      let e ← call.tree args
      return (e, ts), stack, depth⟩ := by
  have hlist (close : Token.Kind) (mark : Char) (ts : List Token) :
      Leads ⟨.read .sum false ts, .list call [] close mark :: stack, depth⟩ ⟨.of do
        let (args, ts) ← deeper.listed close mark ts
        let e ← call.tree args
        return (e, ts), stack, depth⟩ := by
    simp only [listed, bind_assoc, pure_bind]
    exact .bind (answers_sum h false ts _ depth hroom) rfl fun e ts₁ _ => leads_list h hroom (Nat.le_refl _)
  unfold readArguments
  rw [arguments]
  cases hparen : passing? .leftParen ts with
  | some ts₁ => exact hlist .rightParen ')' ts₁
  | none =>
    cases hbrace : passing? .leftBrace ts with
    | some ts₁ => exact hlist .rightBrace '}' ts₁
    | none =>
      simp only [bind_assoc, pure_bind]
      exact .bind (h.signed barred ts _ depth hroom) rfl fun e ts₁ _ => .step (.refl _)

/-- The power and the arguments are read, and the tree of the call is the answer. -/
theorem leads_readCall (h : deeper.Answered room) (hroom : depth + room = maxDepth) (control : Control)
    (stack : List Frame) (name : Text) (callee : Callee) (barred : Bool) (ts : List Token) :
    Leads (readCall ⟨control, stack, depth⟩ name callee barred ts) ⟨.of do
      let (power, ts) ← deeper.functionPower barred ts
      let (args, ts) ← deeper.arguments barred ts
      let e ← OpenCall.tree ⟨name, callee, power⟩ args
      return (e, ts), stack, depth⟩ := by
  unfold readCall
  rw [functionPower]
  cases hcaret : passing? .caret ts with
  | none => exact leads_readArguments h hroom control
  | some ts₁ =>
    simp only [bind_assoc, pure_bind]
    exact .bind (answers_exponent h barred ts₁ _ depth hroom) rfl fun e ts₂ _ => .step (leads_readArguments h hroom _)

theorem leads_readCommand (h : deeper.Answered room) (hroom : depth + room = maxDepth) (control : Control) (name : Text) :
    Leads (readCommand ⟨control, stack, depth⟩ name barred ts)
      ⟨.of (deeper.command name barred ts), stack, depth⟩ := by
  have argument (barred : Bool) (ts : List Token) (frame : Frame) (stack : List Frame) :=
    answers_argument h barred ts (frame :: stack) depth hroom
  unfold readCommand
  rw [command]
  cases Command.ofName name with
  | fraction =>
    refine .bind (argument barred ts _ stack) rfl fun numerator ts₁ _ => .step ?_
    exact .bind (argument barred ts₁ _ stack) rfl fun denominator ts₂ _ => .step (.refl _)
  | root =>
    simp only [degree]
    cases hbracket : passing? .leftBracket ts with
    | none => exact .bind (argument barred ts _ stack) rfl fun radicand ts₁ _ => .step (.refl _)
    | some ts₁ =>
      simp only [bind_assoc, pure_bind]
      refine .bind (answers_group h .rightBracket ']' barred ts₁ _ depth hroom) rfl fun degree ts₂ _ => .step ?_
      exact .bind (argument barred ts₂ _ stack) rfl fun radicand ts₃ _ => .step (.refl _)
  | abs => exact .bind (argument barred ts _ stack) rfl fun e ts₁ _ => .step (.refl _)
  | log =>
    simp only [base]
    cases hunderscore : passing? .underscore ts with
    | none =>
      have hcall := leads_readCall h hroom control stack name (.log commonBase) barred ts
      simp only [OpenCall.tree_log] at hcall
      exact hcall
    | some ts₁ =>
      refine .bind (argument barred ts₁ _ stack) rfl fun b ts₂ _ => .step ?_
      have hcall := leads_readCall h hroom (.value b ts₂) stack name (.log b) barred ts₂
      simp only [OpenCall.tree_log] at hcall
      exact hcall
  | func f =>
    have hcall := leads_readCall h hroom control stack name (.func f) barred ts
    simp only [OpenCall.tree_func] at hcall
    exact hcall
  | unknown => exact .refl _

/-! Levels. -/

theorem leads_readSigned (h : deeper.Answered room) (hroom : depth + room = maxDepth) (control : Control) :
    Leads (readSigned ⟨control, stack, depth⟩ barred ts) ⟨.of (deeper.signedBody barred ts), stack, depth⟩ := by
  unfold readSigned
  rw [signedBody]
  cases hplus : passing? .plus ts with
  | some ts₁ => exact h.signed barred ts₁ stack depth hroom
  | none =>
    cases hminus : passing? .minus ts with
    | some ts₁ => exact .bind (h.signed barred ts₁ _ depth hroom) rfl fun e ts₂ _ => .step (.refl _)
    | none => exact answers_power h (answered_exponent h ts.length) (Nat.le_refl _) stack depth hroom

theorem leads_readPrimary (h : deeper.Answered room) (hroom : depth + room = maxDepth) (control : Control) :
    Leads (readPrimary ⟨control, stack, depth⟩ barred ts) ⟨.of (deeper.primaryBody barred ts), stack, depth⟩ := by
  cases ts with
  | nil => exact .refl _
  | cons t ts =>
    rw [primaryBody.eq_def]
    simp only [readPrimary]
    cases t.kind with
    | leftParen => exact answers_group h .rightParen ')' barred ts stack depth hroom
    | leftBracket => exact answers_group h .rightBracket ']' barred ts stack depth hroom
    | leftBrace => exact answers_group h .rightBrace '}' barred ts stack depth hroom
    | pipe => exact .bind (answers_sum h true ts _ depth hroom) rfl fun e ts₁ _ => .step (.refl _)
    | command => exact leads_readCommand h hroom control t.commandName
    | _ => exact .refl _

end Answered

end Level

section

variable {room depth : Nat} {stack : List Frame} {result : Except Error (Expr × List Token)}

/-- When no level is left, none is entered. -/
theorem leads_nested_of_full (hfull : depth = maxDepth) (control : Control) (stack : List Frame) (body : Machine → Machine) :
    Leads (nested ⟨control, stack, depth⟩ body) ⟨.of (.error (.nestingTooDeep maxDepth)), stack, depth⟩ := by
  refine .leave ?_
  simp only [nested]
  rw [if_pos (by omega)]
  exact .refl _

/-- A level is entered, and when what is read there is answered, it is left. -/
theorem leads_nested (hroom : depth + (room + 1) = maxDepth) (control : Control) (body : Machine → Machine)
    (hbody : ∀ control stack depth, depth + room = maxDepth →
      Leads (body ⟨control, stack, depth⟩) ⟨.of result, stack, depth⟩) :
    Leads (nested ⟨control, stack, depth⟩ body) ⟨.of result, stack, depth⟩ := by
  refine .leave ?_
  simp only [nested]
  rw [if_neg (by omega)]
  exact hbody _ _ _ (by omega)

end

theorem answered_level (room : Nat) : (level room).Answered room := by
  induction room with
  | zero =>
    refine ⟨fun barred ts stack depth hroom => .step ?_, fun barred ts stack depth hroom => .step ?_, sound_level 0⟩
    · exact leads_nested_of_full hroom _ stack fun m => m.readSigned barred ts
    · exact leads_nested_of_full hroom _ stack fun m => m.readPrimary barred ts
  | succ room ih =>
    refine ⟨fun barred ts stack depth hroom => .step ?_, fun barred ts stack depth hroom => .step ?_, sound_level (room + 1)⟩
    · exact leads_nested hroom _ (fun m => m.readSigned barred ts) fun control _ _ hroom => ih.leads_readSigned hroom control
    · exact leads_nested hroom _ (fun m => m.readPrimary barred ts) fun control _ _ hroom =>
        ih.leads_readPrimary hroom control

/-- The rule of a goal. -/
def Level.rule (deeper : Level) : Goal → Rule
  | .sum => deeper.sum
  | .product => deeper.product deeper.exponent
  | .signed => deeper.signed
  | .power => deeper.power deeper.exponent
  | .exponent => deeper.exponent
  | .primary => deeper.primary
  | .argument => deeper.argument
  | .group close mark => fun _ => deeper.group close mark

/-- Whatever is begun to be read is answered as its rule answers, and the stack and the counter are then as before. -/
theorem answers_rule (room : Nat) (goal : Goal) (barred : Bool) (ts : List Token) :
    Answers room goal barred ts ((level room).rule goal barred ts) := by
  have h := answered_level room
  cases goal with
  | sum => exact h.answers_sum barred ts
  | product => exact h.answers_product (h.answered_exponent ts.length) (Nat.le_refl _)
  | signed => exact h.signed barred ts
  | power => exact h.answers_power (h.answered_exponent ts.length) (Nat.le_refl _)
  | exponent => exact h.answers_exponent barred ts
  | primary => exact h.primary barred ts
  | argument => exact h.answers_argument barred ts
  | group close mark => exact h.answers_group close mark barred ts

end LiveTex.Formula
