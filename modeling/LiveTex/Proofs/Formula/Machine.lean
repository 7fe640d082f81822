import LiveTex.Proofs.Formula.Grammar
import Mathlib.Logic.Function.Iterate

/-!
Parsing step by step. A machine reads a formula with a stack of its own: a frame for everything that is begun and still
waits for an expression. Among the frames are the levels that signed operands and primaries open. A counter goes up with
each level that is entered and down with each one that is left, and no frame but a level touches it. The machine knows
nothing of the bounds that the rules count down; that it comes to an end is a theorem.
-/

namespace LiveTex.Formula

/-- Whether a formula fails because there is too much of it. -/
def Error.isLimit : Error → Bool
  | .tooLong _ _ | .nestingTooDeep _ => true
  | _ => false

/-- What is to be read. -/
inductive Goal where
  | sum | product | signed | power | exponent | primary | argument
  /-- A sum in front of the mark that closes its group. -/
  | group (close : Token.Kind) (mark : Char)

/-- What is called with arguments. -/
inductive Callee where
  | log (base : Expr)
  | func (f : Func)

/-- A call whose arguments are still to be read. -/
structure OpenCall where
  name : Text
  callee : Callee
  power : Option Expr

/-- The tree of the call, when it may have so many arguments. -/
def OpenCall.tree (call : OpenCall) (args : List Expr) : Except Error Expr :=
  match call.callee with
  | .log base => match args with
    | [e] => .ok (raised (.log base e) call.power)
    | _ => .error (.arity call.name .one args.length)
  | .func f =>
    if f.arity.admits args.length then .ok (raised (.call f args) call.power)
    else .error (.arity call.name f.arity args.length)

/-- What waits for an expression. -/
inductive Frame where
  /-- A level, which is left when the expression in it is there. -/
  | level
  /-- A sum, with the operator and the terms in front of the product that is being read. -/
  | term (barred : Bool) (left : Option (Operator × Expr))
  /-- A product, with the operator and the factors in front of the one that is being read. -/
  | factor (barred : Bool) (left : Option (Operator × Expr))
  | neg
  /-- A power whose base is being read. -/
  | base (barred : Bool)
  /-- A power whose exponent is being read. -/
  | exponent (base : Expr)
  | close (kind : Token.Kind) (mark : Char)
  | bars
  | numerator (barred : Bool)
  | denominator (numerator : Expr)
  | degree (barred : Bool)
  | radicand (degree : Option Expr)
  | abs
  | logBase (name : Text) (barred : Bool)
  /-- A call whose power is being read. -/
  | callPower (name : Text) (callee : Callee) (barred : Bool)
  /-- A call of the operand that is being read. -/
  | operand (call : OpenCall)
  /-- A call whose list of arguments is being read. -/
  | list (call : OpenCall) (args : List Expr) (close : Token.Kind) (mark : Char)

def Frame.isLevel : Frame → Bool
  | .level => true
  | _ => false

/-- What the machine does next. -/
inductive Control where
  | read (goal : Goal) (barred : Bool) (ts : List Token)
  /-- Hands the expression that was read to the frame on top. -/
  | value (e : Expr) (rest : List Token)
  /-- Gives up what is begun, frame by frame. -/
  | failed (reason : Error)

/-- What comes of reading something. -/
def Control.of : Except Error (Expr × List Token) → Control
  | .ok (e, rest) => .value e rest
  | .error reason => .failed reason

structure Machine where
  control : Control
  stack : List Frame
  /-- The counter of levels. -/
  depth : Nat

/-- The tree with what stands on its left. -/
def joined (right : Expr) : Option (Operator × Expr) → Expr
  | none => right
  | some (op, left) => .binary op left right

namespace Machine

/-- Reads something in the place of what was being read. -/
def reading (m : Machine) (goal : Goal) (barred : Bool) (ts : List Token) : Machine :=
  { m with control := .read goal barred ts }

/-- Reads something for a frame. -/
def readingFor (m : Machine) (frame : Frame) (goal : Goal) (barred : Bool) (ts : List Token) : Machine :=
  { m with control := .read goal barred ts, stack := frame :: m.stack }

def answering (m : Machine) (result : Except Error (Expr × List Token)) : Machine :=
  { m with control := .of result }

/-- Reads the arguments of a call: a list in parentheses or braces, or one signed operand. -/
def readArguments (m : Machine) (call : OpenCall) (barred : Bool) (ts : List Token) : Machine :=
  match passing? .leftParen ts, passing? .leftBrace ts with
  | some ts, _ => m.readingFor (.list call [] .rightParen ')') .sum false ts
  | none, some ts => m.readingFor (.list call [] .rightBrace '}') .sum false ts
  | none, none => m.readingFor (.operand call) .signed barred ts

/-- Reads the power behind the name of a function, and then its arguments. -/
def readCall (m : Machine) (name : Text) (callee : Callee) (barred : Bool) (ts : List Token) : Machine :=
  match passing? .caret ts with
  | none => m.readArguments ⟨name, callee, none⟩ barred ts
  | some ts => m.readingFor (.callPower name callee barred) .exponent barred ts

def readCommand (m : Machine) (name : Text) (barred : Bool) (ts : List Token) : Machine :=
  match Command.ofName name with
  | .fraction => m.readingFor (.numerator barred) .argument barred ts
  | .root => match passing? .leftBracket ts with
    | none => m.readingFor (.radicand none) .argument barred ts
    | some ts => m.readingFor (.degree barred) (.group .rightBracket ']') barred ts
  | .abs => m.readingFor .abs .argument barred ts
  | .log => match passing? .underscore ts with
    | none => m.readCall name (.log commonBase) barred ts
    | some ts => m.readingFor (.logBase name barred) .argument barred ts
  | .func f => m.readCall name (.func f) barred ts
  | .unknown => m.answering (.error (.unknownCommand name))

/-- Reads a primary, or a failure when there is none. -/
def readPrimary (m : Machine) (barred : Bool) : List Token → Machine
  | [] => m.answering (.error (.unexpectedEnd .operand))
  | t :: ts => match t.kind with
    | .number => m.answering (.ok (.number (Decimal.read t.lexeme), ts))
    | .symbol => m.answering (.ok (.symbol t.lexeme, ts))
    | .leftParen => m.reading (.group .rightParen ')') barred ts
    | .leftBracket => m.reading (.group .rightBracket ']') barred ts
    | .leftBrace => m.reading (.group .rightBrace '}') barred ts
    | .pipe => m.readingFor .bars .sum true ts
    | .command => m.readCommand t.commandName barred ts
    | _ => m.answering (.error (unexpected t .operand))

/-- Reads a signed operand. -/
def readSigned (m : Machine) (barred : Bool) (ts : List Token) : Machine :=
  match passing? .plus ts, passing? .minus ts with
  | some ts, _ => m.reading .signed barred ts
  | none, some ts => m.readingFor .neg .signed barred ts
  | none, none => m.reading .power barred ts

/-- Enters a level and does something there, unless there are too many levels. -/
def nested (m : Machine) (body : Machine → Machine) : Machine :=
  let m := { m with stack := .level :: m.stack, depth := m.depth + 1 }
  if maxDepth < m.depth then m.answering (.error (.nestingTooDeep maxDepth)) else body m

/-- Begins to read something. -/
def start (m : Machine) (barred : Bool) (ts : List Token) : Goal → Machine
  | .sum => m.readingFor (.term barred none) .product barred ts
  | .product => m.readingFor (.factor barred none) .signed barred ts
  | .signed => m.nested fun m => m.readSigned barred ts
  | .power => m.readingFor (.base barred) .primary barred ts
  | .exponent => match passing? .leftBrace ts with
    | none => m.reading .signed barred ts
    | some ts => m.reading (.group .rightBrace '}') barred ts
  | .primary => m.nested fun m => m.readPrimary barred ts
  | .argument => match passing? .leftBrace ts with
    | none => m.reading .primary barred ts
    | some ts => m.reading (.group .rightBrace '}') barred ts
  | .group close mark => m.readingFor (.close close mark) .sum false ts

/-- Goes on with the expression that a frame waited for. -/
def resume (m : Machine) (e : Expr) (ts : List Token) : Frame → Machine
  | .level => m.answering (.ok (e, ts))
  | .term barred left => match ts with
    | [] => m.answering (.ok (joined e left, []))
    | t :: rest => match t.termOperator? with
      | none => m.answering (.ok (joined e left, t :: rest))
      | some op => m.readingFor (.term barred (some (op, joined e left))) .product barred rest
  | .factor barred left => match Continuation.of barred ts with
    | .operator op rest => m.readingFor (.factor barred (some (op, joined e left))) .signed barred rest
    | .juxtaposed => m.readingFor (.factor barred (some (.mul, joined e left))) .power barred ts
    | .none => m.answering (.ok (joined e left, ts))
  | .neg => m.answering (.ok (.neg e, ts))
  | .base barred => match passing? .caret (factorials e ts).2 with
    | none => m.answering (.ok (factorials e ts))
    | some rest => m.readingFor (.exponent (factorials e ts).1) .exponent barred rest
  | .exponent base => m.answering (.ok (factorials (.binary .pow base e) ts))
  | .close kind mark => m.answering do
    let ts ← expect kind mark ts
    return (e, ts)
  | .bars => m.answering do
    let ts ← expect .pipe '|' ts
    return (.abs e, ts)
  | .numerator barred => m.readingFor (.denominator e) .argument barred ts
  | .denominator numerator => m.answering (.ok (.binary .div numerator e, ts))
  | .degree barred => m.readingFor (.radicand (some e)) .argument barred ts
  | .radicand none => m.answering (.ok (.sqrt e, ts))
  | .radicand (some degree) => m.answering (.ok (.root degree e, ts))
  | .abs => m.answering (.ok (.abs e, ts))
  | .logBase name barred => m.readCall name (.log e) barred ts
  | .callPower name callee barred => m.readArguments ⟨name, callee, some e⟩ barred ts
  | .operand call => m.answering do
    let e ← call.tree [e]
    return (e, ts)
  | .list call args close mark => match passing? .comma ts with
    | some ts => m.readingFor (.list call (args ++ [e]) close mark) .sum false ts
    | none => m.answering do
      let ts ← expect close mark ts
      let e ← call.tree (args ++ [e])
      return (e, ts)

/-- Takes a frame from the stack. A level that is left no longer counts. -/
def popped (m : Machine) (frame : Frame) (stack : List Frame) : Machine :=
  { m with stack, depth := if frame.isLevel then m.depth - 1 else m.depth }

/-- The next step. With an answer and nothing that waits for it, the machine rests. -/
def next (m : Machine) : Machine :=
  match m.control, m.stack with
  | .read goal barred ts, _ => m.start barred ts goal
  | .value e ts, frame :: stack => (m.popped frame stack).resume e ts frame
  | .failed _, frame :: stack => m.popped frame stack
  | _, [] => m

/-- The machine before the first token. Too many tokens are not read at all. -/
def first (ts : List Token) : Machine :=
  if maxTokens < ts.length then ⟨.failed (.tooLong ts.length maxTokens), [], 0⟩ else ⟨.read .sum false ts, [], 0⟩

/-- The machine after so many steps. -/
def after (ts : List Token) (n : Nat) : Machine := next^[n] (first ts)

/-- The result does not fail for one of the limits. -/
def Unlimited {α : Type} (result : Except Error α) : Prop := ∀ reason, result = .error reason → reason.isLimit = false

theorem Unlimited.bind {α β : Type} {x : Except Error α} {f : α → Except Error β} (h : Unlimited x)
    (hf : ∀ a, Unlimited (f a)) : Unlimited (x >>= f) := by
  cases x with
  | error reason =>
    intro reason' heq
    exact h reason' (congrArg _ (Except.error.inj heq))
  | ok a => exact hf a

theorem unlimited_ok {α : Type} (a : α) : Unlimited (Except.ok a) := nofun

theorem unlimited_error {α : Type} {reason : Error} (h : reason.isLimit = false) :
    Unlimited (Except.error reason : Except Error α) := by
  rintro _ ⟨⟩
  exact h

theorem unlimited_expect (kind : Token.Kind) (mark : Char) (ts : List Token) : Unlimited (expect kind mark ts) := by
  cases ts with
  | nil => exact unlimited_error rfl
  | cons t ts =>
    rw [expect]
    split
    · exact unlimited_ok ts
    · exact unlimited_error rfl

theorem unlimited_tree (call : OpenCall) (args : List Expr) : Unlimited (call.tree args) := by
  rw [OpenCall.tree]
  split <;> split
  · exact unlimited_ok _
  · exact unlimited_error rfl
  · exact unlimited_ok _
  · exact unlimited_error rfl

/-- What is done without entering or leaving a level. -/
inductive Goes (m : Machine) : Machine → Prop
  | reading (goal : Goal) (barred : Bool) (ts : List Token) : Goes m (m.reading goal barred ts)
  | readingFor (frame : Frame) (hframe : frame.isLevel = false) (goal : Goal) (barred : Bool) (ts : List Token) :
    Goes m (m.readingFor frame goal barred ts)
  | answering (result : Except Error (Expr × List Token)) (hresult : Unlimited result) : Goes m (m.answering result)

section

variable {m m' : Machine}

theorem goes_readArguments (m : Machine) (call : OpenCall) (barred : Bool) (ts : List Token) :
    Goes m (m.readArguments call barred ts) := by
  unfold readArguments
  split <;> exact .readingFor _ rfl ..

theorem goes_readCall (m : Machine) (name : Text) (callee : Callee) (barred : Bool) (ts : List Token) :
    Goes m (m.readCall name callee barred ts) := by
  unfold readCall
  split
  · exact goes_readArguments ..
  · exact .readingFor _ rfl ..

theorem goes_readCommand (m : Machine) (name : Text) (barred : Bool) (ts : List Token) :
    Goes m (m.readCommand name barred ts) := by
  unfold readCommand
  split
  · exact .readingFor _ rfl ..
  · split <;> exact .readingFor _ rfl ..
  · exact .readingFor _ rfl ..
  · split
    · exact goes_readCall ..
    · exact .readingFor _ rfl ..
  · exact goes_readCall ..
  · exact .answering _ (unlimited_error rfl)

theorem goes_readPrimary (m : Machine) (barred : Bool) (ts : List Token) : Goes m (m.readPrimary barred ts) := by
  unfold readPrimary
  split
  · exact .answering _ (unlimited_error rfl)
  · split
    · exact .answering _ (unlimited_ok _)
    · exact .answering _ (unlimited_ok _)
    · exact .reading ..
    · exact .reading ..
    · exact .reading ..
    · exact .readingFor _ rfl ..
    · exact goes_readCommand ..
    · exact .answering _ (unlimited_error rfl)

theorem goes_readSigned (m : Machine) (barred : Bool) (ts : List Token) : Goes m (m.readSigned barred ts) := by
  unfold readSigned
  split
  · exact .reading ..
  · exact .readingFor _ rfl ..
  · exact .reading ..

theorem goes_resume (m : Machine) (e : Expr) (ts : List Token) (frame : Frame) : Goes m (m.resume e ts frame) := by
  cases frame with
  | level | neg | exponent | denominator | abs => exact .answering _ (unlimited_ok _)
  | term barred left =>
    simp only [resume]
    split
    · exact .answering _ (unlimited_ok _)
    · split
      · exact .answering _ (unlimited_ok _)
      · exact .readingFor _ rfl ..
  | factor barred left =>
    simp only [resume]
    split
    · exact .readingFor _ rfl ..
    · exact .readingFor _ rfl ..
    · exact .answering _ (unlimited_ok _)
  | base barred =>
    simp only [resume]
    split
    · exact .answering _ (unlimited_ok _)
    · exact .readingFor _ rfl ..
  | close | bars => exact .answering _ ((unlimited_expect _ _ _).bind fun _ => unlimited_ok _)
  | numerator | degree => exact .readingFor _ rfl ..
  | radicand degree => cases degree <;> exact .answering _ (unlimited_ok _)
  | logBase => exact goes_readCall ..
  | callPower => exact goes_readArguments ..
  | operand => exact .answering _ ((unlimited_tree _ _).bind fun _ => unlimited_ok _)
  | list call args close mark =>
    simp only [resume]
    split
    · exact .readingFor _ rfl ..
    · exact .answering _ ((unlimited_expect _ _ _).bind fun _ => (unlimited_tree _ _).bind fun _ => unlimited_ok _)

/-- Only a signed operand or a primary enters a level when it is begun. -/
theorem start_cases (m : Machine) (barred : Bool) (ts : List Token) (goal : Goal) :
    Goes m (m.start barred ts goal) ∨ ∃ body, (∀ m, Goes m (body m)) ∧ m.start barred ts goal = m.nested body := by
  cases goal with
  | sum | product | power | group => exact .inl (.readingFor _ rfl ..)
  | signed => exact .inr ⟨_, fun m => goes_readSigned m barred ts, rfl⟩
  | primary => exact .inr ⟨_, fun m => goes_readPrimary m barred ts, rfl⟩
  | exponent | argument =>
    refine .inl ?_
    simp only [start]
    split <;> exact .reading ..

/-! The limits. -/

/-- The counter is the number of levels that are entered, and no more of them are than may be. -/
structure Within (m : Machine) : Prop where
  depth_eq : m.depth = m.stack.countP Frame.isLevel
  depth_le : m.depth ≤ maxDepth

theorem Goes.within (h : Goes m m') (hm : m.Within) : m'.Within := by
  cases h with
  | reading | answering => exact ⟨hm.depth_eq, hm.depth_le⟩
  | readingFor frame hframe =>
    refine ⟨?_, hm.depth_le⟩
    exact hm.depth_eq.trans (List.countP_cons_of_neg (by simp [hframe])).symm

/-- The counter is the number of levels that are entered. When it is beyond the limit, the machine has failed for it. -/
structure Counted (m : Machine) : Prop where
  depth_eq : m.depth = m.stack.countP Frame.isLevel
  depth_le : m.depth ≤ maxDepth ∨ m.depth = maxDepth + 1 ∧ m.control = .failed (.nestingTooDeep maxDepth)

theorem Within.counted (h : m.Within) : m.Counted := ⟨h.depth_eq, .inl h.depth_le⟩

theorem Within.counted_nested (h : m.Within) {body : Machine → Machine} (hbody : ∀ m, Goes m (body m)) :
    (m.nested body).Counted := by
  have hcount : m.depth + 1 = (Frame.level :: m.stack).countP Frame.isLevel := by
    rw [List.countP_cons_of_pos rfl, h.depth_eq]
  simp only [nested]
  split
  · next hdeep =>
    have hle := h.depth_le
    exact ⟨hcount, .inr ⟨by dsimp only [answering] at hdeep ⊢; omega, rfl⟩⟩
  · next hdeep => exact ((hbody _).within ⟨hcount, Nat.le_of_not_lt hdeep⟩).counted

theorem Within.counted_start (h : m.Within) (barred : Bool) (ts : List Token) (goal : Goal) :
    (m.start barred ts goal).Counted := by
  obtain hgoes | ⟨body, hbody, hstart⟩ := start_cases m barred ts goal
  · exact (hgoes.within h).counted
  · rw [hstart]
    exact h.counted_nested hbody

theorem depth_popped {frame : Frame} {stack : List Frame} (h : m.depth = m.stack.countP Frame.isLevel)
    (hstack : m.stack = frame :: stack) : (m.popped frame stack).depth = stack.countP Frame.isLevel := by
  rw [popped, h, hstack]
  cases hframe : frame.isLevel with
  | true => simp [hframe]
  | false => simp [hframe]

theorem depth_popped_le (m : Machine) (frame : Frame) (stack : List Frame) : (m.popped frame stack).depth ≤ m.depth := by
  unfold popped
  split
  · exact Nat.sub_le ..
  · exact Nat.le_refl _

/-- No step loses count of the levels. -/
theorem Counted.next (h : m.Counted) : m.next.Counted := by
  obtain ⟨control, stack, depth⟩ := m
  have hwithin (hcontrol : ∀ reason, control ≠ .failed reason) : Within ⟨control, stack, depth⟩ :=
    ⟨h.depth_eq, h.depth_le.resolve_right fun hdeep => hcontrol _ hdeep.2⟩
  cases control with
  | read goal barred ts => exact (hwithin nofun).counted_start barred ts goal
  | value e ts =>
    cases stack with
    | nil => exact h
    | cons frame stack =>
      have hdepth := depth_popped h.depth_eq rfl
      have hle := Nat.le_trans (depth_popped_le _ frame stack) (hwithin nofun).depth_le
      exact ((goes_resume _ e ts frame).within ⟨hdepth, hle⟩).counted
  | failed reason =>
    cases stack with
    | nil => exact h
    | cons frame stack =>
      refine ⟨depth_popped h.depth_eq rfl, ?_⟩
      obtain hle | ⟨hdepth, hreason⟩ := h.depth_le
      · exact .inl (Nat.le_trans (depth_popped_le _ frame stack) hle)
      · cases hframe : frame.isLevel with
        | true => exact .inl (by simp_all [next, popped])
        | false => exact .inr (by simp_all [next, popped])

end

end Machine

end LiveTex.Formula
