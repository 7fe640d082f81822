import LiveTex.Proofs.Formula.Bracing
import LiveTex.Proofs.Formula.Limits

/-!
Where tokens stand. The parser looks at kinds and lexemes only, so tokens that are moved are read to the same tree, and
an error moves with them. Main statements: `parse_map`, from which two lists of alike tokens have the same outcome but
for the places in it, and every error of the parser is a syntax error.
-/

namespace LiveTex.Formula

/-- Errors of the parser that know of no place. -/
def Error.isPlaceless : Error → Bool
  | .unexpectedEnd _ | .nestingTooDeep _ | .tooLong _ _ | .unknownCommand _ | .arity _ _ _ => true
  | _ => false

/-- How tokens and errors are moved together: a token keeps its kind and its lexeme, and a token that was not expected is
as unexpected at its new place. -/
structure Moves (f : Token → Token) (g : Error → Error) : Prop where
  alike (t : Token) : (f t).Alike t
  unexpected (t : Token) (expected : Expected) : g (unexpected t expected) = Formula.unexpected (f t) expected
  kept (reason : Error) (h : reason.isPlaceless = true) : g reason = reason

/-- How a product goes on with moved tokens. -/
def Continuation.map (f : Token → Token) : Continuation → Continuation
  | .operator op rest => .operator op (rest.map f)
  | .juxtaposed => .juxtaposed
  | .none => .none

/-- An answer with moved tokens. -/
def moved (f : Token → Token) (g : Error → Error) (result : Except Error (Expr × List Token)) :
    Except Error (Expr × List Token) :=
  (result.map fun (e, rest) => (e, rest.map f)).mapError g

def Control.map (f : Token → Token) (g : Error → Error) : Control → Control
  | .read goal barred ts => .read goal barred (ts.map f)
  | .value e rest => .value e (rest.map f)
  | .failed reason => .failed (g reason)

/-- The machine over moved tokens. What waits for an expression holds no tokens. -/
def Machine.map (f : Token → Token) (g : Error → Error) (m : Machine) : Machine :=
  { m with control := m.control.map f g }

namespace Moves

variable {f : Token → Token} {g : Error → Error}

theorem kind_eq (h : Moves f g) (t : Token) : (f t).kind = t.kind := (h.alike t).kind_eq

theorem lexeme_eq (h : Moves f g) (t : Token) : (f t).lexeme = t.lexeme := (h.alike t).2

theorem passing?_map (h : Moves f g) (kind : Token.Kind) (ts : List Token) :
    passing? kind (ts.map f) = (passing? kind ts).map (List.map f) := by
  cases ts with
  | nil => rfl
  | cons t ts =>
    rw [List.map_cons, passing?, passing?, h.kind_eq]
    split <;> rfl

theorem factorials_map (h : Moves f g) (e : Expr) (ts : List Token) :
    factorials e (ts.map f) = ((factorials e ts).1, (factorials e ts).2.map f) := by
  induction ts generalizing e with
  | nil => rfl
  | cons t ts ih =>
    rw [List.map_cons, factorials, factorials, h.kind_eq]
    split
    · exact ih _
    · rfl

theorem continuation_map (h : Moves f g) (barred : Bool) (ts : List Token) :
    Continuation.of barred (ts.map f) = (Continuation.of barred ts).map f := by
  cases ts with
  | nil => rfl
  | cons t ts =>
    rw [List.map_cons, Continuation.of, Continuation.of, (h.alike t).factorOperator?_eq, (h.alike t).beginsOperand_eq]
    split
    · rfl
    · split <;> rfl

theorem expect_map (h : Moves f g) (kind : Token.Kind) (mark : Char) (ts : List Token) :
    expect kind mark (ts.map f) = ((expect kind mark ts).map (List.map f)).mapError g := by
  cases ts with
  | nil => exact congrArg _ (h.kept _ rfl).symm
  | cons t ts =>
    rw [List.map_cons, expect, expect, h.kind_eq]
    split
    · rfl
    · exact congrArg _ (h.unexpected t _).symm

/-- The errors of a call know of no place. -/
theorem kept_of_tree (h : Moves f g) {call : OpenCall} {args : List Expr} {reason : Error}
    (hcall : call.tree args = .error reason) : g reason = reason := by
  rw [OpenCall.tree] at hcall
  split at hcall <;> split at hcall <;> cases hcall <;> exact h.kept _ rfl

/-! Each part of a step. -/

variable (m : Machine)

theorem answering_map (result : Except Error (Expr × List Token)) :
    (m.map f g).answering (moved f g result) = (m.answering result).map f g := by
  cases result <;> rfl

theorem failing_map {reason reason' : Error} (h : g reason = reason') :
    (m.map f g).answering (.error reason') = (m.answering (.error reason)).map f g := by
  rw [← h]
  rfl

theorem readArguments_map (h : Moves f g) (call : OpenCall) (barred : Bool) (ts : List Token) :
    (m.map f g).readArguments call barred (ts.map f) = (m.readArguments call barred ts).map f g := by
  rw [Machine.readArguments, Machine.readArguments, h.passing?_map, h.passing?_map]
  cases passing? .leftParen ts with
  | some => rfl
  | none => cases passing? .leftBrace ts <;> rfl

theorem readCall_map (h : Moves f g) (name : Text) (callee : Callee) (barred : Bool) (ts : List Token) :
    (m.map f g).readCall name callee barred (ts.map f) = (m.readCall name callee barred ts).map f g := by
  rw [Machine.readCall, Machine.readCall, h.passing?_map]
  cases passing? .caret ts with
  | none => exact h.readArguments_map m _ barred ts
  | some => rfl

theorem readCommand_map (h : Moves f g) (name : Text) (barred : Bool) (ts : List Token) :
    (m.map f g).readCommand name barred (ts.map f) = (m.readCommand name barred ts).map f g := by
  rw [Machine.readCommand, Machine.readCommand, h.passing?_map, h.passing?_map]
  cases Command.ofName name with
  | fraction | abs => rfl
  | root => cases passing? .leftBracket ts <;> rfl
  | log =>
    cases passing? .underscore ts with
    | none => exact h.readCall_map m name _ barred ts
    | some => rfl
  | func => exact h.readCall_map m name _ barred ts
  | unknown => exact failing_map m (h.kept _ rfl)

theorem readPrimary_map (h : Moves f g) (barred : Bool) (ts : List Token) :
    (m.map f g).readPrimary barred (ts.map f) = (m.readPrimary barred ts).map f g := by
  cases ts with
  | nil => exact failing_map m (h.kept _ rfl)
  | cons t ts =>
    rw [List.map_cons, Machine.readPrimary, Machine.readPrimary, h.kind_eq, h.lexeme_eq, (h.alike t).commandName_eq]
    cases t.kind with
    | number | symbol | leftParen | leftBracket | leftBrace | pipe => rfl
    | command => exact h.readCommand_map m _ barred ts
    | _ => exact failing_map m (h.unexpected t _)

theorem readSigned_map (h : Moves f g) (barred : Bool) (ts : List Token) :
    (m.map f g).readSigned barred (ts.map f) = (m.readSigned barred ts).map f g := by
  rw [Machine.readSigned, Machine.readSigned, h.passing?_map, h.passing?_map]
  cases passing? .plus ts with
  | some => rfl
  | none => cases passing? .minus ts <;> rfl

theorem nested_map (h : Moves f g) (body body' : Machine → Machine)
    (hbody : ∀ m, body' (Machine.map f g m) = Machine.map f g (body m)) :
    (m.map f g).nested body' = (m.nested body).map f g := by
  by_cases hdeep : maxDepth < m.depth + 1
  · rw [Machine.nested, Machine.nested, if_pos hdeep]
    exact (if_pos hdeep).trans (failing_map ⟨m.control, .level :: m.stack, m.depth + 1⟩ (h.kept _ rfl))
  · rw [Machine.nested, Machine.nested, if_neg hdeep]
    exact (if_neg hdeep).trans (hbody ⟨m.control, .level :: m.stack, m.depth + 1⟩)

theorem start_map (h : Moves f g) (barred : Bool) (ts : List Token) (goal : Goal) :
    (m.map f g).start barred (ts.map f) goal = (m.start barred ts goal).map f g := by
  cases goal with
  | sum | product | power | group => rfl
  | signed => exact h.nested_map m (·.readSigned barred ts) (·.readSigned barred (ts.map f)) fun m => h.readSigned_map m barred ts
  | primary => exact h.nested_map m (·.readPrimary barred ts) (·.readPrimary barred (ts.map f)) fun m => h.readPrimary_map m barred ts
  | exponent | argument =>
    simp only [Machine.start, h.passing?_map]
    cases passing? .leftBrace ts <;> rfl

theorem resume_map (h : Moves f g) (e : Expr) (ts : List Token) (frame : Frame) :
    (m.map f g).resume e (ts.map f) frame = (m.resume e ts frame).map f g := by
  cases frame with
  | level | neg | denominator | abs | numerator | degree => rfl
  | term barred left =>
    cases ts with
    | nil => rfl
    | cons t ts =>
      simp only [List.map_cons, Machine.resume, (h.alike t).termOperator?_eq]
      cases t.termOperator? <;> rfl
  | factor barred left =>
    simp only [Machine.resume, h.continuation_map]
    cases Continuation.of barred ts <;> rfl
  | base barred =>
    simp only [Machine.resume, h.factorials_map, h.passing?_map]
    cases passing? .caret (factorials e ts).2 <;> rfl
  | exponent base => simp only [Machine.resume, h.factorials_map]; rfl
  | close | bars =>
    simp only [Machine.resume, h.expect_map]
    rw [← answering_map]
    cases expect _ _ ts <;> rfl
  | radicand degree => cases degree <;> rfl
  | logBase name barred => exact h.readCall_map m name _ barred ts
  | callPower name callee barred => exact h.readArguments_map m _ barred ts
  | operand call =>
    simp only [Machine.resume]
    rw [← answering_map]
    cases hcall : call.tree [e] with
    | error reason => exact congrArg (fun reason => (m.map f g).answering (.error reason)) (h.kept_of_tree hcall).symm
    | ok => rfl
  | list call args close mark =>
    simp only [Machine.resume, h.passing?_map]
    cases passing? .comma ts with
    | some => rfl
    | none =>
      simp only [Option.map_none, h.expect_map]
      rw [← answering_map]
      cases expect close mark ts with
      | error => rfl
      | ok ts =>
        cases hcall : call.tree (args ++ [e]) with
        | error reason => exact congrArg (fun reason => (m.map f g).answering (.error reason)) (h.kept_of_tree hcall).symm
        | ok => rfl

/-- Moving the tokens moves what comes next. -/
theorem next_map (h : Moves f g) : Function.Semiconj (Machine.map f g) Machine.next Machine.next := by
  rintro ⟨control, stack, depth⟩
  cases control with
  | read goal barred ts => exact (h.start_map ⟨.read goal barred ts, stack, depth⟩ barred ts goal).symm
  | value e ts =>
    cases stack with
    | nil => rfl
    | cons frame stack =>
      exact (h.resume_map (Machine.popped ⟨.value e ts, frame :: stack, depth⟩ frame stack) e ts frame).symm
  | failed reason => cases stack <;> rfl

theorem first_map (h : Moves f g) (ts : List Token) : Machine.first (ts.map f) = (Machine.first ts).map f g := by
  rw [Machine.first, Machine.first, List.length_map]
  split
  · exact congrArg (fun reason => (⟨.failed reason, [], 0⟩ : Machine)) (h.kept _ rfl).symm
  · rfl

theorem after_map (h : Moves f g) (ts : List Token) (n : Nat) :
    Machine.after (ts.map f) n = (Machine.after ts n).map f g := by
  rw [Machine.after, Machine.after, h.first_map]
  exact (h.next_map.iterate_right n _).symm

theorem outcome?_map (h : Moves f g) : (m.map f g).outcome? = m.outcome?.map (Except.mapError g) := by
  obtain ⟨control, _ | ⟨frame, stack⟩, depth⟩ := m
  · obtain goal | ⟨e, _ | ⟨t, rest⟩⟩ | reason := control
    · rfl
    · rfl
    · exact congrArg (fun reason : Error => some (Except.error reason)) (h.unexpected t _).symm
    · rfl
  · rfl

end Moves

section

variable {f : Token → Token} {g : Error → Error} {ts us : List Token}

/-- Moved tokens are read to the same tree, or not at all for the same reason at another place. -/
theorem parse_map (h : Moves f g) (ts : List Token) : parse (ts.map f) = (parse ts).mapError g := by
  obtain ⟨n, control, hn, houtcome⟩ := exists_after_eq ts
  obtain ⟨k, control', hk, houtcome'⟩ := exists_after_eq (ts.map f)
  rw [← hn] at houtcome
  rw [← hk] at houtcome'
  have hmoved : (Machine.after (ts.map f) n).outcome? = some ((parse ts).mapError g) := by
    rw [h.after_map, h.outcome?_map, houtcome]
    rfl
  exact Machine.outcome?_unique houtcome' hmoved

/-- The token at the beginning of the source. -/
def Token.placeless (t : Token) : Token := { t with start := 0, stop := 0 }

/-- The error without the place that it names. -/
def Error.placeless : Error → Error
  | .unexpectedChar text _ => .unexpectedChar text 0
  | .unexpectedToken found expected _ => .unexpectedToken found expected 0
  | reason => reason

theorem moves_placeless : Moves Token.placeless Error.placeless where
  alike _ := ⟨rfl, rfl⟩
  unexpected _ _ := rfl
  kept reason h := by cases reason <;> first | rfl | cases h

theorem map_placeless_eq_of_alike (h : List.Forall₂ Token.Alike ts us) :
    ts.map Token.placeless = us.map Token.placeless := by
  induction h with
  | nil => rfl
  | cons hx _ ih => rw [List.map_cons, List.map_cons, ih, Token.placeless, Token.placeless, hx.1, hx.2]

/-- Alike tokens are read to the same tree, or not at all for the same reason. -/
theorem parse_eq_of_alike (h : List.Forall₂ Token.Alike ts us) :
    (parse ts).mapError Error.placeless = (parse us).mapError Error.placeless := by
  rw [← parse_map moves_placeless, ← parse_map moves_placeless, map_placeless_eq_of_alike h]

/-- The error if it is one of syntax. All other errors are one and the same. -/
def Error.syntactic (reason : Error) : Error := if reason.isSyntax then reason else .unexpectedEnd .operand

theorem moves_syntactic : Moves id Error.syntactic where
  alike := .refl
  unexpected _ _ := rfl
  kept reason h := if_pos (by cases reason <;> first | rfl | cases h)

/-- The errors of the parser are syntax errors: it would not notice if all others were one. -/
theorem isSyntax_of_parse {reason : Error} (h : parse ts = .error reason) : reason.isSyntax = true := by
  have hmap := parse_map moves_syntactic ts
  rw [List.map_id, h] at hmap
  have hfixed : reason = reason.syntactic := Except.error.inj hmap
  cases hreason : reason.isSyntax with
  | true => rfl
  | false =>
    rw [Error.syntactic, hreason, if_neg (by decide)] at hfixed
    rw [hfixed] at hreason
    cases hreason

end

end LiveTex.Formula
