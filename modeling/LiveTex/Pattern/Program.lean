import LiveTex.Pattern.Syntax

/-!
Patterns as programs. A program is a row of instructions for threads that walk through it side by side;
of two ways to go on, the first one is preferred.
-/

namespace LiveTex.Pattern

inductive Instr where
  /-- Take one character of the set and go on. -/
  | char (set : CharSet)
  /-- Go on if the condition holds here. -/
  | anchor (condition : Anchor)
  | jump (target : Nat)
  | split (preferred other : Nat)
  /-- Note the position as the start of the first group. -/
  | groupStart
  /-- Note the position as the end of the first group. -/
  | groupEnd
  | accept

def fork (greedy : Bool) (inside outside : Nat) : Instr :=
  if greedy then .split inside outside else .split outside inside

/-- The number of instructions of a pattern. -/
def codeLength : Pattern → Nat
  | .empty => 0
  | .char _ | .anchor _ => 1
  | .seq p q => p.codeLength + q.codeLength
  | .alt p q => p.codeLength + q.codeLength + 2
  | .repeated p 0 none _ => p.codeLength + 2
  | .repeated p least none _ => least * p.codeLength + 1
  | .repeated p least (some most) _ => least * p.codeLength + (most - least) * (p.codeLength + 1)
  | .group index p => if index = 1 then p.codeLength + 2 else p.codeLength

/-- The instructions of a number of rounds behind others. -/
def rounds (round : Array Instr → Array Instr) : (count : Nat) → Array Instr → Array Instr
  | 0, code => code
  | count + 1, code => rounds round count (round code)

theorem size_rounds {round : Array Instr → Array Instr} {length : Nat}
    (h : ∀ code, (round code).size = code.size + length) (count : Nat) (code : Array Instr) :
    (rounds round count code).size = code.size + count * length := by
  induction count generalizing code with
  | zero => simp [rounds]
  | succ count ih => rw [rounds, ih, h, Nat.succ_mul]; omega

/-- The instructions of a pattern behind others. Rounds that can be empty are one or more rounds or
none, so that an empty round ends the repetition and does not start it over. -/
def emit : Pattern → Array Instr → Array Instr
  | .empty, code => code
  | .char s, code => code.push (.char s)
  | .anchor a, code => code.push (.anchor a)
  | .seq p q, code => emit q (emit p code)
  | .alt p q, code =>
    let other := code.size + p.codeLength + 2
    let code := emit p (code.push (.split (code.size + 1) other))
    emit q (code.push (.jump (other + q.codeLength)))
  | .repeated p least none greedy, code =>
    if least = 0 then
      let here := code.size
      let fork := fork greedy (here + 1) (here + p.codeLength + 2)
      (emit p (code.push fork)).push (if p.nullable then fork else .jump here)
    else
      let code := rounds (emit p) (least - 1) code
      let here := code.size
      (emit p code).push (fork greedy here (here + p.codeLength + 1))
  | .repeated p least (some most) greedy, code =>
    let code := rounds (emit p) least code
    let stop := code.size + (most - least) * (p.codeLength + 1)
    rounds (fun code => emit p (code.push (fork greedy (code.size + 1) stop))) (most - least) code
  | .group index p, code =>
    if index = 1 then (emit p (code.push .groupStart)).push .groupEnd else emit p code

/-- The addresses that forks and jumps are given count on this. -/
theorem size_emit (p : Pattern) (code : Array Instr) : (emit p code).size = code.size + p.codeLength := by
  induction p generalizing code with
  | empty => simp [emit, codeLength]
  | char s => simp [emit, codeLength]
  | anchor a => simp [emit, codeLength]
  | seq p q ihp ihq => simp only [emit, codeLength, ihp, ihq]; omega
  | alt p q ihp ihq => simp only [emit, codeLength, ihp, ihq, Array.size_push]; omega
  | repeated p least most greedy ih =>
    cases most with
    | none =>
      cases least with
      | zero => simp only [emit, codeLength, ih, if_true, Array.size_push]; omega
      | succ least =>
        have hne : ¬ least + 1 = 0 := by omega
        simp only [emit, codeLength, if_neg hne, Array.size_push, ih, Nat.add_sub_cancel,
          size_rounds ih, Nat.succ_mul]
        omega
    | some most =>
      have hround : ∀ stop (code : Array Instr),
          (emit p (code.push (fork greedy (code.size + 1) stop))).size =
            code.size + (p.codeLength + 1) := by
        intro stop code
        rw [ih, Array.size_push]
        omega
      simp only [emit, codeLength, size_rounds (hround _), size_rounds ih, Nat.add_assoc]
  | group index p ih =>
    by_cases h : index = 1
    · simp only [emit, codeLength, if_pos h, Array.size_push, ih]
      omega
    · simp only [emit, codeLength, if_neg h, ih]

/-- The program of a pattern. -/
def program (p : Pattern) : Array Instr := (emit p #[]).push .accept

end LiveTex.Pattern
