import LiveTex.Proofs.Formula.Soundness

/-!
The size of trees. A tree that is read has fewer than two nodes for each of its tokens. Loops can put many nodes on top
of each other, so nothing but the number of tokens bounds the height of a tree and the recursion of its evaluation.
-/

namespace LiveTex.Formula

mutual

/-- The number of nodes. -/
def Expr.size : Expr → Nat
  | .number _ | .symbol _ => 1
  | .neg e | .factorial e | .abs e | .sqrt e => e.size + 1
  | .binary _ l r => l.size + r.size + 1
  | .root degree radicand => degree.size + radicand.size + 1
  | .log base argument => base.size + argument.size + 1
  | .call _ args => Expr.sizes args + 1

/-- The number of nodes of several trees. -/
def Expr.sizes : List Expr → Nat
  | [] => 0
  | e :: es => e.size + Expr.sizes es

end

mutual

/-- The number of nodes on the longest way down. -/
def Expr.height : Expr → Nat
  | .number _ | .symbol _ => 1
  | .neg e | .factorial e | .abs e | .sqrt e => e.height + 1
  | .binary _ l r => max l.height r.height + 1
  | .root degree radicand => max degree.height radicand.height + 1
  | .log base argument => max base.height argument.height + 1
  | .call _ args => Expr.heights args + 1

/-- The height of the highest of several trees. -/
def Expr.heights : List Expr → Nat
  | [] => 0
  | e :: es => max e.height (Expr.heights es)

end

mutual

theorem Expr.height_le_size : (e : Expr) → e.height ≤ e.size
  | .number _ | .symbol _ => Nat.le_refl 1
  | .neg e | .factorial e | .abs e | .sqrt e => Nat.succ_le_succ e.height_le_size
  | .binary _ l r | .root l r | .log l r => by
    have hl := l.height_le_size
    have hr := r.height_le_size
    simp only [Expr.height, Expr.size]
    omega
  | .call _ args => Nat.succ_le_succ (Expr.heights_le_sizes args)

theorem Expr.heights_le_sizes : (es : List Expr) → Expr.heights es ≤ Expr.sizes es
  | [] => Nat.le_refl 0
  | e :: es => by
    have he := e.height_le_size
    have hes := Expr.heights_le_sizes es
    simp only [Expr.heights, Expr.sizes]
    omega

end

end LiveTex.Formula
