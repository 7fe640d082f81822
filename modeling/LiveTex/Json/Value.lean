import LiveTex.Text.Basic

/-!
JSON values, as far as options need them: the value of a number is not kept.
-/

namespace LiveTex

inductive Json where
  | null
  | bool (value : Bool)
  | number
  /-- A string; one with an unpaired surrogate spells no text. -/
  | string (text : Option Text)
  | array (items : List Json)
  /-- The members in the order they stand in, with repetitions. -/
  | object (members : List (Option Text × Json))
  deriving Repr

end LiveTex
