/-!
Why a text is no search pattern.
-/

namespace LiveTex.Pattern

inductive Fault where
  | unclosedGroup
  | unopenedGroup
  | lookaround
  | groupName
  | flag
  | nothingToRepeat
  | count
  | escape
  | hexadecimal
  | property
  | unclosedClass
  | classRange
  | classItem
  /-- What ASCII patterns may not match. -/
  | beyondAscii
  /-- Groups, repetitions, alternatives and classes inside each other beyond a limit. -/
  | tooDeep
  /-- The pattern is too large when its counted repetitions are written out. -/
  | tooLarge
  deriving Repr, DecidableEq

end LiveTex.Pattern
