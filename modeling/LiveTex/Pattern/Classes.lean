import LiveTex.Pattern.Flags

/-!
The sets that patterns have names for: ASCII classes, and the classes of a letter behind a backslash.
-/

namespace LiveTex.Pattern

/-- The classes that ASCII class names stand for. -/
def asciiClasses : List (String × CharSet) :=
  let digit := CharSet.range '0' '9'
  let lower := CharSet.range 'a' 'z'
  let upper := CharSet.range 'A' 'Z'
  let alnum := digit ∪ lower ∪ upper
  let graph := CharSet.range '!' '~'
  let blank := CharSet.single ' ' ∪ CharSet.single '\t'
  [("alnum", alnum), ("alpha", lower ∪ upper), ("ascii", .ascii), ("blank", blank),
   ("cntrl", CharSet.ascii \ CharSet.range ' ' '~'), ("digit", digit), ("graph", graph),
   ("lower", lower), ("print", CharSet.range ' ' '~'), ("punct", graph \ alnum),
   ("space", CharSet.single ' ' ∪ CharSet.range '\t' '\r'), ("upper", upper),
   ("word", alnum ∪ CharSet.single '_'),
   ("xdigit", digit ∪ CharSet.range 'a' 'f' ∪ CharSet.range 'A' 'F')]

def asciiClass? (name : Text) : Option CharSet :=
  (asciiClasses.find? (·.1.toList == name)).map (·.2)

/-- Digits, blanks and word characters. -/
def letterClass? : Char → Option CharSet
  | 'd' => some Text.digits
  | 's' => some Text.whiteSpace
  | 'w' => some Text.wordChars
  | _ => none

/-- The class that a letter behind a backslash stands for; a capital letter negates it. -/
def Flags.letterClass (flags : Flags) (letter : Char) : Except Fault CharSet :=
  match letterClass? letter.toLower with
  | none => .error .escape
  | some s =>
    if flags.unicode then .ok (if letter.isUpper then s.compl else s)
    else if letter.isUpper then .error .beyondAscii
    else .ok (s ∩ .ascii)

end LiveTex.Pattern
