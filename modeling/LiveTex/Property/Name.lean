import LiveTex.CharSet.Table

/-!
Names of character properties and of their values. In a name, case, blanks, hyphens and underscores do
not matter, and nor does `is` in front.
-/

namespace LiveTex.Property

/-- The name without what does not matter. What is not ASCII is no part of a name. -/
def squeezed (name : Text) : Text :=
  (name.filter fun c => c.toNat < 128 && c != ' ' && c != '_' && c != '-').map Char.toLower

/-- The form in which names are compared. `isc` is not `c` but the name of a property of its own. -/
def plainName : Text → Text
  | i :: s :: name =>
    if i.toLower = 'i' && s.toLower = 's' then
      if squeezed name = ['c'] then "isc".toList else squeezed name
    else squeezed (i :: s :: name)
  | name => squeezed name

/-- The first word of the row that has the plain name among its words. -/
def label? (rows : List String) (name : Text) : Option Text :=
  (rows.map Text.words).findSome? fun words =>
    if words.any (squeezed · == name) then words.head? else none

end LiveTex.Property
