import LiveTex.Property.Age
import LiveTex.Property.Binary
import LiveTex.Property.GraphemeBreak
import LiveTex.Property.Script
import LiveTex.Property.SentenceBreak

/-!
Asking for the characters with a property. A name alone is that of a property which characters have or
have not, of a category, or of a script; two names are those of a property and of its value.
-/

namespace LiveTex.Property

/-- The properties that have values. -/
inductive Valued where
  | category
  | script
  | scriptExtension
  | age
  | graphemeBreak
  | wordBreak
  | sentenceBreak
  deriving Repr, DecidableEq

/-- The characters with a value of the property. -/
def Valued.of? : Valued → Text → Option CharSet
  | .category => ofCategory?
  | .script => ofScript?
  | .scriptExtension => ofScriptExtension?
  | .age => ofAge?
  | .graphemeBreak => ofGraphemeBreak?
  | .wordBreak => ofWordBreak?
  | .sentenceBreak => ofSentenceBreak?

/-- The names of a property. -/
def Valued.names : Valued → String
  | .category => "gc General_Category"
  | .script => "sc Script"
  | .scriptExtension => "scx Script_Extensions"
  | .age => "Age"
  | .graphemeBreak => "GCB Grapheme_Cluster_Break"
  | .wordBreak => "WB Word_Break"
  | .sentenceBreak => "SB Sentence_Break"

def Valued.ofName? (name : Text) : Option Valued :=
  [.category, .script, .scriptExtension, .age, .graphemeBreak, .wordBreak, .sentenceBreak].find?
    fun p => (Text.words p.names).any (squeezed · == name)

/-- The characters that a name alone asks for. -/
def ofName? (name : Text) : Option CharSet :=
  let name := plainName name
  ((ofBinary? name).orElse fun _ => ofCategory? name).orElse fun _ => ofScript? name

/-- The characters with a property of a certain value. -/
def ofValue? (property value : Text) : Option CharSet := do
  (← Valued.ofName? (plainName property)).of? (plainName value)

end LiveTex.Property
