import ZoneKeeper.Text.Digit

/-!
# Attributes

What an element of a declaration says of itself. An attribute read from a document is always a text;
one handed over by a caller may also be a number or nothing at all, and is then refused wherever a
text is needed.
-/

namespace ZoneKeeper.Declaration

/-- The value of an attribute. -/
inductive Value where
  /-- A text. -/
  | text (t : Text)
  /-- A number. -/
  | number (n : Int)
  /-- Nothing, though the attribute is there. -/
  | null
  deriving DecidableEq, Repr

/-- A value as messages show it. -/
def Value.shown : Value → Text
  | .text t => t
  | .number n => Text.signedDecimal n
  | .null => "None".toList

/-- The attributes of an element in the order in which they are written. -/
abbrev Attributes := List (Text × Value)

namespace Attributes

/-- The value of an attribute; of several attributes of one name the last counts. -/
def get? (a : Attributes) (name : Text) : Option Value :=
  (a.reverse.find? (·.1 = name)).map (·.2)

/-- The attributes with all of these texts as their values. -/
def ofTexts (a : List (Text × Text)) : Attributes := a.map fun (name, t) => (name, .text t)

end Attributes

end ZoneKeeper.Declaration
