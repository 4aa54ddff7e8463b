import ZoneKeeper.Text.Basic

/-!
# Columns

Zone files are aligned with tabs, four columns to a tab stop. A field is padded so that the next one
starts at a given stop; a field that already reaches the stop is followed by a single tab.
-/

namespace ZoneKeeper.Column

/-- How many columns lie between two tab stops. -/
def tabSize : Nat := 4

/-- How many tabs follow a field of `length` columns so that the next one starts at stop `stops`.
The gap that is left is filled by whole stops, and by one more tab if it is no whole number of them;
a gap of less than one stop takes a single tab. -/
def tabs (length : Nat) (stops : Int) : Nat :=
  let gap := stops * tabSize - length
  if gap < tabSize then 1
  else
    let whole := gap.toNat / tabSize
    whole + if gap.toNat % (whole * tabSize) > 0 then 1 else 0

/-- The field followed by its tabs. -/
def pad (field : Text) (stops : Int) : Text :=
  field ++ List.replicate (tabs field.length stops) '\t'

example : pad "3h".toList 3 = "3h\t\t\t".toList ∧ pad "abcd".toList 1 = "abcd\t".toList := by decide
example : pad "a".toList 0 = "a\t".toList ∧ pad "a".toList (-2) = "a\t".toList := by decide

end ZoneKeeper.Column
