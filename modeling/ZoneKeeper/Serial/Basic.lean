import ZoneKeeper.Text.Digit

/-!
# Serial numbers

The serial of a zone file is the day of its writing followed by a version of two digits that counts
the writings of that day. A file that already carries the day takes the next version; any other file
starts at version 0.
-/

namespace ZoneKeeper

open Text

/-- A day of the calendar. -/
structure Day where
  /-- The year. -/
  year : Nat
  /-- The month, from 1. -/
  month : Nat
  /-- The day of the month, from 1. -/
  day : Nat
  deriving DecidableEq, Repr

/-- The day as serials begin: the year as it is, month and day in two digits. -/
def Day.stamp (d : Day) : Text := decimal d.year ++ twoDigits d.month ++ twoDigits d.day

namespace Serial

/-- The greatest version of a day. -/
def maxVersion : Nat := 99

/-- The serial of the next writing on a day, given the stamp and the version that the file carries,
if there is a file; `none` if the versions of the day are used up. -/
def next (existing : Option (Text × Int)) (today : Day) : Option Text :=
  match existing with
  | none => some (today.stamp ++ twoDigits 0)
  | some (stamp, version) =>
    if stamp = today.stamp then
      if version + 1 > maxVersion then none
      else some (today.stamp ++ signedTwoDigits (version + 1))
    else some (today.stamp ++ twoDigits 0)

example : next (some ("20261019".toList, 41)) ⟨2026, 10, 19⟩ = some "2026101942".toList := by decide
example : next (some ("20261019".toList, 99)) ⟨2026, 10, 19⟩ = none := by decide

end Serial

end ZoneKeeper
