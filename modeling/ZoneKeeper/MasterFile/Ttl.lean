import ZoneKeeper.MasterFile.Fault
import ZoneKeeper.Text.Digit

/-!
# Times to live

A time to live is a number of seconds, or numbers each followed by a unit: weeks, days, hours,
minutes or seconds. It has to fit into 32 bits. A number without a unit may stand at the end of the
others only if it is zero.
-/

namespace ZoneKeeper.MasterFile

open Text

/-- The greatest time to live, the greatest number of 32 bits. -/
def maxTtl : Nat := 4294967295

/-- How many seconds a unit letter stands for. -/
def unitSeconds? (c : Char) : Option Nat :=
  match c.toLower with
  | 'w' => some 604800
  | 'd' => some 86400
  | 'h' => some 3600
  | 'm' => some 60
  | 's' => some 1
  | _ => none

/-- The seconds of numbers with units. `number` is the number being read, if one is begun. -/
def scanUnits (total : Nat) : Option Nat → Text → Option Nat
  | none, [] => some total
  | some n, [] => if n = 0 then some total else none
  | number, c :: rest =>
    match digitValue? c with
    | some d => scanUnits total (some (10 * number.getD 0 + d)) rest
    | none => do
      let n ← number
      let seconds ← unitSeconds? c
      scanUnits (total + n * seconds) none rest

/-- The seconds of a time to live; `none` if the text is none. -/
def ttl? (t : Text) : Option Nat := do
  let seconds ← if t = [] then none else if t.all isDigit then numeral? t else scanUnits 0 none t
  if seconds ≤ maxTtl then some seconds else none

example : ttl? "1w2d".toList = some 777600 ∧ ttl? "3600".toList = some 3600 := by decide
example : ttl? "1d0".toList = some 86400 ∧ ttl? "1d5".toList = none ∧ ttl? "d".toList = none := by
  decide

end ZoneKeeper.MasterFile
