import ZoneKeeper.MasterFile.International
import ZoneKeeper.Text.Blank
import ZoneKeeper.Text.Digit

/-!
# Domain names

A domain name is a list of labels, the most particular first; a name that is written with a final
dot is absolute, every other one is completed by the origin. A backslash takes the character after
it as it is, or the byte that three digits after it give. Names are compared without regard to the
case of ASCII letters.
-/

namespace ZoneKeeper.MasterFile

open Text

/-- A domain name. -/
structure Name where
  /-- The labels; each character stands for a byte. -/
  labels : List Text
  /-- Whether the name ends at the root. -/
  isAbsolute : Bool
  deriving DecidableEq, Repr

namespace Name

/-- The root of all names. -/
def root : Name := ⟨[], true⟩

/-- Whether a character of a name is a dot between labels; in a name that is not ASCII the
ideographic and wide dots are too. -/
def isDot (ascii : Bool) (c : Char) : Bool :=
  c = '.' || (!ascii && ['。', '．', '｡'].contains c)

/-- The byte that the three digits give, if they are digits and give one. -/
def byteOfDigits? (a b c : Char) : Option Char :=
  if [a, b, c].all isAsciiDigit then
    (numeral? [a, b, c]).bind fun n => if n ≤ 255 then some (Char.ofNat n) else none
  else none

/-- The labels of a name as it is written, `label` being what is read of the first one, last
character first. The last label is empty exactly if the text ends with a dot. -/
def scanLabels (ascii : Bool) (label : Text) : Text → Except Reason (List Text)
  | [] => .ok [label.reverse]
  | ['\\'] => .error .badEscape
  | ['\\', a] =>
    if isAsciiDigit a then .error .badEscape else .ok [(a :: label).reverse]
  | ['\\', a, b] =>
    if isAsciiDigit a then .error .badEscape else scanLabels ascii (a :: label) [b]
  | '\\' :: a :: b :: c :: rest =>
    if isAsciiDigit a then
      match byteOfDigits? a b c with
      | some byte => scanLabels ascii (byte :: label) rest
      | none => .error .badEscape
    else scanLabels ascii (a :: label) (b :: c :: rest)
  | c :: rest =>
    if isDot ascii c then
      if label = [] then .error .emptyLabel
      else (scanLabels ascii [] rest).map (label.reverse :: ·)
    else scanLabels ascii (c :: label) rest
termination_by t => t.length

/-- The number of bytes of a name, a length byte before each label counted. -/
def size (n : Name) : Nat :=
  n.labels.foldl (fun size label => size + (label.length + 1)) (if n.isAbsolute then 1 else 0)

/-- The name with these labels, if they fit into a name. -/
def check (n : Name) : Except Reason Name :=
  if n.labels.any (63 < ·.length) then .error .longLabel
  else if 255 < n.size then .error .longName
  else .ok n

/-- The name followed by the origin, if it is not absolute. -/
def complete (n : Name) : Option Name → Name
  | none => n
  | some origin => if n.isAbsolute then n else ⟨n.labels ++ origin.labels, origin.isAbsolute⟩

/-- The name that a text writes, completed by the origin; `@` is the origin itself. -/
def ofText (t : Text) (origin : Option Name) : Except Reason Name :=
  let ascii := t.all International.isAscii
  if t = [] || t = ['@'] then check (complete ⟨[], false⟩ origin)
  else if t.length = 1 && t.all (isDot ascii) then .ok root
  else do
    let labels ← scanLabels ascii [] t
    let isAbsolute := labels.getLast? = some []
    let labels := if isAbsolute then labels.dropLast else labels
    let labels ← if ascii then pure labels else labels.mapM International.encodeLabel
    check (complete ⟨labels, isAbsolute⟩ origin)

/-- The name in small letters, by which names are compared. -/
def folded (n : Name) : Name := ⟨n.labels.map (·.map Char.toLower), n.isAbsolute⟩

/-- Whether a name is in a zone: both are absolute or both are not, and the name ends with the
labels of the zone. -/
def isIn (n zone : Name) : Bool :=
  n.isAbsolute = zone.isAbsolute && zone.folded.labels.isSuffixOf n.folded.labels

end Name

end ZoneKeeper.MasterFile
