import ZoneKeeper.MasterFile.Fault

/-!
# International labels

A label of a domain name is a string of bytes. A label with other characters than ASCII is first
prepared, which folds its case and drops invisible characters, and then encoded by the Punycode
method behind the mark `xn--`. Preparation folds the capitals of ASCII, Latin-1, Greek and Cyrillic
and the full-width forms of ASCII.

The Punycode method writes the ASCII characters of a label first and then, in rising order of code
points, how far one has to step through all insertions of a next character to come to the one that
is made. The steps are numbers in a mixed base whose digits are `a` to `z` and `0` to `9`.
-/

namespace ZoneKeeper.MasterFile.International

/-- Whether a character is ASCII. -/
def isAscii (c : Char) : Bool := c.toNat < 0x80

/-- Whether a code point is dropped from a label. -/
def isDropped (n : Nat) : Bool :=
  n = 0xAD || n = 0x34F || n = 0x1806 || (0x180B ≤ n && n ≤ 0x180D) || (0x200B ≤ n && n ≤ 0x200D) ||
    n = 0x2060 || (0xFE00 ≤ n && n ≤ 0xFE0F) || n = 0xFEFF

/-- Whether a code point may not stand in a label. -/
def isProhibited (n : Nat) : Bool :=
  (0x80 ≤ n && n ≤ 0x9F) || n = 0x1680 || n = 0x06DD || n = 0x070F || n = 0x180E || n = 0x200E ||
    n = 0x200F || (0x2028 ≤ n && n ≤ 0x202E) || (0x2061 ≤ n && n ≤ 0x206F) ||
    (0xE000 ≤ n && n ≤ 0xF8FF) || (0xFFF9 ≤ n && n ≤ 0xFFFF) || 0xE0000 ≤ n

/-- Whether a code point is a space that stands for the blank. -/
def isWideBlank (n : Nat) : Bool :=
  n = 0xA0 || (0x2000 ≤ n && n ≤ 0x200A) || n = 0x202F || n = 0x205F || n = 0x3000

/-- What a character of a label is prepared to; `none` if it may not stand there. -/
def prepareChar (c : Char) : Option Text :=
  let n := c.toNat
  if isDropped n then some []
  else if isWideBlank n then some [' ']
  else if isProhibited n then none
  else if n = 0xDF then some ['s', 's']
  else if n = 0xB5 then some ['μ']
  else if n = 0x3C2 then some ['σ']
  else if 0xFF01 ≤ n && n ≤ 0xFF5E then some [(Char.ofNat (n - 0xFEE0)).toLower]
  else if (0xC0 ≤ n && n ≤ 0xDE && n ≠ 0xD7) || (0x391 ≤ n && n ≤ 0x3AB && n ≠ 0x3A2) ||
      (0x410 ≤ n && n ≤ 0x42F) then
    some [Char.ofNat (n + 32)]
  else if 0x400 ≤ n && n ≤ 0x40F then some [Char.ofNat (n + 80)]
  else some [c.toLower]

/-- The prepared label. -/
def prepare (label : Text) : Option Text := (label.mapM prepareChar).map List.flatten

/-- The digit worth `n`. -/
def digit (n : Nat) : Char := if n < 26 then Char.ofNat (0x61 + n) else Char.ofNat (0x30 + n - 26)

/-- The threshold of the digit at position `k`, `36` to the left for every position. -/
def threshold (bias k : Nat) : Nat :=
  if k ≤ bias then 1 else if bias + 26 ≤ k then 26 else k - bias

/-- The digits of a step count, lowest first; at most `fuel` of them. -/
def digits (bias : Nat) : (fuel k q : Nat) → Text
  | 0, _, _ => []
  | fuel + 1, k, q =>
    let t := threshold bias k
    if q < t then [digit q]
    else digit (t + (q - t) % (36 - t)) :: digits bias fuel (k + 36) ((q - t) / (36 - t))

/-- Scales a step count down to the range of the bias; `k` counts 36 for each division. -/
def scale : (fuel delta k : Nat) → Nat
  | 0, delta, k => k + 36 * delta / (delta + 38)
  | fuel + 1, delta, k =>
    if 455 < delta then scale fuel (delta / 35) (k + 36) else k + 36 * delta / (delta + 38)

/-- The bias after a step count, when `points` characters are placed. -/
def adapt (delta points : Nat) (isFirst : Bool) : Nat :=
  let delta := if isFirst then delta / 700 else delta / 2
  scale 32 (delta + delta / points) 0

/-- Where encoding has come to: characters placed, steps since the last one, bias, output. -/
structure Coding where
  /-- How many characters are placed. -/
  placed : Nat
  /-- The steps since the last insertion. -/
  delta : Nat
  /-- The bias. -/
  bias : Nat
  /-- The digits so far. -/
  output : Text

/-- Encodes the insertions of the character `point` into a label with `basic` ASCII characters. -/
def Coding.pass (basic point : Nat) (label : Text) (s : Coding) : Coding :=
  label.foldl (fun s c =>
    if c.toNat < point then { s with delta := s.delta + 1 }
    else if c.toNat = point then
      ⟨s.placed + 1, 0, adapt s.delta (s.placed + 1) (s.placed = basic),
        s.output ++ digits s.bias 64 36 s.delta⟩
    else s) s

/-- A code point put in its place among others that rise, unless it is there. -/
def place (point : Nat) : List Nat → List Nat
  | [] => [point]
  | p :: rest =>
    if point < p then point :: p :: rest
    else if point = p then p :: rest
    else p :: place point rest

/-- The Punycode digits of a label. -/
def punycode (label : Text) : Text :=
  let basic := label.filter isAscii
  let points := ((label.filter (! isAscii ·)).map Char.toNat).foldr place []
  let last := points.foldl (fun (s, n) point =>
    let s := { s with delta := s.delta + (point - n) * (s.placed + 1) }
    let s := Coding.pass basic.length point label s
    ({ s with delta := s.delta + 1 }, point + 1))
    ((⟨basic.length, 0, 72, []⟩ : Coding), 0x80)
  (if basic = [] then [] else basic ++ ['-']) ++ last.1.output

/-- The bytes of a label. A label that comes out empty or longer than 63 bytes, or that begins with
the mark of encoded labels without being ASCII, is refused. -/
def encodeLabel (label : Text) : Except Reason Text :=
  let sized (t : Text) : Except Reason Text :=
    if t ≠ [] ∧ t.length < 64 then .ok t else .error .longLabel
  if label.all isAscii then sized label
  else match prepare label with
    | none => .error .longLabel
    | some label =>
      if label.all isAscii then sized label
      else if Text.startsWith "xn--".toList label then .error .longLabel
      else sized ("xn--".toList ++ punycode label)

example : (encodeLabel "bücher".toList).toOption = some "xn--bcher-kva".toList := by decide +kernel
example : (encodeLabel "中文".toList).toOption = some "xn--fiq228c".toList := by decide +kernel

end ZoneKeeper.MasterFile.International
