import ZoneKeeper.Text.Utf8
import ZoneKeeper.Xml.Scan

/-!
# Encodings

How the bytes of a document are read as characters. The first bytes tell enough to read the XML
declaration, which may then name the encoding; it can only name one whose characters have the width
of those just read. Bytes that are no character are read as one that no document may hold, so that
they are refused where they stand.
-/

namespace ZoneKeeper.Xml

open Text

/-- An encoding. -/
inductive Encoding where
  /-- ASCII. -/
  | ascii
  /-- One byte for each of the first 256 characters. -/
  | latin
  /-- UTF-8. -/
  | utf8
  /-- Units of two bytes, the more significant one first. -/
  | utf16Big
  /-- Units of two bytes, the less significant one first. -/
  | utf16Little
  deriving DecidableEq, Repr

/-- What bytes are read as that are no character. -/
def malformed : Char := '\x00'

namespace Encoding

/-- How many bytes a character of UTF-8 has that begins with this one; 0 if none begins with it. -/
def width (b : UInt8) : Nat :=
  if b < 0x80 then 1 else if b < 0xC2 then 0 else if b < 0xE0 then 2 else if b < 0xF0 then 3
  else if b < 0xF5 then 4 else 0

/-- The character that some bytes of UTF-8 are. -/
def charOf (bytes : List UInt8) : Char :=
  match Utf8.decode bytes with
  | .ok [c] => c
  | _ => malformed

/-- Reads UTF-8 after the characters `done`, last first, and the bytes `begun` of one more, which
has `more` bytes to come. -/
def readUtf8 (done : Text) (begun : List UInt8) : (more : Nat) → List UInt8 → Text × Ending
  | 0, [] => (done.reverse, .whole)
  | _ + 1, [] => (done.reverse, .insideChar)
  | more, b :: rest =>
    match if more = 0 then width b else more with
    | 0 => readUtf8 (malformed :: done) [] 0 rest
    | 1 => readUtf8 (charOf (begun ++ [b]) :: done) [] 0 rest
    | more + 2 => readUtf8 done (begun ++ [b]) (more + 1) rest

/-- Whether a unit of two bytes is the first half of a character. -/
def isFirstHalf (unit : Nat) : Bool := 0xD800 ≤ unit && unit < 0xDC00

/-- Whether a unit of two bytes is the second half of a character. -/
def isSecondHalf (unit : Nat) : Bool := 0xDC00 ≤ unit && unit < 0xE000

/-- The character that two halves make. -/
def joined (first second : Nat) : Char :=
  if isSecondHalf second then Char.ofNat (0x10000 + 0x400 * (first - 0xD800) + (second - 0xDC00))
  else malformed

/-- Reads units of two bytes after characters that are given last first. -/
def readUtf16 (unit : UInt8 → UInt8 → Nat) (done : Text) : List UInt8 → Text × Ending
  | [] => (done.reverse, .whole)
  | [_] => (done.reverse, .insideUnit)
  | a :: b :: rest =>
    if isFirstHalf (unit a b) then
      match rest with
      | c :: d :: rest => readUtf16 unit (joined (unit a b) (unit c d) :: done) rest
      | _ => (done.reverse, .insideChar)
    else if isSecondHalf (unit a b) then readUtf16 unit (malformed :: done) rest
    else readUtf16 unit (Char.ofNat (unit a b) :: done) rest

/-- The characters that bytes are, and how the bytes end. -/
def read (e : Encoding) (bytes : List UInt8) : Text × Ending :=
  match e with
  | .ascii => (bytes.map fun b => if b < 0x80 then Char.ofNat b.toNat else malformed, .whole)
  | .latin => (bytes.map fun b => Char.ofNat b.toNat, .whole)
  | .utf8 => readUtf8 [] [] 0 bytes
  | .utf16Big => readUtf16 (fun a b => 0x100 * a.toNat + b.toNat) [] bytes
  | .utf16Little => readUtf16 (fun a b => 0x100 * b.toNat + a.toNat) [] bytes

/-- Whether characters have two bytes at least. -/
def isWide : Encoding → Bool
  | .utf16Big | .utf16Little => true
  | _ => false

/-- The encoding that the first bytes show, and the bytes without the mark that may begin them;
`none` if there are too few of them to tell. -/
def detect? : List UInt8 → Option (Encoding × List UInt8)
  | [] => some (.utf8, [])
  | [b] => if [0xFE, 0xFF, 0xEF, 0x00, 0x3C].contains b then none else some (.utf8, [b])
  | 0xFE :: 0xFF :: rest => some (.utf16Big, rest)
  | 0xFF :: 0xFE :: rest => some (.utf16Little, rest)
  | [0xEF, 0xBB] => none
  | 0xEF :: 0xBB :: 0xBF :: rest => some (.utf8, rest)
  | a :: b :: rest =>
    if a = 0 then some (.utf16Big, a :: b :: rest)
    else if b = 0 then some (.utf16Little, a :: b :: rest)
    else some (.utf8, a :: b :: rest)

/-- What a name says of the encoding of a document. -/
inductive Named where
  /-- It is this one. -/
  | known (e : Encoding)
  /-- It cannot be that of the document. -/
  | refused
  /-- There is none of this name. -/
  | unknown
  deriving DecidableEq, Repr

/-- Other names of the encoding that has one byte for each of the first 256 characters; in all names
`_` counts as `-`. -/
def latinNames : List Text :=
  ["iso-8859-1", "iso8859-1", "iso8859", "8859", "cp819", "iso-8859-1-1987", "iso-ir-100", "latin",
    "latin1", "latin-1", "l1", "csisolatin1", "ibm819"].map String.toList

/-- Other names of ASCII. UTF-8 is among them, as by such a name a character of more than one byte
is not read. -/
def asciiNames : List Text :=
  ["us-ascii", "ascii", "646", "ansi-x3.4-1968", "ansi-x3-4-1968", "ansi-x3.4-1986", "cp367",
    "csascii", "ibm367", "iso646-us", "iso-646.irv-1991", "iso-ir-6", "us", "utf-8", "u8", "utf",
    "utf8", "utf8-ucs2", "utf8-ucs4", "cp65001"].map String.toList

/-- What a name says, `e` being what the first bytes show. -/
def named (e : Encoding) (name : Text) : Named :=
  let name := name.map Char.toLower
  let given? :=
    if name = "utf-8".toList then some utf8
    else if name = "iso-8859-1".toList then some latin
    else if name = "us-ascii".toList then some ascii
    else if name = "utf-16".toList then some (if e.isWide then e else utf16Big)
    else if name = "utf-16be".toList then some utf16Big
    else if name = "utf-16le".toList then some utf16Little
    else none
  match given? with
  | some given =>
    if given.isWide = e.isWide && (!given.isWide || given = e) then .known given else .refused
  | none =>
    let name := replace '_' '-' name
    if latinNames.contains name then .known latin
    else if asciiNames.contains name then .known ascii
    else .unknown

end Encoding

example : Encoding.utf8.read [0x61, 0xC3, 0xA9, 0xE2, 0x82] =
    ("aé".toList, .insideChar) := by decide
example : Encoding.utf16Little.read [0x3D, 0xD8, 0x00, 0xDE, 0x41] =
    ("😀".toList, .insideUnit) := by decide
example : Encoding.utf8.named "UTF-16".toList = .refused := by decide

end ZoneKeeper.Xml
