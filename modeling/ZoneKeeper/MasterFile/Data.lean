import ZoneKeeper.MasterFile.Name
import ZoneKeeper.MasterFile.Token
import ZoneKeeper.MasterFile.Ttl
import ZoneKeeper.Text.Utf8

/-!
# Record data

The data of a record, field by field as its type asks for them, up to the end of the line. What the
fields say is needed only as far as it decides whether they are right; the one value that is kept is
the last timing of a start of authority, which records without a time to live may inherit.
-/

namespace ZoneKeeper.MasterFile

open Text

/-- The record types that a master file may hold. -/
inductive Kind where
  /-- A start of authority. -/
  | soa
  /-- A nameserver. -/
  | ns
  /-- An IPv4 address. -/
  | a
  /-- An alias. -/
  | cname
  /-- A mail exchange. -/
  | mx
  /-- Character strings. -/
  | txt
  deriving DecidableEq, Repr

/-- The token and the number of every type. -/
def Kind.tokens : List (Text × Nat × Kind) :=
  [("A".toList, 1, .a), ("NS".toList, 2, .ns), ("CNAME".toList, 5, .cname), ("SOA".toList, 6, .soa),
   ("MX".toList, 15, .mx), ("TXT".toList, 16, .txt)]

/-- The number in a token such as `TYPE16`, which begins with `start`. -/
def numbered? (start t : Text) : Option Nat :=
  (dropPrefix? start t).bind fun digits => if digits = [] then none else numeral? digits

/-- The type that a word names, in any letter case. -/
def Kind.ofWord? (w : Text) : Option Kind :=
  let w := w.map Char.toUpper
  let number := numbered? "TYPE".toList w
  (Kind.tokens.find? fun (token, n, _) => token = w || number = some n).map (·.2.2)

/-- Whether a word names a class, and if so whether it is the internet. -/
def internetClass? (w : Text) : Option Bool :=
  let w := w.map Char.toUpper
  if ["IN".toList, "INTERNET".toList].contains w then some true
  else if ["CH".toList, "CHAOS".toList, "HS".toList, "HESIOD".toList, "NONE".toList, "ANY".toList,
      "RESERVED0".toList].contains w then some false
  else match numbered? "CLASS".toList w with
    | some n => if n ≤ 65535 then some (n = 1) else none
    | none => none

/-- What the three digits after a backslash are worth, if they are a byte. -/
def escapedByte? (a b c : Char) : Option Nat :=
  match digitValue? a, digitValue? b, digitValue? c with
  | some x, some y, some z =>
    let n := 100 * x + 10 * y + z
    if n ≤ 255 then some n else none
  | _, _, _ => none

/-- A token with its escapes undone: for every character the bytes that it stands for are the
UTF-8 bytes of the character or, for three digits, one byte. -/
def unescape : Text → Except Reason (List (Char × Nat))
  | [] => .ok []
  | '\\' :: a :: rest =>
    if isDigit a then
      match rest with
      | b :: c :: rest =>
        match escapedByte? a b c with
        | some n => (unescape rest).map ((Char.ofNat n, 1) :: ·)
        | none => .error .badEscape
      | _ => .error .danglingEscape
    else (unescape rest).map ((a, (Utf8.encodeChar a).length) :: ·)
  | c :: rest => (unescape rest).map ((c, (Utf8.encodeChar c).length) :: ·)

namespace Cursor

/-- The next word with its escapes undone. -/
def plainWord (c : Cursor) : Except Reason (Text × Cursor) := do
  let (w, c) ← c.word
  return ((← unescape w).map (·.1), c)

/-- The next word as a name. -/
def name (c : Cursor) (origin : Option Name) : Except Reason (Name × Cursor) := do
  let (w, c) ← c.word
  return (← Name.ofText w origin, c)

/-- The next word as a number of at most `greatest`. -/
def number (c : Cursor) (greatest : Nat) : Except Reason (Nat × Cursor) := do
  let (w, c) ← c.plainWord
  match if w = [] then none else numeral? w with
  | some n => if n ≤ greatest then .ok (n, c) else .error .badNumber
  | none => .error .badNumber

/-- The next word as a time to live. -/
def ttl (c : Cursor) : Except Reason (Nat × Cursor) := do
  let (w, c) ← c.plainWord
  match ttl? w with
  | some n => .ok (n, c)
  | none => .error .badTtl

/-- The strings up to the end of the line, at most `fuel` of them: how many there are. -/
def strings : (fuel : Nat) → Cursor → Except Reason (Nat × Cursor)
  | 0, c => .ok (0, c)
  | fuel + 1, c => do
    let (token, after) ← c.next
    match token with
    | .word t | .quoted t =>
      let bytes := ((← unescape t).map (·.2)).sum
      if 255 < bytes then .error .longString
      else
        let (n, c) ← strings fuel after
        return (n + 1, c)
    | _ => return (0, c)

end Cursor

/-- Whether a part of an address is a number of at most 255 in ASCII, without a leading zero. -/
def isStrictOctet (t : Text) : Bool :=
  t ≠ [] && t.all isAsciiDigit && (t.length = 1 || t.head? ≠ some '0') &&
    (numeral? t).any (· ≤ 255)

/-- Whether a text is four strict octets between dots. -/
def isStrictAddress (t : Text) : Bool :=
  let parts := split '.' t
  parts.length = 4 && parts.all isStrictOctet

/-- Reads the data of a record of a type, names completed by the origin. The result is the time to
live of negative answers, if the record is a start of authority. -/
def readData (kind : Kind) (origin : Name) (c : Cursor) :
    Except Reason (Option Nat × Cursor) := do
  match kind with
  | .soa =>
    let (_, c) ← c.name origin
    let (_, c) ← c.name origin
    let (_, c) ← c.number maxTtl
    let (_, c) ← c.ttl
    let (_, c) ← c.ttl
    let (_, c) ← c.ttl
    let (negative, c) ← c.ttl
    return (some negative, c)
  | .ns | .cname =>
    let (_, c) ← c.name origin
    return (none, c)
  | .a =>
    let (w, c) ← c.plainWord
    if isStrictAddress w then return (none, c) else .error .badAddress
  | .mx =>
    let (_, c) ← c.number 65535
    let (_, c) ← c.name origin
    return (none, c)
  | .txt =>
    let (n, c) ← c.strings (c.rest.length + 1)
    if n = 0 then .error .noString else return (none, c)

end ZoneKeeper.MasterFile
