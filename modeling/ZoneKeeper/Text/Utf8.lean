import ZoneKeeper.Text.Digit
import ZoneKeeper.Text.Hex

/-!
# UTF-8

Encoding texts as bytes and decoding bytes strictly. A sequence is shortest-form, writes no
surrogate and nothing above U+10FFFF; the bounds on the byte after the lead byte see to that. The
decoder reads one byte at a time and carries what a begun sequence still needs, so a fault is found
at the first byte that no sequence could go on with, and the fault covers the bytes that were
accepted of the sequence before it.
-/

namespace ZoneKeeper.Text.Utf8

/-- Why bytes are not UTF-8. -/
inductive Reason where
  /-- No sequence begins with this byte. -/
  | start
  /-- The sequence does not go on with the byte that follows. -/
  | continuation
  /-- The bytes end inside a sequence. -/
  | ending
  deriving DecidableEq, Repr

/-- Where and why decoding stopped. -/
structure Fault where
  /-- The lead byte of the faulty sequence. -/
  first : Nat
  /-- How many bytes stand before it. -/
  position : Nat
  /-- How many bytes of the sequence were good. -/
  width : Nat
  /-- What is wrong after them. -/
  reason : Reason
  deriving DecidableEq, Repr

/-- The bytes of one character. -/
def encodeChar (c : Char) : List UInt8 :=
  let n := c.toNat
  let tail (k : Nat) : UInt8 := UInt8.ofNat (0x80 + k % 64)
  if n < 0x80 then [UInt8.ofNat n]
  else if n < 0x800 then [UInt8.ofNat (0xC0 + n / 64), tail n]
  else if n < 0x10000 then [UInt8.ofNat (0xE0 + n / 4096), tail (n / 64), tail n]
  else [UInt8.ofNat (0xF0 + n / 262144), tail (n / 4096), tail (n / 64), tail n]

/-- The bytes of a text. -/
def encode (t : Text) : List UInt8 := t.flatMap encodeChar

/-- What a begun sequence still needs. -/
structure Pending where
  /-- The lead byte. -/
  first : Nat
  /-- How many bytes of the sequence are read. -/
  width : Nat
  /-- How many bytes are still to come, less one. -/
  more : Nat
  /-- The least value of the next byte. -/
  least : Nat
  /-- The greatest value of the next byte. -/
  greatest : Nat
  /-- The code point so far. -/
  code : Nat

/-- What a lead byte of a longer sequence begins. -/
def Pending.ofLead? (b : Nat) : Option Pending :=
  if b < 0xC2 || 0xF4 < b then none
  else if b < 0xE0 then some ⟨b, 1, 0, 0x80, 0xBF, b - 0xC0⟩
  else if b < 0xF0 then
    some ⟨b, 1, 1, if b = 0xE0 then 0xA0 else 0x80, if b = 0xED then 0x9F else 0xBF, b - 0xE0⟩
  else
    some ⟨b, 1, 2, if b = 0xF0 then 0x90 else 0x80, if b = 0xF4 then 0x8F else 0xBF, b - 0xF0⟩

/-- Decodes the bytes after `position` bytes that gave the characters `done`, last first. -/
def decodeFrom (done : Text) (position : Nat) : Option Pending → List UInt8 → Except Fault Text
  | none, [] => .ok done.reverse
  | some p, [] => .error ⟨p.first, position - p.width, p.width, .ending⟩
  | none, b :: rest =>
    if b.toNat < 0x80 then decodeFrom (Char.ofNat b.toNat :: done) (position + 1) none rest
    else match Pending.ofLead? b.toNat with
      | none => .error ⟨b.toNat, position, 1, .start⟩
      | some p => decodeFrom done (position + 1) (some p) rest
  | some p, b :: rest =>
    if p.least ≤ b.toNat && b.toNat ≤ p.greatest then
      let code := 64 * p.code + (b.toNat - 0x80)
      match p.more with
      | 0 => decodeFrom (Char.ofNat code :: done) (position + 1) none rest
      | more + 1 =>
        decodeFrom done (position + 1) (some ⟨p.first, p.width + 1, more, 0x80, 0xBF, code⟩) rest
    else .error ⟨p.first, position - p.width, p.width, .continuation⟩

/-- The text that bytes encode. -/
def decode (bytes : List UInt8) : Except Fault Text := decodeFrom [] 0 none bytes

/-- The wording of a reason. -/
def Reason.message : Reason → String
  | .start => "invalid start byte"
  | .continuation => "invalid continuation byte"
  | .ending => "unexpected end of data"

/-- The wording of a fault: one byte is given by its value, several by their places. -/
def Fault.message (f : Fault) : String :=
  let last := f.position + f.width - 1
  if f.width = 1 then
    s!"'utf-8' codec can't decode byte 0x{String.ofList (hex 2 f.first)} in position " ++
      s!"{f.position}: {f.reason.message}"
  else
    s!"'utf-8' codec can't decode bytes in position {f.position}-{last}: {f.reason.message}"

example : (decode (encode "aé中😀".toList)).toOption = some "aé中😀".toList := by decide
example : decode [0x61, 0xE2, 0x82] = .error ⟨0xE2, 1, 2, .ending⟩ := rfl
example : decode [0xED, 0xA0, 0x80] = .error ⟨0xED, 0, 1, .continuation⟩ := rfl
example : decode [0xC0, 0x80] = .error ⟨0xC0, 0, 1, .start⟩ := rfl

end ZoneKeeper.Text.Utf8
