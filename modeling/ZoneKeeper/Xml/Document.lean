import ZoneKeeper.Xml.Content
import ZoneKeeper.Xml.Opening

/-!
# Documents

A document from its bytes: how they are encoded, what stands before the elements, the elements, and
what stands after them. The elements that were read before something wrong is found are given along
with the failure.
-/

namespace ZoneKeeper.Xml

open Text

/-- What reading a document gives. -/
structure Reading where
  /-- The beginnings and ends of elements in order. -/
  events : List Event
  /-- What is wrong after them, if something is. -/
  failure : Option Failure
  deriving DecidableEq, Repr

namespace Document

/-- The bytes of a document as characters, from after the XML declaration on, and whether the
document stands alone. -/
def start (bytes : List UInt8) : Except Failure (Cursor × Bool) := do
  let some (encoding, bytes) := Encoding.detect? bytes | .error ⟨.unclosedToken, 1⟩
  let decode (e : Encoding) : Cursor :=
    let (text, ending) := e.read bytes
    .ofText text ending
  match ← Beginning.read (decode encoding) with
  | none => return (decode encoding, false)
  | some ⟨opening, length⟩ =>
    let encoding ← match opening.encoding with
      | none => pure encoding
      | some (name, line) =>
        match encoding.named name with
        | .known e => pure e
        | .refused => .error ⟨.incorrectEncoding, line⟩
        | .unknown => .error ⟨.unknownEncoding name, line⟩
    return ((decode encoding).advance length, opening.isStandalone)

/-- Reads what may follow the outermost element. -/
def afterElement : (fuel : Nat) → Cursor → Except Failure Unit
  | 0, _ => .ok ()
  | fuel + 1, c => do
    let ((), c) ← Parse.spaces.run c
    if c.rest = [] && c.ending = .whole then return ()
    match ← Parse.next.run c with
    | ((.comment, _), c) | ((.instruction .application, _), c) => afterElement fuel c
    | ((_, line), _) => .error ⟨.junk, line⟩

/-- Reads a whole document. -/
def content (bytes : List UInt8) : Content Unit := do
  let (c, isStandalone) ← Content.ofExcept (start bytes)
  let type := { DocumentType.empty with isStandalone }
  let ((type, line), c) ← Content.ofExcept ((type.beforeElement (c.left + 1) false).run c)
  let c ← Content.outermost type line c
  Content.ofExcept (afterElement (c.left + 1) c)

/-- What the bytes of a document say. -/
def read (bytes : List UInt8) : Reading :=
  match (content bytes).run.run ⟨[], []⟩ with
  | (.ok (), p) => ⟨p.events.reverse, none⟩
  | (.error failure, p) => ⟨p.events.reverse, some failure⟩

end Document

end ZoneKeeper.Xml
