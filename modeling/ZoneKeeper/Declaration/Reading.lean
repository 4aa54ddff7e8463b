import ZoneKeeper.Declaration.Builder
import ZoneKeeper.FileTree
import ZoneKeeper.Journal
import ZoneKeeper.Text.Fold
import ZoneKeeper.Xml.Document

/-!
# Reading a declaration

A declaration is written as an XML document, whose elements are handed to the builder in order. The
letter case of tags and attribute names does not matter. An element that is refused comes before
whatever is wrong with the document after it.
-/

namespace ZoneKeeper.Declaration

open Text

/-- Why a document gives no catalogue. -/
inductive ReadFault where
  /-- The declaration is refused. -/
  | refused (fault : Fault)
  /-- The document is not well written. -/
  | markup (failure : Xml.Failure)
  /-- The file cannot be read. -/
  | unreadable (p : Path) (why : FileFault)
  deriving DecidableEq, Repr

/-- The wording of a fault. -/
def ReadFault.message : ReadFault → Text
  | .refused fault => fault.message
  | .markup ⟨.unknownEncoding name, _⟩ => (Xml.Fault.unknownEncoding name).message
  | .markup failure =>
    atLine ("XML parser reports ".toList ++ named failure.fault.message) (some failure.line)
  | .unreadable _ .nul => FileFault.nul.message (.ofText [])
  | .unreadable p why =>
    "Unable to open configuration file - ".toList ++ p.toText ++ ": ".toList ++ why.message p

/-- Attributes as the builder takes them. -/
def foldedAttributes (a : List (Text × Text)) : Attributes :=
  .ofTexts (a.map fun (name, value) => (capitals name, value))

/-- Hands the beginning or end of an element to the builder. -/
def Builder.take (b : Builder) : Xml.Event → Journaled ReadFault Builder
  | .start name attributes line =>
    let started := b.start (capitals name) (foldedAttributes attributes) (some line)
    .ofExcept (started.mapError .refused)
  | .finish name => do
    if let some domain := b.closes? (capitals name) then
      Journaled.report .debug ("Loaded domain ".toList ++ domain)
    return b.finish (capitals name)

/-- The catalogue that the beginnings and ends of elements declare, unless the document fails after
them. -/
def ofEvents (events : List Xml.Event) (failure? : Option Xml.Failure) :
    Journaled ReadFault Catalogue := do
  let b ← events.foldlM Builder.take .empty
  if let some failure := failure? then .ofExcept (.error (.markup failure))
  let zones ← .ofExcept (b.build.mapError .refused)
  Journaled.report .debug
    ("Loaded ".toList ++ decimal zones.length ++ " domain(s) from configuration".toList)
  return zones

/-- The catalogue that the bytes of a document declare. -/
def ofBytes (bytes : List UInt8) : Journaled ReadFault Catalogue :=
  let reading := Xml.Document.read bytes
  ofEvents reading.events reading.failure

/-- The catalogue that the text of a document declares. -/
def ofText (t : Text) : Journaled ReadFault Catalogue := ofBytes (Utf8.encode t)

/-- The catalogue that a file declares. -/
def ofFile (files : FileTree) (p : Path) : Journaled ReadFault Catalogue := do
  ofBytes (← .ofExcept ((files.read p).mapError (.unreadable p)))

end ZoneKeeper.Declaration
