import ZoneKeeper.Text.Basic

/-!
# What can be wrong with a document

The causes for which reading a document stops, with their wording.
-/

namespace ZoneKeeper.Xml

/-- Why a document cannot be read on. -/
inductive Fault where
  /-- The document ends where an element is wanted or open. -/
  | noElement
  /-- A character is where it cannot be. -/
  | invalidToken
  /-- The document ends inside markup. -/
  | unclosedToken
  /-- The document ends inside a character. -/
  | partialChar
  /-- An end tag closes another element than the one that is open. -/
  | mismatchedTag
  /-- An attribute is given twice. -/
  | duplicateAttribute
  /-- Something other than comments and instructions follows the document element. -/
  | junk
  /-- A parameter entity is referred to where it cannot be. -/
  | parameterReference
  /-- An entity is not declared. -/
  | undefinedEntity
  /-- An entity refers to itself. -/
  | recursiveEntity
  /-- An element begins and ends in different entities. -/
  | asynchronousEntity
  /-- A reference gives the number of no character. -/
  | charNumber
  /-- An entity that is no text is referred to. -/
  | binaryEntity
  /-- An attribute refers to an entity outside of the document. -/
  | externalEntity
  /-- An XML declaration is not at the start. -/
  | misplacedDeclaration
  /-- The declared encoding cannot be that of the document. -/
  | incorrectEncoding
  /-- A CDATA section is not closed. -/
  | unclosedSection
  /-- A standalone document refers to an entity that a parameter entity declares. -/
  | entityInParameter
  /-- A declaration ends outside of the parameter entity that it begins in. -/
  | incompleteParameter
  /-- Markup or text stands where the grammar has no place for it. -/
  | syntaxError
  /-- The XML declaration is malformed. -/
  | malformedDeclaration
  /-- A public identifier has a character that it cannot have. -/
  | publicIdentifier
  /-- The declared encoding is not known. -/
  | unknownEncoding (name : Text)
  deriving DecidableEq, Repr

/-- The wording of a fault. -/
def Fault.message : Fault → Text
  | .noElement => "no element found".toList
  | .invalidToken => "not well-formed (invalid token)".toList
  | .unclosedToken => "unclosed token".toList
  | .partialChar => "partial character".toList
  | .mismatchedTag => "mismatched tag".toList
  | .duplicateAttribute => "duplicate attribute".toList
  | .junk => "junk after document element".toList
  | .parameterReference => "illegal parameter entity reference".toList
  | .undefinedEntity => "undefined entity".toList
  | .recursiveEntity => "recursive entity reference".toList
  | .asynchronousEntity => "asynchronous entity".toList
  | .charNumber => "reference to invalid character number".toList
  | .binaryEntity => "reference to binary entity".toList
  | .externalEntity => "reference to external entity in attribute".toList
  | .misplacedDeclaration => "XML or text declaration not at start of entity".toList
  | .incorrectEncoding => "encoding specified in XML declaration is incorrect".toList
  | .unclosedSection => "unclosed CDATA section".toList
  | .entityInParameter => "entity declared in parameter entity".toList
  | .incompleteParameter => "incomplete markup in parameter entity".toList
  | .syntaxError => "syntax error".toList
  | .malformedDeclaration => "XML declaration not well-formed".toList
  | .publicIdentifier => "illegal character(s) in public id".toList
  | .unknownEncoding name => "unknown encoding: ".toList ++ name

/-- A fault and the line that it was found at. -/
structure Failure where
  /-- What is wrong. -/
  fault : Fault
  /-- The line, counted from 1. -/
  line : Nat
  deriving DecidableEq, Repr

end ZoneKeeper.Xml
