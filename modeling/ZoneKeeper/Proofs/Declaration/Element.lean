import ZoneKeeper.Declaration.Reading

/-!
# The elements of a document

A document as the tree of its elements. Reading it gives the beginnings and ends of the elements in
order; what the document declares is said by the elements themselves and by the elements that each
of them stands in.
-/

namespace ZoneKeeper.Declaration

open Text

/-- An element of a document. -/
structure Element where
  /-- Its name, as it is written. -/
  name : Text
  /-- Its attributes in the order in which they are written. -/
  attributes : List (Text × Text)
  /-- The line of its tag. -/
  line : Nat
  /-- The elements directly in it. -/
  children : List Element
  deriving Repr

namespace Element

mutual

/-- The beginnings and ends of an element and of all elements in it, in order. -/
def events : Element → List Xml.Event
  | ⟨name, attributes, line, children⟩ =>
    .start name attributes line :: (eventsOf children ++ [.finish name])

/-- The beginnings and ends of elements that follow one another. -/
def eventsOf : List Element → List Xml.Event
  | [] => []
  | e :: es => e.events ++ eventsOf es

end

mutual

/-- An element and all elements in it, in the order in which they begin. -/
def elements : Element → List Element
  | ⟨name, attributes, line, children⟩ =>
    ⟨name, attributes, line, children⟩ :: elementsOf children

/-- The elements in elements that follow one another. -/
def elementsOf : List Element → List Element
  | [] => []
  | e :: es => e.elements ++ elementsOf es

end

/-- The elements in an element, in the order in which they begin. -/
def descendants (e : Element) : List Element := elementsOf e.children

/-- An element at its place in a document. -/
structure Place where
  /-- The element. -/
  element : Element
  /-- The elements that it stands in, innermost first. -/
  ancestors : List Element

mutual

/-- An element that stands in others and all elements in it, each at its place. -/
def places (ancestors : List Element) : Element → List Place
  | ⟨name, attributes, line, children⟩ =>
    ⟨⟨name, attributes, line, children⟩, ancestors⟩ ::
      placesOf (⟨name, attributes, line, children⟩ :: ancestors) children

/-- The places in elements that follow one another. -/
def placesOf (ancestors : List Element) : List Element → List Place
  | [] => []
  | e :: es => e.places ancestors ++ placesOf ancestors es

end

theorem events_eq (e : Element) :
    e.events = .start e.name e.attributes e.line :: (eventsOf e.children ++ [.finish e.name]) := by
  cases e
  rw [events]

theorem elements_eq (e : Element) : e.elements = e :: e.descendants := by
  cases e
  rw [elements]
  rfl

theorem places_eq (e : Element) (ancestors : List Element) :
    e.places ancestors = ⟨e, ancestors⟩ :: placesOf (e :: ancestors) e.children := by
  cases e
  rw [places]

mutual

theorem map_element_places : ∀ (e : Element) (ancestors : List Element),
    (e.places ancestors).map Place.element = e.elements
  | ⟨name, attributes, line, children⟩, ancestors => by
    rw [places, elements, List.map_cons, map_element_placesOf children]

theorem map_element_placesOf : ∀ (es : List Element) (ancestors : List Element),
    (placesOf ancestors es).map Place.element = elementsOf es
  | [], ancestors => by rw [placesOf, elementsOf, List.map_nil]
  | e :: es, ancestors => by
    rw [placesOf, elementsOf, List.map_append, map_element_places e, map_element_placesOf es]

end

mutual

/-- All elements in an element stand in whatever the element stands in. -/
theorem subset_ancestors : ∀ (e : Element) {ancestors : List Element} {p : Place},
    p ∈ e.places ancestors → ancestors ⊆ p.ancestors
  | ⟨name, attributes, line, children⟩, ancestors, p, hp => by
    rw [places] at hp
    rcases List.mem_cons.mp hp with rfl | hp
    · exact List.Subset.refl _
    · exact List.Subset.trans (List.subset_cons_self _ _) (subset_ancestorsOf children hp)

theorem subset_ancestorsOf : ∀ (es : List Element) {ancestors : List Element} {p : Place},
    p ∈ placesOf ancestors es → ancestors ⊆ p.ancestors
  | [], ancestors, p, hp => by
    rw [placesOf] at hp
    cases hp
  | e :: es, ancestors, p, hp => by
    rw [placesOf] at hp
    rcases List.mem_append.mp hp with hp | hp
    · exact subset_ancestors e hp
    · exact subset_ancestorsOf es hp

end

end Element

end ZoneKeeper.Declaration
