import ZoneKeeper.Text.Basic

/-!
# Paths

A path is the names on the way to a file, starting at the working folder or at the root. Empty names
and `.` say nothing and are dropped; `..` is kept, since where it leads depends on the files. Two
slashes at the start of a path are not the same root as one, and more than two are.
-/

namespace ZoneKeeper

open Text

/-- Where a path starts. -/
inductive Anchor where
  /-- At the working folder. -/
  | here
  /-- At the root. -/
  | root
  /-- At the root that two slashes name. -/
  | doubleRoot
  deriving DecidableEq, Repr

/-- How a path with this anchor begins. -/
def Anchor.toText : Anchor → Text
  | .here => []
  | .root => ['/']
  | .doubleRoot => ['/', '/']

/-- The anchor of a path as it is written. -/
def Anchor.ofText (t : Text) : Anchor :=
  match (t.takeWhile (· = '/')).length with
  | 0 => .here
  | 2 => .doubleRoot
  | _ => .root

/-- Whether a name says where a path leads: an empty name and `.` say nothing. -/
def Path.isName (name : Text) : Bool := name ≠ [] && name ≠ ['.']

/-- A path: its start and the names that follow. -/
@[ext]
structure Path where ofNames ::
  /-- Where it starts. -/
  anchor : Anchor
  /-- The names. -/
  names : List Text
  /-- None of the names is empty or `.`. -/
  areNames : ∀ name ∈ names, Path.isName name = true
  deriving DecidableEq, Repr

namespace Path

/-- The path of some names, without those that say nothing. -/
def mk (anchor : Anchor) (names : List Text) : Path :=
  ofNames anchor (names.filter isName) fun _ h => (List.mem_filter.mp h).2

/-- The path that a text writes. -/
def ofText (t : Text) : Path := mk (Anchor.ofText t) (split '/' t)

/-- The path as it is written; a path that says nothing is `.`. -/
def toText (p : Path) : Text :=
  match p.anchor.toText ++ join ['/'] p.names with
  | [] => ['.']
  | t => t

/-- The second path taken from where the first leads. A path with a root leads where it leads. -/
def append (p q : Path) : Path :=
  if q.anchor = .here then
    ofNames p.anchor (p.names ++ q.names) fun name h =>
      (List.mem_append.mp h).elim (p.areNames name) (q.areNames name)
  else q

instance : Append Path := ⟨append⟩

@[simp] theorem anchor_mk (anchor : Anchor) (names : List Text) :
    (mk anchor names).anchor = anchor := rfl

@[simp] theorem names_mk (anchor : Anchor) (names : List Text) :
    (mk anchor names).names = names.filter isName := rfl

theorem anchor_append {p q : Path} (h : q.anchor = .here) : (p ++ q).anchor = p.anchor := by
  show (append p q).anchor = _
  rw [append, if_pos h]

theorem names_append {p q : Path} (h : q.anchor = .here) :
    (p ++ q).names = p.names ++ q.names := by
  show (append p q).names = _
  rw [append, if_pos h]

theorem append_of_anchor {p q : Path} (h : q.anchor ≠ .here) : p ++ q = q := if_neg h

example : (ofText "a//b/./c/".toList).toText = "a/b/c".toList := by decide
example : (ofText "".toList).toText = ".".toList := by decide
example : (ofText "zones".toList ++ ofText "/x".toList).toText = "/x".toList := by decide

end Path

end ZoneKeeper
