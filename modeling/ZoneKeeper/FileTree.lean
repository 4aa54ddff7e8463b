import ZoneKeeper.Path
import ZoneKeeper.Text.Quoted
import ZoneKeeper.Text.Utf8

/-!
# File trees

Folders and files by their location, the names on the way from the root; and how a path is followed
in a tree, name by name. A step is taken only from a folder, `..` leads to the folder above, and a
name is looked at only when the walk has come to it, so of several things that are wrong with a path
the first one on the way decides. There are no links in a tree, and all that is in it may be read
and written.
-/

namespace ZoneKeeper

open Text

/-- Where a file or folder is: the names from the root down. -/
abbrev Location := List Text

/-- What is at a location. -/
inductive Entry where
  /-- A folder. -/
  | folder
  /-- A file and its bytes. -/
  | file (bytes : List UInt8)
  deriving DecidableEq, Repr

/-- Why a path cannot be followed, read or written. -/
inductive FileFault where
  /-- Nothing is there. -/
  | missing
  /-- A name on the way is that of a file. -/
  | notFolder
  /-- A folder is there and no file. -/
  | isFolder
  /-- A name, or the path, is longer than the system takes. -/
  | tooLong
  /-- The path holds the character that ends names. -/
  | nul
  deriving DecidableEq, Repr

/-- The wording of a fault with a path. -/
def FileFault.message (p : Path) : FileFault → Text
  | .missing => "[Errno 2] No such file or directory: ".toList ++ quoted p.toText
  | .notFolder => "[Errno 20] Not a directory: ".toList ++ quoted p.toText
  | .isFolder => "[Errno 21] Is a directory: ".toList ++ quoted p.toText
  | .tooLong => "[Errno 36] File name too long: ".toList ++ quoted p.toText
  | .nul => "embedded null byte".toList

/-- Files and folders, and the working folder that paths without a root start at. -/
structure FileTree where
  /-- The location of the working folder. -/
  here : Location
  /-- What is where; of entries for one location the first counts. The root is always a folder. -/
  entries : List (Location × Entry)
  deriving DecidableEq, Repr

namespace FileTree

/-- What is at a location. -/
def get? (t : FileTree) (l : Location) : Option Entry :=
  if l = [] then some .folder else (t.entries.find? (·.1 = l)).map (·.2)

/-- The tree with an entry put at a location, over what is there. -/
def insert (t : FileTree) (l : Location) (e : Entry) : FileTree :=
  { t with
    entries :=
      if t.entries.any (·.1 = l) then t.entries.map fun x => if x.1 = l then (l, e) else x
      else t.entries ++ [(l, e)] }

/-- The tree without what is at a location and below it. -/
def erase (t : FileTree) (l : Location) : FileTree :=
  { t with entries := t.entries.filter fun x => ! l.isPrefixOf x.1 }

/-- The tree with folders at a location and on the way to it, where nothing is. -/
def makeFolders (t : FileTree) (l : Location) : FileTree :=
  (List.range (l.length + 1)).foldl (fun t n =>
    if (t.get? (l.take n)).isSome then t else t.insert (l.take n) .folder) t

/-- How many bytes a name may have. -/
def maxName : Nat := 255

/-- How many bytes a whole path may have. -/
def maxPath : Nat := 4095

/-- Where names lead from a location. The last name need not be there; every one before it must be a
folder. -/
def walk (t : FileTree) (from? : Location) : List Text → Except FileFault Location
  | [] => .ok from?
  | name :: rest =>
    match t.get? from? with
    | none => .error .missing
    | some (.file _) => .error .notFolder
    | some .folder =>
      if name = ['.', '.'] then t.walk from?.dropLast rest
      else if maxName < (Utf8.encode name).length then .error .tooLong
      else t.walk (from? ++ [name]) rest

/-- Where a path leads. -/
def locate (t : FileTree) (p : Path) : Except FileFault Location :=
  if p.toText.contains '\x00' then .error .nul
  else if maxPath < (Utf8.encode p.toText).length then .error .tooLong
  else t.walk (if p.anchor = .here then t.here else []) p.names

/-- What a path leads to. That nothing is there is no fault, for whatever reason it is not; that the
path is too long to ask is one. -/
def look (t : FileTree) (p : Path) : Except FileFault (Option Entry) :=
  match t.locate p with
  | .ok l => .ok (t.get? l)
  | .error .tooLong => .error .tooLong
  | .error _ => .ok none

/-- Whether a path leads to a file. -/
def isFile (t : FileTree) (p : Path) : Except FileFault Bool :=
  (t.look p).map fun | some (.file _) => true | _ => false

/-- Whether a path leads to a folder. -/
def isFolder (t : FileTree) (p : Path) : Except FileFault Bool :=
  (t.look p).map fun | some .folder => true | _ => false

/-- The bytes of the file that a path leads to. -/
def read (t : FileTree) (p : Path) : Except FileFault (List UInt8) := do
  match t.get? (← t.locate p) with
  | some (.file bytes) => .ok bytes
  | some .folder => .error .isFolder
  | none => .error .missing

/-- The tree after bytes are written to the file that a path leads to, which is made if it is not
there. -/
def write (t : FileTree) (p : Path) (bytes : List UInt8) : Except FileFault FileTree := do
  let l ← t.locate p
  if t.get? l = some .folder then .error .isFolder
  else .ok (t.insert l (.file bytes))

/-- The location that a path names if every `..` takes back the name before it, whatever is
there. -/
def nominal (t : FileTree) (p : Path) : Location :=
  p.names.foldl (fun l name => if name = ['.', '.'] then l.dropLast else l ++ [name])
    (if p.anchor = .here then t.here else [])

/-- A location as a path from the root. -/
def pathOf (l : Location) : Path := .mk .root l

@[simp] theorem here_insert (t : FileTree) (l : Location) (e : Entry) :
    (t.insert l e).here = t.here := rfl

/-- Where an entry was put it is found. -/
theorem get?_insert_self (t : FileTree) {l : Location} (e : Entry) (h : l ≠ []) :
    (t.insert l e).get? l = some e := by
  simp only [get?, h, if_false, insert]
  split
  · next hl =>
    generalize t.entries = entries at hl
    induction entries with
    | nil => simp at hl
    | cons x rest ih =>
      by_cases hx : x.1 = l
      · simp [hx]
      · simp only [List.any_cons, hx, decide_false, Bool.false_or] at hl
        simpa [hx] using ih hl
  · next hl =>
    have hnone : t.entries.find? (·.1 = l) = none := by
      rw [List.find?_eq_none]
      intro x hx hxl
      exact hl (List.any_eq_true.2 ⟨x, hx, hxl⟩)
    simp [List.find?_append, hnone]

/-- Putting an entry leaves all others as they are. -/
theorem get?_insert_of_ne (t : FileTree) {l m : Location} (e : Entry) (h : m ≠ l) :
    (t.insert l e).get? m = t.get? m := by
  have hl : ¬ l = m := fun hlm => h hlm.symm
  simp only [get?, insert]
  split
  · rfl
  · split
    · generalize t.entries = entries
      congr 1
      induction entries with
      | nil => rfl
      | cons x rest ih =>
        by_cases hx : x.1 = l
        · simpa [hx, hl] using ih
        · by_cases hm : x.1 = m
          · simp [hm, h]
          · simpa [hx, hm] using ih
    · simp [List.find?_append, hl]

/-- Erasing takes away what is at a location and below it, and nothing else. -/
theorem get?_erase (t : FileTree) {l m : Location} (h : m ≠ []) :
    (t.erase l).get? m = if l.isPrefixOf m then none else t.get? m := by
  simp only [get?, h, if_false, erase]
  generalize t.entries = entries
  induction entries with
  | nil => simp
  | cons x rest ih =>
    by_cases hx : x.1 = m
    · subst hx
      by_cases hp : l.isPrefixOf x.1
      · simpa [hp] using ih
      · simp [hp]
    · by_cases hp : l.isPrefixOf x.1 <;> simpa [hp, hx] using ih

end FileTree

end ZoneKeeper
