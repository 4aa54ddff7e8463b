import ZoneKeeper.Plan.Basic

/-!
# Applying a plan

Writing the staged zones in order. The first file that cannot be written ends it; what was written
before stays written, and the fault names it.
-/

namespace ZoneKeeper

open Text

/-- Why a file was not written. -/
structure WriteFault where
  /-- The path. -/
  path : Path
  /-- What is wrong with it. -/
  why : FileFault
  deriving DecidableEq, Repr

/-- What applying a plan gives. -/
structure Applied where
  /-- The files afterwards. -/
  files : FileTree
  /-- The zones that were written, in order. -/
  written : List Staged
  /-- Why the zones after them were not, if there are any. -/
  fault : Option WriteFault
  deriving DecidableEq, Repr

namespace Applied

/-- The paths that were written, in order. -/
def paths (a : Applied) : List Path := a.written.map (·.path)

/-- The wording of a fault, with the paths that were written before it. -/
def message (f : WriteFault) (written : List Path) : Text :=
  match f.why with
  | .nul => f.why.message f.path
  | why =>
    let already :=
      if written = [] then "none".toList else join ", ".toList (written.map Path.toText)
    "Failed to write zone file ".toList ++ named f.path.toText ++ ": ".toList ++
      why.message f.path ++ " (already written: ".toList ++ already ++ [')']

/-- The reports on what was written. -/
def journal (a : Applied) : List Report :=
  a.written.map fun s => ⟨.info, "Wrote zone file ".toList ++ s.path.toText ++
    " (serial ".toList ++ s.serial ++ [')']⟩

end Applied

/-- The files after some zones are written in order. -/
def writeAll (files : FileTree) : List Staged → Applied
  | [] => ⟨files, [], none⟩
  | s :: rest =>
    match files.write s.path (Utf8.encode s.text) with
    | .error why => ⟨files, [], some ⟨s.path, why⟩⟩
    | .ok files =>
      let after := writeAll files rest
      { after with written := s :: after.written }

/-- Applies a plan. -/
def Plan.apply (p : Plan) (files : FileTree) : Applied := writeAll files p.staged

/-! ## Telling a caller -/

/-- What applying a plan gives to a caller that is told of every zone right after it is written. -/
structure Told (σ : Type) where
  /-- The files afterwards. -/
  files : FileTree
  /-- What the caller has made of what it was told. -/
  caller : σ
  /-- The paths that were written, in order; with a fault, if these are not all. -/
  outcome : Except (WriteFault × List Path) (List Path)

/-- Writes zones in order and tells the caller of each, when some paths are written already. -/
def tellAll {σ : Type} (tell : σ → Staged → σ) (files : FileTree) (caller : σ)
    (written : List Path) : List Staged → Told σ
  | [] => ⟨files, caller, .ok written⟩
  | s :: rest =>
    match files.write s.path (Utf8.encode s.text) with
    | .error why => ⟨files, caller, .error (⟨s.path, why⟩, written)⟩
    | .ok files => tellAll tell files (tell caller s) (written ++ [s.path]) rest

/-- Applies a plan and tells a caller of every zone that is written. -/
def Plan.applyTelling {σ : Type} (p : Plan) (tell : σ → Staged → σ) (files : FileTree)
    (caller : σ) : Told σ :=
  tellAll tell files caller [] p.staged

end ZoneKeeper
