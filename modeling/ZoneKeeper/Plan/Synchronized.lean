import ZoneKeeper.Plan.Applied

/-!
# Synchronizing

Planning and applying in one go: the files come to say what is declared, unless there is no plan or
a file cannot be written.
-/

namespace ZoneKeeper

/-- Why not all files say what is declared. -/
inductive SyncFault where
  /-- There is no plan; no file was written. -/
  | plan (why : PlanFault)
  /-- A file was not written; those before it were. -/
  | write (why : WriteFault)
  deriving DecidableEq, Repr

/-- What synchronizing gives. -/
structure Synchronized where
  /-- The files afterwards. -/
  files : FileTree
  /-- The zones that were written, in order. -/
  written : List Staged
  /-- The reports on the way. -/
  journal : List Report
  /-- The plan, if all of it was carried out. -/
  outcome : Except SyncFault Plan

/-- Makes a plan for the zones of a catalogue and applies it. -/
def Target.synchronize (t : Target) (files : FileTree) (today : Day) (zones : Catalogue) :
    Synchronized :=
  let planned := t.plan files today zones
  match planned.outcome with
  | .error why => ⟨files, [], planned.journal, .error (.plan why)⟩
  | .ok plan =>
    let applied := plan.apply files
    { files := applied.files
      written := applied.written
      journal := planned.journal ++ applied.journal
      outcome := match applied.fault with
        | none => .ok plan
        | some why => .error (.write why) }

end ZoneKeeper
