import Mathlib.Data.List.Basic
import ZoneKeeper.Plan.Applied
import ZoneKeeper.Proofs.FileTree

/-!
# What writing staged zones does to the files

The zones that are written are the first ones of those that are staged, all of them if no write
fails. Every location holds afterwards the text of the last zone that was written there, or what it
held before. So if the staged paths are apart from each other, then every written path reads
afterwards as what was staged for it, and every path apart from the written ones reads as before.
-/

namespace ZoneKeeper

open Text

variable {files files' : FileTree} {staged : List Staged} {s : Staged} {p q : Path} {l : Location}
  {bytes : List UInt8}

/-! ## One write after another -/

theorem writeAll_cons_of_ok (h : files.write s.path (Utf8.encode s.text) = .ok files')
    (rest : List Staged) :
    writeAll files (s :: rest) =
      { writeAll files' rest with written := s :: (writeAll files' rest).written } := by
  rw [writeAll, h]

theorem writeAll_cons_of_error {why : FileFault}
    (h : files.write s.path (Utf8.encode s.text) = .error why) (rest : List Staged) :
    writeAll files (s :: rest) = ⟨files, [], some ⟨s.path, why⟩⟩ := by
  rw [writeAll, h]

/-- What is written is what is staged up to the first fault. -/
theorem written_prefix_staged (files : FileTree) (staged : List Staged) :
    (writeAll files staged).written <+: staged := by
  induction staged generalizing files with
  | nil => exact List.prefix_rfl
  | cons s rest ih =>
    cases h : files.write s.path (Utf8.encode s.text) with
    | error why =>
      rw [writeAll_cons_of_error h]
      exact List.nil_prefix
    | ok files' =>
      rw [writeAll_cons_of_ok h]
      exact List.prefix_cons_inj _ |>.mpr (ih files')

/-- The first fault leaves its own zone unwritten, so all is written if and only if there is none. -/
theorem fault_writeAll_eq_none_iff :
    (writeAll files staged).fault = none ↔ (writeAll files staged).written = staged := by
  induction staged generalizing files with
  | nil => exact iff_of_true rfl rfl
  | cons s rest ih =>
    cases hw : files.write s.path (Utf8.encode s.text) with
    | error why =>
      rw [writeAll_cons_of_error hw]
      exact iff_of_false nofun nofun
    | ok files' =>
      rw [writeAll_cons_of_ok hw]
      exact ih.trans (List.cons_inj_right s).symm

/-! ## Where paths lead afterwards -/

/-- What every single write keeps is kept by all of them. -/
theorem writeAll_induction {motive : FileTree → Prop}
    (hwrite : ∀ t t' p bytes, motive t → t.write p bytes = .ok t' → motive t')
    (hfiles : motive files) : motive (writeAll files staged).files := by
  induction staged generalizing files with
  | nil => exact hfiles
  | cons s rest ih =>
    cases hw : files.write s.path (Utf8.encode s.text) with
    | error why =>
      rw [writeAll_cons_of_error hw]
      exact hfiles
    | ok files' =>
      rw [writeAll_cons_of_ok hw]
      exact ih (hwrite _ _ _ _ hfiles hw)

theorem here_writeAll (files : FileTree) (staged : List Staged) :
    (writeAll files staged).files.here = files.here :=
  writeAll_induction (motive := fun t => t.here = files.here)
    (fun _ _ _ _ h hw => (FileTree.here_write hw).trans h) rfl

theorem locate_writeAll :
    (writeAll files staged).files.locate p = .ok l ↔ files.locate p = .ok l :=
  writeAll_induction (motive := fun t => t.locate p = .ok l ↔ files.locate p = .ok l)
    (fun _ _ _ _ h hw => (FileTree.locate_write hw).trans h) Iff.rfl

theorem isFolder_writeAll :
    (writeAll files staged).files.isFolder p = .ok true ↔ files.isFolder p = .ok true :=
  writeAll_induction (motive := fun t => t.isFolder p = .ok true ↔ files.isFolder p = .ok true)
    (fun _ _ _ _ h hw => (FileTree.isFolder_write hw).trans h) Iff.rfl

/-- A path that was written led somewhere before anything was written. -/
theorem exists_locate_of_mem_written (hs : s ∈ (writeAll files staged).written) :
    ∃ l, files.locate s.path = .ok l := by
  induction staged generalizing files with
  | nil => cases hs
  | cons first rest ih =>
    cases hw : files.write first.path (Utf8.encode first.text) with
    | error why =>
      rw [writeAll_cons_of_error hw] at hs
      cases hs
    | ok files' =>
      rw [writeAll_cons_of_ok hw] at hs
      rcases List.mem_cons.mp hs with rfl | hs
      · obtain ⟨l, hl, -⟩ := FileTree.write_eq_ok_iff.mp hw
        exact ⟨l, hl⟩
      · obtain ⟨l, hl⟩ := ih hs
        exact ⟨l, (FileTree.locate_write hw).mp hl⟩

/-! ## What is at a location afterwards -/

/-- The last of some zones whose path leads to a location. -/
def lastAt? (files : FileTree) (l : Location) (written : List Staged) : Option Staged :=
  written.reverse.find? fun s => files.locate s.path = .ok l

theorem lastAt?_cons (files : FileTree) (l : Location) (s : Staged) (rest : List Staged) :
    lastAt? files l (s :: rest) =
      (lastAt? files l rest).or (if files.locate s.path = .ok l then some s else none) := by
  rw [lastAt?, List.reverse_cons, List.find?_append, lastAt?, List.find?_singleton]
  simp only [decide_eq_true_eq]

theorem lastAt?_eq_none_iff {written : List Staged} :
    lastAt? files l written = none ↔ ∀ s ∈ written, files.locate s.path ≠ .ok l := by
  simp [lastAt?]

theorem lastAt?_write (h : files.write p bytes = .ok files') (l : Location)
    (written : List Staged) : lastAt? files' l written = lastAt? files l written := by
  simp only [lastAt?, FileTree.locate_write h]

/-- A location holds the text of the last zone that was written there; if none was, it holds what
was there before. -/
theorem get?_writeAll_eq (files : FileTree) (staged : List Staged) (l : Location) :
    (writeAll files staged).files.get? l =
      match lastAt? files l (writeAll files staged).written with
      | some s => some (.file (Utf8.encode s.text))
      | none => files.get? l := by
  induction staged generalizing files with
  | nil => rfl
  | cons s rest ih =>
    cases hw : files.write s.path (Utf8.encode s.text) with
    | error why =>
      rw [writeAll_cons_of_error hw]
      rfl
    | ok files' =>
      rw [writeAll_cons_of_ok hw]
      refine (ih files').trans ?_
      rw [lastAt?_write hw, lastAt?_cons]
      cases lastAt? files l (writeAll files' rest).written with
      | some last => rfl
      | none =>
        -- No later zone is written there, so the first write decides.
        rw [Option.none_or]
        by_cases hl : files.locate s.path = .ok l
        · rw [if_pos hl]
          exact FileTree.get?_write_self hw hl
        · rw [if_neg hl]
          exact FileTree.get?_write_of_ne hw hl

theorem get?_writeAll (h : ∀ s ∈ (writeAll files staged).written, files.locate s.path ≠ .ok l) :
    (writeAll files staged).files.get? l = files.get? l := by
  rw [get?_writeAll_eq, lastAt?_eq_none_iff.mpr h]

/-! ## What is read afterwards -/

/-- A path apart from all that were written reads as before. -/
theorem read_writeAll_of_apart
    (h : ∀ s ∈ (writeAll files staged).written, files.Apart s.path q) :
    (writeAll files staged).files.read q = .ok bytes ↔ files.read q = .ok bytes := by
  induction staged generalizing files with
  | nil => rfl
  | cons s rest ih =>
    cases hw : files.write s.path (Utf8.encode s.text) with
    | error why => rw [writeAll_cons_of_error hw]
    | ok files' =>
      rw [writeAll_cons_of_ok hw] at h ⊢
      have hrest : ∀ s ∈ (writeAll files' rest).written, files'.Apart s.path q := fun s' hs' =>
        (FileTree.apart_write hw).mpr (h s' (List.mem_cons_of_mem _ hs'))
      exact (ih hrest).trans (FileTree.read_write_of_apart hw (h s List.mem_cons_self))

/-- A path that was written reads as what was staged for it. -/
theorem read_writeAll_of_mem (hapart : staged.Pairwise fun a b => files.Apart a.path b.path)
    (hs : s ∈ (writeAll files staged).written) :
    (writeAll files staged).files.read s.path = .ok (Utf8.encode s.text) := by
  induction staged generalizing files with
  | nil => cases hs
  | cons first rest ih =>
    cases hw : files.write first.path (Utf8.encode first.text) with
    | error why =>
      rw [writeAll_cons_of_error hw] at hs
      cases hs
    | ok files' =>
      rw [writeAll_cons_of_ok hw] at hs ⊢
      obtain ⟨hfirst, hrest⟩ := List.pairwise_cons.mp hapart
      have hrest' : rest.Pairwise fun a b => files'.Apart a.path b.path :=
        hrest.imp (FileTree.apart_write hw).mpr
      rcases List.mem_cons.mp hs with rfl | hs
      · -- The later writes leave the first file alone.
        refine (read_writeAll_of_apart fun s' hs' => ?_).mpr (FileTree.read_write_self hw)
        have hmem := (written_prefix_staged files' rest).subset hs'
        exact (FileTree.apart_write hw).mpr (hfirst s' hmem).symm
      · exact ih hrest' hs

theorem nodup_paths_written (hapart : staged.Pairwise fun a b => files.Apart a.path b.path) :
    ((writeAll files staged).written.map (·.path)).Nodup := by
  induction staged generalizing files with
  | nil => exact List.nodup_nil
  | cons first rest ih =>
    cases hw : files.write first.path (Utf8.encode first.text) with
    | error why =>
      rw [writeAll_cons_of_error hw]
      exact List.nodup_nil
    | ok files' =>
      rw [writeAll_cons_of_ok hw, List.map_cons, List.nodup_cons]
      obtain ⟨hfirst, hrest⟩ := List.pairwise_cons.mp hapart
      refine ⟨fun hmem => ?_, ih (hrest.imp (FileTree.apart_write hw).mpr)⟩
      obtain ⟨s, hs, hpath⟩ := List.mem_map.mp hmem
      have hs := (written_prefix_staged files' rest).subset hs
      -- A path that is apart from itself leads to a folder and is not written.
      obtain ⟨l, hl, hfolder, -⟩ := FileTree.write_eq_ok_iff.mp hw
      exact hfolder (hfirst s hs l hl (hpath ▸ hl))

end ZoneKeeper
