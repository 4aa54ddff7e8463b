import ZoneKeeper.Plan.Basic
import ZoneKeeper.Proofs.FileTree
import ZoneKeeper.Proofs.Text.Split

/-!
# The paths of zone files

A file name without a slash leads from the folder of a target to an entry of that folder, unless it
is empty or `.`, which lead to the folder itself, or `..`, which leads to the folder above. So two
domains share a file only if their names are the empty name and `.`, and then only if what the
target calls its folder is no folder.
-/

namespace ZoneKeeper

open Text

/-- A name without a slash is a path of that name. -/
theorem Path.ofText_of_not_mem {name : Text} (h : '/' ∉ name) :
    Path.ofText name = .mk .here [name] := by
  have hanchor : Anchor.ofText name = .here := by
    cases name with
    | nil => rfl
    | cons c name =>
      have hc : c ≠ '/' := fun hc => h (by simp [hc])
      simp [Anchor.ofText, hc]
  rw [ofText, hanchor, split_of_not_mem h]

/-- A path of one name has no name if that says nothing. -/
theorem Path.filter_isName_singleton (name : Text) :
    [name].filter isName = if name = [] ∨ name = ['.'] then [] else [name] := by
  by_cases h : name = [] ∨ name = ['.']
  · rcases h with rfl | rfl <;> rfl
  · obtain ⟨hnil, hhere⟩ := not_or.mp h
    simp [isName, hnil, hhere]

namespace Target

/-- Whether a target and a domain make a file name without a slash. -/
def NamesFile (t : Target) (domain : Text) : Prop := '/' ∉ t.fileStart ++ domain

instance (t : Target) (domain : Text) : Decidable (t.NamesFile domain) :=
  inferInstanceAs (Decidable ('/' ∉ t.fileStart ++ domain))

/-- Where a name leads from a folder. -/
def child (folder : Location) (name : Text) : Location :=
  if name = [] ∨ name = ['.'] then folder
  else if name = ['.', '.'] then folder.dropLast
  else folder ++ [name]

variable {t : Target} {files : FileTree} {domain domain' : Text} {l : Location}

theorem anchor_pathOf (h : t.NamesFile domain) : (t.pathOf domain).anchor = t.folder.anchor := by
  rw [pathOf, Path.ofText_of_not_mem h, Path.anchor_append rfl]

theorem names_pathOf (h : t.NamesFile domain) : (t.pathOf domain).names = t.folder.names ++
    if t.fileStart ++ domain = [] ∨ t.fileStart ++ domain = ['.'] then []
    else [t.fileStart ++ domain] := by
  rw [pathOf, Path.ofText_of_not_mem h, Path.names_append rfl, Path.names_mk,
    Path.filter_isName_singleton]

/-- The path of a zone file leads from the folder of the target to where the file name leads. -/
theorem locate_pathOf (h : t.NamesFile domain) (hl : files.locate (t.pathOf domain) = .ok l) :
    ∃ folder, files.walk (if t.folder.anchor = .here then files.here else []) t.folder.names =
      .ok folder ∧ l = child folder (t.fileStart ++ domain) := by
  rw [FileTree.locate_eq_ok_iff, anchor_pathOf h, names_pathOf h] at hl
  obtain ⟨folder, hfolder, hlast⟩ := FileTree.walk_append_eq_ok_iff.mp hl.2.2
  refine ⟨folder, hfolder, ?_⟩
  unfold child
  split
  · next hsame =>
    rw [if_pos hsame] at hlast
    exact FileTree.walk_nil_eq_ok_iff.mp hlast
  · next hname =>
    rw [if_neg hname, FileTree.walk_cons_eq_ok_iff] at hlast
    obtain ⟨-, hlast⟩ := hlast
    split
    · next hup =>
      rw [if_pos hup] at hlast
      exact FileTree.walk_nil_eq_ok_iff.mp hlast
    · next hup =>
      rw [if_neg hup] at hlast
      exact FileTree.walk_nil_eq_ok_iff.mp hlast.2

section Child

variable {folder : Location} {name name' : Text}

theorem child_of_nothing (h : name = [] ∨ name = ['.']) : child folder name = folder := if_pos h

theorem child_up : child folder ['.', '.'] = folder.dropLast := rfl

theorem child_of_entry (h : ¬ (name = [] ∨ name = ['.'])) (hup : name ≠ ['.', '.']) :
    child folder name = folder ++ [name] := by
  rw [child, if_neg h, if_neg hup]

/-- No name leads back to the folder but the two that say nothing, and `..` at the root. -/
theorem eq_nil_of_child_eq_folder (h : ¬ (name = [] ∨ name = ['.']))
    (heq : child folder name = folder) : folder = [] := by
  by_cases hup : name = ['.', '.']
  · rw [hup, child_up] at heq
    have hlen := congrArg List.length heq
    rw [List.length_dropLast] at hlen
    exact List.length_eq_zero_iff.mp (by omega)
  · rw [child_of_entry h hup] at heq
    simp at heq

/-- Two names lead from a folder to one place only if both lead to the folder. -/
theorem child_eq_folder_of_child_eq (hne : name ≠ name')
    (heq : child folder name = child folder name') : child folder name = folder := by
  by_cases h : name = [] ∨ name = ['.']
  · exact child_of_nothing h
  by_cases h' : name' = [] ∨ name' = ['.']
  · rw [heq, child_of_nothing h']
  have hlen (x : Text) : folder.dropLast ≠ folder ++ [x] := fun hx => by
    simpa using congrArg List.length hx
  exfalso
  by_cases hup : name = ['.', '.'] <;> by_cases hup' : name' = ['.', '.']
  · exact hne (hup.trans hup'.symm)
  · rw [hup, child_up, child_of_entry h' hup'] at heq
    exact hlen name' heq
  · rw [hup', child_up, child_of_entry h hup] at heq
    exact hlen name heq.symm
  · rw [child_of_entry h hup, child_of_entry h' hup'] at heq
    exact hne (List.singleton_inj.mp (List.append_cancel_left heq))

end Child

/-- The files of two domains are apart if their paths differ, and in any case if the target has a
folder: two paths that are the same lead to the folder itself. -/
theorem apart_pathOf (h : t.NamesFile domain) (h' : t.NamesFile domain') (hne : domain ≠ domain')
    (hfolder : files.isFolder t.folder = .ok true ∨ t.pathOf domain ≠ t.pathOf domain') :
    files.Apart (t.pathOf domain) (t.pathOf domain') := by
  intro l hl hl'
  obtain ⟨folder, hwalk, rfl⟩ := locate_pathOf h hl
  obtain ⟨_, hwalk', heq⟩ := locate_pathOf h' hl'
  obtain rfl := Except.ok.inj (hwalk.symm.trans hwalk')
  have hname : t.fileStart ++ domain ≠ t.fileStart ++ domain' := fun hc =>
    hne (List.append_cancel_left hc)
  have hback := child_eq_folder_of_child_eq hname heq
  rw [hback]
  by_cases hnothing : t.fileStart ++ domain = [] ∨ t.fileStart ++ domain = ['.']
  · by_cases hnothing' : t.fileStart ++ domain' = [] ∨ t.fileStart ++ domain' = ['.']
    · have hsame : t.pathOf domain = t.pathOf domain' := by
        refine Path.ext ?_ ?_
        · rw [anchor_pathOf h, anchor_pathOf h']
        · rw [names_pathOf h, names_pathOf h', if_pos hnothing, if_pos hnothing']
      obtain ⟨l, hl, hl'⟩ := FileTree.isFolder_eq_ok_true_iff.mp
        (hfolder.resolve_right fun hc => hc hsame)
      obtain ⟨-, -, hwalk'⟩ := FileTree.locate_eq_ok_iff.mp hl
      obtain rfl := Except.ok.inj (hwalk.symm.trans hwalk')
      exact hl'
    · rw [eq_nil_of_child_eq_folder hnothing' (heq.symm.trans hback)]
      rfl
  · rw [eq_nil_of_child_eq_folder hnothing hback]
    rfl

end Target

end ZoneKeeper
