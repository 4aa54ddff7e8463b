import ZoneKeeper.Proofs.Declaration.Declarable
import ZoneKeeper.Proofs.Plan.Decision
import ZoneKeeper.Proofs.Plan.Paths
import ZoneKeeper.Proofs.Zone.Render

/-!
# Where zone files are placed

Domains are told apart as texts, their files by paths, and a path keeps less than its text: empty
names and `.` are dropped, and a name that starts at the root leaves the folder of the target. So
the files of two domains are different entries of the folder exactly if the name of neither file has
a slash or is `.` or `..`; a builder takes other domains too.
-/

namespace ZoneKeeper

open Text Declaration

/-! ## Entries of a folder -/

namespace Path

/-- Whether a path is that of an entry of a folder: the path of the folder with the name behind it.
Nothing in a folder has the name `..`, which leads out of it. -/
structure IsEntry (p folder : Path) (name : Text) : Prop where
  anchor : p.anchor = folder.anchor
  names : p.names = folder.names ++ [name]
  inside : name ≠ ['.', '.']

/-- No name of a path has a slash. -/
theorem not_mem_of_mem_names {t name : Text} (h : name ∈ (ofText t).names) : '/' ∉ name :=
  not_mem_of_mem_split (List.mem_filter.mp h).1

/-- A name that is taken from a folder and leads to an entry has no slash: either the last name of
the path is one of its names, or all of them are. -/
theorem not_mem_of_append_ofText {folder : Path} {name : Text}
    (h : (folder ++ ofText name).names = folder.names ++ [name]) : '/' ∉ name := by
  by_cases hanchor : (ofText name).anchor = .here
  · rw [names_append hanchor] at h
    have hnames : (ofText name).names = [name] := List.append_cancel_left h
    exact not_mem_of_mem_names (t := name) (hnames ▸ List.mem_singleton_self _)
  · rw [append_of_anchor hanchor] at h
    exact not_mem_of_mem_names (t := name) (h ▸ List.mem_append_right _ (List.mem_singleton_self _))

end Path

namespace Target

variable {t : Target} {zones : Catalogue} {domain domain' : Text}

/-! ## Names of entries -/

/-- A domain whose file name is the name of an entry. -/
structure NamesEntry (t : Target) (domain : Text) : Prop where
  slash : '/' ∉ domain
  here : t.fileStart ++ domain ≠ ['.']
  above : t.fileStart ++ domain ≠ ['.', '.']

theorem NamesEntry.namesFile (h : t.NamesEntry domain) (hstart : '/' ∉ t.fileStart) :
    t.NamesFile domain := by
  rw [NamesFile, List.mem_append, not_or]
  exact ⟨hstart, h.slash⟩

/-- The file of a domain is an entry of the folder, under its own name, exactly if that is the name
of an entry. -/
theorem isEntry_pathOf_iff (hstart : '/' ∉ t.fileStart) (hdomain : domain ≠ []) :
    (t.pathOf domain).IsEntry t.folder (t.fileStart ++ domain) ↔ t.NamesEntry domain := by
  constructor
  · rintro ⟨-, hnames, habove⟩
    have hslash := Path.not_mem_of_append_ofText hnames
    refine ⟨fun hc => hslash (List.mem_append_right _ hc), fun hhere => ?_, habove⟩
    rw [names_pathOf hslash, if_pos (.inr hhere), List.append_nil] at hnames
    simp at hnames
  · intro h
    have hsome : ¬ (t.fileStart ++ domain = [] ∨ t.fileStart ++ domain = ['.']) := by
      rintro (hnil | hhere)
      · exact hdomain (List.append_eq_nil_iff.mp hnil).2
      · exact h.here hhere
    refine ⟨anchor_pathOf (h.namesFile hstart), ?_, h.above⟩
    rw [names_pathOf (h.namesFile hstart), if_neg hsome]

/-- Entries of one folder under different names have different paths. -/
theorem pathOf_ne_of_isEntry (h : (t.pathOf domain).IsEntry t.folder (t.fileStart ++ domain))
    (h' : (t.pathOf domain').IsEntry t.folder (t.fileStart ++ domain')) (hne : domain ≠ domain') :
    t.pathOf domain ≠ t.pathOf domain' := by
  intro heq
  have hnames := h.names.symm.trans ((congrArg Path.names heq).trans h'.names)
  have hname := List.singleton_inj.mp (List.append_cancel_left hnames)
  exact hne (List.append_cancel_left hname)

/-- Two domains that are declared together have files apart from each other and inside the folder of
the target, each an entry under its own name, exactly if both file names are names of entries. -/
theorem placed_apart_iff (hstart : '/' ∉ t.fileStart) (h : Buildable zones)
    (hdomain : domain ∈ zones.map Prod.fst) (hdomain' : domain' ∈ zones.map Prod.fst)
    (hne : domain ≠ domain') :
    (t.pathOf domain ≠ t.pathOf domain' ∧
        (t.pathOf domain).IsEntry t.folder (t.fileStart ++ domain) ∧
        (t.pathOf domain').IsEntry t.folder (t.fileStart ++ domain')) ↔
      t.NamesEntry domain ∧ t.NamesEntry domain' := by
  have hsome : ∀ d ∈ zones.map Prod.fst, d ≠ [] := by
    intro d hd
    obtain ⟨e, he, rfl⟩ := List.mem_map.mp hd
    exact (h.isDeclarable.names e he).1
  rw [isEntry_pathOf_iff hstart (hsome _ hdomain), isEntry_pathOf_iff hstart (hsome _ hdomain'),
    and_iff_right_iff_imp]
  rintro ⟨hentry, hentry'⟩
  exact pathOf_ne_of_isEntry ((isEntry_pathOf_iff hstart (hsome _ hdomain)).mpr hentry)
    ((isEntry_pathOf_iff hstart (hsome _ hdomain')).mpr hentry') hne

/-- The fixed zone under some names. -/
def sampleCatalogue (domains : List String) : Catalogue :=
  domains.map fun domain => (domain.toList, { Zone.sample [] with name := domain.toList })

/-- The document that declares them. -/
def sampleDocument (domains : List String) : Text :=
  let zone (domain : String) : Text := ("<domain name='" ++ domain ++
    "' admin='h@e' ttl='1d' refresh='3h' retry='1h' expire='1w' negttl='1h'>" ++
    "<record type='NS' value='n'/></domain>").toList
  "<d>".toList ++ domains.flatMap zone ++ "</d>".toList

/-- Domains of ordinary names, one with a point at the end, are entries of their own. -/
theorem placed_apart_sample :
    (sample false).pathOf "e".toList ≠ (sample false).pathOf "e.".toList ∧
      ((sample false).pathOf "e".toList).IsEntry (sample false).folder "db.e".toList ∧
      ((sample false).pathOf "e.".toList).IsEntry (sample false).folder "db.e.".toList := by
  have hread : (ofText (sampleDocument ["e", "e."])).outcome =
      .ok (sampleCatalogue ["e", "e."]) := by decide +kernel
  exact (placed_apart_iff (by decide) (buildable_ofBytes hread) (by decide) (by decide)
    (by decide)).mpr ⟨⟨by decide, by decide, by decide⟩, ⟨by decide, by decide, by decide⟩⟩

/-- A domain with a slash at the end shares the file of the domain without it; and if nothing comes
before the domain in a file name, a domain with a slash at the start leaves the folder. -/
theorem placed_apart_slash :
    let zones := sampleCatalogue ["e", "e/", "/f/e"]
    let bare : Target := { sample false with fileStart := [] }
    (ofText (sampleDocument ["e", "e/", "/f/e"])).outcome = .ok zones ∧ Buildable zones ∧
      zones.map Prod.fst = ["e".toList, "e/".toList, "/f/e".toList] ∧
      (sample false).pathOf "e".toList = (sample false).pathOf "e/".toList ∧
      bare.folder = Path.ofText "zones".toList ∧
      bare.pathOf "/f/e".toList = Path.ofText "/f/e".toList := by
  intro zones bare
  have hread : (ofText (sampleDocument ["e", "e/", "/f/e"])).outcome = .ok zones := by
    decide +kernel
  exact ⟨hread, buildable_ofBytes hread, by decide, by decide, rfl, by decide⟩

end Target

end ZoneKeeper
