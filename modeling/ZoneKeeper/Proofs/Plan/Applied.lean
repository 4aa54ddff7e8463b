import ZoneKeeper.Proofs.Plan.Decision
import ZoneKeeper.Proofs.Plan.Writing

/-!
# What applying a plan does and reports

Applying a plan writes the zones from the first on and stops at the first path that cannot be
written. The list of paths that it gives, the caller that it tells of every zone and the files
afterwards agree on how far it came, and so does the message of the fault, from which a plan that
was carried out in part is put right by hand.
-/

namespace ZoneKeeper

open Text

/-! ## Paths that can be written -/

namespace FileTree

variable {t t' : FileTree} {p q : Path} {bytes : List UInt8} {why : FileFault}

/-- Whether a file can be written at a path: the path leads to a place where no folder is. -/
def IsWritable (t : FileTree) (p : Path) : Prop :=
  ∃ l, t.locate p = .ok l ∧ t.get? l ≠ some .folder

theorem isWritable_of_write (h : t.write p bytes = .ok t') : t.IsWritable p := by
  obtain ⟨l, hl, hfolder, -⟩ := write_eq_ok_iff.mp h
  exact ⟨l, hl, hfolder⟩

theorem not_isWritable_of_write (h : t.write p bytes = .error why) : ¬ t.IsWritable p := by
  rintro ⟨l, hl, hfolder⟩
  have hok : t.write p bytes = .ok (t.insert l (.file bytes)) :=
    write_eq_ok_iff.mpr ⟨l, hl, hfolder, rfl⟩
  rw [hok] at h
  cases h

/-- No step of a walk finds fault with the character that ends names; it is looked for before. -/
theorem walk_ne_nul {start : Location} {names : List Text} :
    t.walk start names ≠ .error .nul := by
  induction names generalizing start with
  | nil => simp [walk]
  | cons name names ih =>
    rw [walk]
    cases t.get? start with
    | none => simp
    | some entry =>
      cases entry with
      | file _ => simp
      | folder =>
        dsimp only
        split
        · exact ih
        · split
          · simp
          · exact ih

theorem write_ne_nul (hp : '\x00' ∉ p.toText) : t.write p bytes ≠ .error .nul := by
  have hlocate : t.locate p ≠ .error .nul := by
    rw [locate, if_neg (by simpa using hp)]
    split
    · simp
    · exact walk_ne_nul
  rw [write]
  cases hl : t.locate p with
  | error why =>
    rintro ⟨⟩
    exact hlocate hl
  | ok l =>
    rw [ok_bind]
    split <;> simp

end FileTree

/-! ## Being told and writing -/

variable {σ : Type} {tell : σ → Staged → σ} {files : FileTree} {staged : List Staged}

/-- What a caller is told follows from what is written, and what is written does not depend on
whether a caller is told. -/
theorem tellAll_eq (tell : σ → Staged → σ) (files : FileTree) (caller : σ) (written : List Path)
    (staged : List Staged) :
    tellAll tell files caller written staged =
      { files := (writeAll files staged).files
        caller := (writeAll files staged).written.foldl tell caller
        outcome := match (writeAll files staged).fault with
          | none => .ok (written ++ (writeAll files staged).paths)
          | some fault => .error (fault, written ++ (writeAll files staged).paths) } := by
  induction staged generalizing files caller written with
  | nil => simp [tellAll, writeAll, Applied.paths]
  | cons s rest ih =>
    cases hw : files.write s.path (Utf8.encode s.text) with
    | error why =>
      rw [tellAll, hw, writeAll_cons_of_error hw]
      simp [Applied.paths]
    | ok files' =>
      rw [tellAll, hw, writeAll_cons_of_ok hw]
      dsimp only
      rw [ih]
      simp [Applied.paths]

/-- How far writing came: `k` zones were written, each of them to a path that could be written when
its turn came, and the next one, if there is one, has a path that could not. -/
theorem exists_written_eq_take (files : FileTree) (staged : List Staged) :
    ∃ k ≤ staged.length, (writeAll files staged).written = staged.take k ∧
      (∀ i s, i < k → staged[i]? = some s →
        (writeAll files (staged.take i)).files.IsWritable s.path) ∧
      match staged[k]? with
      | none => (writeAll files staged).fault = none
      | some s => ∃ why, (writeAll files staged).fault = some ⟨s.path, why⟩ ∧
          (writeAll files staged).files.write s.path (Utf8.encode s.text) = .error why := by
  induction staged generalizing files with
  | nil => exact ⟨0, Nat.le_refl 0, rfl, nofun, rfl⟩
  | cons s rest ih =>
    cases hw : files.write s.path (Utf8.encode s.text) with
    | error why =>
      refine ⟨0, Nat.zero_le _, ?_, nofun, why, ?_, ?_⟩
      · rw [writeAll_cons_of_error hw]
        rfl
      · rw [writeAll_cons_of_error hw]
      · rw [writeAll_cons_of_error hw]
        exact hw
    | ok files' =>
      obtain ⟨k, hk, hwritten, hearlier, hnext⟩ := ih files'
      refine ⟨k + 1, Nat.succ_le_succ hk, ?_, fun i s' hi hs' => ?_, ?_⟩
      · rw [writeAll_cons_of_ok hw, List.take_succ_cons]
        exact congrArg (s :: ·) hwritten
      · cases i with
        | zero =>
          obtain rfl : s = s' := Option.some.inj hs'
          exact FileTree.isWritable_of_write hw
        | succ i =>
          rw [List.take_succ_cons, writeAll_cons_of_ok hw]
          exact hearlier i s' (Nat.lt_of_succ_lt_succ hi) hs'
      · rw [writeAll_cons_of_ok hw, List.getElem?_cons_succ]
        exact hnext

/-! ## Applying a plan -/

namespace Plan

/-- What applying a plan gives if it comes as far as its first `k` zones. -/
structure CarriedOut (p : Plan) (tell : σ → Staged → σ) (files : FileTree) (caller : σ)
    (k : Nat) : Prop where
  /-- The caller is told of these zones in order, and of no other. -/
  told : (p.applyTelling tell files caller).caller = (p.staged.take k).foldl tell caller
  /-- Nobody being told makes no difference. -/
  untold : (p.apply files).written = p.staged.take k ∧
    (p.apply files).files = (p.applyTelling tell files caller).files
  here : (p.applyTelling tell files caller).files.here = files.here
  /-- Of several texts for one place the last is there, and all other places are as before. -/
  holds : ∀ l, (p.applyTelling tell files caller).files.get? l =
    match lastAt? files l (p.staged.take k) with
    | some s => some (.file (Utf8.encode s.text))
    | none => files.get? l
  /-- Every one of these zones could be written after those before it. -/
  earlier : ∀ i s, i < k → p.staged[i]? = some s →
    (writeAll files (p.staged.take i)).files.IsWritable s.path
  complete : (p.applyTelling tell files caller).outcome =
    .ok ((p.staged.take k).map (·.path)) ↔ k = p.staged.length
  /-- The zone after them, if there is one, cannot be written; the message says so of its path and
  names all that were written. -/
  stopped : ∀ s, p.staged[k]? = some s →
    ¬ (p.applyTelling tell files caller).files.IsWritable s.path ∧
    ∃ why, why ≠ .nul ∧
      (p.applyTelling tell files caller).files.write s.path (Utf8.encode s.text) = .error why ∧
      (p.applyTelling tell files caller).outcome =
        .error (⟨s.path, why⟩, (p.staged.take k).map (·.path)) ∧
      Applied.message ⟨s.path, why⟩ ((p.staged.take k).map (·.path)) =
        "Failed to write zone file ".toList ++ named s.path.toText ++ ": ".toList ++
          why.message s.path ++ " (already written: ".toList ++
          (if k = 0 then "none".toList
            else join ", ".toList ((p.staged.take k).map fun s => s.path.toText)) ++ [')']

/-- The message of a fault other than the one that no path of a plan has. -/
theorem message_of_ne_nul {path : Path} {why : FileFault} (h : why ≠ .nul) (written : List Path) :
    Applied.message ⟨path, why⟩ written =
      "Failed to write zone file ".toList ++ named path.toText ++ ": ".toList ++
        why.message path ++ " (already written: ".toList ++
        (if written = [] then "none".toList else join ", ".toList (written.map Path.toText)) ++
        [')'] := by
  cases why with
  | nul => exact absurd rfl h
  | missing => rfl
  | notFolder => rfl
  | isFolder => rfl
  | tooLong => rfl

/-- Applying a plan carries it out from the first zone on, up to the first path that cannot be
written or to the end; what it gives, the caller that it tells and the files agree on how far it
came. -/
theorem exists_carriedOut (p : Plan) (tell : σ → Staged → σ) (files : FileTree) (caller : σ)
    (hnul : ∀ s ∈ p.staged, '\x00' ∉ s.path.toText) :
    ∃ k ≤ p.staged.length, p.CarriedOut tell files caller k := by
  obtain ⟨k, hk, hwritten, hearlier, hnext⟩ := exists_written_eq_take files p.staged
  have htold := tellAll_eq tell files caller [] p.staged
  have hpaths : (writeAll files p.staged).paths = (p.staged.take k).map (·.path) := by
    rw [Applied.paths, hwritten]
  rw [List.nil_append, hpaths, hwritten] at htold
  have hfiles : (p.applyTelling tell files caller).files = (writeAll files p.staged).files :=
    congrArg Told.files htold
  have houtcome := congrArg Told.outcome htold
  change (p.applyTelling tell files caller).outcome = _ at houtcome
  refine ⟨k, hk, ?_⟩
  constructor
  case told => exact congrArg Told.caller htold
  case untold => exact ⟨hwritten, hfiles.symm⟩
  case here => rw [hfiles, here_writeAll]
  case holds =>
    intro l
    have hread := get?_writeAll_eq files p.staged l
    rw [hwritten] at hread
    refine (congrArg (fun f => f.get? l) hfiles).trans (hread.trans ?_)
    cases lastAt? files l (p.staged.take k) <;> rfl
  case earlier => exact hearlier
  case complete =>
    rw [houtcome]
    cases hs : p.staged[k]? with
    | none =>
      rw [hs] at hnext
      have hlen := List.getElem?_eq_none_iff.mp hs
      simp [hnext, Nat.le_antisymm hk hlen]
    | some s =>
      rw [hs] at hnext
      obtain ⟨why, hfault, -⟩ := hnext
      obtain ⟨hlt, -⟩ := List.getElem?_eq_some_iff.mp hs
      simp [hfault, Nat.ne_of_lt hlt]
  case stopped =>
    intro s hs
    rw [hs] at hnext
    obtain ⟨why, hfault, hwrite⟩ := hnext
    have hne : why ≠ .nul := by
      rintro rfl
      exact FileTree.write_ne_nul (hnul s (List.mem_of_getElem? hs)) hwrite
    have hzero : (p.staged.take k).map (·.path) = [] ↔ k = 0 := by
      obtain ⟨hlt, -⟩ := List.getElem?_eq_some_iff.mp hs
      rw [List.map_eq_nil_iff, List.take_eq_nil_iff, or_iff_left]
      exact List.ne_nil_of_length_pos (Nat.zero_lt_of_lt hlt)
    rw [hfiles]
    refine ⟨FileTree.not_isWritable_of_write hwrite, why, hne, hwrite, ?_, ?_⟩
    · rw [houtcome, hfault]
    · rw [message_of_ne_nul hne, List.map_map]
      simp only [hzero]
      rfl

/-- Of three zones two are written, the second over the first, and the path of the third leads to a
folder. -/
theorem exists_carriedOut_sample :
    let zone (name text : String) : Staged :=
      ⟨name.toList, Path.ofText ("zones/" ++ name).toList, "2026101900".toList, text.toList⟩
    let p : Plan := ⟨[zone "e" "first", zone "e/" "second", zone "f" "third"], []⟩
    let files : FileTree :=
      ⟨[], [(["zones".toList], .folder), (["zones".toList, "f".toList], .folder)]⟩
    let tell (seen : List Text) (s : Staged) := seen ++ [s.domain]
    p.CarriedOut tell files [] 2 ∧
      (p.applyTelling tell files []).caller = ["e".toList, "e/".toList] ∧
      (p.applyTelling tell files []).files.get? ["zones".toList, "e".toList] =
        some (.file (Utf8.encode "second".toList)) := by
  intro zone p files tell
  have hcaller : (p.applyTelling tell files []).caller = ["e".toList, "e/".toList] := by
    decide +kernel
  have hfile : (p.applyTelling tell files []).files.get? ["zones".toList, "e".toList] =
      some (.file (Utf8.encode "second".toList)) := by decide +kernel
  obtain ⟨k, hk, h⟩ := exists_carriedOut p tell files [] (by decide)
  -- The caller was told of two zones, so these are the ones that were written.
  have htold := hcaller.symm.trans h.told
  have hcases : k = 0 ∨ k = 1 ∨ k = 2 ∨ k = 3 := by
    have hlen : k ≤ 3 := hk
    omega
  rcases hcases with rfl | rfl | rfl | rfl
  · exact absurd htold (by decide)
  · exact absurd htold (by decide)
  · exact ⟨h, hcaller, hfile⟩
  · exact absurd htold (by decide)

end Plan

end ZoneKeeper
