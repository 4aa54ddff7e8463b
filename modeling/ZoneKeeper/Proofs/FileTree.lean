import ZoneKeeper.FileTree

/-!
# What a write leaves alone

Writing a file changes the entry at one location and no folder. So every path leads after a write
where it led before, and only the paths that lead to the written location read something new.
-/

namespace ZoneKeeper.FileTree

open Text

variable {t t' : FileTree} {p q : Path} {l m : Location} {bytes : List UInt8}

/-! ## Following a path -/

theorem walk_nil_eq_ok_iff {start : Location} : t.walk start [] = .ok m ↔ m = start := by
  rw [walk, Except.ok.injEq, eq_comm]

/-- A step is taken from a folder; its name is either `..` or no longer than names may be. -/
theorem walk_cons_eq_ok_iff {start : Location} {name : Text} {rest : List Text} :
    t.walk start (name :: rest) = .ok m ↔
      t.get? start = some .folder ∧
        if name = ['.', '.'] then t.walk start.dropLast rest = .ok m
        else (Utf8.encode name).length ≤ maxName ∧ t.walk (start ++ [name]) rest = .ok m := by
  rw [walk]
  cases hstart : t.get? start with
  | none => simp
  | some entry =>
    cases entry with
    | file bytes => simp
    | folder =>
      by_cases hup : name = ['.', '.']
      · simp [hup]
      · by_cases hlen : maxName < (Utf8.encode name).length
        · simp [hup, hlen, Nat.not_le.mpr hlen]
        · simp [hup, hlen, Nat.not_lt.mp hlen]

theorem walk_append_eq_ok_iff {start : Location} {names rest : List Text} :
    t.walk start (names ++ rest) = .ok m ↔
      ∃ k, t.walk start names = .ok k ∧ t.walk k rest = .ok m := by
  induction names generalizing start with
  | nil => simp [walk_nil_eq_ok_iff]
  | cons name names ih =>
    rw [List.cons_append, walk_cons_eq_ok_iff]
    simp only [walk_cons_eq_ok_iff]
    split <;> simp only [ih] <;> grind

/-- Where a path leads is found by a walk, if the path is one that the system takes. -/
theorem locate_eq_ok_iff :
    t.locate p = .ok l ↔
      '\x00' ∉ p.toText ∧ (Utf8.encode p.toText).length ≤ maxPath ∧
        t.walk (if p.anchor = .here then t.here else []) p.names = .ok l := by
  unfold locate
  by_cases hnul : '\x00' ∈ p.toText
  · simp [hnul]
  · by_cases hlen : maxPath < (Utf8.encode p.toText).length
    · simp [hnul, hlen, Nat.not_le.mpr hlen]
    · simp [hnul, hlen, Nat.not_lt.mp hlen]

theorem read_eq_ok_iff :
    t.read p = .ok bytes ↔ ∃ l, t.locate p = .ok l ∧ t.get? l = some (.file bytes) := by
  unfold read
  cases hl : t.locate p with
  | error why => simp [bind, Except.bind]
  | ok l =>
    simp only [bind, Except.bind, Except.ok.injEq, exists_eq_left']
    cases t.get? l with
    | none => simp
    | some entry => cases entry <;> simp

theorem write_eq_ok_iff :
    t.write p bytes = .ok t' ↔
      ∃ l, t.locate p = .ok l ∧ t.get? l ≠ some .folder ∧ t' = t.insert l (.file bytes) := by
  unfold write
  cases hl : t.locate p with
  | error why => simp [bind, Except.bind]
  | ok l =>
    by_cases hfolder : t.get? l = some .folder
    · simp [bind, Except.bind, hfolder]
    · simp only [bind, Except.bind, hfolder, if_false, Except.ok.injEq, exists_eq_left', ne_eq,
        not_false_eq_true, true_and]
      exact eq_comm

/-- A path leads to a file exactly if there are bytes to read. -/
theorem isFile_eq_ok_true_iff : t.isFile p = .ok true ↔ ∃ bytes, t.read p = .ok bytes := by
  simp only [read_eq_ok_iff, isFile, look]
  cases hl : t.locate p with
  | error why => cases why <;> simp [Except.map]
  | ok l =>
    cases hg : t.get? l with
    | none => simp [Except.map, hg]
    | some entry => cases entry <;> simp [Except.map, hg]

theorem isFolder_eq_ok_true_iff :
    t.isFolder p = .ok true ↔ ∃ l, t.locate p = .ok l ∧ t.get? l = some .folder := by
  simp only [isFolder, look]
  cases hl : t.locate p with
  | error why => cases why <;> simp [Except.map]
  | ok l =>
    cases hg : t.get? l with
    | none => simp [Except.map, hg]
    | some entry => cases entry <;> simp [Except.map, hg]

/-! ## Writing -/

/-- Putting a file where no folder is makes and removes no folder. -/
theorem get?_insert_file_eq_folder_iff (hl : t.get? l ≠ some .folder) :
    (t.insert l (.file bytes)).get? m = some .folder ↔ t.get? m = some .folder := by
  by_cases hm : m = l
  · have hne : l ≠ [] := by
      rintro rfl
      exact hl (by simp [get?])
    rw [hm, get?_insert_self t _ hne]
    simp [hl]
  · rw [get?_insert_of_ne t _ hm]

theorem walk_insert_eq_ok_iff (hl : t.get? l ≠ some .folder) {start : Location}
    {names : List Text} :
    (t.insert l (.file bytes)).walk start names = .ok m ↔ t.walk start names = .ok m := by
  induction names generalizing start with
  | nil => simp only [walk_nil_eq_ok_iff]
  | cons name names ih =>
    simp only [walk_cons_eq_ok_iff, get?_insert_file_eq_folder_iff hl, ih]

/-- After a write every path leads where it led before. -/
theorem locate_write (h : t.write p bytes = .ok t') :
    t'.locate q = .ok m ↔ t.locate q = .ok m := by
  obtain ⟨l, -, hl, rfl⟩ := write_eq_ok_iff.mp h
  simp only [locate_eq_ok_iff, walk_insert_eq_ok_iff hl, here_insert]

/-- A write makes and removes no folder. -/
theorem get?_write_eq_folder_iff (h : t.write p bytes = .ok t') :
    t'.get? m = some .folder ↔ t.get? m = some .folder := by
  obtain ⟨l, -, hl, rfl⟩ := write_eq_ok_iff.mp h
  exact get?_insert_file_eq_folder_iff hl

theorem isFolder_write (h : t.write p bytes = .ok t') :
    t'.isFolder q = .ok true ↔ t.isFolder q = .ok true := by
  simp only [isFolder_eq_ok_true_iff, locate_write h, get?_write_eq_folder_iff h]

/-- The location that a path leads to holds what is written through it. -/
theorem get?_write_self (h : t.write p bytes = .ok t') (hp : t.locate p = .ok m) :
    t'.get? m = some (.file bytes) := by
  obtain ⟨l, hl, hfolder, rfl⟩ := write_eq_ok_iff.mp h
  obtain rfl := Except.ok.inj (hl.symm.trans hp)
  have hne : l ≠ [] := by
    rintro rfl
    exact hfolder (by simp [get?])
  exact get?_insert_self t _ hne

/-- Every other location holds what it held. -/
theorem get?_write_of_ne (h : t.write p bytes = .ok t') (hp : t.locate p ≠ .ok m) :
    t'.get? m = t.get? m := by
  obtain ⟨l, hl, -, rfl⟩ := write_eq_ok_iff.mp h
  have hne : m ≠ l := by
    rintro rfl
    exact hp hl
  exact get?_insert_of_ne t _ hne

theorem here_write (h : t.write p bytes = .ok t') : t'.here = t.here := by
  obtain ⟨l, -, -, rfl⟩ := write_eq_ok_iff.mp h
  exact here_insert t l _

/-- What was written is read. -/
theorem read_write_self (h : t.write p bytes = .ok t') : t'.read p = .ok bytes := by
  obtain ⟨l, hp, -, -⟩ := write_eq_ok_iff.mp h
  exact read_eq_ok_iff.mpr ⟨l, (locate_write h).mpr hp, get?_write_self h hp⟩

/-- Two paths that do not lead to one file, nor to one place where a file could be made. -/
def Apart (t : FileTree) (p q : Path) : Prop :=
  ∀ l, t.locate p = .ok l → t.locate q = .ok l → t.get? l = some .folder

theorem Apart.symm (h : t.Apart p q) : t.Apart q p := fun l hq hp => h l hp hq

theorem apart_write (h : t.write p bytes = .ok t') {q r : Path} : t'.Apart q r ↔ t.Apart q r := by
  simp only [Apart, locate_write h, get?_write_eq_folder_iff h]

/-- A write changes nothing for the paths apart from its own. -/
theorem read_write_of_apart (h : t.write p bytes = .ok t') (hpq : t.Apart p q)
    {bytes' : List UInt8} : t'.read q = .ok bytes' ↔ t.read q = .ok bytes' := by
  obtain ⟨l, hp, hl, rfl⟩ := write_eq_ok_iff.mp h
  simp only [read_eq_ok_iff, locate_write h]
  refine exists_congr fun m => and_congr_right fun hq => ?_
  have hml : m ≠ l := by
    rintro rfl
    exact hl (hpq m hp hq)
  rw [get?_insert_of_ne t _ hml]

end ZoneKeeper.FileTree
