import ZoneKeeper.Proofs.Text.Numeral
import ZoneKeeper.Serial.Line

/-!
# Serial lines and the cut

A serial line as data, and what cutting does to a text: the first serial line between two line feeds
goes, together with its own line feed, and a text without such a line is not cut.
-/

namespace ZoneKeeper

open Text

/-- What follows a start is found exactly in the texts that begin with the start. -/
theorem Text.dropPrefix?_eq_some_iff {start t rest : Text} :
    dropPrefix? start t = some rest ↔ t = start ++ rest := by
  induction start generalizing t with
  | nil => simp [dropPrefix?]
  | cons a start ih =>
    cases t with
    | nil => simp [dropPrefix?]
    | cons b t =>
      by_cases h : a = b
      · simp [dropPrefix?, h, ih]
      · simp [dropPrefix?, h, Ne.symm h]

namespace Serial

/-- A line that carries a serial: tabs, the ten digits of the serial, tabs and the comment. -/
structure Line where
  /-- How many tabs it begins with. -/
  indent : Nat
  /-- The eight digits of the stamp. -/
  stamp : Text
  /-- The two digits of the version. -/
  version : Text
  /-- How many tabs stand before the comment. -/
  gap : Nat
  indent_pos : 0 < indent
  length_stamp : stamp.length = 8
  length_version : version.length = 2
  digits : ∀ c ∈ stamp ++ version, isDigit c = true
  gap_pos : 0 < gap

namespace Line

/-- The line as it is written. -/
def toText (l : Line) : Text :=
  List.replicate l.indent '\t' ++ (l.stamp ++ (l.version ++
    (List.replicate l.gap '\t' ++ "; Serial".toList)))

/-- The serial on the line. -/
def mark (l : Line) : Mark := ⟨l.stamp, (numeral? l.version).getD 0⟩

/-- What the version digits of a line are worth. -/
theorem exists_version (l : Line) :
    ∃ version, numeral? l.version = some version ∧ version ≤ 99 ∧ l.mark = ⟨l.stamp, version⟩ := by
  obtain ⟨version, hversion, hlt⟩ :=
    exists_numeral? fun c hc => l.digits c (List.mem_append_right _ hc)
  rw [l.length_version] at hlt
  exact ⟨version, hversion, by omega, by rw [mark, hversion]; rfl⟩

end Line

/-! ## Reading a line -/

theorem afterTabs?_eq_some_iff {t rest : Text} :
    afterTabs? t = some rest ↔
      ∃ n, 0 < n ∧ t = List.replicate n '\t' ++ rest ∧ rest.head? ≠ some '\t' := by
  constructor
  · intro h
    unfold afterTabs? at h
    split at h
    · next u =>
      cases h
      refine ⟨(u.takeWhile (· = '\t')).length + 1, Nat.succ_pos _, ?_, ?_⟩
      · have htabs : u.takeWhile (· = '\t') = List.replicate (u.takeWhile (· = '\t')).length '\t' :=
          List.eq_replicate_iff.mpr ⟨rfl, fun c hc => by
            simpa using List.all_eq_true.mp List.all_takeWhile c hc⟩
        rw [List.replicate_succ, ← htabs, List.cons_append, List.takeWhile_append_dropWhile]
      · intro hhead
        have := List.head?_dropWhile_not (· = '\t') u
        rw [hhead] at this
        simp at this
    · cases h
  · rintro ⟨n, hn, rfl, hrest⟩
    obtain ⟨n, rfl⟩ := Nat.exists_eq_add_one.mpr hn
    have hstop : rest.dropWhile (· = '\t') = rest := by
      cases rest with
      | nil => rfl
      | cons c rest =>
        have hc : c ≠ '\t' := by simpa using hrest
        exact List.dropWhile_cons_of_neg (by simpa using hc)
    have htabs : ∀ c ∈ List.replicate n '\t', decide (c = '\t') = true := by simp
    simp [afterTabs?, List.replicate_succ, List.dropWhile_append_of_pos htabs, hstop]

theorem takeDigits?_eq_some_iff {n : Nat} {t digits rest : Text} :
    takeDigits? n t = some (digits, rest) ↔
      digits.length = n ∧ (∀ c ∈ digits, isDigit c = true) ∧ t = digits ++ rest := by
  simp only [takeDigits?]
  constructor
  · intro h
    split at h
    · next hd =>
      simp only [Option.some.injEq, Prod.mk.injEq] at h
      obtain ⟨rfl, rfl⟩ := h
      simp only [Bool.and_eq_true, decide_eq_true_eq, List.all_eq_true] at hd
      exact ⟨hd.1, hd.2, (List.take_append_drop n t).symm⟩
    · cases h
  · rintro ⟨rfl, hd, rfl⟩
    have hall : digits.all isDigit = true := List.all_eq_true.mpr hd
    simp [hall]

/-- A serial line is read exactly where one stands with a line feed after it. -/
theorem lineAt?_eq_some_iff {t after : Text} {mark : Mark} :
    lineAt? t = some (mark, after) ↔ ∃ l : Line, l.mark = mark ∧ t = l.toText ++ '\n' :: after := by
  constructor
  · intro h
    simp only [lineAt?, Option.bind_eq_bind, Option.bind_eq_some_iff, Option.pure_def,
      Option.some.injEq, Prod.mk.injEq, Prod.exists] at h
    obtain ⟨t1, h1, stamp, t2, h2, version, t3, h3, t4, h4, t5, h5, rfl, rfl⟩ := h
    obtain ⟨n, hn, rfl, -⟩ := afterTabs?_eq_some_iff.mp h1
    obtain ⟨hstamp, hdigits, rfl⟩ := takeDigits?_eq_some_iff.mp h2
    obtain ⟨hversion, hdigits', rfl⟩ := takeDigits?_eq_some_iff.mp h3
    obtain ⟨m, hm, rfl, -⟩ := afterTabs?_eq_some_iff.mp h4
    rw [dropPrefix?_eq_some_iff.mp h5]
    refine ⟨⟨n, stamp, version, m, hn, hstamp, hversion, ?_, hm⟩, rfl, by simp [Line.toText]⟩
    intro c hc
    exact (List.mem_append.mp hc).elim (hdigits c) (hdigits' c)
  · rintro ⟨l, rfl, rfl⟩
    have htab : isDigit '\t' = false := by decide
    have h1 : afterTabs? (l.toText ++ '\n' :: after) = some (l.stamp ++ (l.version ++
        (List.replicate l.gap '\t' ++ "; Serial\n".toList ++ after))) := by
      refine afterTabs?_eq_some_iff.mpr ⟨l.indent, l.indent_pos, by simp [Line.toText], ?_⟩
      intro hhead
      have hlen := l.length_stamp
      have hdig := l.digits
      cases hs : l.stamp with
      | nil => simp [hs] at hlen
      | cons c stamp =>
        simp only [hs, List.cons_append, List.head?_cons, Option.some.injEq] at hhead
        simp [hs, hhead, htab] at hdig
    have h2 (rest : Text) : takeDigits? 8 (l.stamp ++ rest) = some (l.stamp, rest) :=
      takeDigits?_eq_some_iff.mpr
        ⟨l.length_stamp, fun c hc => l.digits c (List.mem_append_left _ hc), rfl⟩
    have h3 (rest : Text) : takeDigits? 2 (l.version ++ rest) = some (l.version, rest) :=
      takeDigits?_eq_some_iff.mpr
        ⟨l.length_version, fun c hc => l.digits c (List.mem_append_right _ hc), rfl⟩
    have h4 : afterTabs? (List.replicate l.gap '\t' ++ "; Serial\n".toList ++ after) =
        some ("; Serial\n".toList ++ after) :=
      afterTabs?_eq_some_iff.mpr ⟨l.gap, l.gap_pos, by simp, by simp⟩
    have h5 : dropPrefix? "; Serial\n".toList ("; Serial\n".toList ++ after) = some after :=
      dropPrefix?_eq_some_iff.mpr rfl
    simp only [lineAt?, h1, h2, h3, h4, h5, Option.bind_eq_bind, Option.bind_some]
    rfl

theorem Line.newline_not_mem (l : Line) : '\n' ∉ l.toText := by
  intro h
  have hdigit : isDigit '\n' = false := by decide
  have hdigits : '\n' ∉ l.stamp ++ l.version := by
    intro hc
    rw [l.digits _ hc] at hdigit
    cases hdigit
  rw [List.mem_append, not_or] at hdigits
  simp [Line.toText, hdigits.1, hdigits.2] at h

/-- Whether a serial line stands at the start of a text is decided by its first line. -/
theorem lineAt?_append_newline_eq_none_iff {t rest : Text} :
    lineAt? (t ++ '\n' :: rest) = none ↔ lineAt? (t ++ ['\n']) = none := by
  simp only [Option.eq_none_iff_forall_ne_some, Prod.forall, Ne, lineAt?_eq_some_iff]
  constructor
  · rintro h mark after ⟨l, hl, ht⟩
    refine h mark (after ++ rest) ⟨l, hl, ?_⟩
    rw [List.append_cons, ht]
    simp
  · rintro h mark after ⟨l, hl, ht⟩
    rcases List.append_eq_append_iff.mp ht with ⟨u, hu, hu'⟩ | ⟨u, rfl, hu⟩
    · cases u with
      | nil =>
        rw [List.append_nil] at hu
        exact h mark [] ⟨l, hl, by rw [hu]⟩
      | cons c u =>
        obtain ⟨rfl, -⟩ := List.cons.inj hu'
        exact l.newline_not_mem (by simp [hu])
    · cases u with
      | nil => exact h mark [] ⟨l, hl, by simp⟩
      | cons c u =>
        obtain ⟨rfl, -⟩ := List.cons.inj hu
        exact h mark (u ++ ['\n']) ⟨l, hl, by simp⟩

/-! ## The first line of a text -/

/-- What the first character of a text adds to the cut of the rest. -/
theorem cut?_cons (c : Char) (t : Text) :
    cut? (c :: t) =
      match if c = '\n' then lineAt? t else none with
      | some (mark, after) => some ⟨'\n' :: after, mark⟩
      | none => (cut? t).map fun cut => ⟨c :: cut.body, cut.mark⟩ := rfl

theorem cut?_newline_line (l : Line) (after : Text) :
    cut? ('\n' :: (l.toText ++ '\n' :: after)) = some ⟨'\n' :: after, l.mark⟩ := by
  rw [cut?_cons, if_pos rfl, lineAt?_eq_some_iff.mpr ⟨l, rfl, rfl⟩]

theorem cut?_cons_eq_none_iff {c : Char} {t : Text} :
    cut? (c :: t) = none ↔ (c = '\n' → lineAt? t = none) ∧ cut? t = none := by
  rw [cut?_cons]
  split
  · next mark after h =>
    split at h
    · next hc => simp [hc, h]
    · cases h
  · next h =>
    split at h
    · next hc => simp [h]
    · next hc => simp [hc]

theorem cut?_cons_of_none {c : Char} {t : Text} (h : c = '\n' → lineAt? t = none) :
    cut? (c :: t) = (cut? t).map fun cut => ⟨c :: cut.body, cut.mark⟩ := by
  rw [cut?_cons]
  by_cases hc : c = '\n'
  · rw [if_pos hc, h hc]
  · rw [if_neg hc]

/-- The first serial line is the one that is cut out. -/
theorem cut?_line {before : Text} (h : cut? (before ++ ['\n']) = none) (l : Line) (after : Text) :
    cut? (before ++ '\n' :: (l.toText ++ '\n' :: after)) =
      some ⟨before ++ '\n' :: after, l.mark⟩ := by
  induction before with
  | nil => exact cut?_newline_line l after
  | cons c before ih =>
    obtain ⟨hc, ht⟩ := cut?_cons_eq_none_iff.mp h
    have hnone (hn : c = '\n') :
        lineAt? (before ++ '\n' :: (l.toText ++ '\n' :: after)) = none :=
      lineAt?_append_newline_eq_none_iff.mpr (hc hn)
    rw [List.cons_append, cut?_cons_of_none hnone, ih ht]
    rfl

/-- A text is cut exactly at its first serial line: the line stands between two line feeds, and up
to the first of them there is none. -/
theorem cut?_eq_some_iff {t : Text} {cut : Cut} :
    cut? t = some cut ↔ ∃ (before after : Text) (l : Line),
      t = before ++ '\n' :: (l.toText ++ '\n' :: after) ∧ cut? (before ++ ['\n']) = none ∧
        cut = ⟨before ++ '\n' :: after, l.mark⟩ := by
  constructor
  · intro h
    induction t generalizing cut with
    | nil => cases h
    | cons c t ih =>
      rw [cut?_cons] at h
      split at h
      · next mark after hline =>
        obtain ⟨rfl, hline⟩ : c = '\n' ∧ lineAt? t = some (mark, after) := by
          split at hline
          · next hc => exact ⟨hc, hline⟩
          · cases hline
        obtain ⟨l, rfl, rfl⟩ := lineAt?_eq_some_iff.mp hline
        cases h
        exact ⟨[], after, l, rfl, rfl, rfl⟩
      · next hline =>
        obtain ⟨cut', hcut, rfl⟩ := Option.map_eq_some_iff.mp h
        obtain ⟨before, after, l, rfl, hbefore, rfl⟩ := ih hcut
        refine ⟨c :: before, after, l, rfl, ?_, rfl⟩
        refine cut?_cons_eq_none_iff.mpr ⟨fun hc => ?_, hbefore⟩
        rw [if_pos hc] at hline
        exact lineAt?_append_newline_eq_none_iff.mp hline
  · rintro ⟨before, after, l, rfl, hbefore, rfl⟩
    exact cut?_line hbefore l after

/-- The serial of a text that is cut has a stamp of eight characters and a version of two digits. -/
theorem mark_of_cut? {t : Text} {cut : Cut} (h : cut? t = some cut) :
    cut.mark.stamp.length = 8 ∧ cut.mark.version ≤ 99 := by
  obtain ⟨before, after, l, -, -, rfl⟩ := cut?_eq_some_iff.mp h
  obtain ⟨version, -, hle, hmark⟩ := l.exists_version
  rw [hmark]
  exact ⟨l.length_stamp, hle⟩

/-! ## Texts with a serial line -/

/-- Whether a serial line stands between two line feeds of a text. -/
def HasLine (t : Text) : Prop :=
  ∃ (before after : Text) (l : Line), t = before ++ '\n' :: (l.toText ++ '\n' :: after)

/-- Whether a line is the first serial line of a text: it stands between two line feeds, and up to
the first of them there is none. -/
def IsFirstLine (l : Line) (t : Text) : Prop :=
  ∃ before after : Text, t = before ++ '\n' :: (l.toText ++ '\n' :: after) ∧
    ¬ HasLine (before ++ ['\n'])

/-- Whether a text is another with one serial line put in after one of its line feeds. -/
def IsInserted (body t : Text) : Prop :=
  ∃ (before after : Text) (l : Line), body = before ++ '\n' :: after ∧
    t = before ++ '\n' :: (l.toText ++ '\n' :: after)

/-- A text is not cut exactly if it has no serial line. -/
theorem cut?_eq_none_iff {t : Text} : cut? t = none ↔ ¬ HasLine t := by
  constructor
  · rintro h ⟨before, after, l, rfl⟩
    induction before with
    | nil => simp [cut?_newline_line] at h
    | cons c before ih => exact ih (cut?_cons_eq_none_iff.mp h).2
  · intro h
    rw [Option.eq_none_iff_forall_ne_some]
    intro cut hcut
    obtain ⟨before, after, l, ht, -, -⟩ := cut?_eq_some_iff.mp hcut
    exact h ⟨before, after, l, ht⟩

/-- A text that has serial lines is cut at the first of them. -/
theorem HasLine.exists_cut? {t : Text} (h : HasLine t) :
    ∃ body l, IsFirstLine l t ∧ cut? t = some ⟨body, l.mark⟩ := by
  obtain ⟨cut, hcut⟩ := Option.ne_none_iff_exists'.mp fun hnone => cut?_eq_none_iff.mp hnone h
  obtain ⟨before, after, l, ht, hbefore, rfl⟩ := cut?_eq_some_iff.mp hcut
  exact ⟨_, l, ⟨before, after, ht, cut?_eq_none_iff.mp hbefore⟩, hcut⟩

/-- The texts that are cut to a text without serial lines are those that come of it by putting a
serial line in: whatever else there is of them, the line that was put in is the first. -/
theorem exists_cut?_iff_isInserted {body t : Text} (h : cut? body = none) :
    (∃ mark, cut? t = some ⟨body, mark⟩) ↔ IsInserted body t := by
  constructor
  · rintro ⟨mark, hcut⟩
    obtain ⟨before, after, l, ht, -, hbody⟩ := cut?_eq_some_iff.mp hcut
    exact ⟨before, after, l, (Cut.mk.inj hbody).1, ht⟩
  · rintro ⟨before, after, l, rfl, rfl⟩
    refine ⟨l.mark, cut?_line ?_ l after⟩
    rw [cut?_eq_none_iff] at h ⊢
    rintro ⟨before', after', l', hbefore⟩
    refine h ⟨before', after' ++ after, l', ?_⟩
    rw [List.append_cons, hbefore]
    simp

end Serial

end ZoneKeeper
