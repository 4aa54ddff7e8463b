import Mathlib.Order.Bounds.Defs
import ZoneKeeper.Proofs.Zone.Published

/-!
# The alignment of a zone file

A padded field fills the columns up to the stop that it is padded to, or up to the first stop behind
it if it is too long for that. So the type tokens stand under one another in all records whose owner
and time to live fit into their columns.
-/

namespace ZoneKeeper

open Text

namespace Column

variable {column : Nat} {field t : Text} {stops : Int}

/-! ## How many tabs follow a field -/

/-- What a gap leaves beyond its whole stops is less than they are, if there are any: modulo all of
them it is the same as modulo one. -/
theorem mod_whole {gap size : Nat} (hsize : 0 < size) (hgap : size ≤ gap) :
    gap % (gap / size * size) = gap % size := by
  have hwhole : 1 * size ≤ gap / size * size :=
    Nat.mul_le_mul_right size (Nat.div_pos hgap hsize)
  have hrest : gap % size < gap / size * size := by
    have hlt := Nat.mod_lt gap hsize
    omega
  calc gap % (gap / size * size)
      = (gap / size * size + gap % size) % (gap / size * size) := by
        rw [Nat.mul_comm, Nat.div_add_mod]
    _ = gap % size % (gap / size * size) := Nat.add_mod_left _ _
    _ = gap % size := Nat.mod_eq_of_lt hrest

/-- The whole stops of a gap and one more for what is left are the stops that cover the gap. -/
theorem whole_add_rest (gap : Nat) :
    (gap / tabSize + if gap % tabSize > 0 then 1 else 0) = (gap + (tabSize - 1)) / tabSize := by
  by_cases hrest : gap % tabSize > 0
  · rw [if_pos hrest]
    simp only [tabSize] at hrest ⊢
    omega
  · rw [if_neg hrest]
    simp only [tabSize] at hrest ⊢
    omega

/-- A field is followed by a tab for every stop that it has not passed, and by one at least. -/
theorem tabs_eq (length : Nat) (stops : Int) :
    tabs length stops = (max 1 (stops - length / tabSize)).toNat := by
  simp only [tabs]
  split
  · next hgap =>
    simp only [tabSize, Nat.cast_ofNat] at hgap ⊢
    omega
  · next hgap =>
    have hwhole : tabSize ≤ (stops * tabSize - length : Int).toNat := by omega
    rw [mod_whole (by decide) hwhole, whole_add_rest]
    simp only [tabSize, Nat.cast_ofNat] at hgap ⊢
    omega

/-! ## Expanding tabs -/

/-- The first tab stop behind a column. -/
def nextStop (column : Nat) : Nat := (column / tabSize + 1) * tabSize

/-- A text that is written from a column on, with spaces for its tabs: a tab reaches to the next tab
stop, every other character takes one column. Fields are measured by their length, so a line end is
counted like any other character; columns as they are seen are those of a text of one line. -/
def expand (column : Nat) : Text → Text
  | [] => []
  | c :: t =>
    if c = '\t' then List.replicate (nextStop column - column) ' ' ++ expand (nextStop column) t
    else c :: expand (column + 1) t

example : expand 2 "a\tb\t\tc".toList = "a b       c".toList := by decide

/-- A text with spaces for its tabs, each line from column 0 on. -/
def expandLines (column : Nat) : Text → Text
  | [] => []
  | c :: t =>
    if c = '\t' then
      List.replicate (nextStop column - column) ' ' ++ expandLines (nextStop column) t
    else c :: expandLines (if c = '\n' ∨ c = '\r' then 0 else column + 1) t

/-- On one line the columns are those that are seen. -/
theorem expandLines_eq_expand {t : Text} (hline : '\n' ∉ t) (hreturn : '\r' ∉ t) (column : Nat) :
    expandLines column t = expand column t := by
  induction t generalizing column with
  | nil => rfl
  | cons c t ih =>
    rw [List.mem_cons, not_or] at hline hreturn
    have hends : ¬ (c = '\n' ∨ c = '\r') := by
      rintro (rfl | rfl)
      · exact hline.1 rfl
      · exact hreturn.1 rfl
    rw [expandLines, expand, if_neg hends, ih hline.2 hreturn.2, ih hline.2 hreturn.2]

/-- The column behind a text that is written from a column on. -/
def behind (column : Nat) (t : Text) : Nat := column + (expand column t).length

theorem isLeast_nextStop (column : Nat) :
    IsLeast {stop | tabSize ∣ stop ∧ column < stop} (nextStop column) := by
  constructor
  · refine ⟨Nat.dvd_mul_left _ _, ?_⟩
    simp only [nextStop, tabSize]
    omega
  · rintro stop ⟨⟨k, rfl⟩, hlt⟩
    simp only [nextStop, tabSize] at hlt ⊢
    omega

theorem nextStop_nextStop (column : Nat) :
    nextStop (nextStop column) = nextStop column + tabSize := by
  simp only [nextStop, tabSize]
  omega

@[simp] theorem behind_nil (column : Nat) : behind column [] = column := rfl

theorem behind_tab (column : Nat) (t : Text) :
    behind column ('\t' :: t) = behind (nextStop column) t := by
  have hlt := (isLeast_nextStop column).1.2
  rw [behind, expand, if_pos rfl, List.length_append, List.length_replicate, behind]
  omega

theorem behind_cons {c : Char} (hc : c ≠ '\t') (column : Nat) (t : Text) :
    behind column (c :: t) = behind (column + 1) t := by
  rw [behind, expand, if_neg hc, List.length_cons, behind]
  omega

theorem behind_append (column : Nat) (s t : Text) :
    behind column (s ++ t) = behind (behind column s) t := by
  induction s generalizing column with
  | nil => rfl
  | cons c s ih =>
    rw [List.cons_append]
    by_cases hc : c = '\t'
    · rw [hc, behind_tab, behind_tab, ih]
    · rw [behind_cons hc, behind_cons hc, ih]

theorem behind_of_not_mem (h : '\t' ∉ t) (column : Nat) : behind column t = column + t.length := by
  induction t generalizing column with
  | nil => rfl
  | cons c t ih =>
    rw [List.mem_cons, not_or] at h
    rw [behind_cons (Ne.symm h.1), ih h.2, List.length_cons]
    omega

/-- The first tab reaches to the next stop and every other one to the stop after that. -/
theorem behind_tabs (column n : Nat) :
    behind column (List.replicate (n + 1) '\t') = nextStop column + n * tabSize := by
  induction n generalizing column with
  | zero =>
    rw [List.replicate_one, behind_tab, behind_nil]
    omega
  | succ n ih =>
    rw [List.replicate_succ, behind_tab, ih, nextStop_nextStop, Nat.succ_mul]
    omega

/-! ## Where the next field starts -/

theorem behind_pad (h : '\t' ∉ field) (column : Nat) (stops : Int) :
    behind column (pad field stops) =
      nextStop (column + field.length) + (tabs field.length stops - 1) * tabSize := by
  have htabs := Nat.sub_add_cancel (tabs_pos field.length stops)
  rw [pad, behind_append, behind_of_not_mem h, ← htabs, behind_tabs, htabs]

/-- Behind a field that is shorter than its column the next field starts at the next column. -/
theorem behind_pad_of_lt (h : '\t' ∉ field) (hcolumn : tabSize ∣ column)
    (hlt : field.length < stops * tabSize) :
    (behind column (pad field stops) : Int) = column + stops * tabSize := by
  obtain ⟨k, rfl⟩ := hcolumn
  rw [behind_pad h, tabs_eq]
  simp only [nextStop, tabSize, Nat.cast_ofNat] at hlt ⊢
  omega

/-- Behind a field that fills its column the next field starts at the first stop. -/
theorem behind_pad_of_le (h : '\t' ∉ field) (column : Nat)
    (hle : stops * tabSize ≤ field.length) :
    behind column (pad field stops) = nextStop (column + field.length) := by
  have htabs : tabs field.length stops = 1 := by
    rw [tabs_eq]
    simp only [tabSize, Nat.cast_ofNat] at hle ⊢
    omega
  rw [behind_pad h, htabs, Nat.sub_self, Nat.zero_mul, Nat.add_zero]

end Column

/-! ## The lines of records -/

namespace Record

variable {r : Record} {data : Text}

/-- What the line of a record has before the type token: the owner and the time to live, each of
them padded. -/
def lead (r : Record) : Text := Column.pad r.ownerLabel 5 ++ Column.pad (r.ttl.getD []) 2

theorem line_of_data (h : r.data = .ok data) :
    r.line = .ok (r.lead ++ r.type.renderedToken ++ data) := by
  rw [line, h]
  rfl

/-- The type token of a record starts at column 28 if owner and time to live fit into their
columns. -/
theorem behind_lead (howner : r.ownerLabel.length < 20) (howner' : '\t' ∉ r.ownerLabel)
    (httl : (r.ttl.getD []).length < 8) (httl' : '\t' ∉ r.ttl.getD []) :
    Column.behind 0 r.lead = 28 := by
  have hfirst : (Column.behind 0 (Column.pad r.ownerLabel 5) : Int) = 0 + 5 * Column.tabSize :=
    Column.behind_pad_of_lt howner' (Nat.dvd_zero _) (by simp only [Column.tabSize]; omega)
  have hsecond : (Column.behind 20 (Column.pad (r.ttl.getD []) 2) : Int) =
      20 + 2 * Column.tabSize :=
    Column.behind_pad_of_lt httl' (by decide) (by simp only [Column.tabSize]; omega)
  have hcolumn : Column.behind 0 (Column.pad r.ownerLabel 5) = 20 := by
    simp only [Column.tabSize] at hfirst
    omega
  rw [lead, Column.behind_append, hcolumn]
  simp only [Column.tabSize] at hsecond
  omega

end Record

/-! ## Where the line of a record stands -/

/-- Of a text that does not end in a blank nothing is trimmed off, whatever comes behind it. -/
theorem Text.EndsVisibly.trimRight_append {s : Text} (h : s.EndsVisibly) (t : Text) :
    trimRight (s ++ t) = s ++ trimRight t := by
  obtain ⟨before, last, rfl, hlast⟩ := h
  have hfull : ∃ c ∈ last :: t, isBlank c = false := ⟨last, List.mem_cons_self, hlast⟩
  have hfirst : trimRight (last :: t) = last :: trimRight t := by
    simp only [trimRight, List.reverse_cons, List.dropWhile_append]
    split
    · next hnil => simp [List.isEmpty_iff.mp hnil, hlast]
    · simp
  rw [List.append_assoc, List.singleton_append, Text.trimRight_append _ hfull, hfirst,
    List.append_assoc, List.singleton_append]

theorem RecordType.endsVisibly_renderedToken {type : RecordType} (h : type ∈ published) :
    type.renderedToken.EndsVisibly := by
  have hword : ∀ type ∈ published,
      type.renderedToken ≠ [] ∧ ∀ c ∈ type.renderedToken, isBlank c = false := by decide
  exact endsVisibly_of_forall (hword type h).1 (hword type h).2

namespace Zone

variable {z : Zone} {groups : List (List Text)} {rs ss : List Record} {r : Record}

theorem textOfLines_cons {s : Text} (h : s.EndsVisibly) (t : Text) (ls : List Text) :
    textOfLines ((s ++ t) :: ls) = s ++ textOfLines (t :: ls) := by
  show trimRight (unlines ((s ++ t) :: ls)) ++ ['\n'] =
    s ++ (trimRight (unlines (t :: ls)) ++ ['\n'])
  rw [unlines_cons, unlines_cons, List.append_assoc, h.trimRight_append, List.append_assoc]

/-- The line of each record stands among the lines of the groups, behind the lines of the records
that are written before it. -/
theorem exists_groupLines_split (hgroups : z.recordLines = .ok groups)
    (hsplit : z.ordered = rs ++ r :: ss) :
    ∃ above line below, groupLines groups = above ++ line :: below ∧ r.line = .ok line ∧
      List.Forall₂ (fun s line => Record.line s = .ok line) rs (above.filter (· ≠ [])) := by
  have hlines := forall₂_line_ordered hgroups
  rw [hsplit, ← filter_groupLines hgroups] at hlines
  have habove := (List.forall₂_take_append _ rs (r :: ss) hlines.flip).flip
  have hbelow := (List.forall₂_drop_append _ rs (r :: ss) hlines.flip).flip
  obtain ⟨line, rest, hline, -, hdrop⟩ := List.forall₂_cons_left_iff.mp hbelow
  obtain ⟨above, below, hall, htake, hrest⟩ :=
    List.filter_eq_append_iff.mp (List.take_append_drop rs.length _).symm
  rw [hdrop] at hrest
  -- Between the line of the record before and its own there may be a blank line.
  obtain ⟨blanks, below, rfl, hblanks, -, -⟩ := List.filter_eq_cons_iff.mp hrest
  refine ⟨above ++ blanks, line, below, by rw [hall, List.append_assoc], hline, ?_⟩
  rw [List.filter_append, htake, List.filter_eq_nil_iff.mpr hblanks, List.append_nil]
  exact habove

/-- In a zone file each record has a line that begins with its owner and its time to live, each of
them padded, and goes on with its type token and its data. -/
theorem exists_line_of_ordered {layout : Layout} {serial : Option Text} {text : Text}
    (htext : z.render layout serial = .ok text) (hsplit : z.ordered = rs ++ r :: ss) :
    ∃ host above data below, z.primary = .ok host ∧ r.data = .ok data ∧
      List.Forall₂ (fun s line => Record.line s = .ok line) rs (above.filter (· ≠ [])) ∧
      text = unlines (z.header host serial ++ [] :: above) ++
        (r.lead ++ (r.type.renderedToken ++ textOfLines (data :: below))) := by
  obtain ⟨host, groups, -, hhost, hgroups, rfl⟩ := render_eq_ok_iff.mp htext
  obtain ⟨above, line, below, hlines, hline, habove⟩ := exists_groupLines_split hgroups hsplit
  obtain ⟨data, hdata, -⟩ := map_eq_ok_iff.mp hline
  obtain rfl := Except.ok.inj (hline.symm.trans (Record.line_of_data hdata))
  have hr : r ∈ z.ordered := by simp [hsplit]
  have htoken : (r.lead ++ r.type.renderedToken).EndsVisibly :=
    (RecordType.endsVisibly_renderedToken (mem_ordered_iff.mp hr).2).append_left r.lead
  have hword : ∃ l ∈ (r.lead ++ r.type.renderedToken ++ data) :: below,
      ∃ c ∈ l, isBlank c = false := by
    obtain ⟨before, last, heq, hlast⟩ := htoken
    exact ⟨_, List.mem_cons_self, last, by simp [heq], hlast⟩
  have hall : z.header host serial ++ [[]] ++ groupLines groups =
      (z.header host serial ++ [] :: above) ++
        (r.lead ++ r.type.renderedToken ++ data) :: below := by
    simp [hlines]
  refine ⟨host, above, data, below, hhost, hdata, habove, ?_⟩
  rw [← textOfLines_header, hall, textOfLines_append _ hword, textOfLines_cons htoken,
    List.append_assoc]

/-- The alignment of a zone file. A field is followed by a tab for every stop that it has not passed
on the way to its column, and by one at least. So behind a field without tabs that is written from a
tab stop on, the next field starts where the column of the field ends or, if the field is too long
for it, at the first stop behind the field; and each record of a zone file has a line on which the
type token starts at column 28 if owner and time to live fit into their columns. -/
theorem fields_aligned :
    (∀ (field : Text) (stops : Int),
      Column.pad field stops =
        field ++ List.replicate (max 1 (stops - field.length / Column.tabSize)).toNat '\t') ∧
    (∀ (field : Text) (stops : Int) (column : Nat), '\t' ∉ field → Column.tabSize ∣ column →
      (field.length < stops * Column.tabSize →
        (Column.behind column (Column.pad field stops) : Int) =
          column + stops * Column.tabSize) ∧
      (stops * Column.tabSize ≤ field.length →
        IsLeast {stop | Column.tabSize ∣ stop ∧ column + field.length < stop}
          (Column.behind column (Column.pad field stops)))) ∧
    ∀ (layout : Layout) (z : Zone) (serial : Option Text) (text : Text) (rs : List Record)
      (r : Record) (ss : List Record), z.render layout serial = .ok text →
      z.ordered = rs ++ r :: ss →
      (∃ host above data below, z.primary = .ok host ∧ r.data = .ok data ∧
        List.Forall₂ (fun s line => Record.line s = .ok line) rs (above.filter (· ≠ [])) ∧
        text = unlines (z.header host serial ++ [] :: above) ++
          (r.lead ++ (r.type.renderedToken ++ textOfLines (data :: below)))) ∧
      (r.ownerLabel.length < 20 → '\t' ∉ r.ownerLabel → (r.ttl.getD []).length < 8 →
        '\t' ∉ r.ttl.getD [] → Column.behind 0 r.lead = 28) := by
  refine ⟨fun field stops => ?_, fun field stops column htab hcolumn => ⟨fun hlt => ?_,
    fun hle => ?_⟩, fun layout z serial text rs r ss htext hsplit => ⟨?_, ?_⟩⟩
  · rw [Column.pad, Column.tabs_eq]
  · exact Column.behind_pad_of_lt htab hcolumn hlt
  · rw [Column.behind_pad_of_le htab column hle]
    exact Column.isLeast_nextStop (column + field.length)
  · exact exists_line_of_ordered htext hsplit
  · exact Record.behind_lead

/-- An owner and a time to live that leave one column each for their tab, in the second record of a
zone; behind them a field that ends where its column does, and one whose column lies to the left. -/
theorem fields_aligned_sample :
    let r : Record := ⟨.a, ["192.0.2.1".toList], some "nineteen-characters".toList,
      some "1000000".toList⟩
    let text := unlines (["$TTL 1d", "@ IN SOA n h.e. (", "\t\t\t\t\t\t\t3h\t\t\t; Refresh",
      "\t\t\t\t\t\t\t1h\t\t\t; Retry", "\t\t\t\t\t\t\t1w\t\t\t; Expire",
      "\t\t\t\t\t\t\t1h )\t\t; Negative Cache TTL", "", "@\t\t\t\t\t\t\tNS\t\t\tn", "",
      "nineteen-characters\t1000000\tA\t\t\t192.0.2.1"].map String.toList)
    (sample [r]).render .standard none = .ok text ∧
      (∃ host above data below, (sample [r]).primary = .ok host ∧ r.data = .ok data ∧
        List.Forall₂ (fun s line => Record.line s = .ok line)
          [⟨.ns, ["n".toList], none, none⟩] (above.filter (· ≠ [])) ∧
        text = unlines ((sample [r]).header host none ++ [] :: above) ++
          (r.lead ++ ("A".toList ++ textOfLines (data :: below)))) ∧
      Column.behind 0 r.lead = 28 ∧
      (Column.behind 20 (Column.pad "1000000".toList 2) : Int) = 20 + 2 * Column.tabSize ∧
      IsLeast {stop | Column.tabSize ∣ stop ∧ 20 + 4 < stop}
        (Column.behind 20 (Column.pad "abcd".toList 1)) ∧
      Column.pad "abcd".toList (-3) = "abcd\t".toList := by
  intro r text
  obtain ⟨hpad, hfields, hlines⟩ := fields_aligned
  have htext : (sample [r]).render .standard none = .ok text := by decide +kernel
  have hsplit : (sample [r]).ordered = [⟨.ns, ["n".toList], none, none⟩] ++ [r] := by decide
  obtain ⟨hline, hcolumn⟩ := hlines _ _ _ _ _ _ _ htext hsplit
  exact ⟨htext, hline, hcolumn (by decide) (by decide) (by decide) (by decide),
    (hfields _ 2 20 (by decide) (by decide)).1 (by decide),
    (hfields _ 1 20 (by decide) (by decide)).2 (by decide), hpad _ (-3)⟩

end Zone

end ZoneKeeper
