import ZoneKeeper.Proofs.Declaration.Declarable
import ZoneKeeper.Proofs.Zone.Order

/-!
# The line feeds of a zone file

A zone file has seven lines for its header, a blank one, one for each record and a blank one between
two groups. Nothing more ends a line, except for the line feeds that the administrator, the owners
and the data fields hold themselves: a declaration trims them only at the ends, and they are written
as they are.
-/

namespace ZoneKeeper

open Text Declaration

/-! ## Trimming at the end -/

namespace Text

variable {s t v : Text}

/-- Trimming takes no line feed off a text if what it can reach of it is on one line. -/
theorem count_newline_trimRight (s : Text) (hword : ∃ c ∈ t, isBlank c = false) (ht : '\n' ∉ t)
    (hv : trimRight v = v) : (trimRight (s ++ t ++ v)).count '\n' = (s ++ t ++ v).count '\n' := by
  by_cases hfull : ∃ c ∈ v, isBlank c = false
  · rw [trimRight_append _ hfull, hv]
  · have hblank : ∀ c ∈ v.reverse, isBlank c = true := fun c hc => by
      by_contra hnot
      exact hfull ⟨c, List.mem_reverse.mp hc, by simpa using hnot⟩
    have hnil : v = [] := by
      rw [← hv, trimRight, List.dropWhile_eq_nil_iff.mpr hblank, List.reverse_nil]
    have htrim : '\n' ∉ trimRight t := fun hc =>
      ht ((List.rdropWhile_prefix isBlank t).subset hc)
    rw [hnil, List.append_nil, trimRight_append s hword, List.count_append, List.count_append,
      List.count_eq_zero_of_not_mem ht, List.count_eq_zero_of_not_mem htrim]

theorem trimRight_quote (t : Text) : trimRight (quote t) = quote t := by
  have hquote : isBlank '"' = false := by decide
  simp [trimRight, quote, hquote]

end Text

namespace Zone

theorem count_newline_unlines (lines : List Text) :
    (unlines lines).count '\n' = lines.length + (lines.map (·.count '\n')).sum := by
  induction lines with
  | nil => rfl
  | cons line lines ih =>
    rw [unlines_cons, List.count_append, List.count_cons_self, ih, List.length_cons, List.map_cons,
      List.sum_cons]
    omega

/-- Of lines that end in a blank line every one is ended once, but for the blank line. -/
theorem count_newline_textOfLines (lines : List Text) {last : Text}
    (hword : ∃ c ∈ last, isBlank c = false)
    (hlast : (trimRight last).count '\n' = last.count '\n') :
    (textOfLines (lines ++ [last, []])).count '\n' =
      lines.length + 1 + ((lines ++ [last]).map (·.count '\n')).sum := by
  have hnewline : isBlank '\n' = true := by decide
  have hend : textOfLines [last, []] = trimRight last ++ ['\n'] := by
    simp [textOfLines, trimRight, hnewline]
  rw [textOfLines_append lines ⟨last, List.mem_cons_self, hword⟩, hend, List.count_append,
    count_newline_unlines, List.count_append, hlast, List.map_append, List.sum_append]
  simp
  omega

theorem length_groupLines (groups : List (List Text)) :
    (groupLines groups).length = groups.flatten.length + groups.length := by
  induction groups with
  | nil => rfl
  | cons group groups ih =>
    rw [groupLines] at ih ⊢
    simp only [List.flatMap_cons, List.length_append, List.flatten_cons, ih, List.length_cons,
      List.length_nil]
    omega

theorem sum_count_newline_groupLines (groups : List (List Text)) :
    ((groupLines groups).map (·.count '\n')).sum = (groups.flatten.map (·.count '\n')).sum := by
  induction groups with
  | nil => rfl
  | cons group groups ih =>
    rw [groupLines] at ih ⊢
    simp only [List.flatMap_cons, List.flatten_cons, List.map_append, List.sum_append, ih]
    simp

end Zone

/-! ## The lines of records -/

theorem Column.count_newline_pad (field : Text) (stops : Int) :
    (pad field stops).count '\n' = field.count '\n' := by
  simp [pad, List.count_replicate]

namespace Record

variable {r : Record}

/-- How many line feeds the owner and the data fields of a record hold. -/
def lineFeeds (r : Record) : Nat :=
  (r.owner.getD []).count '\n' + (r.values.map (·.count '\n')).sum

theorem count_newline_ownerLabel (r : Record) :
    r.ownerLabel.count '\n' = (r.owner.getD []).count '\n' := by
  obtain ⟨type, values, owner, ttl⟩ := r
  match owner with
  | none => rfl
  | some [] => rfl
  | some (_ :: _) => rfl

theorem mem_published_of_admits {type : RecordType} {values : List Text}
    (h : type.Admits values) : type ∈ RecordType.published :=
  ((admits_iff []).mp h).1

/-- The data of a record that can be declared end in a trimmed field, and only that field can hold
line feeds. -/
theorem exists_data_of_admits (h : r.type.Admits r.values) :
    ∃ tabs value, r.data = .ok (tabs ++ value) ∧ '\n' ∉ tabs ∧ trimRight value = value ∧
      (r.values.map (·.count '\n')).sum = value.count '\n' := by
  obtain ⟨type, values, owner, ttl⟩ := r
  cases h with
  | @ns host hhost =>
    exact ⟨"\t\t\t".toList, host, rfl, by decide, hhost.trimRight_eq, by simp⟩
  | @a address haddress =>
    exact ⟨"\t\t\t".toList, address, rfl, by decide, (isTrimmed_of_isAddress haddress).trimRight_eq,
      by simp⟩
  | @cname host hhost =>
    exact ⟨"\t\t".toList, host, rfl, by decide, hhost.trimRight_eq, by simp⟩
  | @mx preference host hpreference hhost =>
    have hdigits : '\n' ∉ preference := not_mem_of_isPreference hpreference (by decide)
    exact ⟨' ' :: preference ++ "\t\t".toList, host, rfl, by simp [hdigits], hhost.trimRight_eq,
      by simp [List.count_eq_zero_of_not_mem hdigits]⟩
  | @spf criteria policy _ _ =>
    exact ⟨"\t\t\t".toList, quote policy, rfl, by decide, trimRight_quote policy, by simp⟩
  | @txt t _ =>
    exact ⟨"\t\t\t".toList, quote t, rfl, by decide, trimRight_quote t, by simp⟩

/-- The line of a record that can be declared has the line feeds of its owner and its data fields,
and trimming it takes none of them off. -/
theorem IsDeclarable.exists_line (h : r.IsDeclarable) :
    ∃ line, r.line = .ok line ∧ (∃ c ∈ line, isBlank c = false) ∧
      line.count '\n' = r.lineFeeds ∧ (trimRight line).count '\n' = line.count '\n' := by
  obtain ⟨tabs, value, hdata, htabs, hvalue, hcount⟩ := exists_data_of_admits h.values
  have hpublished := mem_published_of_admits h.values
  have htokens : ∀ type ∈ RecordType.published, '\n' ∉ type.renderedToken ∧
      type.renderedToken.any (! isBlank ·) = true := by decide
  obtain ⟨htoken, hword⟩ := htokens _ hpublished
  obtain ⟨c, hc, hblank⟩ := List.any_eq_true.mp hword
  have hmiddle : '\n' ∉ r.type.renderedToken ++ tabs := by simp [htoken, htabs]
  have hmiddleWord : ∃ c ∈ r.type.renderedToken ++ tabs, isBlank c = false :=
    ⟨c, List.mem_append_left _ hc, by simpa using hblank⟩
  have httl : '\n' ∉ r.ttl.getD [] := by
    cases hr : r.ttl with
    | none => simp
    | some ttl => exact not_mem_of_isTime (h.ttl ttl hr) (by decide) (by decide)
  have hline : r.line = .ok (Column.pad r.ownerLabel 5 ++ Column.pad (r.ttl.getD []) 2 ++
      (r.type.renderedToken ++ tabs) ++ value) := by
    rw [line, hdata]
    simp [Except.map]
  refine ⟨_, hline, ?_, ?_, count_newline_trimRight _ hmiddleWord hmiddle hvalue⟩
  · obtain ⟨c, hc, hblank⟩ := hmiddleWord
    exact ⟨c, List.mem_append_left _ (List.mem_append_right _ hc), hblank⟩
  · rw [List.count_append, List.count_append, List.count_append, Column.count_newline_pad,
      Column.count_newline_pad, count_newline_ownerLabel, List.count_eq_zero_of_not_mem httl,
      List.count_eq_zero_of_not_mem hmiddle, lineFeeds, hcount, Nat.add_zero]

theorem IsDeclarable.lineFeeds_eq_zero_iff (h : r.IsDeclarable) :
    r.lineFeeds = 0 ↔ r.IsLineFree := by
  rw [lineFeeds, Nat.add_eq_zero_iff, List.count_eq_zero, List.sum_eq_zero_iff_forall_eq_nat]
  simp only [List.mem_map, forall_exists_index, and_imp, forall_apply_eq_imp_iff₂, List.count_eq_zero]
  constructor
  · rintro ⟨howner, hvalues⟩
    refine ⟨hvalues, fun owner heq => ?_, fun ttl heq => ?_⟩
    · rwa [heq] at howner
    · exact not_mem_of_isTime (h.ttl ttl heq) (by decide) (by decide)
  · intro hfree
    refine ⟨?_, hfree.values⟩
    cases heq : r.owner with
    | none => simp
    | some owner => exact hfree.owner owner heq

end Record

/-! ## Zones -/

namespace Zone

variable {z : Zone} {host serial : Text}

theorem count_newline_mailbox (z : Zone) : z.mailbox.count '\n' = z.admin.count '\n' := by
  rw [mailbox, replace]
  induction z.admin with
  | nil => rfl
  | cons c rest ih =>
    rw [List.map_cons, List.count_cons, List.count_cons, ih]
    by_cases hc : c = '@' <;> simp [hc]

theorem count_newline_fieldLine {value : Text} (comment : Text) (hvalue : '\n' ∉ value)
    (hcomment : '\n' ∉ comment) : (fieldLine value comment).count '\n' = 0 := by
  refine List.count_eq_zero_of_not_mem ?_
  simp [fieldLine, fieldIndent, Column.newline_not_mem_pad 3 hvalue, hcomment]

/-- Only the administrator and the primary nameserver can bring line feeds into the header. -/
theorem sum_count_newline_header (host : Text) (h : z.IsDeclarable) (hserial : '\n' ∉ serial) :
    ((z.header host (some serial)).map (·.count '\n')).sum =
      z.admin.count '\n' + host.count '\n' := by
  have htime {t : Text} (comment : Text) (ht : isTime t = true) (hcomment : '\n' ∉ comment) :
      (fieldLine t comment).count '\n' = 0 :=
    count_newline_fieldLine comment (not_mem_of_isTime ht (by decide) (by decide)) hcomment
  have hnegative : '\n' ∉ z.negativeTtl ++ " )".toList := by
    simp [not_mem_of_isTime h.negativeTtl (c := '\n') (by decide) (by decide)]
  have httl : '\n' ∉ z.ttl := not_mem_of_isTime h.ttl (by decide) (by decide)
  have hfirst : ("$TTL ".toList ++ z.ttl).count '\n' = 0 :=
    List.count_eq_zero_of_not_mem (by simp [httl])
  have hsecond : ("@ IN SOA ".toList ++ host ++ ' ' :: z.mailbox ++ ". (".toList).count '\n' =
      z.admin.count '\n' + host.count '\n' := by
    simp [count_newline_mailbox, Nat.add_comm]
  simp only [header, Option.toList_some, List.map_append, List.map_cons, List.map_nil,
    List.sum_append, List.sum_cons, List.sum_nil, hfirst, hsecond,
    count_newline_fieldLine "Serial".toList hserial (by decide),
    htime "Refresh".toList h.refresh (by decide), htime "Retry".toList h.retry (by decide),
    htime "Expire".toList h.expire (by decide),
    count_newline_fieldLine "Negative Cache TTL".toList hnegative (by decide)]
  omega

theorem IsDeclarable.type_mem_published (h : z.IsDeclarable) :
    ∀ r ∈ z.records, r.type ∈ RecordType.published :=
  fun r hr => Record.mem_published_of_admits (h.records r hr).values

theorem IsDeclarable.exists_recordLines (h : z.IsDeclarable) :
    ∃ groups, z.recordLines = .ok groups := by
  refine exists_recordLines_of_forall fun r hr => ?_
  obtain ⟨line, hline, -⟩ := (h.records r (mem_ordered_iff.mp hr).1).exists_line
  exact ⟨line, hline⟩

/-- The lines of all groups hold the line feeds that the records hold. -/
theorem IsDeclarable.sum_count_newline_flatten (h : z.IsDeclarable) {groups : List (List Text)}
    (hgroups : z.recordLines = .ok groups) :
    (groups.flatten.map (·.count '\n')).sum = (z.records.map Record.lineFeeds).sum := by
  rw [← ((ordered_perm h.type_mem_published).map Record.lineFeeds).sum_nat]
  have hlines := forall₂_line_ordered hgroups
  have hrecords : ∀ r ∈ z.ordered, r.IsDeclarable :=
    fun r hr => h.records r (mem_ordered_iff.mp hr).1
  generalize z.ordered = rs at hlines hrecords
  generalize groups.flatten = lines at hlines
  induction hlines with
  | nil => rfl
  | cons hline _ ih =>
    obtain ⟨hr, hrs⟩ := List.forall_mem_cons.mp hrecords
    obtain ⟨_, hline', -, hcount, -⟩ := hr.exists_line
    obtain rfl := Except.ok.inj (hline.symm.trans hline')
    rw [List.map_cons, List.map_cons, List.sum_cons, List.sum_cons, hcount, ih hrs]

theorem exists_primary_of_isDeclarable (h : z.IsDeclarable) (hns : ∃ r ∈ z.records, r.type = .ns) :
    ∃ r ∈ z.records, ∃ host, r.values = [host] ∧ z.primary = .ok host := by
  obtain ⟨first, rest, hfirst, hin, htype⟩ := exists_first_nameserver hns
  have hadmits := (h.records first hin).values
  obtain ⟨type, values, owner, ttl⟩ := first
  obtain rfl : type = .ns := htype
  cases hadmits with
  | @ns host _ => exact ⟨_, hin, host, rfl, primary_eq_ok_iff.mpr ⟨_, rest, hfirst, rfl⟩⟩

/-- How many lines a zone file has if no field ends one: seven for the header, a blank one, one for
every record and a blank one between two groups. -/
def lineCount (z : Zone) : Nat := 8 + z.records.length + z.types.length - 1

/-- How many line feeds the fields of a zone bring into its file, the primary nameserver being
written twice. -/
def lineFeeds (z : Zone) (host : Text) : Nat :=
  z.admin.count '\n' + host.count '\n' + (z.records.map Record.lineFeeds).sum

/-- A zone that can be declared brings no line feeds into its file exactly if no field holds one. -/
theorem IsDeclarable.lineFeeds_eq_zero_iff (h : z.IsDeclarable)
    (hns : ∃ r ∈ z.records, r.type = .ns) (hhost : z.primary = .ok host) :
    z.lineFeeds host = 0 ↔ z.IsLineFree := by
  obtain ⟨first, hfirst, host', hvalues, hprimary⟩ := exists_primary_of_isDeclarable h hns
  obtain rfl := Except.ok.inj (hprimary.symm.trans hhost)
  simp only [lineFeeds, Nat.add_eq_zero_iff, List.sum_eq_zero_iff_forall_eq_nat, List.mem_map,
    forall_exists_index, and_imp, forall_apply_eq_imp_iff₂, List.count_eq_zero]
  have htime {t : Text} (ht : isTime t = true) : '\n' ∉ t :=
    not_mem_of_isTime ht (by decide) (by decide)
  constructor
  · rintro ⟨⟨hadmin, -⟩, hrecords⟩
    exact ⟨hadmin, htime h.ttl, htime h.refresh, htime h.retry, htime h.expire,
      htime h.negativeTtl,
      fun r hr => (h.records r hr).lineFeeds_eq_zero_iff.mp (hrecords r hr)⟩
  · intro hfree
    refine ⟨⟨hfree.admin, ?_⟩,
      fun r hr => (h.records r hr).lineFeeds_eq_zero_iff.mpr (hfree.records r hr)⟩
    exact (hfree.records first hfirst).values host' (hvalues ▸ List.mem_cons_self)

/-- The file of a zone that can be declared has the lines of its layout, and one more for every line
feed that a field brings in. -/
theorem IsDeclarable.exists_render_count (h : z.IsDeclarable)
    (hns : ∃ r ∈ z.records, r.type = .ns) (hserial : '\n' ∉ serial) :
    ∃ text host, z.render .standard (some serial) = .ok text ∧ z.primary = .ok host ∧
      text.count '\n' = z.lineCount + z.lineFeeds host := by
  obtain ⟨-, -, host, -, hhost⟩ := exists_primary_of_isDeclarable h hns
  obtain ⟨groups, hgroups⟩ := h.exists_recordLines
  refine ⟨_, host, render_eq_ok_iff.mpr ⟨host, groups, rfl, hhost, hgroups, rfl⟩, hhost, ?_⟩
  obtain ⟨lines, line, hlines, r, hr, hline⟩ := exists_groupLines_concat hns hgroups
  obtain ⟨_, hline', hword, -, hlast⟩ := (h.records r (mem_ordered_iff.mp hr).1).exists_line
  obtain rfl := Except.ok.inj (hline.symm.trans hline')
  -- The lines of the groups, counted in two ways: as they end the file and as those of the records.
  have hlength : lines.length + 2 = z.records.length + z.types.length := by
    have hrecords := (forall₂_line_ordered hgroups).length_eq
    have hall := (mapM_eq_ok_iff.mp hgroups).length_eq
    have hcount := length_groupLines groups
    rw [hlines, List.length_append] at hcount
    rw [← length_groups h.type_mem_published, ← (ordered_perm h.type_mem_published).length_eq,
      hrecords, hall]
    exact hcount
  have hsum : ((lines ++ [line]).map (·.count '\n')).sum =
      (z.records.map Record.lineFeeds).sum := by
    rw [← h.sum_count_newline_flatten hgroups, ← sum_count_newline_groupLines, hlines]
    simp
  have hheader := sum_count_newline_header host h hserial
  have hheaderLength : (z.header host (some serial)).length = 7 := rfl
  have hsplit : z.header host (some serial) ++ [[]] ++ groupLines groups =
      (z.header host (some serial) ++ [[]] ++ lines) ++ [line, []] := by
    rw [hlines, List.append_assoc _ lines]
  rw [← textOfLines_header, hsplit, count_newline_textOfLines _ hword hlast,
    List.append_assoc _ lines, List.map_append, List.sum_append, hsum, List.map_append,
    List.sum_append, hheader, List.length_append, List.length_append, hheaderLength, lineCount,
    lineFeeds]
  simp only [List.map_cons, List.map_nil, List.count_nil, List.sum_cons, List.sum_nil,
    List.length_cons, List.length_nil]
  omega

/-- The line feeds of a zone file. Whatever the attributes were that a catalogue was declared with,
the file of a zone with a nameserver has the lines of its layout, and one more for every line feed
that the administrator, the primary nameserver, an owner or a data field holds; so it has exactly
the lines of its layout if and only if none of them holds one. -/
theorem count_newline_render {zones : Catalogue} (h : Buildable zones) {domain : Text}
    (hz : (domain, z) ∈ zones) (hns : ∃ r ∈ z.records, r.type = .ns)
    (hserial : ∀ c ∈ serial, isDigit c = true) :
    ∃ text host, z.render .standard (some serial) = .ok text ∧ z.primary = .ok host ∧
      text.count '\n' = z.lineCount + z.lineFeeds host ∧
      (text.count '\n' = z.lineCount ↔ z.IsLineFree) := by
  have hzone := h.isDeclarable.zones _ hz
  have hfree : '\n' ∉ serial := fun hc => absurd (hserial _ hc) (by decide)
  obtain ⟨text, host, htext, hhost, hcount⟩ := hzone.exists_render_count hns hfree
  refine ⟨text, host, htext, hhost, hcount, ?_⟩
  rw [hcount, Nat.add_eq_left]
  exact hzone.lineFeeds_eq_zero_iff hns hhost

/-- The fixed zone with another administrator and other records. -/
def sampleWith (admin : Text) (records : List Record) : Zone :=
  { sample [] with admin, records }

/-- A document that declares a zone with these attributes in place of the administrator and these
elements in place of the records. -/
def sampleDocument (admin records : String) : Text :=
  ("<domain name='e' ttl='1d' refresh='3h' retry='1h' expire='1w' negttl='1h' admin='" ++ admin ++
    "'>" ++ records ++ "</domain>").toList

/-- An administrator with a line feed at the end, and an alias to nothing as the last record: two
records of two types, and one line feed more. -/
theorem count_newline_render_sample :
    let z := sampleWith "h@e\n".toList [⟨.cname, [[]], some "w".toList, none⟩,
      ⟨.ns, ["n".toList], none, none⟩]
    ∃ text host, z.render .standard (some "2026101900".toList) = .ok text ∧
      z.primary = .ok host ∧ text.count '\n' = 11 + 1 ∧
      (text.count '\n' = 11 ↔ z.IsLineFree) := by
  intro z
  have hread : (ofText (sampleDocument "h@e&#10;" ("<record type='CNAME' domain='w' value=' '/>" ++
      "<record type='NS' value='n'/>"))).outcome = .ok [("e".toList, z)] := by decide +kernel
  obtain ⟨text, host, htext, hhost, hcount, hiff⟩ :=
    count_newline_render (buildable_ofBytes hread) (List.mem_singleton.mpr rfl) (by decide)
      (List.all_eq_true.mp (by decide : "2026101900".toList.all isDigit = true))
  obtain rfl : "n".toList = host := Except.ok.inj hhost
  exact ⟨text, _, htext, hhost, hcount, hiff⟩

/-- A nameserver that is declared with a reference to a line feed splits two lines of the file: nine
lines are eleven. -/
theorem count_newline_render_split :
    let z := sampleWith "h@e".toList [⟨.ns, ["n\nm".toList], none, none⟩]
    (ofText (sampleDocument "h@e" "<record type='NS' value='n&#10;m'/>")).outcome =
        .ok [("e".toList, z)] ∧
      Buildable [("e".toList, z)] ∧ (∃ r ∈ z.records, r.type = .ns) ∧
      ∃ text, z.render .standard (some "2026101900".toList) = .ok text ∧
        text.count '\n' = 11 ∧ z.lineCount = 9 := by
  intro z
  have hread : (ofText (sampleDocument "h@e" "<record type='NS' value='n&#10;m'/>")).outcome =
      .ok [("e".toList, z)] := by decide +kernel
  refine ⟨hread, buildable_ofBytes hread, by decide, unlines (["$TTL 1d", "@ IN SOA n", "m h.e. (",
    "\t\t\t\t\t\t\t2026101900\t; Serial", "\t\t\t\t\t\t\t3h\t\t\t; Refresh",
    "\t\t\t\t\t\t\t1h\t\t\t; Retry", "\t\t\t\t\t\t\t1w\t\t\t; Expire",
    "\t\t\t\t\t\t\t1h )\t\t; Negative Cache TTL", "", "@\t\t\t\t\t\t\tNS\t\t\tn", "m"].map
      String.toList), ?_, ?_, ?_⟩
  · decide +kernel
  · decide
  · decide

end Zone

end ZoneKeeper
