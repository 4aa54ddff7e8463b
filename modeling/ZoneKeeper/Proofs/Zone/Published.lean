import Mathlib.Data.List.Forall2
import ZoneKeeper.Proofs.Literal
import ZoneKeeper.Proofs.Zone.Lines

/-!
# What a zone file publishes

The timings, the names of the start of authority and the records of a zone can be read back from its
zone file, as long as no field holds what separates the fields: tabs and line feeds, and at the end
of the file blanks. The fields are taken off the text one after another, each up to its separator;
after a field has been read, the number of tabs that follow it is known.
-/

namespace ZoneKeeper

open Text

/-! ## Fields without separators -/

/-- Whether a text is one word: it is not empty and has no blanks. -/
def Text.IsWord (t : Text) : Prop := t ≠ [] ∧ ∀ c ∈ t, isBlank c = false

/-- Whether a text is in double quotes and on one line. -/
def Text.IsQuoted (t : Text) : Prop := '\n' ∉ t ∧ ∃ inner, t = '"' :: inner ++ ['"']

/-- Whether a text ends in a character that is not blank. -/
def Text.EndsVisibly (t : Text) : Prop :=
  ∃ before last, t = before ++ [last] ∧ isBlank last = false

theorem Text.EndsVisibly.append_left {t : Text} (h : t.EndsVisibly) (front : Text) :
    (front ++ t).EndsVisibly := by
  obtain ⟨before, last, rfl, hlast⟩ := h
  exact ⟨front ++ before, last, (List.append_assoc front before [last]).symm, hlast⟩

theorem Text.endsVisibly_of_forall {t : Text} (hne : t ≠ []) (h : ∀ c ∈ t, isBlank c = false) :
    t.EndsVisibly := by
  obtain ⟨before, last, rfl⟩ := (List.eq_nil_or_concat t).resolve_left hne
  exact ⟨before, last, List.concat_eq_append, h last (by simp)⟩

theorem Text.IsQuoted.endsVisibly {t : Text} (h : t.IsQuoted) : t.EndsVisibly := by
  obtain ⟨-, inner, rfl⟩ := h
  exact ⟨'"' :: inner, '"', rfl, by decide⟩

theorem Text.IsWord.not_mem {t : Text} {c : Char} (h : t.IsWord) (hc : isBlank c = true) :
    c ∉ t := by
  intro hmem
  rw [h.2 c hmem] at hc
  cases hc

/-! ## Columns -/

namespace Column

theorem tabs_pos (n : Nat) (stops : Int) : 0 < tabs n stops := by
  simp only [tabs]
  split
  · exact Nat.one_pos
  · next hgap =>
    simp only [tabSize, Nat.cast_ofNat, not_lt] at hgap ⊢
    have hwhole : 0 < (stops * 4 - (n : Int)).toNat / 4 :=
      Nat.div_pos (by omega) (by decide)
    omega

/-- A field is read back from its column, and so is what follows it. -/
theorem pad_append_inj {field field' u v : Text} {stops : Int} (h : '\t' ∉ field)
    (h' : '\t' ∉ field') (heq : pad field stops ++ u = pad field' stops ++ v) :
    field = field' ∧ u = v := by
  have hpad (field u : Text) : pad field stops ++ u =
      field ++ '\t' :: (List.replicate (tabs field.length stops - 1) '\t' ++ u) := by
    have htabs := Nat.sub_add_cancel (tabs_pos field.length stops)
    rw [pad, ← htabs, List.replicate_succ]
    simp
  rw [hpad, hpad] at heq
  obtain ⟨rfl, heq⟩ := append_cons_inj h h' heq
  exact ⟨rfl, List.append_cancel_left heq⟩

end Column

/-! ## Records -/

/-- The data of a record that has a place in a zone file: a preference and a host for a mail
exchange, a quoted text for texts and policies, and one word for all other types. -/
def Record.HasData (r : Record) : Prop :=
  match r.type, r.values with
  | .mx, [preference, host] => isPreference preference = true ∧ host.IsWord
  | .ns, [value] | .a, [value] | .cname, [value] => value.IsWord
  | .spf, [value] | .txt, [value] => value.IsQuoted
  | _, _ => False

/-- A record whose fields a zone file keeps apart. -/
structure Record.IsPublishable (r : Record) : Prop where
  owner : ∀ owner, r.owner = some owner → owner.IsWord
  ttl : ∀ ttl, r.ttl = some ttl → isTime ttl = true
  data : r.HasData

/-- What a zone file says of a record. -/
structure PublishedRecord where
  /-- The owner, as the zone file names it. -/
  owner : Text
  /-- The time to live, if the record has one of its own. -/
  ttl : Option Text
  /-- The type token. -/
  type : Text
  /-- The data fields. -/
  values : List Text
  deriving DecidableEq, Repr

namespace Record

/-- What the zone file says of a record. -/
def published (r : Record) : PublishedRecord :=
  ⟨r.ownerLabel, r.ttl, r.type.renderedToken, r.values⟩

variable {r r' : Record} {line : Text}

/-- The type token and the data fields, read from what follows the columns of owner and time to
live: the first word, which of a mail exchange takes in the preference, and what comes after the
first tab behind it. -/
def readData (word rest : Text) : Text × List Text :=
  match word with
  | 'M' :: 'X' :: ' ' :: preference => ("MX".toList, [preference, rest.drop 1])
  | _ => (word, [rest.drop (if word = "CNAME".toList then 1 else 2)])

theorem HasData.exists_word (h : r.HasData) : ∃ data word rest, r.data = .ok data ∧
    r.type.renderedToken ++ data = word ++ '\t' :: rest ∧ '\t' ∉ word ∧
      readData word rest = (r.type.renderedToken, r.values) := by
  obtain ⟨type, values, owner, ttl⟩ := r
  unfold HasData at h
  simp only at h
  split at h
  · next preference host =>
    have htab : '\t' ∉ preference := not_mem_of_isPreference h.1 (by decide)
    exact ⟨_, "MX ".toList ++ preference, '\t' :: host, rfl, by simp; rfl, by simp [htab], rfl⟩
  · exact ⟨_, "NS".toList, '\t' :: '\t' :: _, rfl, rfl, by decide, rfl⟩
  · exact ⟨_, "A".toList, '\t' :: '\t' :: _, rfl, rfl, by decide, rfl⟩
  · exact ⟨_, "CNAME".toList, '\t' :: _, rfl, rfl, by decide, rfl⟩
  · exact ⟨_, "TXT".toList, '\t' :: '\t' :: _, rfl, rfl, by decide, rfl⟩
  · exact ⟨_, "TXT".toList, '\t' :: '\t' :: _, rfl, rfl, by decide, rfl⟩
  · exact h.elim

theorem HasData.values_spec (h : r.HasData) :
    ∀ value ∈ r.values, '\n' ∉ value ∧ value.EndsVisibly := by
  obtain ⟨type, values, owner, ttl⟩ := r
  have hword {value : Text} (h : value.IsWord) : '\n' ∉ value ∧ value.EndsVisibly :=
    ⟨h.not_mem (by decide), endsVisibly_of_forall h.1 h.2⟩
  have hquoted {value : Text} (h : value.IsQuoted) : '\n' ∉ value ∧ value.EndsVisibly :=
    ⟨h.1, h.endsVisibly⟩
  unfold HasData at h
  simp only at h
  split at h
  · next preference host =>
    have hpreference : '\n' ∉ preference ∧ preference.EndsVisibly :=
      ⟨not_mem_of_isPreference h.1 (by decide), endsVisibly_of_forall (ne_nil_of_isPreference h.1)
        fun c hc => isBlank_of_isDigit (isDigit_of_isPreference h.1 hc)⟩
    exact List.forall_mem_cons.mpr ⟨hpreference, List.forall_mem_singleton.mpr (hword h.2)⟩
  · exact List.forall_mem_singleton.mpr (hword h)
  · exact List.forall_mem_singleton.mpr (hword h)
  · exact List.forall_mem_singleton.mpr (hword h)
  · exact List.forall_mem_singleton.mpr (hquoted h)
  · exact List.forall_mem_singleton.mpr (hquoted h)
  · exact h.elim

theorem IsPublishable.isWord_ownerLabel (h : r.IsPublishable) : r.ownerLabel.IsWord := by
  unfold ownerLabel
  split
  · next howner => exact h.owner _ howner
  · exact ⟨by decide, by decide⟩

/-- The column of the time to live is read back: it begins with a tab exactly if there is none. -/
theorem ttl_eq_of_pad_eq {ttl ttl' : Option Text} (h : ∀ t, ttl = some t → isTime t = true)
    (h' : ∀ t, ttl' = some t → isTime t = true) {u v : Text}
    (heq : Column.pad (ttl.getD []) 2 ++ u = Column.pad (ttl'.getD []) 2 ++ v) :
    ttl = ttl' ∧ u = v := by
  have htab {ttl : Option Text} (h : ∀ t, ttl = some t → isTime t = true) :
      '\t' ∉ ttl.getD [] := by
    cases ttl with
    | none => simp
    | some t => exact not_mem_of_isTime (h t rfl) (by decide) (by decide)
  obtain ⟨hfield, hrest⟩ := Column.pad_append_inj (htab h) (htab h') heq
  refine ⟨?_, hrest⟩
  cases ttl with
  | none =>
    cases ttl' with
    | none => rfl
    | some t' =>
      obtain ⟨c, rest, rfl, -⟩ := exists_cons_of_isTime (h' t' rfl)
      cases hfield
  | some t =>
    cases ttl' with
    | none =>
      obtain ⟨c, rest, rfl, -⟩ := exists_cons_of_isTime (h t rfl)
      cases hfield
    | some t' => exact congrArg some hfield

/-- Two records that are written on the same line publish the same. -/
theorem published_eq_of_line_eq (h : r.IsPublishable) (h' : r'.IsPublishable)
    (hline : r.line = .ok line) (hline' : r'.line = .ok line) : r.published = r'.published := by
  obtain ⟨data, word, rest, hdata, hword, htab, hread⟩ := h.data.exists_word
  obtain ⟨data', word', rest', hdata', hword', htab', hread'⟩ := h'.data.exists_word
  obtain ⟨_, hd, rfl⟩ := map_eq_ok_iff.mp hline
  obtain rfl := Except.ok.inj (hdata.symm.trans hd)
  obtain ⟨_, hd', heq⟩ := map_eq_ok_iff.mp hline'
  obtain rfl := Except.ok.inj (hdata'.symm.trans hd')
  simp only [List.append_assoc] at heq
  obtain ⟨howner, heq⟩ := Column.pad_append_inj (h'.isWord_ownerLabel.not_mem (by decide))
    (h.isWord_ownerLabel.not_mem (by decide)) heq
  obtain ⟨httl, heq⟩ := ttl_eq_of_pad_eq h'.ttl h.ttl heq
  rw [hword, hword'] at heq
  obtain ⟨rfl, rfl⟩ := append_cons_inj htab' htab heq
  obtain ⟨htype, hvalues⟩ := Prod.mk.inj (hread.symm.trans hread')
  rw [published, published, howner, httl, htype, hvalues]

theorem IsPublishable.isLineFree (h : r.IsPublishable) : r.IsLineFree where
  values value hvalue := (h.data.values_spec value hvalue).1
  owner owner howner := (h.owner owner howner).not_mem (by decide)
  ttl ttl httl := not_mem_of_isTime (h.ttl ttl httl) (by decide) (by decide)

/-- The data of a record end in one of its data fields. -/
theorem exists_value_of_data {data : Text} (h : r.data = .ok data) :
    ∃ front, ∃ value ∈ r.values, data = front ++ value := by
  obtain ⟨type, values, owner, ttl⟩ := r
  have hfirst {tabs : Text} {r : Record}
      (h : (r.firstValue >>= fun value => .ok (tabs ++ value)) = .ok data) :
      ∃ front, ∃ value ∈ r.values, data = front ++ value := by
    obtain ⟨value, hvalue, ⟨⟩⟩ := bind_eq_ok_iff.mp h
    unfold firstValue at hvalue
    split at hvalue
    · cases hvalue
    · next heq =>
      cases hvalue
      exact ⟨tabs, value, heq ▸ List.mem_cons_self, rfl⟩
  unfold Record.data at h
  simp only at h
  split at h
  · cases h
    exact ⟨_, _, List.mem_cons_of_mem _ List.mem_cons_self, rfl⟩
  · cases h
  · exact hfirst h
  · exact hfirst h

/-- Whether the line of a record ends in a character that is not blank. -/
def EndsVisibly (r : Record) : Prop := ∀ line, r.line = .ok line → Text.EndsVisibly line

theorem endsVisibly_of_values (h : ∀ value ∈ r.values, Text.EndsVisibly value) :
    r.EndsVisibly := by
  intro line hline
  obtain ⟨data, hdata, rfl⟩ := map_eq_ok_iff.mp hline
  obtain ⟨front, value, hvalue, rfl⟩ := exists_value_of_data hdata
  exact ((h value hvalue).append_left front).append_left _

theorem HasData.endsVisibly (h : r.HasData) : r.EndsVisibly :=
  endsVisibly_of_values fun value hvalue => (h.values_spec value hvalue).2

theorem line_ne_nil (hline : r.line = .ok line) : line ≠ [] := by
  obtain ⟨data, -, rfl⟩ := map_eq_ok_iff.mp hline
  have htabs := Column.tabs_pos r.ownerLabel.length 5
  intro hnil
  simp only [Column.pad, List.append_eq_nil_iff, List.replicate_eq_nil_iff] at hnil
  omega

end Record

/-! ## Lines under one another -/

namespace Zone

theorem unlines_inj {ls ms : List Text} (hls : ∀ l ∈ ls, '\n' ∉ l) (hms : ∀ m ∈ ms, '\n' ∉ m)
    (h : unlines ls = unlines ms) : ls = ms := by
  induction ls generalizing ms with
  | nil =>
    cases ms with
    | nil => rfl
    | cons m ms => simp at h
  | cons l ls ih =>
    cases ms with
    | nil => simp at h
    | cons m ms =>
      rw [unlines_cons, unlines_cons] at h
      obtain ⟨rfl, htail⟩ := append_cons_inj (hls l List.mem_cons_self) (hms m List.mem_cons_self) h
      rw [ih (fun l hl => hls l (List.mem_cons_of_mem _ hl))
        (fun m hm => hms m (List.mem_cons_of_mem _ hm)) htail]

/-- Lines that end in a blank line after one that does not end in a blank lose that line only. -/
theorem textOfLines_concat (ls : List Text) {before : Text} {last : Char}
    (hlast : isBlank last = false) :
    textOfLines (ls ++ [before ++ [last], []]) = unlines (ls ++ [before ++ [last]]) := by
  rw [textOfLines_append ls ⟨before ++ [last], List.mem_cons_self, last, by simp, hlast⟩,
    unlines_append]
  have hnewline : isBlank '\n' = true := by decide
  simp [textOfLines, trimRight, hlast, hnewline]

end Zone

/-! ## Zones -/

/-- A zone with a nameserver whose fields a zone file keeps apart. -/
structure Zone.IsPublishable (z : Zone) : Prop where
  ttl : isTime z.ttl = true
  refresh : isTime z.refresh = true
  retry : isTime z.retry = true
  expire : isTime z.expire = true
  negativeTtl : isTime z.negativeTtl = true
  admin : ∀ c ∈ z.admin, isBlank c = false
  records : ∀ r ∈ z.records, r.IsPublishable
  nameserver : ∃ r ∈ z.records, r.type = .ns

/-- What a zone file says of a zone. -/
structure Published where
  /-- The time to live of records that have none. -/
  ttl : Text
  /-- How often a secondary asks for changes. -/
  refresh : Text
  /-- How soon a secondary asks again after a failure. -/
  retry : Text
  /-- After how long a secondary gives the zone up. -/
  expire : Text
  /-- How long a negative answer may be kept. -/
  negativeTtl : Text
  /-- The administrator's mailbox. -/
  mailbox : Text
  /-- The primary nameserver. -/
  primary : Option Text
  /-- The records, in the order in which they are written. -/
  records : List PublishedRecord
  deriving DecidableEq, Repr

namespace Zone

/-- The records of a zone in the order in which they are written. -/
def ordered (z : Zone) : List Record := z.groups.flatten

/-- What the zone file says of a zone. -/
def published (z : Zone) : Published where
  ttl := z.ttl
  refresh := z.refresh
  retry := z.retry
  expire := z.expire
  negativeTtl := z.negativeTtl
  mailbox := z.mailbox
  primary := z.primary.toOption
  records := z.ordered.map Record.published

variable {z z' : Zone} {groups groups' : List (List Text)}

theorem mem_ordered_iff {r : Record} :
    r ∈ z.ordered ↔ r ∈ z.records ∧ r.type ∈ RecordType.published := by
  constructor
  · intro h
    obtain ⟨group, hgroup, hr⟩ := List.mem_flatten.mp h
    obtain ⟨type, htype, rfl⟩ := List.mem_map.mp (List.mem_filter.mp hgroup).1
    obtain ⟨hr, heq⟩ := List.mem_filter.mp hr
    exact ⟨hr, of_decide_eq_true heq ▸ htype⟩
  · rintro ⟨hr, htype⟩
    have hmem : r ∈ z.recordsOf r.type := List.mem_filter.mpr ⟨hr, by simp⟩
    refine List.mem_flatten.mpr ⟨_, List.mem_filter.mpr ⟨?_, ?_⟩, hmem⟩
    · exact List.mem_map.mpr ⟨_, htype, rfl⟩
    · exact decide_eq_true (List.ne_nil_of_mem hmem)

/-- The lines of all groups are the lines of the records in the order in which they are written. -/
theorem forall₂_line_ordered (h : z.recordLines = .ok groups) :
    List.Forall₂ (fun r line => Record.line r = .ok line) z.ordered groups.flatten := by
  have hgroups := mapM_eq_ok_iff.mp h
  exact List.rel_flatten (hgroups.imp fun group lines hlines => mapM_eq_ok_iff.mp hlines)

/-- If each record that is written has a line, then there are lines for all groups. -/
theorem exists_recordLines_of_forall (h : ∀ r ∈ z.ordered, ∃ line, r.line = .ok line) :
    ∃ groups, z.recordLines = .ok groups :=
  exists_mapM_eq_ok fun group hgroup => exists_mapM_eq_ok fun r hr =>
    h r (List.mem_flatten.mpr ⟨group, hgroup, hr⟩)

theorem IsPublishable.isLineFree (h : z.IsPublishable) : z.IsLineFree where
  admin hc := by
    have := h.admin _ hc
    simp [isBlank] at this
  ttl := not_mem_of_isTime h.ttl (by decide) (by decide)
  refresh := not_mem_of_isTime h.refresh (by decide) (by decide)
  retry := not_mem_of_isTime h.retry (by decide) (by decide)
  expire := not_mem_of_isTime h.expire (by decide) (by decide)
  negativeTtl := not_mem_of_isTime h.negativeTtl (by decide) (by decide)
  records r hr := (h.records r hr).isLineFree

theorem exists_primary (hdata : ∀ r ∈ z.ordered, r.HasData) (hns : ∃ r ∈ z.records, r.type = .ns) :
    ∃ r ∈ z.ordered, ∃ host, r.type = .ns ∧ r.values = [host] ∧ z.primary = .ok host := by
  obtain ⟨first, rest, hns, hfirst, htype⟩ := exists_first_nameserver hns
  have hordered : first ∈ z.ordered :=
    mem_ordered_iff.mpr ⟨hfirst, by rw [htype]; decide⟩
  have hfields := hdata first hordered
  obtain ⟨type, values, owner, ttl⟩ := first
  obtain rfl : type = .ns := htype
  match values, hfields with
  | [host], _ => exact ⟨_, hordered, host, rfl, rfl, primary_eq_ok_iff.mpr ⟨_, rest, hns, rfl⟩⟩

theorem IsPublishable.isWord_primary (h : z.IsPublishable) {host : Text}
    (hhost : z.primary = .ok host) : host.IsWord := by
  have hdata : ∀ r ∈ z.ordered, r.HasData := fun r hr => (h.records r (mem_ordered_iff.mp hr).1).data
  obtain ⟨r, hr, host', htype, hvalues, hprimary⟩ := exists_primary hdata h.nameserver
  obtain rfl := Except.ok.inj (hprimary.symm.trans hhost)
  have hword := hdata r hr
  rwa [Record.HasData, htype, hvalues] at hword

/-- The names of the start of authority and the default time to live are read back. -/
theorem opening_inj (hz : z.IsPublishable) (hz' : z'.IsPublishable) {host host' u v : Text}
    (hhost : z.primary = .ok host) (hhost' : z'.primary = .ok host')
    (h : unlines (z.opening host) ++ u = unlines (z'.opening host') ++ v) :
    z.ttl = z'.ttl ∧ host = host' ∧ z.mailbox = z'.mailbox ∧ u = v := by
  have hsplit (z : Zone) (host u : Text) : unlines (z.opening host) ++ u =
      ("$TTL ".toList ++ z.ttl) ++ '\n' ::
        (("@ IN SOA ".toList ++ (host ++ ' ' :: (z.mailbox ++ ". (".toList))) ++ '\n' :: u) := by
    simp [opening]
  have hfirst {z : Zone} (hz : z.IsPublishable) : '\n' ∉ "$TTL ".toList ++ z.ttl := by
    simp [hz.isLineFree.ttl]
  have hsecond {z : Zone} (hz : z.IsPublishable) {host : Text} (hhost : z.primary = .ok host) :
      '\n' ∉ "@ IN SOA ".toList ++ (host ++ ' ' :: (z.mailbox ++ ". (".toList)) := by
    simp [newline_not_mem_primary hz.isLineFree hhost,
      newline_not_mem_mailbox hz.isLineFree.admin]
  rw [hsplit, hsplit] at h
  obtain ⟨httl, h⟩ := append_cons_inj (hfirst hz) (hfirst hz') h
  obtain ⟨hnames, hrest⟩ := append_cons_inj (hsecond hz hhost) (hsecond hz' hhost') h
  obtain ⟨hhost, hmailbox⟩ := append_cons_inj ((hz.isWord_primary hhost).not_mem (by decide))
    ((hz'.isWord_primary hhost').not_mem (by decide)) (List.append_cancel_left hnames)
  exact ⟨List.append_cancel_left httl, hhost, List.append_cancel_right hmailbox, hrest⟩

theorem fieldLine_inj {value value' comment : Text} (h : '\t' ∉ value) (h' : '\t' ∉ value')
    (heq : fieldLine value comment = fieldLine value' comment) : value = value' := by
  simp only [fieldLine, List.append_assoc] at heq
  exact (Column.pad_append_inj h h' (List.append_cancel_left heq)).1

/-- The groups of lines of a zone with a nameserver end in the line of a record and a blank line. -/
theorem exists_groupLines_concat (hns : ∃ r ∈ z.records, r.type = .ns)
    (hgroups : z.recordLines = .ok groups) :
    ∃ lines line, groupLines groups = lines ++ [line, []] ∧
      ∃ r ∈ z.ordered, r.line = .ok line := by
  have hforall := mapM_eq_ok_iff.mp hgroups
  have hfull : ∀ group ∈ groups, group ≠ [] := by
    rintro group hgroup rfl
    obtain ⟨records, hrecords, hlines⟩ := exists_of_mem_mapM hgroups hgroup
    have hnil := List.forall₂_nil_right_iff.mp (mapM_eq_ok_iff.mp hlines)
    exact of_decide_eq_true (List.mem_filter.mp hrecords).2 hnil
  obtain ⟨r, hr, htype⟩ := hns
  have hns : r ∈ z.recordsOf .ns := List.mem_filter.mpr ⟨hr, by simp [htype]⟩
  have hmem : z.recordsOf .ns ∈ z.groups :=
    List.mem_filter.mpr ⟨List.mem_map.mpr ⟨.ns, by decide, rfl⟩,
      decide_eq_true (List.ne_nil_of_mem hns)⟩
  obtain rfl | ⟨front, group, rfl⟩ := List.eq_nil_or_concat groups
  · rw [List.forall₂_nil_right_iff.mp hforall] at hmem
    cases hmem
  · have hgroup : group ∈ front.concat group := by simp
    obtain ⟨lines, line, rfl⟩ := (List.eq_nil_or_concat group).resolve_left (hfull group hgroup)
    have hmember : line ∈ (front.concat (lines.concat line)).flatten := by simp
    exact ⟨groupLines front ++ lines, line, by simp [groupLines],
      exists_of_mem_mapM (mapM_eq_ok_iff.mpr (forall₂_line_ordered hgroups)) hmember⟩

/-- The groups of lines of a zone whose records do not end in blanks end in a line that does not end
in a blank, and a blank line. -/
theorem exists_groupLines_eq (hvisible : ∀ r ∈ z.ordered, r.EndsVisibly)
    (hns : ∃ r ∈ z.records, r.type = .ns) (hgroups : z.recordLines = .ok groups) :
    ∃ lines before last, groupLines groups = lines ++ [before ++ [last], []] ∧
      isBlank last = false := by
  obtain ⟨lines, line, hlines, r, hr, hline⟩ := exists_groupLines_concat hns hgroups
  obtain ⟨before, last, rfl, hlast⟩ := hvisible r hr line hline
  exact ⟨lines, before, last, hlines, hlast⟩

/-- What comes after the serial, as lines: of the blank line at the end nothing is kept. -/
theorem textOfLines_remainder (hvisible : ∀ r ∈ z.ordered, r.EndsVisibly)
    (hns : ∃ r ∈ z.records, r.type = .ns) (hgroups : z.recordLines = .ok groups) :
    ∃ lines, groupLines groups = lines ++ [[]] ∧
      textOfLines (z.remainder groups) = unlines (z.remainder [] ++ lines) := by
  obtain ⟨lines, before, last, hlines, hlast⟩ := exists_groupLines_eq hvisible hns hgroups
  have hnone : groupLines [] = [] := rfl
  have hall : z.remainder groups = (z.remainder [] ++ lines) ++ [before ++ [last], []] := by
    simp [remainder, hlines, hnone]
  refine ⟨lines ++ [before ++ [last]], by simp [hlines], ?_⟩
  rw [hall, textOfLines_concat _ hlast, List.append_assoc]

/-- The blank lines between groups are the only ones. -/
theorem filter_groupLines (h : z.recordLines = .ok groups) :
    (groupLines groups).filter (· ≠ []) = groups.flatten := by
  have hlines : ∀ group ∈ groups, ∀ line ∈ group, line ≠ [] := by
    intro group hgroup line hline
    obtain ⟨r, -, -, hr⟩ := exists_record_of_mem h hgroup hline
    exact Record.line_ne_nil hr
  clear h
  induction groups with
  | nil => rfl
  | cons group groups ih =>
    have hgroup : group.filter (· ≠ []) = group :=
      List.filter_eq_self.mpr fun line hline =>
        decide_eq_true (hlines group List.mem_cons_self line hline)
    have hrest := ih fun group hgroup => hlines group (List.mem_cons_of_mem _ hgroup)
    rw [groupLines] at hrest ⊢
    rw [List.flatMap_cons, List.filter_append, List.filter_append, hgroup, hrest]
    simp

theorem published_eq_of_lines_eq {rs rs' : List Record} {lines : List Text}
    (h : List.Forall₂ (fun r line => Record.line r = .ok line) rs lines)
    (h' : List.Forall₂ (fun r line => Record.line r = .ok line) rs' lines)
    (hrs : ∀ r ∈ rs, r.IsPublishable) (hrs' : ∀ r ∈ rs', r.IsPublishable) :
    rs.map Record.published = rs'.map Record.published := by
  induction h generalizing rs' with
  | nil =>
    cases h'
    rfl
  | @cons r line rs lines hline hrest ih =>
    cases h' with
    | @cons r' _ rs' _ hline' hrest' =>
      have hhead := Record.published_eq_of_line_eq (hrs r List.mem_cons_self)
        (hrs' r' List.mem_cons_self) hline hline'
      have htail := ih hrest' (fun r hr => hrs r (List.mem_cons_of_mem _ hr))
        fun r hr => hrs' r (List.mem_cons_of_mem _ hr)
      rw [List.map_cons, List.map_cons, hhead, htail]

/-- What comes after the serial, as lines: the refresh time and others, all of which but the last
one are kept. -/
theorem IsPublishable.exists_lines (h : z.IsPublishable) {host : Text}
    (hhost : z.primary = .ok host) (hgroups : z.recordLines = .ok groups) :
    ∃ lines, z.remainder groups = fieldLine z.refresh "Refresh".toList :: (lines ++ [[]]) ∧
      textOfLines (z.remainder groups) =
        unlines (fieldLine z.refresh "Refresh".toList :: lines) ∧
      ∀ line ∈ fieldLine z.refresh "Refresh".toList :: lines, '\n' ∉ line := by
  obtain ⟨ls, hlines, htext⟩ := textOfLines_remainder
    (fun r hr => (h.records r (mem_ordered_iff.mp hr).1).data.endsVisibly) h.nameserver hgroups
  have hnone : groupLines [] = [] := rfl
  have hall : z.remainder groups = z.remainder [] ++ ls ++ [[]] := by
    simp [remainder, hlines, hnone]
  refine ⟨(z.remainder []).tail ++ ls, hall, htext, fun line hline => ?_⟩
  have hmem : line ∈ z.remainder groups := by
    rw [hall]
    exact List.mem_append_left _ hline
  refine (lines_spec h.isLineFree hhost hgroups ?_).1
  rw [show z.header host none ++ [[]] ++ groupLines groups = z.opening host ++ z.remainder groups
    by simp [header, opening, remainder]]
  exact List.mem_append_right _ hmem

/-- The timings and the records are read back from what comes after the serial. -/
theorem remainder_inj (hz : z.IsPublishable) (hz' : z'.IsPublishable)
    (hgroups : z.recordLines = .ok groups) (hgroups' : z'.recordLines = .ok groups')
    (h : z.remainder groups = z'.remainder groups') :
    z.refresh = z'.refresh ∧ z.retry = z'.retry ∧ z.expire = z'.expire ∧
      z.negativeTtl = z'.negativeTtl ∧
        z.ordered.map Record.published = z'.ordered.map Record.published := by
  have htab {t : Text} (ht : isTime t = true) : '\t' ∉ t :=
    not_mem_of_isTime ht (by decide) (by decide)
  have htab' {t : Text} (ht : isTime t = true) : '\t' ∉ t ++ " )".toList := by simp [htab ht]
  simp only [remainder, List.cons_append, List.nil_append, List.cons.injEq, true_and] at h
  obtain ⟨hrefresh, hretry, hexpire, hnegative, hlines⟩ := h
  have hnegative := fieldLine_inj (htab' hz.negativeTtl) (htab' hz'.negativeTtl) hnegative
  have hflatten := congrArg (List.filter (· ≠ [])) hlines
  rw [filter_groupLines hgroups, filter_groupLines hgroups'] at hflatten
  have hforall := forall₂_line_ordered hgroups
  rw [hflatten] at hforall
  exact ⟨fieldLine_inj (htab hz.refresh) (htab hz'.refresh) hrefresh,
    fieldLine_inj (htab hz.retry) (htab hz'.retry) hretry,
    fieldLine_inj (htab hz.expire) (htab hz'.expire) hexpire,
    List.append_cancel_right hnegative,
    published_eq_of_lines_eq hforall (forall₂_line_ordered hgroups')
      (fun r hr => hz.records r (mem_ordered_iff.mp hr).1)
      fun r hr => hz'.records r (mem_ordered_iff.mp hr).1⟩

theorem fieldLine_refresh_ne_serial (value serial : Text) :
    fieldLine value "Refresh".toList ≠ fieldLine serial "Serial".toList := by
  intro h
  have hlast := congrArg List.getLast? h
  simp [fieldLine] at hlast

/-- What follows the serial lines of two zone files is the same if the files are: the line after the
serial is never taken for a serial line. -/
theorem eq_of_serialLines_eq {serial serial' : Option Text}
    (hserial : serial = serial' ∨ (∀ s ∈ serial, '\n' ∉ s) ∧ ∀ s ∈ serial', '\n' ∉ s)
    {lines lines' : List Text} (hlines : '\n' ∉ z.refresh) (hlines' : '\n' ∉ z'.refresh)
    (h : unlines (serial.toList.map (fieldLine · "Serial".toList)) ++
        unlines (fieldLine z.refresh "Refresh".toList :: lines) =
      unlines (serial'.toList.map (fieldLine · "Serial".toList)) ++
        unlines (fieldLine z'.refresh "Refresh".toList :: lines')) :
    unlines (fieldLine z.refresh "Refresh".toList :: lines) =
      unlines (fieldLine z'.refresh "Refresh".toList :: lines') := by
  have hline {value comment : Text} (hvalue : '\n' ∉ value) (hcomment : '\n' ∉ comment) :
      '\n' ∉ fieldLine value comment := by
    simp [fieldLine, fieldIndent, Column.newline_not_mem_pad 3 hvalue, hcomment]
  rcases hserial with rfl | ⟨hfree, hfree'⟩
  · exact List.append_cancel_left h
  · cases serial with
    | none =>
      cases serial' with
      | none => exact h
      | some s' =>
        simp only [Option.toList_none, Option.toList_some, List.map_nil, List.map_cons,
          unlines_nil, unlines_cons, List.nil_append, List.append_assoc] at h
        have heq := (append_cons_inj (hline hlines (by decide))
          (hline (hfree' s' rfl) (by decide)) h).1
        exact absurd heq (fieldLine_refresh_ne_serial _ _)
    | some s =>
      cases serial' with
      | none =>
        simp only [Option.toList_none, Option.toList_some, List.map_nil, List.map_cons,
          unlines_nil, unlines_cons, List.nil_append, List.append_assoc] at h
        have heq := (append_cons_inj (hline (hfree s rfl) (by decide))
          (hline hlines' (by decide)) h).1
        exact absurd heq.symm (fieldLine_refresh_ne_serial _ _)
      | some s' =>
        simp only [Option.toList_some, List.map_cons, List.map_nil, unlines_cons, unlines_nil,
          List.append_assoc, List.cons_append, List.nil_append] at h ⊢
        exact (append_cons_inj (hline (hfree s rfl) (by decide))
          (hline (hfree' s' rfl) (by decide)) h).2

/-- Two zones with the same zone file publish the same, whatever serials the files are made with. -/
theorem published_eq_of_render_eq (hz : z.IsPublishable) (hz' : z'.IsPublishable)
    {layout layout' : Layout} {serial serial' : Option Text} {text : Text}
    (hserial : serial = serial' ∨ (∀ s ∈ serial, '\n' ∉ s) ∧ ∀ s ∈ serial', '\n' ∉ s)
    (h : z.render layout serial = .ok text) (h' : z'.render layout' serial' = .ok text) :
    z.published = z'.published := by
  obtain ⟨host, groups, -, hhost, hgroups, rfl⟩ := render_eq_ok_iff.mp h
  obtain ⟨host', groups', -, hhost', hgroups', htext⟩ := render_eq_ok_iff.mp h'
  obtain ⟨lines, hlines, hunlines, hfree⟩ := hz.exists_lines hhost hgroups
  obtain ⟨lines', hlines', hunlines', hfree'⟩ := hz'.exists_lines hhost' hgroups'
  obtain ⟨httl, rfl, hmailbox, htext⟩ := opening_inj hz hz' hhost hhost' htext
  rw [hunlines, hunlines'] at htext
  have hrest := eq_of_serialLines_eq hserial hz.isLineFree.refresh hz'.isLineFree.refresh htext
  obtain ⟨hfirst, rfl⟩ := List.cons.inj (unlines_inj hfree hfree' hrest)
  rw [hfirst] at hlines
  obtain ⟨hrefresh, hretry, hexpire, hnegative, hrecords⟩ :=
    remainder_inj hz hz' hgroups hgroups' (hlines.trans hlines'.symm)
  simp only [published, httl, hrefresh, hretry, hexpire, hnegative, hmailbox, hhost, hhost',
    hrecords]

theorem isPublishable_sample {records : List Record} (h : ∀ r ∈ records, r.IsPublishable) :
    (sample records).IsPublishable where
  ttl := (by decide : isTime "1d".toList = true)
  refresh := (by decide : isTime "3h".toList = true)
  retry := (by decide : isTime "1h".toList = true)
  expire := (by decide : isTime "1w".toList = true)
  negativeTtl := (by decide : isTime "1h".toList = true)
  admin := (by decide : ∀ c ∈ "h@e".toList, isBlank c = false)
  records r hr := by
    rcases List.mem_cons.mp hr with rfl | hr
    · exact ⟨nofun, nofun, by decide, by decide⟩
    · exact h r hr
  nameserver := ⟨_, List.mem_cons_self, rfl⟩

end Zone

end ZoneKeeper
