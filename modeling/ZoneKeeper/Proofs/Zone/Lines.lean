import Mathlib.Data.List.Basic
import ZoneKeeper.Proofs.Outcome
import ZoneKeeper.Proofs.Zone.SerialLine

/-!
# The lines of a zone file without a serial

If no field of a zone has a line feed, then the lines of its zone file are the lines that it is put
together from. Each of them is empty or holds a character that no serial line holds, so none of them
is taken for a serial line.
-/

namespace ZoneKeeper

open Text

/-! ## The inner lines of a text -/

/-- Two texts that are the same up to the first separator of each go on in the same way. -/
theorem Text.append_cons_inj {c : Char} {s t u v : Text} (hs : c ∉ s) (ht : c ∉ t)
    (h : s ++ c :: u = t ++ c :: v) : s = t ∧ u = v := by
  induction s generalizing t with
  | nil =>
    cases t with
    | nil => exact ⟨rfl, (List.cons.inj h).2⟩
    | cons a t =>
      obtain ⟨rfl, -⟩ := List.cons.inj h
      exact absurd List.mem_cons_self ht
  | cons a s ih =>
    cases t with
    | nil =>
      obtain ⟨rfl, -⟩ := List.cons.inj h
      exact absurd List.mem_cons_self hs
    | cons b t =>
      rw [List.mem_cons, not_or] at hs ht
      obtain ⟨rfl, htail⟩ := List.cons.inj h
      obtain ⟨rfl, rfl⟩ := ih hs.2 ht.2 htail
      exact ⟨rfl, rfl⟩

namespace Zone

/-- A line between two line feeds of lines put under one another is one of them. -/
theorem mem_of_unlines_eq {lines : List Text} {before line after : Text}
    (hlines : ∀ l ∈ lines, '\n' ∉ l) (hline : '\n' ∉ line)
    (h : unlines lines = before ++ '\n' :: (line ++ '\n' :: after)) : line ∈ lines := by
  induction lines generalizing before with
  | nil => simp at h
  | cons l lines ih =>
    have hl := hlines l List.mem_cons_self
    have hrest : ∀ l ∈ lines, '\n' ∉ l := fun l hl => hlines l (List.mem_cons_of_mem _ hl)
    rw [unlines_cons] at h
    by_cases hbefore : '\n' ∈ before
    · obtain ⟨first, before, rfl, hfirst⟩ := List.eq_append_cons_of_mem hbefore
      rw [List.append_assoc, List.cons_append] at h
      exact List.mem_cons_of_mem _ (ih hrest (append_cons_inj hl hfirst h).2)
    · obtain ⟨-, h⟩ := append_cons_inj hl hbefore h
      cases lines with
      | nil => simp at h
      | cons m lines =>
        rw [unlines_cons] at h
        obtain ⟨rfl, -⟩ := append_cons_inj (hrest m List.mem_cons_self) hline h
        simp

theorem getLast?_unlines {lines : List Text} (h : lines ≠ []) :
    (unlines lines).getLast? = some '\n' := by
  obtain rfl | ⟨ls, l, rfl⟩ := List.eq_nil_or_concat lines
  · exact absurd rfl h
  · simp [unlines]

/-- Between two line feeds of a text of lines stands one of the lines, except that the last one may
have lost blanks at its end. -/
theorem mem_of_textOfLines_eq {lines : List Text} {before line after : Text}
    (hlines : ∀ l ∈ lines, '\n' ∉ l) (hline : '\n' ∉ line) (hne : line ≠ [])
    (h : textOfLines lines = before ++ '\n' :: (line ++ '\n' :: after)) :
    ∃ blanks, (∀ c ∈ blanks, isBlank c = true) ∧ line ++ blanks ∈ lines := by
  obtain ⟨blanks, hblanks, htrim⟩ := exists_trimRight_append (unlines lines)
  have h : trimRight (unlines lines) ++ ['\n'] = before ++ '\n' :: (line ++ '\n' :: after) := h
  rcases List.eq_nil_or_concat after with rfl | ⟨after, c, rfl⟩
  · -- The line is the last one, and what was trimmed off begins with the rest of it.
    have hends : trimRight (unlines lines) ++ ['\n'] = (before ++ '\n' :: line) ++ ['\n'] := by
      simpa using h
    have hlast := List.append_cancel_right hends
    have hsplit : unlines lines = (before ++ ['\n']) ++ (line ++ blanks) := by
      rw [htrim, hlast]
      simp
    have hend : (line ++ blanks).getLast? = some '\n' := by
      have hfull : lines ≠ [] := by
        rintro rfl
        simp at hsplit
      rw [← getLast?_unlines hfull, hsplit,
        List.getLast?_append_of_ne_nil _ (List.append_ne_nil_of_left_ne_nil hne _)]
    have hmem : '\n' ∈ blanks :=
      (List.mem_append.mp (List.mem_of_getLast? hend)).resolve_left hline
    obtain ⟨rest, lost, rfl, hrest⟩ := List.eq_append_cons_of_mem hmem
    have hinner : unlines lines = before ++ '\n' :: ((line ++ rest) ++ '\n' :: lost) := by
      rw [hsplit]
      simp
    exact ⟨rest, fun c hc => hblanks c (List.mem_append_left _ hc),
      mem_of_unlines_eq hlines (by simp [hline, hrest]) hinner⟩
  · have hends : trimRight (unlines lines) ++ ['\n'] =
        (before ++ '\n' :: (line ++ '\n' :: after)) ++ [c] := by
      simpa using h
    have hinner : unlines lines = before ++ '\n' :: (line ++ '\n' :: (after ++ blanks)) := by
      rw [htrim, List.append_inj_left' hends rfl]
      simp
    exact ⟨[], by simp, by simpa using mem_of_unlines_eq hlines hline hinner⟩

end Zone

/-! ## Fields without line feeds -/

/-- No field of a record has a line feed. -/
structure Record.IsLineFree (r : Record) : Prop where
  values : ∀ value ∈ r.values, '\n' ∉ value
  owner : ∀ owner, r.owner = some owner → '\n' ∉ owner
  ttl : ∀ ttl, r.ttl = some ttl → '\n' ∉ ttl

/-- No field that a zone file writes has a line feed. -/
structure Zone.IsLineFree (z : Zone) : Prop where
  admin : '\n' ∉ z.admin
  ttl : '\n' ∉ z.ttl
  refresh : '\n' ∉ z.refresh
  retry : '\n' ∉ z.retry
  expire : '\n' ∉ z.expire
  negativeTtl : '\n' ∉ z.negativeTtl
  records : ∀ r ∈ z.records, r.IsLineFree

theorem Column.newline_not_mem_pad {field : Text} (stops : Int) (h : '\n' ∉ field) :
    '\n' ∉ Column.pad field stops := by
  simp [pad, h]

namespace Record

variable {r : Record} {t : Text}

theorem newline_not_mem_firstValue (h : r.IsLineFree) (ht : r.firstValue = .ok t) : '\n' ∉ t := by
  unfold firstValue at ht
  split at ht
  · cases ht
  · next hr =>
    cases ht
    exact h.values _ (hr ▸ List.mem_cons_self)

theorem newline_not_mem_data (h : r.IsLineFree) (ht : r.data = .ok t) : '\n' ∉ t := by
  unfold data at ht
  split at ht
  · next preference host _ hr =>
    cases ht
    have hpreference : '\n' ∉ preference := h.values _ (hr ▸ List.mem_cons_self)
    have hhost : '\n' ∉ host := h.values _ (hr ▸ List.mem_cons_of_mem _ List.mem_cons_self)
    simp [hpreference, hhost]
  · cases ht
  · obtain ⟨value, hvalue, ⟨⟩⟩ := bind_eq_ok_iff.mp ht
    simp [newline_not_mem_firstValue h hvalue]
  · obtain ⟨value, hvalue, ⟨⟩⟩ := bind_eq_ok_iff.mp ht
    simp [newline_not_mem_firstValue h hvalue]

theorem newline_not_mem_ownerLabel (h : r.IsLineFree) : '\n' ∉ r.ownerLabel := by
  unfold ownerLabel
  split
  · next hr => exact h.owner _ hr
  · decide

theorem newline_not_mem_ttl (h : r.IsLineFree) : '\n' ∉ r.ttl.getD [] := by
  cases hr : r.ttl with
  | none => simp
  | some ttl => exact h.ttl _ hr

/-- The line of a published record whose fields have no line feed has none. -/
theorem newline_not_mem_line (h : r.IsLineFree) (htype : r.type ∈ RecordType.published)
    (ht : r.line = .ok t) : '\n' ∉ t := by
  obtain ⟨data, hdata, rfl⟩ := map_eq_ok_iff.mp ht
  have htoken : ∀ type ∈ RecordType.published, '\n' ∉ type.renderedToken := by decide
  have howner := Column.newline_not_mem_pad 5 (newline_not_mem_ownerLabel h)
  have httl := Column.newline_not_mem_pad 2 (newline_not_mem_ttl h)
  simp [howner, httl, htoken r.type htype, newline_not_mem_data h hdata]

end Record

/-! ## Characters that no serial line has -/

/-- Whether a character stands neither in a serial line nor among blanks. -/
def IsForeign (c : Char) : Prop :=
  isBlank c = false ∧ isDigit c = false ∧ c ∉ "; Serial".toList

instance : DecidablePred IsForeign := fun c => by
  unfold IsForeign
  infer_instance

/-- No serial line has a foreign character. -/
theorem Serial.Line.not_isForeign (l : Serial.Line) {c : Char} (h : c ∈ l.toText) :
    ¬ IsForeign c := by
  rintro ⟨hblank, hdigit, hcomment⟩
  have htab : c ≠ '\t' := by
    rintro rfl
    exact absurd hblank (by decide)
  have hserial : c ∉ l.stamp ++ l.version := fun hc => by simp [l.digits c hc] at hdigit
  rw [List.mem_append, not_or] at hserial
  simp only [toText, List.mem_append, List.mem_replicate, htab, hserial, hcomment] at h
  simp at h

/-- The line of a published record has a foreign character, in its type token. -/
theorem Record.exists_isForeign_line {r : Record} {line : Text}
    (htype : r.type ∈ RecordType.published) (h : r.line = .ok line) :
    ∃ c ∈ line, IsForeign c := by
  obtain ⟨data, -, rfl⟩ := map_eq_ok_iff.mp h
  have htoken : ∀ type ∈ RecordType.published, type.renderedToken.any (IsForeign ·) = true := by
    decide
  obtain ⟨c, hc, hforeign⟩ := List.any_eq_true.mp (htoken r.type htype)
  exact ⟨c, by simp [hc], of_decide_eq_true hforeign⟩

namespace Zone

variable {z : Zone}

/-! ## The lines of a zone file -/

/-- The lines of the records are those of records of published types. -/
theorem exists_record_of_mem {groups : List (List Text)} (h : z.recordLines = .ok groups)
    {group : List Text} (hgroup : group ∈ groups) {line : Text} (hline : line ∈ group) :
    ∃ r ∈ z.records, r.type ∈ RecordType.published ∧ r.line = .ok line := by
  obtain ⟨records, hrecords, hlines⟩ := exists_of_mem_mapM h hgroup
  obtain ⟨r, hr, hline⟩ := exists_of_mem_mapM hlines hline
  obtain ⟨type, htype, rfl⟩ := List.mem_map.mp (List.mem_filter.mp hrecords).1
  obtain ⟨hmem, hr⟩ := List.mem_filter.mp hr
  obtain rfl : r.type = type := by simpa using hr
  exact ⟨r, hmem, htype, hline⟩

/-- The primary nameserver is the host of the first nameserver record. -/
theorem primary_eq_ok_iff {host : Text} : z.primary = .ok host ↔
    ∃ r rest, z.recordsOf .ns = r :: rest ∧ r.firstValue = .ok host := by
  rw [primary, primary?]
  cases z.recordsOf .ns with
  | nil => simp
  | cons r rest =>
    dsimp only
    cases hvalue : r.firstValue <;> simp [Except.map, hvalue]

/-- A zone with nameservers has a first one. -/
theorem exists_first_nameserver (h : ∃ r ∈ z.records, r.type = .ns) :
    ∃ r rest, z.recordsOf .ns = r :: rest ∧ r ∈ z.records ∧ r.type = .ns := by
  obtain ⟨r, hr, htype⟩ := h
  have hmem : r ∈ z.recordsOf .ns := List.mem_filter.mpr ⟨hr, by simp [htype]⟩
  obtain ⟨first, rest, hfirst⟩ := List.exists_cons_of_ne_nil (List.ne_nil_of_mem hmem)
  obtain ⟨hin, htype⟩ :=
    List.mem_filter.mp (hfirst ▸ List.mem_cons_self : first ∈ z.recordsOf .ns)
  exact ⟨first, rest, hfirst, hin, of_decide_eq_true htype⟩

theorem newline_not_mem_primary (h : z.IsLineFree) {host : Text} (hhost : z.primary = .ok host) :
    '\n' ∉ host := by
  obtain ⟨r, rest, hr, hvalue⟩ := primary_eq_ok_iff.mp hhost
  have hmem : r ∈ z.recordsOf .ns := hr ▸ List.mem_cons_self
  exact Record.newline_not_mem_firstValue (h.records r (List.mem_filter.mp hmem).1) hvalue

/-- No line that a zone file without a serial is put together from has a line feed, and all but the
empty ones have a foreign character. -/
theorem lines_spec (h : z.IsLineFree) {host : Text} {groups : List (List Text)}
    (hhost : z.primary = .ok host) (hgroups : z.recordLines = .ok groups) {line : Text}
    (hline : line ∈ z.header host none ++ [[]] ++ groupLines groups) :
    '\n' ∉ line ∧ (line = [] ∨ ∃ c ∈ line, IsForeign c) := by
  have hfield {value comment : Text} (hvalue : '\n' ∉ value) (hcomment : '\n' ∉ comment)
      {c : Char} (hc : c ∈ comment) (hforeign : IsForeign c) :
      '\n' ∉ fieldLine value comment ∧
        (fieldLine value comment = [] ∨ ∃ c ∈ fieldLine value comment, IsForeign c) := by
    refine ⟨?_, .inr ⟨c, by simp [fieldLine, hc], hforeign⟩⟩
    simp [fieldLine, fieldIndent, Column.newline_not_mem_pad 3 hvalue, hcomment]
  rcases List.mem_append.mp hline with hline | hline
  · rcases List.mem_append.mp hline with hline | hline
    · simp only [header, Option.toList_none, List.map_nil, List.append_nil, List.cons_append,
        List.nil_append, List.mem_cons, List.not_mem_nil, or_false] at hline
      rcases hline with rfl | rfl | rfl | rfl | rfl | rfl
      · exact ⟨by simp [h.ttl], .inr ⟨'$', by simp, by decide⟩⟩
      · have hhost := newline_not_mem_primary h hhost
        have hmailbox := newline_not_mem_mailbox h.admin
        exact ⟨by simp [hhost, hmailbox], .inr ⟨'@', by simp, by decide⟩⟩
      · exact hfield h.refresh (by decide) (c := 'f') (by decide) (by decide)
      · exact hfield h.retry (by decide) (c := 't') (by decide) (by decide)
      · exact hfield h.expire (by decide) (c := 'x') (by decide) (by decide)
      · have hvalue : '\n' ∉ z.negativeTtl ++ " )".toList := by simp [h.negativeTtl]
        exact hfield hvalue (by decide) (c := 'N') (by decide) (by decide)
    · obtain rfl := List.mem_singleton.mp hline
      exact ⟨by simp, .inl rfl⟩
  · obtain ⟨group, hgroup, hline⟩ := List.mem_flatMap.mp hline
    rcases List.mem_append.mp hline with hline | hline
    · obtain ⟨r, hr, htype, hline⟩ := exists_record_of_mem hgroups hgroup hline
      exact ⟨Record.newline_not_mem_line (h.records r hr) htype hline,
        .inr (Record.exists_isForeign_line htype hline)⟩
    · obtain rfl := List.mem_singleton.mp hline
      exact ⟨by simp, .inl rfl⟩

theorem IsLineFree.opensOnLines (h : z.IsLineFree) : z.OpensOnLines where
  ttl := h.ttl
  admin := h.admin
  host _ hhost := newline_not_mem_primary h hhost

/-- A serial line of a zone file is the line that the file has for its serial. -/
theorem exists_toText_eq_of_hasLine (h : z.IsLineFree) {layout : Layout} {serial : Option Text}
    {text : Text} (hserial : ∀ s ∈ serial, '\n' ∉ s) (htext : z.render layout serial = .ok text)
    (hline : Serial.HasLine text) :
    ∃ s ∈ serial, ∃ l : Serial.Line, l.toText = fieldLine s "Serial".toList := by
  obtain ⟨host, groups, -, hhost, hgroups, rfl⟩ := render_eq_ok_iff.mp htext
  rw [← textOfLines_header] at hline
  obtain ⟨before, after, l, htext⟩ := hline
  have hlines : ∀ line ∈ z.header host serial ++ [[]] ++ groupLines groups,
      '\n' ∉ line ∧ ((∃ s ∈ serial, line = fieldLine s "Serial".toList) ∨
        line = [] ∨ ∃ c ∈ line, IsForeign c) := by
    intro line hline
    by_cases hs : ∃ s ∈ serial, line = fieldLine s "Serial".toList
    · obtain ⟨s, hmem, rfl⟩ := hs
      refine ⟨?_, .inl ⟨s, hmem, rfl⟩⟩
      simp [fieldLine, fieldIndent, Column.newline_not_mem_pad 3 (hserial s hmem)]
    · have hother : line ∈ z.header host none ++ [[]] ++ groupLines groups := by
        have hnot : ∀ s ∈ serial, ¬ fieldLine s "Serial".toList = line := fun s hmem heq =>
          hs ⟨s, hmem, heq.symm⟩
        simp only [header, List.mem_append, List.mem_map, Option.mem_toList] at hline ⊢
        rcases hline with ((((hline | ⟨s, hmem, heq⟩) | hline) | hline) | hline)
        · exact .inl (.inl (.inl (.inl hline)))
        · exact absurd heq (hnot s hmem)
        · exact .inl (.inl (.inr hline))
        · exact .inl (.inr hline)
        · exact .inr hline
      obtain ⟨hfree, hspec⟩ := lines_spec h hhost hgroups hother
      exact ⟨hfree, .inr hspec⟩
  have hne : l.toText ≠ [] := by simp [Serial.Line.toText]
  obtain ⟨blanks, hblanks, hmem⟩ :=
    mem_of_textOfLines_eq (fun line hline => (hlines line hline).1) l.newline_not_mem hne htext
  rcases (hlines _ hmem).2 with ⟨s, hs, heq⟩ | hnil | ⟨c, hc, hforeign⟩
  · -- The line of the serial ends in a character that is not blank, so it has lost nothing.
    refine ⟨s, hs, l, ?_⟩
    obtain rfl | ⟨blanks, c, rfl⟩ := List.eq_nil_or_concat blanks
    · simpa using heq
    · have hlast := congrArg List.getLast? heq
      have hc := hblanks c (by simp)
      simp only [fieldLine, List.concat_eq_append, ← List.append_assoc, List.getLast?_concat] at hlast
      simp at hlast
      rw [hlast] at hc
      exact absurd hc (by decide)
  · exact absurd (List.append_eq_nil_iff.mp hnil).1 hne
  · rcases List.mem_append.mp hc with hc | hc
    · exact absurd hforeign (l.not_isForeign hc)
    · simp [hblanks c hc, IsForeign] at hforeign

/-- A zone file without a serial has no serial line. -/
theorem cut?_render_none (h : z.IsLineFree) {layout : Layout} {body : Text}
    (hbody : z.render layout none = .ok body) : Serial.cut? body = none := by
  rw [Serial.cut?_eq_none_iff]
  intro hline
  obtain ⟨s, hs, -⟩ := exists_toText_eq_of_hasLine h (by simp) hbody hline
  cases hs

/-- A zone file is cut to the zone without a serial, if it is cut at all. -/
theorem cut?_render (h : z.IsLineFree) {layout : Layout} {serial body text : Text}
    (hserial : '\n' ∉ serial) (hbody : z.render layout none = .ok body)
    (htext : z.render layout (some serial) = .ok text) :
    Serial.cut? text = none ∨ ∃ mark, Serial.cut? text = some ⟨body, mark⟩ := by
  by_cases hline : Serial.HasLine text
  · have hfree : ∀ s ∈ some serial, '\n' ∉ s := by simpa using hserial
    obtain ⟨_, ⟨⟩, l, hl⟩ := exists_toText_eq_of_hasLine h hfree htext hline
    obtain ⟨text', htext', hcut⟩ := exists_render_cut_line hbody h.opensOnLines hl
    obtain rfl := Except.ok.inj (htext.symm.trans htext')
    exact .inr ⟨l.mark, hcut⟩
  · exact .inl (Serial.cut?_eq_none_iff.mpr hline)

theorem isLineFree_sample : (sample []).IsLineFree where
  admin := by decide
  ttl := by decide
  refresh := by decide
  retry := by decide
  expire := by decide
  negativeTtl := by decide
  records r hr := by
    obtain rfl := List.mem_singleton.mp hr
    exact ⟨by decide, nofun, nofun⟩

end Zone

end ZoneKeeper
