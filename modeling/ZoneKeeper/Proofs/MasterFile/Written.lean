import ZoneKeeper.Proofs.MasterFile.Line

/-!
# A zone file as a master file

The file of a zone whose fields are single tokens is a master file: its default time to live, its
start of authority, which is spread over one line per field, and its records with blank lines among
them. The start of authority is one row, since its lines end between parentheses.
-/

namespace ZoneKeeper

open Text MasterFile

namespace Zone

variable {z : Zone} {layout : Layout} {host text v comment t : Text} {serial : Option Text}
  {tokens : List Token}

/-! ## The start of authority -/

/-- The lines of the start of authority behind the serial. -/
def timingLines (z : Zone) : List Text :=
  [fieldLine z.refresh "Refresh".toList,
   fieldLine z.retry "Retry".toList, fieldLine z.expire "Expire".toList,
   fieldLine (z.negativeTtl ++ " )".toList) "Negative Cache TTL".toList]

/-- The fields of the start of authority behind its hosts. -/
def authorityFields (z : Zone) (serial : Option Text) : List Text :=
  serial.toList ++ [z.refresh, z.retry, z.expire, z.negativeTtl]

/-- The start of authority as a row gives it. -/
def authority (z : Zone) (host : Text) (serial : Option Text) : ResourceRecord where
  owner := ['@']
  ttl := none
  hasClass := true
  kind := .soa
  data := .word host :: .word (z.mailbox ++ ['.']) :: (z.authorityFields serial).map .word

/-- A field between parentheses takes a line. -/
theorem row_fieldLine (hv : IsOneWord v) (hcomment : '\n' ∉ comment) (h : Row 1 t tokens) :
    Row 1 (fieldLine v comment ++ '\n' :: t) (.word v :: tokens) := by
  have hblank : '\n' ∉ ' ' :: comment := by simp [hcomment]
  have hrow := (Row.token (.word hv) (endsWord_tabs (Column.tabs_pos v.length 3) _)
    ((Row.commentLine hblank h).tabs _)).tabs 7
  simpa [fieldLine, fieldIndent, Column.pad] using hrow

/-- The last field closes the parenthesis. -/
theorem row_lastLine (hv : IsOneWord v) (hcomment : '\n' ∉ comment) :
    Row 1 (fieldLine (v ++ " )".toList) comment ++ ['\n']) [.word v] := by
  have hblank : '\n' ∉ ' ' :: comment := by simp [hcomment]
  have hrow := (Row.token (.word hv) (endsWord_cons (by decide) _) (.blank (.inl rfl)
    (.closing ((Row.comment hblank).tabs (Column.tabs (v ++ " )".toList).length 3))))).tabs 7
  simpa [fieldLine, fieldIndent, Column.pad] using hrow

/-- A zone whose fields are tokens of its file: none of them runs into another. -/
structure IsTokenwise (z : Zone) : Prop where
  mailbox : IsOneWord (z.mailbox ++ ['.'])
  ttl : IsOneWord z.ttl
  refresh : IsOneWord z.refresh
  retry : IsOneWord z.retry
  expire : IsOneWord z.expire
  negativeTtl : IsOneWord z.negativeTtl
  records : ∀ r ∈ z.ordered, r.IsTokenwise

theorem IsTokenwise.row_timings (h : z.IsTokenwise) :
    Row 1 (unlines z.timingLines) ([z.refresh, z.retry, z.expire, z.negativeTtl].map .word) := by
  have hrow := row_fieldLine h.refresh (by decide : '\n' ∉ "Refresh".toList) <|
    row_fieldLine h.retry (by decide : '\n' ∉ "Retry".toList) <|
    row_fieldLine h.expire (by decide : '\n' ∉ "Expire".toList) <|
    row_lastLine h.negativeTtl (by decide : '\n' ∉ "Negative Cache TTL".toList)
  simpa [timingLines] using hrow

theorem IsTokenwise.row_fields (h : z.IsTokenwise) (hserial : ∀ s, serial = some s → IsOneWord s) :
    Row 1 (unlines (serial.toList.map (fieldLine · "Serial".toList) ++ z.timingLines))
      ((z.authorityFields serial).map .word) := by
  cases serial with
  | none => exact h.row_timings
  | some s =>
    have hrow := row_fieldLine (hserial s rfl) (by decide : '\n' ∉ "Serial".toList) h.row_timings
    simpa [authorityFields, unlines_append] using hrow

/-- The start of authority is one row. -/
theorem IsTokenwise.row_authority (h : z.IsTokenwise) (hhost : IsOneWord host)
    (hserial : ∀ s, serial = some s → IsOneWord s) :
    Row 0 (' ' :: ("IN SOA ".toList ++ host ++ ' ' :: z.mailbox ++ ". (".toList ++
      '\n' :: unlines (serial.toList.map (fieldLine · "Serial".toList) ++ z.timingLines)))
        (z.authority host serial).tokens := by
  have hmailbox := Row.token (.word h.mailbox) (endsWord_cons (by decide) _) <|
    .blank (.inl rfl) <| .opening <| .line <| h.row_fields hserial
  have hhosts := Row.token (.word hhost) (endsWord_cons (by decide) _) <|
    .blank (.inl rfl) hmailbox
  have hrow := Row.blank (.inl rfl) <|
    .token (.word (by decide : IsOneWord "IN".toList)) (endsWord_cons (by decide) _) <|
    .blank (.inl rfl) <|
    .token (.word (by decide : IsOneWord "SOA".toList)) (endsWord_cons (by decide) _) <|
    .blank (.inl rfl) hhosts
  simpa [authority, ResourceRecord.tokens, Kind.token] using hrow

/-! ## The file -/

/-- The nameserver of a start of authority is the first field of the first nameserver. -/
theorem IsTokenwise.isOneWord_primary (h : z.IsTokenwise) (hhost : z.primary = .ok host) :
    IsOneWord host := by
  obtain ⟨r, rest, hns, hvalue⟩ := primary_eq_ok_iff.mp hhost
  have hr : r ∈ z.recordsOf .ns := hns ▸ List.mem_cons_self
  obtain ⟨hmem, htype⟩ := List.mem_filter.mp hr
  have htype : r.type = .ns := of_decide_eq_true htype
  obtain ⟨tokens, hdata⟩ := (h.records r (mem_ordered_iff.mpr ⟨hmem, by rw [htype]; decide⟩)).data
  unfold Record.HasTokens at hdata
  unfold Record.firstValue at hvalue
  rw [htype] at hdata
  split at hvalue
  · next hnil =>
    rw [hnil] at hdata
    exact hdata.elim
  · next hvalues =>
    cases hvalue
    rw [hvalues] at hdata
    exact hdata.2

theorem exists_recordLines (h : ∀ r ∈ z.ordered, r.IsTokenwise) :
    ∃ groups, z.recordLines = .ok groups := by
  refine exists_recordLines_of_forall fun r hr => ?_
  obtain ⟨tokens, htokens⟩ := (h r hr).data
  obtain ⟨data, hdata, -⟩ := htokens.exists_data
  exact ⟨_, map_eq_ok_iff.mpr ⟨data, hdata, rfl⟩⟩

/-- The file of a zone is its default time to live, its start of authority and, behind a blank line,
the lines of its records with blank lines among them. -/
theorem exists_lines_of_render (hvisible : ∀ r ∈ z.ordered, r.EndsVisibly)
    (hrender : z.render layout serial = .ok text) :
    ∃ host lines, z.primary = .ok host ∧
      List.Forall₂ (fun r line => Record.line r = .ok line) z.ordered (lines.filter (· ≠ [])) ∧
        text = "$TTL ".toList ++ z.ttl ++ '\n' ::
          ("@ IN SOA ".toList ++ host ++ ' ' :: z.mailbox ++ ". (".toList ++
            '\n' :: (unlines (serial.toList.map (fieldLine · "Serial".toList) ++ z.timingLines) ++
              unlines ([] :: lines))) := by
  obtain ⟨host, groups, -, hhost, hgroups, rfl⟩ := render_eq_ok_iff.mp hrender
  obtain ⟨r, rest, hns, -⟩ := primary_eq_ok_iff.mp hhost
  have hr : r ∈ z.recordsOf .ns := hns ▸ List.mem_cons_self
  obtain ⟨hmem, htype⟩ := List.mem_filter.mp hr
  obtain ⟨lines, hlines, htext⟩ :=
    textOfLines_remainder hvisible ⟨r, hmem, of_decide_eq_true htype⟩ hgroups
  refine ⟨host, lines, hhost, ?_, ?_⟩
  · have hfilter : lines.filter (· ≠ []) = groups.flatten := by
      rw [← filter_groupLines hgroups, hlines, List.filter_append]
      simp
    rw [hfilter]
    exact forall₂_line_ordered hgroups
  · have hnone : groupLines [] = [] := rfl
    rw [htext]
    simp [opening, remainder, timingLines, hnone, unlines_append]

/-- The file of a zone whose fields are tokens is the master file of its start of authority and its
records. -/
theorem IsTokenwise.exists_file (h : z.IsTokenwise) (hserial : ∀ s, serial = some s → IsOneWord s)
    (hrender : z.render layout serial = .ok text) :
    ∃ host, z.primary = .ok host ∧ ∀ entries, List.Forall₂ Record.Gives z.ordered entries →
      File z.ttl (z.authority host serial :: entries) text := by
  obtain ⟨host, lines, hhost, hlines, rfl⟩ :=
    exists_lines_of_render (fun r hr => (h.records r hr).endsVisibly) hrender
  refine ⟨host, hhost, fun entries hentries => ?_⟩
  have hrecords : Rows (unlines ([] :: lines)) entries :=
    .blank (Record.rows_unlines hlines h.records hentries)
  have hproper : (z.authority host serial).IsProper :=
    ⟨(by decide : IsOneWord ['@']), nofun, List.cons_ne_nil _ _⟩
  have hrows := Rows.entry hproper (endsWord_cons (by decide) _)
    (h.row_authority (h.isOneWord_primary hhost) hserial) hrecords
  have hfile := File.intro (endsWord_cons (by decide) _) (.blank (.inl rfl) (row_word h.ttl)) hrows
  simpa [authority] using hfile

end Zone

end ZoneKeeper
