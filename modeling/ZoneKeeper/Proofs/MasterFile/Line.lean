import ZoneKeeper.Proofs.MasterFile.Literal
import ZoneKeeper.Proofs.Zone.Published

/-!
# The line of a record as a row

A record whose fields are single tokens is written on its line as the row of a record: its owner,
its time to live where it has one, its type and its data, apart from each other by blanks and
tabs.
-/

namespace ZoneKeeper

open Text MasterFile

/-- The kind that a record is published as. -/
def RecordType.kind : RecordType → Kind
  | .ns => .ns
  | .a => .a
  | .cname => .cname
  | .mx => .mx
  | _ => .txt

theorem RecordType.token_kind : ∀ type ∈ published, type.kind.token = type.renderedToken := by
  decide

namespace Record

/-- Whether the data fields of a record are written as these tokens: every field is one word, and a
text is a row of tokens, so that no field runs into another or into the next line. -/
def HasTokens (r : Record) (tokens : List Token) : Prop :=
  match r.type, r.values with
  | .mx, [preference, host] =>
    tokens = [.word preference, .word host] ∧ IsOneWord preference ∧ IsOneWord host
  | .ns, value :: _ | .a, value :: _ | .cname, value :: _ =>
    tokens = [.word value] ∧ IsOneWord value
  | .spf, text :: _ | .txt, text :: _ => tokens ≠ [] ∧ Row 0 (text ++ ['\n']) tokens
  | _, _ => False

/-- A record whose fields do not run into each other on its line: the owner is one word, the time to
live, if there is one, is a word of its shape, and the data fields are tokens that do not end in
blanks. -/
structure IsTokenwise (r : Record) : Prop where
  owner : IsOneWord r.ownerLabel
  ttl : ∀ ttl, r.ttl = some ttl → IsTtlShaped ttl
  data : ∃ tokens, r.HasTokens tokens
  visible : ∀ value ∈ r.values, value.EndsVisibly

/-- The record as a row gives it, with these tokens as data. -/
def entry (r : Record) (tokens : List Token) : ResourceRecord where
  owner := r.ownerLabel
  ttl := r.ttl
  hasClass := false
  kind := r.type.kind
  data := tokens

/-- Whether a row of a file gives this record. -/
def Gives (r : Record) (e : ResourceRecord) : Prop :=
  ∃ tokens, r.HasTokens tokens ∧ e = r.entry tokens

variable {r : Record} {data : Text} {tokens : List Token} {e : ResourceRecord}

/-- What stands behind the owner of a record on its line. -/
def behindOwner (r : Record) (data : Text) : Text :=
  List.replicate (Column.tabs r.ownerLabel.length 5) '\t' ++
    (Column.pad (r.ttl.getD []) 2 ++ (r.type.renderedToken ++ data))

theorem line_eq (hdata : r.data = .ok data) :
    r.line = .ok (r.ownerLabel ++ r.behindOwner data) := by
  rw [line, hdata]
  simp [Except.map, behindOwner, Column.pad]

/-! ## Data -/

theorem HasTokens.type_mem (h : r.HasTokens tokens) : r.type ∈ RecordType.published := by
  obtain ⟨type, values, owner, ttl⟩ := r
  cases type with
  | other token => simp [HasTokens] at h
  | _ => simp [RecordType.published]

theorem HasTokens.ne_nil (h : r.HasTokens tokens) : tokens ≠ [] := by
  unfold HasTokens at h
  split at h
  · exact h.1 ▸ List.cons_ne_nil _ _
  · exact h.1 ▸ List.cons_ne_nil _ _
  · exact h.1 ▸ List.cons_ne_nil _ _
  · exact h.1 ▸ List.cons_ne_nil _ _
  · exact h.1
  · exact h.1
  · exact h.elim

/-- The data of a record are written on the rest of its line as their tokens. -/
theorem HasTokens.exists_data (h : r.HasTokens tokens) :
    ∃ data, r.data = .ok data ∧ EndsWord (data ++ ['\n']) ∧ Row 0 (data ++ ['\n']) tokens := by
  obtain ⟨type, values, owner, ttl⟩ := r
  -- All data begin with tabs, but those of a mail exchange with a blank.
  have htabs {text : Text} {tokens : List Token} (n : Nat) (h : Row 0 (text ++ ['\n']) tokens) :
      EndsWord (List.replicate (n + 1) '\t' ++ text ++ ['\n']) ∧
        Row 0 (List.replicate (n + 1) '\t' ++ text ++ ['\n']) tokens := by
    rw [List.append_assoc]
    exact ⟨endsWord_tabs (Nat.succ_pos n) _, h.tabs (n + 1)⟩
  unfold HasTokens at h
  simp only at h
  split at h
  · next preference host =>
    obtain ⟨rfl, hpreference, hhost⟩ := h
    refine ⟨_, rfl, endsWord_cons (by decide) _, ?_⟩
    have hrow := Row.blank (.inl rfl) <| .token (.word hpreference)
      (endsWord_tabs (Nat.succ_pos 1) _) ((row_word hhost).tabs 2)
    simpa using hrow
  · obtain ⟨rfl, hvalue⟩ := h
    exact ⟨_, rfl, htabs 2 (row_word hvalue)⟩
  · obtain ⟨rfl, hvalue⟩ := h
    exact ⟨_, rfl, htabs 2 (row_word hvalue)⟩
  · obtain ⟨rfl, hvalue⟩ := h
    exact ⟨_, rfl, htabs 1 (row_word hvalue)⟩
  · exact ⟨_, rfl, htabs 2 h.2⟩
  · exact ⟨_, rfl, htabs 2 h.2⟩
  · exact h.elim

/-! ## The row of a record -/

theorem isOneWord_renderedToken : ∀ type ∈ RecordType.published, IsOneWord type.renderedToken := by
  decide

theorem IsTokenwise.endsVisibly (h : r.IsTokenwise) : r.EndsVisibly :=
  endsVisibly_of_values h.visible

theorem exists_entries {rs : List Record} (hrs : ∀ r ∈ rs, r.IsTokenwise) :
    ∃ entries, List.Forall₂ Gives rs entries := by
  induction rs with
  | nil => exact ⟨[], .nil⟩
  | cons r rs ih =>
    obtain ⟨hr, hrs⟩ := List.forall_mem_cons.mp hrs
    obtain ⟨entries, hentries⟩ := ih hrs
    obtain ⟨tokens, htokens⟩ := hr.data
    exact ⟨_, .cons ⟨tokens, htokens, rfl⟩ hentries⟩

theorem IsTokenwise.isProper (h : r.IsTokenwise) (htokens : r.HasTokens tokens) :
    (r.entry tokens).IsProper where
  owner := h.owner
  ttl := h.ttl
  data := htokens.ne_nil

/-- Behind the owner comes the time to live, if there is one, then the type, and then the data. -/
theorem IsTokenwise.row (h : r.IsTokenwise) (htokens : r.HasTokens tokens)
    (hends : EndsWord (data ++ ['\n'])) (hdata : Row 0 (data ++ ['\n']) tokens) :
    EndsWord (r.behindOwner data ++ ['\n']) ∧
      Row 0 (r.behindOwner data ++ ['\n']) (r.entry tokens).tokens := by
  have htype : Row 0 (r.type.renderedToken ++ (data ++ ['\n']))
      (.word r.type.kind.token :: tokens) := by
    rw [RecordType.token_kind _ htokens.type_mem]
    exact .token (.word (isOneWord_renderedToken _ htokens.type_mem)) hends hdata
  rw [behindOwner, ResourceRecord.tokens]
  simp only [List.append_assoc]
  refine ⟨endsWord_tabs (Column.tabs_pos _ _) _, ?_⟩
  cases httl : r.ttl with
  | none =>
    have hrow := (htype.tabs (Column.tabs 0 2)).tabs (Column.tabs r.ownerLabel.length 5)
    simpa [entry, httl, Column.pad] using hrow
  | some ttl =>
    have hrow := (Row.token (.word (h.ttl ttl httl).isOneWord)
      (endsWord_tabs (Column.tabs_pos ttl.length 2) _) (htype.tabs _)).tabs
        (Column.tabs r.ownerLabel.length 5)
    simpa [entry, httl, Column.pad] using hrow

/-- The lines of records, with blank lines among them, are their rows. -/
theorem rows_unlines {ls : List Text} {rs : List Record} {entries : List ResourceRecord}
    (hlines : List.Forall₂ (fun r line => Record.line r = .ok line) rs (ls.filter (· ≠ [])))
    (hrs : ∀ r ∈ rs, r.IsTokenwise) (hentries : List.Forall₂ Gives rs entries) :
    Rows (Zone.unlines ls) entries := by
  induction ls generalizing rs entries with
  | nil =>
    obtain rfl := List.forall₂_nil_right_iff.mp hlines
    cases hentries
    exact .nil
  | cons l ls ih =>
    rw [Zone.unlines_cons]
    by_cases hl : l = []
    · subst hl
      exact .blank (ih (by simpa using hlines) hrs hentries)
    · rw [List.filter_cons_of_pos (by simpa using hl)] at hlines
      cases hlines with
      | @cons r _ rs _ hline hrest =>
        cases hentries with
        | cons he hentries =>
          obtain ⟨tokens, htokens, rfl⟩ := he
          have hr := hrs r List.mem_cons_self
          obtain ⟨data, hdata, hends, hrow⟩ := htokens.exists_data
          obtain rfl := Except.ok.inj ((line_eq hdata).symm.trans hline)
          obtain ⟨hends, hrow⟩ := hr.row htokens hends hrow
          have hrows := Rows.entry (hr.isProper htokens) hends hrow
            (ih hrest (fun r hr => hrs r (List.mem_cons_of_mem _ hr)) hentries)
          simpa [entry] using hrows

end Record

end ZoneKeeper
