import ZoneKeeper.Proofs.Declaration.Call
import ZoneKeeper.Proofs.MasterFile.Data
import ZoneKeeper.Proofs.Zone.Render

/-!
# Text records

A text record is published as its value between two quotes. Nothing in the value is escaped for
that, so how a master file reads it depends on the value: as one string only if the value is escaped
already, and as the value itself only if there is nothing to escape.
-/

namespace ZoneKeeper

open Text

/-! ## Texts between quotes -/

namespace MasterFile

/-- Whether what stands on a line is read as one quoted string, behind which the line ends. -/
def HoldsString (data t : Text) : Prop :=
  ∀ rest, Cursor.next ⟨data ++ '\n' :: rest, 0⟩ = .ok (.quoted t, ⟨'\n' :: rest, 0⟩)

variable {blanks : Text}

/-- A text between quotes is read as one string exactly if it is escaped as strings are. -/
theorem holdsString_quote_iff (hblanks : ∀ c ∈ blanks, isSeparator 0 c = true) (value t : Text) :
    HoldsString (blanks ++ Declaration.quote value) t ↔ t = value ∧ IsEscaped value := by
  have hdata (rest : Text) : blanks ++ Declaration.quote value ++ '\n' :: rest =
      blanks ++ '"' :: (value ++ '"' :: '\n' :: rest) := by
    simp [Declaration.quote]
  simp only [HoldsString, hdata, next_quote_eq_ok_iff hblanks, scanQuoted_eq_ok_iff]
  constructor
  · intro h
    obtain ⟨hvalue, ht⟩ := h []
    obtain rfl := List.append_cancel_right hvalue
    exact ⟨rfl, ht⟩
  · rintro ⟨rfl, h⟩ rest
    exact ⟨rfl, h⟩

/-- A text between quotes is read as itself exactly if there is nothing in it to escape. -/
theorem holdsString_plain_iff (hblanks : ∀ c ∈ blanks, isSeparator 0 c = true) (value : Text) :
    (∃ t u, HoldsString (blanks ++ Declaration.quote value) t ∧ unescape t = .ok u ∧
      u.map (·.1) = value) ↔ IsPlainString value := by
  simp only [holdsString_quote_iff hblanks]
  constructor
  · rintro ⟨_, u, ⟨rfl, h⟩, hu, heq⟩
    exact h.isPlainString (h.not_mem_escape hu heq)
  · intro h
    refine ⟨value, _, ⟨rfl, h.isEscaped⟩, unescape_eq h.2.1, ?_⟩
    rw [List.map_map]
    exact List.map_id value

end MasterFile

namespace Declaration

open MasterFile

/-! ## Records of texts -/

variable {a : Attributes} {domain : Text} {r : Record}

/-- A text record has its value in quotes as its only data field. -/
theorem readRecord_text (htype : a.get? "TYPE".toList = some (.text "TXT".toList))
    (hr : readRecord a domain = .ok r) :
    ∃ value, a.get? "VALUE".toList = some (.text value) ∧ r.type = .txt ∧
      r.values = [quote (trim value)] := by
  simp only [readRecord, bind_eq_ok_iff] at hr
  obtain ⟨type, hread, value, hvalue, _, -, _, -, _, -, values, hvalues, hr⟩ := hr
  rw [readType, htype] at hread
  obtain rfl : RecordType.txt = type := Except.ok.inj hread
  obtain rfl : [quote value] = values := Except.ok.inj hvalues
  obtain rfl := Except.ok.inj hr
  rw [readValue] at hvalue
  split at hvalue
  · next t ht =>
    obtain rfl := Except.ok.inj hvalue
    exact ⟨t, ht, rfl, rfl⟩
  · cases hvalue

namespace Builder

/-- What is published of a text record that a builder takes: its value, blanks around it left out,
between two quotes at the end of its line. This is read as one string exactly if every quote and
every line feed in the value is escaped and no backslash is left over at its end, and it is read as
the value exactly if the value has no quote, no backslash and no line feed. -/
theorem text_published {b b' : Builder} {line : Option Nat}
    (htype : a.get? "TYPE".toList = some (.text "TXT".toList))
    (h : b.start recordTag a line = .ok b') :
    ∃ domain r value data, b.openDomain = some domain ∧
      b' = ⟨addRecords b.zones domain [r], some domain⟩ ∧
      a.get? "VALUE".toList = some (.text value) ∧ r.type = .txt ∧
      r.line = .ok (Column.pad r.ownerLabel 5 ++ Column.pad (r.ttl.getD []) 2 ++ "TXT".toList ++
        data) ∧
      r.data = .ok data ∧ data = "\t\t\t".toList ++ quote (trim value) ∧
      (∀ t, HoldsString data t ↔ t = trim value ∧ IsEscaped (trim value)) ∧
      ((∃ t u, HoldsString data t ∧ unescape t = .ok u ∧ u.map (·.1) = trim value) ↔
        IsPlainString (trim value)) := by
  cases started_of_start h with
  | opened htag => exact absurd htag (by decide)
  | passed _ hrecord => exact absurd rfl hrecord
  | @recorded domain r _ hopen hr =>
    obtain ⟨value, hvalue, htxt, hvalues⟩ := readRecord_text htype hr
    obtain ⟨type, values, owner, ttl⟩ := r
    obtain rfl : type = .txt := htxt
    obtain rfl : values = [quote (trim value)] := hvalues
    have hblanks : ∀ c ∈ "\t\t\t".toList, isSeparator 0 c = true := by decide
    exact ⟨domain, _, value, _, hopen, rfl, hvalue, rfl, rfl, rfl, rfl,
      holdsString_quote_iff hblanks _, holdsString_plain_iff hblanks _⟩

/-- A builder whose only domain is open. -/
def sample : Builder := ⟨[("e".toList, Zone.sample [])], some "e".toList⟩

/-- The attributes of a text record. -/
def sampleText (value : String) : Attributes :=
  .ofTexts [("TYPE".toList, "TXT".toList), ("VALUE".toList, value.toList)]

/-- A text record with a data field. -/
def sampleRecord (field : String) : Record := ⟨.txt, [field.toList], none, none⟩

/-- The builder with that record too. -/
def sampleWith (field : String) : Builder :=
  ⟨addRecords sample.zones "e".toList [sampleRecord field], some "e".toList⟩

/-- A text without quotes, backslashes and line feeds is published as it is. -/
theorem text_published_sample :
    ∃ r data, sample.start recordTag (sampleText " v=DKIM1; k=rsa ") (some 1) =
        .ok ⟨addRecords sample.zones "e".toList [r], some "e".toList⟩ ∧
      r.data = .ok data ∧ HoldsString data "v=DKIM1; k=rsa".toList := by
  have hstart : sample.start recordTag (sampleText " v=DKIM1; k=rsa ") (some 1) =
      .ok (sampleWith "\"v=DKIM1; k=rsa\"") := by decide
  obtain ⟨domain, r, value, data, hopen, hb', hvalue, -, -, hdata, -, hread, -⟩ :=
    text_published (by decide) hstart
  obtain rfl : "e".toList = domain := Option.some.inj hopen
  have hget : (sampleText " v=DKIM1; k=rsa ").get? "VALUE".toList =
      some (.text " v=DKIM1; k=rsa ".toList) := by decide
  obtain rfl := Value.text.inj (Option.some.inj (hget.symm.trans hvalue))
  exact ⟨r, data, hb' ▸ hstart, hdata, (hread _).mpr (by decide)⟩

/-- A quote ends the string too early, and a backslash is not read as a backslash. -/
theorem text_altered :
    (sample.start recordTag (sampleText "5\" disk") none = .ok (sampleWith "\"5\" disk\"") ∧
      (sampleRecord "\"5\" disk\"").data = .ok "\t\t\t\"5\" disk\"".toList ∧
      ¬ ∃ t, HoldsString "\t\t\t\"5\" disk\"".toList t) ∧
    sample.start recordTag (sampleText "C:\\temp") none = .ok (sampleWith "\"C:\\temp\"") ∧
      (sampleRecord "\"C:\\temp\"").data = .ok "\t\t\t\"C:\\temp\"".toList ∧
      ∀ t u, HoldsString "\t\t\t\"C:\\temp\"".toList t → unescape t = .ok u →
        u.map (·.1) = "C:temp".toList := by
  have hblanks : ∀ c ∈ "\t\t\t".toList, isSeparator 0 c = true := by decide
  refine ⟨⟨by decide, rfl, ?_⟩, by decide, rfl, fun t u ht hu => ?_⟩
  · rintro ⟨t, ht⟩
    have hread := (holdsString_quote_iff hblanks "5\" disk".toList t).mp ht
    exact absurd hread.2 (by decide)
  · obtain ⟨rfl, -⟩ := (holdsString_quote_iff hblanks "C:\\temp".toList t).mp ht
    have hundone : unescape "C:\\temp".toList =
        .ok ("C:temp".toList.map fun c => (c, 1)) := by decide +kernel
    obtain rfl := Except.ok.inj (hundone.symm.trans hu)
    rfl

end Builder

end Declaration

end ZoneKeeper
