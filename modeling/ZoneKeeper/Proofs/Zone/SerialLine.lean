import Mathlib.Tactic.Set
import ZoneKeeper.Proofs.Serial.Line
import ZoneKeeper.Proofs.Serial.Order
import ZoneKeeper.Proofs.Zone.Render

/-!
# The serial line of a zone file

Rendering a zone with a serial and cutting the serial line out again gives the zone rendered without
one. The cut takes the first serial line of the text, and the line of the header is the first: what
comes before it is two lines, the first with no line feed before it, the second not indented.
-/

namespace ZoneKeeper

open Text

namespace Serial

/-- The serial line of a zone file with a serial of ten digits. -/
def Line.ofSerial (serial : Text) (hlen : serial.length = 10)
    (hdigits : ∀ c ∈ serial, isDigit c = true) : Line where
  indent := 7
  stamp := serial.take 8
  version := serial.drop 8
  gap := 1
  indent_pos := by decide
  length_stamp := by rw [List.length_take, hlen]; rfl
  length_version := by rw [List.length_drop, hlen]
  digits := by rwa [List.take_append_drop]
  gap_pos := by decide

/-- The line that a zone file has for its serial is a serial line. -/
theorem Line.toText_ofSerial {serial : Text} (hlen : serial.length = 10)
    (hdigits : ∀ c ∈ serial, isDigit c = true) :
    (Line.ofSerial serial hlen hdigits).toText = Zone.fieldLine serial "Serial".toList := by
  have htabs : Column.tabs serial.length 3 = 1 := by rw [hlen]; rfl
  simp only [Line.toText, Line.ofSerial, Zone.fieldLine, Zone.fieldIndent, Column.pad, htabs,
    List.append_assoc]
  rw [← List.append_assoc (serial.take 8), List.take_append_drop]
  rfl

/-- Text before the first line feed has no part in where the cut is. -/
theorem cut?_append_eq_none_iff {s t : Text} (h : '\n' ∉ s) :
    cut? (s ++ t) = none ↔ cut? t = none := by
  induction s with
  | nil => rfl
  | cons c s ih =>
    rw [List.mem_cons, not_or] at h
    rw [List.cons_append, cut?_cons_eq_none_iff, ih h.2]
    exact ⟨fun hs => hs.2, fun ht => ⟨fun hc => absurd hc.symm h.1, ht⟩⟩

end Serial

namespace Zone

/-- No field of the start of authority that comes before the serial has a line feed. -/
structure OpensOnLines (z : Zone) : Prop where
  ttl : '\n' ∉ z.ttl
  admin : '\n' ∉ z.admin
  host : ∀ host, z.primary = .ok host → '\n' ∉ host

theorem newline_not_mem_mailbox {z : Zone} (h : '\n' ∉ z.admin) : '\n' ∉ z.mailbox := by
  intro hc
  obtain ⟨c, hmem, hc⟩ := List.mem_map.mp hc
  split at hc
  · cases hc
  · subst hc
    exact h hmem

/-- What comes before the serial holds no serial line. -/
theorem cut?_opening {z : Zone} (h : z.OpensOnLines) {host : Text} (hhost : z.primary = .ok host) :
    Serial.cut? (unlines (z.opening host)) = none := by
  have hfirst : '\n' ∉ "$TTL ".toList ++ z.ttl := by simp [h.ttl]
  have hsecond : '\n' ∉ "@ IN SOA ".toList ++ host ++ ' ' :: z.mailbox ++ ". (".toList := by
    simp [h.host host hhost, newline_not_mem_mailbox h.admin]
  rw [opening, unlines_cons, Serial.cut?_append_eq_none_iff hfirst, Serial.cut?_cons_eq_none_iff]
  refine ⟨fun _ => rfl, ?_⟩
  rw [unlines_cons, Serial.cut?_append_eq_none_iff hsecond]
  rfl

/-- A zone that renders without a serial renders with one, and if the line for the serial is a serial
line, then cutting it out of the one text gives the other. -/
theorem exists_render_cut_line {layout : Layout} {z : Zone} {body serial : Text}
    (hbody : z.render layout none = .ok body) (hopen : z.OpensOnLines) {l : Serial.Line}
    (hl : l.toText = fieldLine serial "Serial".toList) :
    ∃ text, z.render layout (some serial) = .ok text ∧
      Serial.cut? text = some ⟨body, l.mark⟩ := by
  obtain ⟨host, groups, hlayout, hhost, hgroups, rfl⟩ := render_eq_ok_iff.mp hbody
  refine ⟨_, render_eq_ok_iff.mpr ⟨host, groups, hlayout, hhost, hgroups, rfl⟩, ?_⟩
  set before := "$TTL ".toList ++ z.ttl ++ '\n' ::
    ("@ IN SOA ".toList ++ host ++ ' ' :: z.mailbox ++ ". (".toList) with hbefore
  have hopening : unlines (z.opening host) = before ++ ['\n'] := by simp [opening, hbefore]
  have hnone : Serial.cut? (before ++ ['\n']) = none := hopening ▸ cut?_opening hopen hhost
  have hcut := Serial.cut?_line hnone l (textOfLines (z.remainder groups))
  rw [hl] at hcut
  simpa [hopening] using hcut

/-- A zone that renders without a serial renders with one, and cutting the serial line out of the
one text gives the other. -/
theorem exists_render_cut {layout : Layout} {z : Zone} {body serial : Text}
    (hbody : z.render layout none = .ok body) (hopen : z.OpensOnLines)
    (hlen : serial.length = 10) (hdigits : ∀ c ∈ serial, isDigit c = true) :
    ∃ text, z.render layout (some serial) = .ok text ∧
      Serial.cut? text = some ⟨body, (Serial.Line.ofSerial serial hlen hdigits).mark⟩ :=
  exists_render_cut_line hbody hopen (Serial.Line.toText_ofSerial hlen hdigits)

/-- Cutting a zone file with the serial of a day and a version gives day and version back. -/
theorem cut?_render_version {layout : Layout} {z : Zone} {body text : Text} {day : Day}
    {version : Nat} (hday : day.IsDate) (hversion : version < 100) (hopen : z.OpensOnLines)
    (hbody : z.render layout none = .ok body)
    (htext : z.render layout (some (day.stamp ++ twoDigits version)) = .ok text) :
    Serial.cut? text = some ⟨body, ⟨day.stamp, version⟩⟩ := by
  obtain ⟨hlen, hdigits, -⟩ := Serial.serial_spec hday hversion
  obtain ⟨text', htext', hcut⟩ := exists_render_cut hbody hopen hlen fun c hc =>
    isDigit_of_isAsciiDigit (hdigits c hc)
  obtain rfl := Except.ok.inj (htext.symm.trans htext')
  have hstamp := (Day.stamp_spec hday).1
  simpa [Serial.Line.mark, Serial.Line.ofSerial, List.take_left' hstamp, List.drop_left' hstamp,
    (twoDigits_spec hversion).2.2] using hcut

/-- Cutting undoes the serial: a zone file with a serial of ten ASCII digits is the file without it
once its serial line is cut out, and the cut gives the serial back, eight digits as they are written
and two by what they are worth. -/
theorem cut_render {layout : Layout} {z : Zone} {body serial : Text}
    (hbody : z.render layout none = .ok body) (hopen : z.OpensOnLines)
    (hlen : serial.length = 10) (hdigits : ∀ c ∈ serial, isAsciiDigit c = true) :
    ∃ text version, z.render layout (some serial) = .ok text ∧
      numeral? (serial.drop 8) = some version ∧
      Serial.cut? text = some ⟨body, ⟨serial.take 8, version⟩⟩ := by
  have hdigits' : ∀ c ∈ serial, isDigit c = true := fun c hc =>
    isDigit_of_isAsciiDigit (hdigits c hc)
  obtain ⟨text, htext, hcut⟩ := exists_render_cut hbody hopen hlen hdigits'
  obtain ⟨version, hversion, -⟩ :=
    exists_numeral? fun c hc => hdigits' c (List.mem_of_mem_drop hc)
  refine ⟨text, version, htext, hversion, ?_⟩
  simpa [Serial.Line.mark, Serial.Line.ofSerial, hversion] using hcut

theorem opensOnLines_sample (records : List Record) : (sample records).OpensOnLines := by
  refine ⟨by simp [sample], by simp [sample], fun host hhost => ?_⟩
  obtain rfl : "n".toList = host := Except.ok.inj hhost
  decide

/-- The first of two serial lines is cut, although the second stands in a record that ends in
blanks. -/
theorem cut_render_sample :
    ∃ text version,
      (sample [⟨.txt, ["\n\t2026010199\t; Serial\n ".toList], none, none⟩]).render .standard
        (some "2026101907".toList) = .ok text ∧
      numeral? ("2026101907".toList.drop 8) = some version ∧
      Serial.cut? text = some ⟨unlines (["$TTL 1d", "@ IN SOA n h.e. (",
          "\t\t\t\t\t\t\t3h\t\t\t; Refresh", "\t\t\t\t\t\t\t1h\t\t\t; Retry",
          "\t\t\t\t\t\t\t1w\t\t\t; Expire", "\t\t\t\t\t\t\t1h )\t\t; Negative Cache TTL", "",
          "@\t\t\t\t\t\t\tNS\t\t\tn", "", "@\t\t\t\t\t\t\tTXT\t\t\t",
          "\t2026010199\t; Serial"].map String.toList),
        ⟨"2026101907".toList.take 8, version⟩⟩ :=
  cut_render (by decide +kernel) (opensOnLines_sample _) (by decide)
    (List.all_eq_true.mp (by decide))

end Zone

end ZoneKeeper
