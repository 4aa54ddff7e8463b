import ZoneKeeper.Proofs.Text.Trim
import ZoneKeeper.Zone.Render

/-!
# The parts of a rendered zone

A zone file is an opening, the serial line if there is one, and a remainder. Trimming the end of the
whole reaches only into the remainder, so the serial changes nothing before or after its own line.
-/

namespace ZoneKeeper

open Text

namespace Zone

/-! ## Lines under one another -/

/-- Lines under one another, each ended by a line feed. -/
def unlines (lines : List Text) : Text := lines.flatMap (· ++ ['\n'])

@[simp] theorem unlines_nil : unlines [] = [] := rfl

@[simp] theorem unlines_cons (l : Text) (ls : List Text) :
    unlines (l :: ls) = l ++ '\n' :: unlines ls := by
  simp [unlines]

theorem unlines_append (ls ms : List Text) : unlines (ls ++ ms) = unlines ls ++ unlines ms :=
  List.flatMap_append

theorem textOfLines_append (ls : List Text) {ms : List Text}
    (h : ∃ l ∈ ms, ∃ c ∈ l, isBlank c = false) :
    textOfLines (ls ++ ms) = unlines ls ++ textOfLines ms := by
  obtain ⟨l, hl, c, hc, hblank⟩ := h
  have hkeep : ∃ c ∈ unlines ms, isBlank c = false :=
    ⟨c, List.mem_flatMap.mpr ⟨l, hl, List.mem_append_left _ hc⟩, hblank⟩
  show trimRight (unlines (ls ++ ms)) ++ ['\n'] = unlines ls ++ (trimRight (unlines ms) ++ ['\n'])
  rw [unlines_append, trimRight_append _ hkeep, List.append_assoc]

/-! ## The parts of a zone file -/

/-- What comes before the serial: the default time to live and the names of the start of
authority. -/
def opening (z : Zone) (host : Text) : List Text :=
  ["$TTL ".toList ++ z.ttl,
   "@ IN SOA ".toList ++ host ++ ' ' :: z.mailbox ++ ". (".toList]

/-- What comes after the serial: the times of the start of authority, a blank line and the
groups. -/
def remainder (z : Zone) (groups : List (List Text)) : List Text :=
  [fieldLine z.refresh "Refresh".toList,
   fieldLine z.retry "Retry".toList,
   fieldLine z.expire "Expire".toList,
   fieldLine (z.negativeTtl ++ " )".toList) "Negative Cache TTL".toList, []] ++ groupLines groups

/-- The lines of all records, type by type. -/
def recordLines (z : Zone) : Except RenderFault (List (List Text)) :=
  z.groups.mapM fun group => group.mapM Record.line

theorem render_standard (z : Zone) (serial : Option Text) :
    z.render .standard serial = z.primary >>= fun host => z.recordLines >>= fun groups =>
      .ok (textOfLines (z.header host serial ++ [[]] ++ groupLines groups)) := rfl

theorem render_missing (z : Zone) (folder : Text) (serial : Option Text) :
    z.render (.missing folder) serial = z.primary >>= fun _ =>
      .error (.noLayout (notFound folder)) := rfl

/-- The text of a zone file in its parts; only the serial line between them depends on the
serial. -/
theorem textOfLines_header (z : Zone) (host : Text) (serial : Option Text)
    (groups : List (List Text)) :
    textOfLines (z.header host serial ++ [[]] ++ groupLines groups) =
      unlines (z.opening host) ++ (unlines (serial.toList.map (fieldLine · "Serial".toList)) ++
        textOfLines (z.remainder groups)) := by
  have hlines : z.header host serial ++ [[]] ++ groupLines groups =
      (z.opening host ++ serial.toList.map (fieldLine · "Serial".toList)) ++
        z.remainder groups := by
    simp [header, opening, remainder]
  have hword : ∃ l ∈ z.remainder groups, ∃ c ∈ l, isBlank c = false := by
    refine ⟨fieldLine z.refresh "Refresh".toList, by simp [remainder], 'R', ?_, by decide⟩
    simp [fieldLine]
  rw [hlines, textOfLines_append _ hword, unlines_append, List.append_assoc]

/-- When and to what a zone renders. -/
theorem render_eq_ok_iff {layout : Layout} {z : Zone} {serial : Option Text} {text : Text} :
    z.render layout serial = .ok text ↔
      ∃ host groups, layout = .standard ∧ z.primary = .ok host ∧ z.recordLines = .ok groups ∧
        text = unlines (z.opening host) ++
          (unlines (serial.toList.map (fieldLine · "Serial".toList)) ++
            textOfLines (z.remainder groups)) := by
  cases layout with
  | missing folder =>
    rw [render_missing]
    cases z.primary <;> simp [bind, Except.bind]
  | standard =>
    rw [render_standard]
    cases hp : z.primary with
    | error e => simp [bind, Except.bind]
    | ok host =>
      cases hg : z.recordLines with
      | error e => simp [bind, Except.bind]
      | ok groups =>
        show Except.ok (textOfLines _) = _ ↔ _
        rw [textOfLines_header]
        constructor
        · rintro ⟨rfl⟩
          exact ⟨host, groups, rfl, rfl, rfl, rfl⟩
        · rintro ⟨_, _, -, ⟨rfl⟩, ⟨rfl⟩, rfl⟩
          rfl

/-- Whether a zone renders does not depend on the serial. -/
theorem exists_render {layout : Layout} {z : Zone} {serial : Option Text} {text : Text}
    (h : z.render layout serial = .ok text) (serial' : Option Text) :
    ∃ text', z.render layout serial' = .ok text' := by
  obtain ⟨host, groups, hlayout, hhost, hgroups, -⟩ := render_eq_ok_iff.mp h
  exact ⟨_, render_eq_ok_iff.mpr ⟨host, groups, hlayout, hhost, hgroups, rfl⟩⟩

/-- Whatever serial a zone is rendered with, it is not rendered for the same reason. -/
theorem render_eq_error {layout : Layout} {z : Zone} {serial : Option Text} {why : RenderFault}
    (h : z.render layout serial = .error why) (serial' : Option Text) :
    z.render layout serial' = .error why := by
  cases layout with
  | missing folder =>
    rw [render_missing] at h ⊢
    exact h
  | standard =>
    rw [render_standard] at h ⊢
    cases hprimary : z.primary with
    | error why' =>
      rw [hprimary] at h
      cases h
      rfl
    | ok host =>
      rw [hprimary] at h
      cases hlines : z.recordLines with
      | error why' =>
        rw [hlines] at h
        cases h
        rfl
      | ok groups =>
        rw [hlines] at h
        cases h

/-- A zone without a nameserver is not rendered. -/
theorem render_of_noNameserver {layout : Layout} {z : Zone} {serial : Option Text}
    (h : z.recordsOf .ns = []) :
    z.render layout serial = .error (.noNameserver z.name) := by
  have hprimary : z.primary = .error (.noNameserver z.name) := by
    rw [primary, primary?, h]
    rfl
  cases layout with
  | missing folder =>
    rw [render_missing, hprimary]
    rfl
  | standard =>
    rw [render_standard, hprimary]
    rfl

/-! ## A fixed zone -/

/-- A zone with a nameserver and other records, for statements about fixed zones. -/
def sample (records : List Record) : Zone where
  name := "e".toList
  admin := "h@e".toList
  ttl := "1d".toList
  refresh := "3h".toList
  retry := "1h".toList
  expire := "1w".toList
  negativeTtl := "1h".toList
  records := ⟨.ns, ["n".toList], none, none⟩ :: records

/-- The zone file of the zone with a nameserver only. -/
def sampleText : Text :=
  unlines (["$TTL 1d", "@ IN SOA n h.e. (", "\t\t\t\t\t\t\t3h\t\t\t; Refresh",
    "\t\t\t\t\t\t\t1h\t\t\t; Retry", "\t\t\t\t\t\t\t1w\t\t\t; Expire",
    "\t\t\t\t\t\t\t1h )\t\t; Negative Cache TTL", "", "@\t\t\t\t\t\t\tNS\t\t\tn"].map
      String.toList)

theorem render_sample : (sample []).render .standard none = .ok sampleText := by decide +kernel

end Zone

end ZoneKeeper
