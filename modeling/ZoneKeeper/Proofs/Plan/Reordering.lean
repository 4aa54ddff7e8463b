import ZoneKeeper.Proofs.Plan.Decision
import ZoneKeeper.Proofs.Zone.Order

/-!
# Records in another order

A zone file does not tell in which order records of different types are declared: it lists them as a
stable sort by type puts them, so only the order of the records of one type counts. Zones that differ
in nothing else have the same zone files and the same plans.
-/

namespace ZoneKeeper

open Text

/-- Whether a record has the data fields that its line is written with: a mail exchange has two,
every other record has at least one. -/
def Record.HasFields (r : Record) : Prop :=
  if r.type = .mx then r.values.length = 2 else r.values ≠ []

instance (r : Record) : Decidable r.HasFields := by
  unfold Record.HasFields
  infer_instance

theorem Record.HasFields.exists_line {r : Record} (h : r.HasFields) :
    ∃ line, r.line = .ok line := by
  obtain ⟨type, values, owner, ttl⟩ := r
  have hdata : ∃ data, Record.data ⟨type, values, owner, ttl⟩ = .ok data := by
    by_cases hmx : type = .mx
    · subst hmx
      match values, h with
      | [_, _], _ => exact ⟨_, rfl⟩
    · rw [HasFields, if_neg hmx] at h
      obtain ⟨value, rest, rfl⟩ := List.exists_cons_of_ne_nil h
      cases type with
      | mx => exact absurd rfl hmx
      | _ => exact ⟨_, rfl⟩
  obtain ⟨data, hdata⟩ := hdata
  exact ⟨_, map_eq_ok_iff.mpr ⟨data, hdata, rfl⟩⟩

namespace Zone

variable {z z' : Zone}

/-- Whether two zones are the same but for the order in which records of different types are
declared. -/
structure IsReordered (z z' : Zone) : Prop where
  name : z.name = z'.name
  admin : z.admin = z'.admin
  ttl : z.ttl = z'.ttl
  refresh : z.refresh = z'.refresh
  retry : z.retry = z'.retry
  expire : z.expire = z'.expire
  negativeTtl : z.negativeTtl = z'.negativeTtl
  perm : z.records.Perm z'.records
  order : ∀ type, z.recordsOf type = z'.recordsOf type

/-- The order of records of different types does not show in a zone file, and a zone that is not
rendered is not rendered for the same reason. -/
theorem IsReordered.render_eq (h : z.IsReordered z') (layout : Layout) (serial : Option Text) :
    z.render layout serial = z'.render layout serial := by
  have hprimary : z.primary = z'.primary := by
    rw [primary, primary, primary?, primary?, h.order, h.name]
  have hgroups : z.groups = z'.groups := by
    rw [groups, groups, funext h.order]
  have hheader (host : Text) : z.header host serial = z'.header host serial := by
    simp only [header, mailbox, h.ttl, h.admin, h.refresh, h.retry, h.expire, h.negativeTtl]
  simp only [render, hprimary, hgroups, hheader]

/-- The file of a zone with a nameserver begins its groups with the nameservers, the primary one
first. -/
theorem exists_groups_cons (h : ∃ r ∈ z.records, r.type = .ns) :
    ∃ r rest others, z.groups = (r :: rest) :: others ∧ z.recordsOf .ns = r :: rest ∧
      r.type = .ns := by
  obtain ⟨r, rest, hns, -, htype⟩ := exists_first_nameserver h
  have hgroups : z.groups = z.recordsOf .ns ::
      ([.a, .cname, .mx, .spf, .txt].map z.recordsOf).filter (· ≠ []) := by
    rw [groups, RecordType.published, List.map_cons, List.filter_cons_of_pos]
    rw [hns]
    exact decide_eq_true (List.cons_ne_nil r rest)
  exact ⟨r, rest, _, hns ▸ hgroups, hns, htype⟩

end Zone

namespace Target

variable {t : Target} {files : FileTree} {today : Day} {domain : Text} {z z' : Zone}

/-- What is decided for a zone depends on the zone only by what it is rendered to. -/
theorem decide_congr (h : ∀ serial, z.render t.layout serial = z'.render t.layout serial) :
    t.decide files today domain z = t.decide files today domain z' := by
  rw [decide, decide, funext h]

theorem plan_congr (h : t.decide files today domain z = t.decide files today domain z')
    (before after : Catalogue) :
    t.plan files today (before ++ (domain, z) :: after) =
      t.plan files today (before ++ (domain, z') :: after) := by
  rw [decide, decide] at h
  simp only [plan, planBy, List.mapM_append, List.mapM_cons, h]

end Target

namespace Zone

variable {z : Zone}

/-- The lines of a zone with a nameserver begin with that of the first nameserver, whose host is the
primary one. -/
theorem exists_recordLines_cons (hfields : ∀ r ∈ z.records, r.HasFields)
    (hns : ∃ r ∈ z.records, r.type = .ns) :
    ∃ r rest others host line lines moreLines, z.groups = (r :: rest) :: others ∧ r.type = .ns ∧
      r.firstValue = .ok host ∧ z.primary = .ok host ∧ r.line = .ok line ∧
      z.recordLines = .ok ((line :: lines) :: moreLines) := by
  obtain ⟨r, rest, others, hgroups, hrecords, htype⟩ := exists_groups_cons hns
  have hr : r ∈ z.records :=
    (List.mem_filter.mp (hrecords ▸ List.mem_cons_self : r ∈ z.recordsOf .ns)).1
  obtain ⟨host, hhost⟩ : ∃ host, r.firstValue = .ok host := by
    have hvalues := hfields r hr
    rw [Record.HasFields, if_neg (by rw [htype]; decide)] at hvalues
    obtain ⟨host, more, hvalues⟩ := List.exists_cons_of_ne_nil hvalues
    exact ⟨host, by rw [Record.firstValue, hvalues]⟩
  obtain ⟨all, hall⟩ := exists_recordLines_of_forall (z := z) fun s hs =>
    (hfields s (mem_ordered_iff.mp hs).1).exists_line
  have hlines := mapM_eq_ok_iff.mp hall
  rw [hgroups] at hlines
  cases hlines with
  | cons hfirst _ =>
    cases mapM_eq_ok_iff.mp hfirst with
    | cons hline _ =>
      exact ⟨r, rest, others, host, _, _, _, hgroups, htype, hhost,
        primary_eq_ok_iff.mpr ⟨r, rest, hrecords, hhost⟩, hline, hall⟩

/-- How a zone file lists the records of a zone with a nameserver. The groups are the records sorted
by type, each as often as it is declared and those of a type in their order; no group is empty, and
the first line of the first one is that of the primary nameserver. So the zone has a file, and the
zones that declare the same records in another order, though not in another one for any of the
types, have the same file and are planned alike. -/
theorem records_grouped (htypes : ∀ r ∈ z.records, r.type ∈ RecordType.published)
    (hfields : ∀ r ∈ z.records, r.HasFields) (hns : ∃ r ∈ z.records, r.type = .ns) :
    (z.groups.flatten = z.records.mergeSort Record.comesFirst ∧
      z.groups.flatten.Perm z.records ∧ z.groups.flatten.Pairwise (Record.comesFirst · ·) ∧
      (∀ type, z.groups.flatten.filter (·.type = type) = z.recordsOf type) ∧
      ∀ group ∈ z.groups, group ≠ []) ∧
    (∃ r rest others host line lines moreLines, z.groups = (r :: rest) :: others ∧ r.type = .ns ∧
      r.firstValue = .ok host ∧ z.primary = .ok host ∧ r.line = .ok line ∧
      z.recordLines = .ok ((line :: lines) :: moreLines) ∧
      List.Forall₂ (List.Forall₂ fun s line => s.line = .ok line) z.groups
        ((line :: lines) :: moreLines)) ∧
    (∀ serial, ∃ text, z.render .standard serial = .ok text) ∧
    ∀ z', z.IsReordered z' → (∀ layout serial, z.render layout serial = z'.render layout serial) ∧
      ∀ (t : Target) files today domain before after,
        t.plan files today (before ++ (domain, z) :: after) =
          t.plan files today (before ++ (domain, z') :: after) := by
  refine ⟨⟨ordered_eq_mergeSort htypes, ordered_perm htypes, pairwise_ordered z,
    filter_ordered htypes, fun group hgroup => ?_⟩, ?_, fun serial => ?_, fun z' h => ?_⟩
  · exact of_decide_eq_true (List.mem_filter.mp hgroup).2
  · obtain ⟨r, rest, others, host, line, lines, moreLines, hgroups, htype, hhost, hprimary, hline,
      hlines⟩ := exists_recordLines_cons hfields hns
    exact ⟨r, rest, others, host, line, lines, moreLines, hgroups, htype, hhost, hprimary, hline,
      hlines, (mapM_eq_ok_iff.mp hlines).imp fun _ _ => mapM_eq_ok_iff.mp⟩
  · obtain ⟨-, -, -, host, line, lines, moreLines, -, -, -, hprimary, -, hlines⟩ :=
      exists_recordLines_cons hfields hns
    exact ⟨_, render_eq_ok_iff.mpr ⟨host, _, rfl, hprimary, hlines, rfl⟩⟩
  · have hrender := h.render_eq
    exact ⟨hrender, fun t files today domain before after =>
      Target.plan_congr (Target.decide_congr (hrender t.layout)) before after⟩

/-- Texts, a sender policy and addresses that are declared before the nameserver are listed after
it, and their order among each other counts only for the addresses. -/
theorem records_grouped_sample :
    let text : Record := ⟨.txt, ["\"x\"".toList], none, none⟩
    let policy : Record := ⟨.spf, ["\"v=spf1 -all\"".toList], none, none⟩
    let first : Record := ⟨.a, ["192.0.2.1".toList], none, none⟩
    let second : Record := ⟨.a, ["192.0.2.2".toList], none, none⟩
    let server : Record := ⟨.ns, ["n".toList], none, none⟩
    let z : Zone := { Zone.sample [] with records := [text, policy, first, server, second] }
    let z' : Zone := { Zone.sample [] with records := [first, policy, second, text, server] }
    z.records.mergeSort Record.comesFirst = [server, first, second, policy, text] ∧
      ∀ serial, z.render .standard serial = z'.render .standard serial := by
  intro text policy first second server z z'
  have hz : z.IsReordered z' :=
    { name := rfl, admin := rfl, ttl := rfl, refresh := rfl, retry := rfl, expire := rfl
      negativeTtl := rfl
      perm := by decide
      order := fun type => by
        cases type with
        | other token => simp [recordsOf, z, z', text, policy, first, second, server]
        | _ => decide }
  obtain ⟨⟨hsorted, -⟩, -, -, hsame⟩ := records_grouped (z := z) (by decide) (by decide) (by decide)
  exact ⟨hsorted.symm.trans (by decide), (hsame z' hz).1 .standard⟩

end Zone

end ZoneKeeper
