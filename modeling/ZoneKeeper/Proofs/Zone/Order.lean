import Mathlib.Data.List.Dedup
import Mathlib.Data.List.Pairwise
import ZoneKeeper.Proofs.Zone.Published

/-!
# The order of the records

A zone file lists the records by type. If all of them are of published types, then none is lost and
none is listed twice, there are as many groups as types, and the records are listed as a stable sort
by type puts them.
-/

namespace ZoneKeeper

open Text

/-- Records picked by one type after another are all records of these types. -/
theorem Record.flatten_filter_perm (rs : List Record) {types : List RecordType}
    (h : types.Nodup) :
    (types.map fun type => rs.filter (·.type = type)).flatten.Perm
      (rs.filter (·.type ∈ types)) := by
  induction types with
  | nil => simp
  | cons type types ih =>
    obtain ⟨hnew, hrest⟩ := List.nodup_cons.mp h
    have hfirst : (rs.filter (·.type ∈ type :: types)).filter (·.type = type) =
        rs.filter (·.type = type) := by
      rw [List.filter_filter]
      exact List.filter_congr fun r _ => by simp +contextual
    have hothers : (rs.filter (·.type ∈ type :: types)).filter
        (fun r => ! decide (r.type = type)) = rs.filter (·.type ∈ types) := by
      rw [List.filter_filter]
      refine List.filter_congr fun r _ => ?_
      by_cases hr : r.type = type <;> simp [hr, hnew]
    have hparts := List.filter_append_perm (·.type = type) (rs.filter (·.type ∈ type :: types))
    rw [hfirst, hothers] at hparts
    rw [List.map_cons, List.flatten_cons]
    exact ((ih hrest).append_left _).trans hparts

/-! ## Sorting by type -/

/-- The place of a type in the order in which a zone file lists the types. -/
def RecordType.place (type : RecordType) : Nat := published.idxOf type

theorem RecordType.place_inj {type type' : RecordType} (h : type ∈ published) :
    type.place = type'.place ↔ type = type' :=
  List.idxOf_inj h

namespace Record

/-- Whether a record may be listed before another one: its type does not come later. -/
def comesFirst (r s : Record) : Bool := r.type.place ≤ s.type.place

variable {rs rs' : List Record}

theorem comesFirst_trans (a b c : Record) (hab : a.comesFirst b = true)
    (hbc : b.comesFirst c = true) : a.comesFirst c = true := by
  simp only [comesFirst, decide_eq_true_eq] at hab hbc ⊢
  omega

theorem comesFirst_total (a b : Record) : (a.comesFirst b || b.comesFirst a) = true := by
  simp only [comesFirst, Bool.or_eq_true, decide_eq_true_eq]
  omega

/-- Records of one type may be listed in any order. -/
theorem pairwise_filter (rs : List Record) (type : RecordType) :
    (rs.filter (·.type = type)).Pairwise (comesFirst · ·) := by
  refine List.pairwise_of_forall_mem_list fun a ha b hb => ?_
  have ha := of_decide_eq_true (List.mem_filter.mp ha).2
  have hb := of_decide_eq_true (List.mem_filter.mp hb).2
  simp [comesFirst, ha, hb]

/-- A list that has the records of a type in their order, among others, has them in their order. -/
theorem filter_eq_of_sublist {type : RecordType} (hperm : rs'.Perm rs)
    (h : (rs.filter (·.type = type)).Sublist rs') :
    rs'.filter (·.type = type) = rs.filter (·.type = type) := by
  have hsub := h.filter (·.type = type)
  rw [List.filter_filter] at hsub
  simp only [Bool.and_self] at hsub
  exact (hsub.eq_of_length (hperm.filter _).length_eq.symm).symm

/-- Sorting by type keeps the records of a type in their order. -/
theorem filter_mergeSort (rs : List Record) (type : RecordType) :
    (rs.mergeSort comesFirst).filter (·.type = type) = rs.filter (·.type = type) := by
  refine filter_eq_of_sublist (List.mergeSort_perm rs _) ?_
  exact List.sublist_mergeSort comesFirst_trans comesFirst_total (pairwise_filter rs type)
    List.filter_sublist

/-- Records sorted by type are determined by the records of each type in their order. -/
theorem eq_of_pairwise_comesFirst (hrs : ∀ r ∈ rs, r.type ∈ RecordType.published)
    (h : rs.Pairwise (comesFirst · ·)) (h' : rs'.Pairwise (comesFirst · ·))
    (heq : ∀ type, rs.filter (·.type = type) = rs'.filter (·.type = type)) : rs = rs' := by
  have hmem {rs rs' : List Record} {r : Record} (hr : r ∈ rs)
      (heq : ∀ type, rs.filter (·.type = type) = rs'.filter (·.type = type)) : r ∈ rs' := by
    have hfilter : r ∈ rs.filter (·.type = r.type) := List.mem_filter.mpr ⟨hr, by simp⟩
    rw [heq] at hfilter
    exact (List.mem_filter.mp hfilter).1
  induction rs generalizing rs' with
  | nil =>
    cases rs' with
    | nil => rfl
    | cons r' rs' => exact absurd (hmem List.mem_cons_self fun type => (heq type).symm) (by simp)
  | cons r rs ih =>
    cases rs' with
    | nil => exact absurd (hmem List.mem_cons_self heq) (by simp)
    | cons r' rs' =>
      obtain ⟨hr, hrs⟩ := List.forall_mem_cons.mp hrs
      obtain ⟨hfirst, hrest⟩ := List.pairwise_cons.mp h
      obtain ⟨hfirst', hrest'⟩ := List.pairwise_cons.mp h'
      -- Each of the two first records stands in the other list, so neither type comes later.
      have hle : r.type.place ≤ r'.type.place := by
        rcases List.mem_cons.mp (hmem List.mem_cons_self fun type => (heq type).symm) with rfl | hr'
        · exact Nat.le_refl _
        · simpa [comesFirst] using hfirst r' hr'
      have hge : r'.type.place ≤ r.type.place := by
        rcases List.mem_cons.mp (hmem List.mem_cons_self heq) with rfl | hr'
        · exact Nat.le_refl _
        · simpa [comesFirst] using hfirst' r hr'
      have htype : r.type = r'.type := (RecordType.place_inj hr).mp (Nat.le_antisymm hle hge)
      have hsame := heq r.type
      rw [List.filter_cons_of_pos (by simp), List.filter_cons_of_pos (by simp [htype])] at hsame
      obtain ⟨rfl, htail⟩ := List.cons.inj hsame
      refine congrArg _ (ih hrs hrest hrest' fun type => ?_)
      by_cases hr : r.type = type
      · exact hr ▸ htail
      · have hall := heq type
        rwa [List.filter_cons_of_neg (by simpa using hr),
          List.filter_cons_of_neg (by simpa using hr)] at hall

end Record

namespace Zone

variable {z : Zone}

/-! ## The groups -/

/-- The types that the records of a zone have. -/
def types (z : Zone) : List RecordType := (z.records.map (·.type)).dedup

/-- A zone file lists the records of a zone, each as often as it is declared. -/
theorem ordered_perm (h : ∀ r ∈ z.records, r.type ∈ RecordType.published) :
    z.ordered.Perm z.records := by
  have hall : z.records.filter (·.type ∈ RecordType.published) = z.records :=
    List.filter_eq_self.mpr fun r hr => decide_eq_true (h r hr)
  have hperm := Record.flatten_filter_perm z.records (by decide : RecordType.published.Nodup)
  rw [hall] at hperm
  rw [ordered, groups, List.flatten_filter_ne_nil]
  exact hperm

/-- A zone file has one group for every type of the records. -/
theorem length_groups (h : ∀ r ∈ z.records, r.type ∈ RecordType.published) :
    z.groups.length = z.types.length := by
  rw [groups, List.filter_map, List.length_map]
  refine List.Perm.length_eq ((List.perm_ext_iff_of_nodup
    (List.Nodup.filter _ (by decide)) (List.nodup_dedup _)).mpr fun type => ?_)
  simp only [List.mem_filter, List.mem_dedup, List.mem_map, Function.comp, decide_eq_true_eq]
  constructor
  · rintro ⟨-, hne⟩
    obtain ⟨r, hr⟩ := List.exists_mem_of_ne_nil _ hne
    obtain ⟨hmem, htype⟩ := List.mem_filter.mp hr
    exact ⟨r, hmem, of_decide_eq_true htype⟩
  · rintro ⟨r, hr, rfl⟩
    exact ⟨h r hr, List.ne_nil_of_mem (List.mem_filter.mpr ⟨hr, by simp⟩)⟩

/-! ## The order of the records -/

/-- A zone file lists the records of a type in their order. -/
theorem filter_ordered (h : ∀ r ∈ z.records, r.type ∈ RecordType.published) (type : RecordType) :
    z.ordered.filter (·.type = type) = z.recordsOf type := by
  refine Record.filter_eq_of_sublist (ordered_perm h) ?_
  show (z.recordsOf type).Sublist z.ordered
  by_cases hnone : z.recordsOf type = []
  · rw [hnone]
    exact List.nil_sublist _
  · obtain ⟨r, hr⟩ := List.exists_mem_of_ne_nil _ hnone
    obtain ⟨hmem, htype⟩ := List.mem_filter.mp hr
    have hpublished : type ∈ RecordType.published := of_decide_eq_true htype ▸ h r hmem
    refine List.sublist_flatten_of_mem (List.mem_filter.mpr ⟨?_, decide_eq_true hnone⟩)
    exact List.mem_map.mpr ⟨type, hpublished, rfl⟩

/-- A zone file lists the records sorted by type. -/
theorem pairwise_ordered (z : Zone) : z.ordered.Pairwise (Record.comesFirst · ·) := by
  rw [ordered, groups, List.flatten_filter_ne_nil, List.pairwise_flatten]
  constructor
  · intro group hgroup
    obtain ⟨type, -, rfl⟩ := List.mem_map.mp hgroup
    exact Record.pairwise_filter z.records type
  · have hplaces : RecordType.published.Pairwise fun type type' => type.place ≤ type'.place := by
      decide
    refine List.pairwise_map.mpr (hplaces.imp fun hle r hr s hs => ?_)
    have hr := of_decide_eq_true (List.mem_filter.mp hr).2
    have hs := of_decide_eq_true (List.mem_filter.mp hs).2
    simp [Record.comesFirst, hr, hs, hle]

/-- A zone file lists the records as they are sorted by type, those of a type in their order. -/
theorem ordered_eq_mergeSort (h : ∀ r ∈ z.records, r.type ∈ RecordType.published) :
    z.ordered = z.records.mergeSort Record.comesFirst := by
  have hsorted : (z.records.mergeSort Record.comesFirst).Pairwise (Record.comesFirst · ·) :=
    List.pairwise_mergeSort Record.comesFirst_trans Record.comesFirst_total z.records
  refine Record.eq_of_pairwise_comesFirst (fun r hr => (mem_ordered_iff.mp hr).2)
    (pairwise_ordered z) hsorted fun type => ?_
  rw [filter_ordered h, Record.filter_mergeSort]
  rfl

end Zone

end ZoneKeeper
