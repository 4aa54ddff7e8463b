import ZoneKeeper.Proofs.Declaration.Schema

/-!
# Loading a document

The builder takes the beginnings and ends of elements with nothing in mind but the domain that is
open. That it builds what the document declares is shown by following it through an element: where
the element stands in a domain, that domain is open before and after, and otherwise none is.
-/

namespace ZoneKeeper

theorem Catalogue.has_iff (c : Catalogue) (domain : Text) :
    c.has domain = true ↔ domain ∈ c.map Prod.fst := by
  simp [has]

namespace Declaration

open Text

/-! ## The builder and the beginnings and ends of elements -/

namespace Builder

variable {b b' : Builder}

/-- What comes of handing beginnings and ends of elements to the builder. -/
def run (b : Builder) (events : List Xml.Event) : Except ReadFault Builder :=
  events.foldlM (fun b event => (b.take event).outcome) b

theorem outcome_foldlM_take (b : Builder) (events : List Xml.Event) :
    (events.foldlM take b).outcome = b.run events := by
  induction events generalizing b with
  | nil => rfl
  | cons event events ih =>
    rw [run, List.foldlM_cons, List.foldlM_cons, Journaled.outcome_bind]
    exact congrArg _ (funext ih)

theorem run_append (b : Builder) (events later : List Xml.Event) :
    b.run (events ++ later) = b.run events >>= fun b => b.run later :=
  List.foldlM_append

theorem run_finish (b : Builder) (name : Text) :
    b.run [.finish name] = .ok (b.finish (capitals name)) := by
  rw [run, List.foldlM_cons, take]
  split <;> rfl

/-- An element goes well exactly if its beginning and all elements in it do. -/
theorem run_events_eq_ok_iff {e : Element} :
    b.run e.events = .ok b' ↔
      ∃ started, b.start (capitals e.name) (foldedAttributes e.attributes) (some e.line) =
          .ok started ∧
        ∃ inner, started.run (Element.eventsOf e.children) = .ok inner ∧
          inner.finish (capitals e.name) = b' := by
  rw [e.events_eq, run, List.foldlM_cons]
  simp only [take, Journaled.outcome_ofExcept, bind_eq_ok_iff, mapError_eq_ok_iff]
  refine exists_congr fun started => and_congr_right fun _ => ?_
  show started.run _ = _ ↔ _
  simp only [run_append, bind_eq_ok_iff, run_finish, Except.ok.injEq]

/-- Elements that follow one another go well exactly if each of them does. -/
theorem run_eventsOf_cons_eq_ok_iff {e : Element} {es : List Element} :
    b.run (Element.eventsOf (e :: es)) = .ok b' ↔
      ∃ between, b.run e.events = .ok between ∧ between.run (Element.eventsOf es) = .ok b' := by
  rw [Element.eventsOf, run_append, bind_eq_ok_iff]

theorem run_eventsOf_nil_eq_ok_iff : b.run (Element.eventsOf []) = .ok b' ↔ b = b' := by
  rw [Element.eventsOf]
  exact Except.ok.injEq b b' ▸ Iff.rfl

/-! ## Records of the open domain -/

/-- Adds records to the zone of a domain. -/
def addRecords (zones : Catalogue) (domain : Text) (rs : List Record) : Catalogue :=
  zones.map fun (key, z) =>
    if key = domain then (key, { z with records := z.records ++ rs }) else (key, z)

theorem addRecords_nil (zones : Catalogue) (domain : Text) :
    addRecords zones domain [] = zones := by
  simp [addRecords]

theorem map_fst_addRecords (zones : Catalogue) (domain : Text) (rs : List Record) :
    (addRecords zones domain rs).map Prod.fst = zones.map Prod.fst := by
  rw [addRecords, List.map_map]
  refine List.map_congr_left fun e _ => ?_
  by_cases h : e.1 = domain <;> simp [h]

theorem addRecords_append (zones : Catalogue) (domain : Text) (rs rs' : List Record) :
    addRecords (addRecords zones domain rs) domain rs' = addRecords zones domain (rs ++ rs') := by
  rw [addRecords, addRecords, List.map_map, addRecords]
  refine List.map_congr_left fun entry _ => ?_
  by_cases h : entry.1 = domain <;> simp [h]

/-- Records of the domain that was declared last go to the end of the catalogue. -/
theorem addRecords_concat {zones : Catalogue} {domain : Text} (h : domain ∉ zones.map Prod.fst)
    (z : Zone) (rs : List Record) :
    addRecords (zones ++ [(domain, z)]) domain rs =
      zones ++ [(domain, { z with records := z.records ++ rs })] := by
  have hothers : addRecords zones domain rs = zones := by
    refine (List.map_congr_left fun entry hentry => ?_).trans (List.map_id zones)
    have hne : entry.1 ≠ domain := by
      rintro rfl
      exact h (List.mem_map_of_mem hentry)
    simp [hne]
  rw [addRecords] at hothers ⊢
  rw [List.map_append, hothers]
  simp

/-! ## The beginning of an element -/

theorem startRecord_eq_ok_iff {zones : Catalogue} {domain : Text} {a : Attributes} :
    startRecord ⟨zones, some domain⟩ a = .ok b ↔
      ∃ r, readRecord a domain = .ok r ∧ ⟨addRecords zones domain [r], some domain⟩ = b := by
  show (readRecord a domain >>= fun r => Except.ok _) = _ ↔ _
  simp only [bind_eq_ok_iff, Except.ok.injEq]
  rfl

theorem startDomain_eq_ok_iff {zones : Catalogue} {a : Attributes} :
    startDomain ⟨zones, none⟩ a = .ok b ↔
      readName a ≠ [] ∧ readName a ∉ zones.map Prod.fst ∧
        ∃ z, readZone a (readName a) = .ok z ∧
          ⟨zones ++ [(readName a, z)], some (readName a)⟩ = b := by
  have hhas := Catalogue.has_iff zones (readName a)
  by_cases hname : readName a = []
  · simp [startDomain, hname]
  · by_cases hknown : readName a ∈ zones.map Prod.fst
    · simp [startDomain, hname, hhas.mpr hknown, hknown]
    · have hnew : ¬ zones.has (readName a) = true := fun h => hknown (hhas.mp h)
      have hstart : startDomain ⟨zones, none⟩ a = readZone a (readName a) >>= fun z =>
          .ok ⟨zones ++ [(readName a, z)], some (readName a)⟩ := by
        rw [startDomain]
        simp only [hname, if_false, hnew]
        rfl
      simp only [hstart, bind_eq_ok_iff, Except.ok.injEq]
      exact ⟨fun h => ⟨hname, hknown, h⟩, fun h => h.2.2⟩

end Builder

namespace Element

variable {e : Element} {zones : Catalogue} {b : Builder}

open Builder

/-- Whether an element is well placed and says what it has to. -/
structure Place.IsSound (p : Place) : Prop where
  domain : p.element.isDomain = true →
    (∀ a ∈ p.ancestors, a.isDomain = false) ∧ p.element.DeclaresDomain
  record : p.element.isRecord = true →
    (∃ a ∈ p.ancestors, a.isDomain = true) ∧ p.element.DeclaresRecord

/-- In a domain an element begins well exactly if it is no domain and, if it is a record, says what
it has to. -/
theorem start_inside_eq_ok_iff {domain : Text} {ancestors : List Element}
    (hinside : ∃ a ∈ ancestors, a.isDomain = true) {line : Option Nat} :
    Builder.start ⟨zones, some domain⟩ (capitals e.name) (foldedAttributes e.attributes) line =
        .ok b ↔
      Place.IsSound ⟨e, ancestors⟩ ∧
        ⟨addRecords zones domain (recordsAmong [e]), some domain⟩ = b := by
  rw [Builder.start, mapError_eq_ok_iff]
  by_cases hdomain : e.isDomain = true
  · have htag : capitals e.name = domainTag := of_decide_eq_true hdomain
    rw [if_pos htag]
    refine iff_of_false nofun fun ⟨hsound, _⟩ => ?_
    obtain ⟨a, ha, hin⟩ := hinside
    rw [(hsound.domain hdomain).1 a ha] at hin
    cases hin
  · have htag : capitals e.name ≠ domainTag := fun h => hdomain (decide_eq_true h)
    rw [if_neg htag]
    by_cases hrecord : e.isRecord = true
    · have hr : recordsAmong [e] = [e.record] := by simp [recordsAmong, hrecord]
      rw [if_pos (of_decide_eq_true hrecord), startRecord_eq_ok_iff, hr]
      simp only [readRecord_eq_ok_iff]
      constructor
      · rintro ⟨_, ⟨hdeclares, rfl⟩, rfl⟩
        exact ⟨⟨fun h => absurd h hdomain, fun _ => ⟨hinside, hdeclares⟩⟩, rfl⟩
      · rintro ⟨hsound, rfl⟩
        exact ⟨_, ⟨(hsound.record hrecord).2, rfl⟩, rfl⟩
    · have hr : recordsAmong [e] = [] := by simp [recordsAmong, hrecord]
      have htag' : capitals e.name ≠ recordTag := fun h => hrecord (decide_eq_true h)
      rw [if_neg htag', hr, addRecords_nil, Except.ok.injEq]
      exact ⟨fun h => ⟨⟨fun h' => absurd h' hdomain, fun h' => absurd h' hrecord⟩, h⟩, And.right⟩

/-- Outside of domains an element begins well exactly if it is no record and, if it is a domain, says
what it has to and has a new name. -/
theorem start_outside_eq_ok_iff {ancestors : List Element}
    (houtside : ∀ a ∈ ancestors, a.isDomain = false) {line : Option Nat} :
    Builder.start ⟨zones, none⟩ (capitals e.name) (foldedAttributes e.attributes) line = .ok b ↔
      Place.IsSound ⟨e, ancestors⟩ ∧
        if e.isDomain then e.domainName ∉ zones.map Prod.fst ∧
          ⟨zones ++ [(e.domainName, { e.zone with records := [] })], some e.domainName⟩ = b
        else ⟨zones, none⟩ = b := by
  rw [Builder.start, mapError_eq_ok_iff]
  by_cases hdomain : e.isDomain = true
  · have htag : capitals e.name = domainTag := of_decide_eq_true hdomain
    rw [if_pos htag, if_pos hdomain, startDomain_eq_ok_iff, readName_foldedAttributes]
    constructor
    · rintro ⟨hname, hnew, z, hz, rfl⟩
      obtain ⟨hdeclares, rfl⟩ := readZone_eq_ok_iff.mp ⟨hname, hz⟩
      refine ⟨⟨fun _ => ⟨houtside, hdeclares⟩, fun hrecord => ?_⟩, hnew, rfl⟩
      rw [isRecord_of_isDomain hdomain] at hrecord
      cases hrecord
    · rintro ⟨hsound, hnew, rfl⟩
      obtain ⟨hname, hz⟩ := readZone_eq_ok_iff.mpr ⟨(hsound.domain hdomain).2, rfl⟩
      exact ⟨hname, hnew, _, hz, rfl⟩
  · have htag : capitals e.name ≠ domainTag := fun h => hdomain (decide_eq_true h)
    rw [if_neg htag, if_neg hdomain]
    by_cases hrecord : e.isRecord = true
    · rw [if_pos (of_decide_eq_true hrecord)]
      refine iff_of_false nofun fun ⟨hsound, _⟩ => ?_
      obtain ⟨a, ha, hin⟩ := (hsound.record hrecord).1
      rw [houtside a ha] at hin
      cases hin
    · have htag' : capitals e.name ≠ recordTag := fun h => hrecord (decide_eq_true h)
      rw [if_neg htag', Except.ok.injEq]
      exact ⟨fun h => ⟨⟨fun h' => absurd h' hdomain, fun h' => absurd h' hrecord⟩, h⟩, And.right⟩

/-! ## Elements in a domain -/

theorem finish_of_not_isDomain (h : e.isDomain = false) (b : Builder) :
    b.finish (capitals e.name) = b :=
  if_neg (of_decide_eq_false h)

theorem recordsAmong_append (es es' : List Element) :
    recordsAmong (es ++ es') = recordsAmong es ++ recordsAmong es' := by
  rw [recordsAmong, List.filter_append, List.map_append]
  rfl

theorem Place.IsSound.isDomain_eq_false {ancestors : List Element}
    (h : Place.IsSound ⟨e, ancestors⟩) (hinside : ∃ a ∈ ancestors, a.isDomain = true) :
    e.isDomain = false := by
  obtain ⟨a, ha, hdomain⟩ := hinside
  rw [Bool.eq_false_iff]
  intro he
  rw [(h.domain he).1 a ha] at hdomain
  cases hdomain

mutual

/-- In a domain an element goes well exactly if the element and all elements in it are well placed
and say what they have to, and then its records are added to the domain. -/
theorem run_events_inside (domain : Text) : ∀ (e : Element) (ancestors : List Element)
    (zones : Catalogue) (b : Builder), (∃ a ∈ ancestors, a.isDomain = true) →
      (Builder.run ⟨zones, some domain⟩ e.events = .ok b ↔
        (∀ p ∈ e.places ancestors, p.IsSound) ∧
          ⟨addRecords zones domain (recordsAmong e.elements), some domain⟩ = b)
  | ⟨name, attributes, line, children⟩, ancestors, zones, b, hinside => by
    generalize he : Element.mk name attributes line children = e
    have hchildren : e.children = children := by rw [← he]
    have hbelow : ∃ a ∈ e :: ancestors, a.isDomain = true :=
      hinside.imp fun a ha => ⟨List.mem_cons_of_mem _ ha.1, ha.2⟩
    have hrecords : recordsAmong e.elements =
        recordsAmong [e] ++ recordsAmong (elementsOf children) := by
      rw [e.elements_eq, descendants, hchildren, ← recordsAmong_append]
      rfl
    simp only [run_events_eq_ok_iff, start_inside_eq_ok_iff hinside, e.places_eq, hchildren,
      List.forall_mem_cons, hrecords, ← addRecords_append]
    have hopen (zones : Catalogue) (b : Builder) :=
      run_eventsOf_inside domain children (e :: ancestors) zones b hbelow
    constructor
    · rintro ⟨_, ⟨hsound, rfl⟩, inner, hinner, rfl⟩
      obtain ⟨hsounds, rfl⟩ := (hopen _ _).mp hinner
      exact ⟨⟨hsound, hsounds⟩, (finish_of_not_isDomain (hsound.isDomain_eq_false hinside) _).symm⟩
    · rintro ⟨⟨hsound, hsounds⟩, rfl⟩
      exact ⟨_, ⟨hsound, rfl⟩, _, (hopen _ _).mpr ⟨hsounds, rfl⟩,
        finish_of_not_isDomain (hsound.isDomain_eq_false hinside) _⟩

theorem run_eventsOf_inside (domain : Text) : ∀ (es : List Element) (ancestors : List Element)
    (zones : Catalogue) (b : Builder), (∃ a ∈ ancestors, a.isDomain = true) →
      (Builder.run ⟨zones, some domain⟩ (eventsOf es) = .ok b ↔
        (∀ p ∈ placesOf ancestors es, p.IsSound) ∧
          ⟨addRecords zones domain (recordsAmong (elementsOf es)), some domain⟩ = b)
  | [], ancestors, zones, b, _ => by
    simp [run_eventsOf_nil_eq_ok_iff, placesOf, elementsOf, recordsAmong, addRecords_nil]
  | e :: es, ancestors, zones, b, hinside => by
    have hfirst (b : Builder) := run_events_inside domain e ancestors zones b hinside
    have hrest (zones : Catalogue) (b : Builder) :=
      run_eventsOf_inside domain es ancestors zones b hinside
    simp only [run_eventsOf_cons_eq_ok_iff, hfirst, placesOf, elementsOf, recordsAmong_append,
      ← addRecords_append, List.forall_mem_append]
    constructor
    · rintro ⟨_, ⟨hsound, rfl⟩, hlater⟩
      obtain ⟨hsounds, rfl⟩ := (hrest _ _).mp hlater
      exact ⟨⟨hsound, hsounds⟩, rfl⟩
    · rintro ⟨⟨hsound, hsounds⟩, rfl⟩
      exact ⟨_, ⟨hsound, rfl⟩, (hrest _ _).mpr ⟨hsounds, rfl⟩⟩

end

/-! ## Elements outside of domains -/

theorem namesAmong_append (es es' : List Element) :
    namesAmong (es ++ es') = namesAmong es ++ namesAmong es' := by
  rw [namesAmong, List.filter_append, List.map_append]
  rfl

theorem zonesAmong_append (es es' : List Element) :
    zonesAmong (es ++ es') = zonesAmong es ++ zonesAmong es' := by
  rw [zonesAmong, List.filter_append, List.map_append]
  rfl

theorem map_fst_zonesAmong (es : List Element) : (zonesAmong es).map Prod.fst = namesAmong es := by
  rw [zonesAmong, namesAmong, List.map_map]
  rfl

/-- A domain in which all elements are well placed is the only domain among them. -/
theorem filter_isDomain_elements {ancestors : List Element} (h : e.isDomain = true)
    (hsounds : ∀ p ∈ placesOf (e :: ancestors) e.children, p.IsSound) :
    e.elements.filter isDomain = [e] := by
  have hothers : e.descendants.filter isDomain = [] := by
    rw [List.filter_eq_nil_iff, descendants, ← map_element_placesOf e.children (e :: ancestors)]
    intro other hother hdomain
    obtain ⟨p, hp, rfl⟩ := List.mem_map.mp hother
    have hin : e ∈ p.ancestors := subset_ancestorsOf e.children hp List.mem_cons_self
    have hout := ((hsounds p hp).domain hdomain).1 e hin
    rw [h] at hout
    cases hout
  rw [e.elements_eq, List.filter_cons_of_pos h, hothers]

/-- A domain outside of domains goes well exactly if it has a new name and all in it are well placed
and say what they have to, and then its zone is added to the catalogue. -/
theorem run_events_of_isDomain {ancestors : List Element} (h : e.isDomain = true)
    (houtside : ∀ a ∈ ancestors, a.isDomain = false) :
    Builder.run ⟨zones, none⟩ e.events = .ok b ↔
      (∀ p ∈ e.places ancestors, p.IsSound) ∧ e.domainName ∉ zones.map Prod.fst ∧
        ⟨zones ++ [(e.domainName, e.zone)], none⟩ = b := by
  have hin : ∃ a ∈ e :: ancestors, a.isDomain = true := ⟨e, List.mem_cons_self, h⟩
  have hinside (zones : Catalogue) (b : Builder) :=
    run_eventsOf_inside e.domainName e.children (e :: ancestors) zones b hin
  have hfinish (zones : Catalogue) :
      Builder.finish ⟨zones, some e.domainName⟩ (capitals e.name) = ⟨zones, none⟩ :=
    if_pos (of_decide_eq_true h)
  simp only [run_events_eq_ok_iff, start_outside_eq_ok_iff houtside, if_pos h, e.places_eq,
    List.forall_mem_cons]
  constructor
  · rintro ⟨_, ⟨hsound, hnew, rfl⟩, _, hinner, rfl⟩
    obtain ⟨hsounds, rfl⟩ := (hinside _ _).mp hinner
    refine ⟨⟨hsound, hsounds⟩, hnew, ?_⟩
    rw [hfinish, addRecords_concat hnew]
    rfl
  · rintro ⟨⟨hsound, hsounds⟩, hnew, rfl⟩
    refine ⟨_, ⟨hsound, hnew, rfl⟩, _, (hinside _ _).mpr ⟨hsounds, rfl⟩, ?_⟩
    rw [hfinish, addRecords_concat hnew]
    rfl

mutual

/-- Outside of domains an element goes well exactly if the element and all elements in it are well
placed and say what they have to, and the names of its domains are new, and then their zones are
added to the catalogue. -/
theorem run_events_outside : ∀ (e : Element) (ancestors : List Element) (zones : Catalogue)
    (b : Builder), (∀ a ∈ ancestors, a.isDomain = false) → (zones.map Prod.fst).Nodup →
      (Builder.run ⟨zones, none⟩ e.events = .ok b ↔
        (∀ p ∈ e.places ancestors, p.IsSound) ∧
          (zones.map Prod.fst ++ namesAmong e.elements).Nodup ∧
            ⟨zones ++ zonesAmong e.elements, none⟩ = b)
  | ⟨name, attributes, line, children⟩, ancestors, zones, b, houtside, hkeys => by
    generalize he : Element.mk name attributes line children = e
    have hchildren : e.children = children := by rw [← he]
    cases h : e.isDomain with
    | true =>
      rw [run_events_of_isDomain h houtside]
      refine and_congr_right fun hsounds => ?_
      rw [e.places_eq, List.forall_mem_cons] at hsounds
      have honly := filter_isDomain_elements h hsounds.2
      have hnames : (zones.map Prod.fst ++ [e.domainName]).Nodup ↔
          e.domainName ∉ zones.map Prod.fst := by
        rw [List.perm_append_comm.nodup_iff, List.singleton_append, List.nodup_cons,
          and_iff_left hkeys]
      rw [namesAmong, zonesAmong, honly, List.map_singleton, List.map_singleton, hnames]
    | false =>
      have hbelow : ∀ a ∈ e :: ancestors, a.isDomain = false :=
        List.forall_mem_cons.mpr ⟨h, houtside⟩
      have helements : e.elements.filter isDomain = (elementsOf children).filter isDomain := by
        rw [e.elements_eq, List.filter_cons_of_neg (by simp [h]), descendants, hchildren]
      have hinner (b : Builder) :=
        run_eventsOf_outside children (e :: ancestors) zones b hbelow hkeys
      simp only [run_events_eq_ok_iff, start_outside_eq_ok_iff houtside, h, Bool.false_eq_true,
        if_false, hchildren, e.places_eq, List.forall_mem_cons, namesAmong, zonesAmong,
        helements]
      constructor
      · rintro ⟨_, ⟨hsound, rfl⟩, inner, hrun, rfl⟩
        obtain ⟨hsounds, hnames, rfl⟩ := (hinner _).mp hrun
        exact ⟨⟨hsound, hsounds⟩, hnames, (finish_of_not_isDomain h _).symm⟩
      · rintro ⟨⟨hsound, hsounds⟩, hnames, rfl⟩
        exact ⟨_, ⟨hsound, rfl⟩, _, (hinner _).mpr ⟨hsounds, hnames, rfl⟩,
          finish_of_not_isDomain h _⟩

theorem run_eventsOf_outside : ∀ (es : List Element) (ancestors : List Element)
    (zones : Catalogue) (b : Builder), (∀ a ∈ ancestors, a.isDomain = false) →
      (zones.map Prod.fst).Nodup →
      (Builder.run ⟨zones, none⟩ (eventsOf es) = .ok b ↔
        (∀ p ∈ placesOf ancestors es, p.IsSound) ∧
          (zones.map Prod.fst ++ namesAmong (elementsOf es)).Nodup ∧
            ⟨zones ++ zonesAmong (elementsOf es), none⟩ = b)
  | [], ancestors, zones, b, _, hkeys => by
    simp [run_eventsOf_nil_eq_ok_iff, placesOf, elementsOf, namesAmong, zonesAmong, hkeys]
  | e :: es, ancestors, zones, b, houtside, hkeys => by
    have hfirst (b : Builder) := run_events_outside e ancestors zones b houtside hkeys
    have hrest (zones : Catalogue) (b : Builder) :=
      run_eventsOf_outside es ancestors zones b houtside
    have hkeys' : (zones ++ zonesAmong e.elements).map Prod.fst =
        zones.map Prod.fst ++ namesAmong e.elements := by
      rw [List.map_append, map_fst_zonesAmong]
    simp only [run_eventsOf_cons_eq_ok_iff, hfirst, placesOf, elementsOf, namesAmong_append,
      zonesAmong_append, List.forall_mem_append, ← List.append_assoc]
    constructor
    · rintro ⟨_, ⟨hsound, hnames, rfl⟩, hlater⟩
      obtain ⟨hsounds, hnames', rfl⟩ :=
        (hrest _ _ (hkeys' ▸ hnames)).mp hlater
      exact ⟨⟨hsound, hsounds⟩, hkeys' ▸ hnames', rfl⟩
    · rintro ⟨⟨hsound, hsounds⟩, hnames, rfl⟩
      have hnames' := (List.nodup_append.mp hnames).1
      exact ⟨_, ⟨hsound, hnames', rfl⟩,
        (hrest _ _ (hkeys' ▸ hnames')).mpr
          ⟨hsounds, hkeys' ▸ hnames, rfl⟩⟩

end

/-! ## Documents -/

/-- A document keeps the rules exactly if all its elements are well placed and say what they have to,
and the names of its domains are different. -/
theorem meetsSchema_iff {root : Element} :
    root.MeetsSchema ↔
      (∀ p ∈ root.places [], p.IsSound) ∧ (namesAmong root.elements).Nodup := by
  have hplace {e : Element} (h : e ∈ root.elements) : ∃ p ∈ root.places [], p.element = e := by
    rw [← map_element_places root []] at h
    exact List.mem_map.mp h
  have hmem {p : Place} (h : p ∈ root.places []) : p.element ∈ root.elements := by
    rw [← map_element_places root []]
    exact List.mem_map_of_mem h
  constructor
  · intro h
    exact ⟨fun p hp => ⟨fun hd => ⟨h.outermost p hp hd, h.domains _ (hmem hp) hd⟩,
      fun hr => ⟨h.inside p hp hr, h.records _ (hmem hp) hr⟩⟩, h.names⟩
  · rintro ⟨hsounds, hnames⟩
    refine ⟨fun p hp hd => ((hsounds p hp).domain hd).1, fun p hp hr => ((hsounds p hp).record hr).1,
      fun e he hd => ?_, fun e he hr => ?_, hnames⟩
    · obtain ⟨p, hp, rfl⟩ := hplace he
      exact ((hsounds p hp).domain hd).2
    · obtain ⟨p, hp, rfl⟩ := hplace he
      exact ((hsounds p hp).record hr).2

/-- Loading a document. The beginnings and ends of its elements give a catalogue exactly if the
document keeps the rules, and then the catalogue is the one that the document declares: the domains
in the order in which they begin, each with all the records in it. -/
theorem ofEvents_eq_ok_iff (root : Element) (zones : Catalogue) :
    (ofEvents root.events none).outcome = .ok zones ↔
      root.MeetsSchema ∧ zones = root.catalogue := by
  have hload : (ofEvents root.events none).outcome = .ok zones ↔
      ∃ b, Builder.run .empty root.events = .ok b ∧ b.build = .ok zones := by
    rw [ofEvents, Journaled.outcome_bind, outcome_foldlM_take, bind_eq_ok_iff]
    refine exists_congr fun b => and_congr_right fun _ => ?_
    simp only [Journaled.outcome_bind, Journaled.outcome_ofExcept, Journaled.outcome_pure,
      Journaled.outcome_report, ok_bind, bind_eq_ok_iff, mapError_eq_ok_iff, Except.ok.injEq,
      exists_eq_right]
  have hrun (b : Builder) := run_events_outside root [] [] b (by simp) (by simp)
  rw [hload, meetsSchema_iff]
  constructor
  · rintro ⟨_, hb, hzones⟩
    obtain ⟨hsounds, hnames, rfl⟩ := (hrun _).mp hb
    exact ⟨⟨hsounds, hnames⟩, (Except.ok.inj hzones).symm⟩
  · rintro ⟨⟨hsounds, hnames⟩, rfl⟩
    exact ⟨_, (hrun _).mpr ⟨hsounds, hnames, rfl⟩, rfl⟩

/-- A domain with a record in an unknown element and another record in that record. -/
def sample : Element :=
  let element (name : String) (attributes : List (String × String)) (children : List Element) :=
    Element.mk name.toList (attributes.map fun a => (a.1.toList, a.2.toList)) 1 children
  element "Domain" [("NAME", " e "), ("admin", "h@e"), ("ttl", "x"), ("Ttl", "1d"),
      ("refresh", "3h"), ("retry", "1h"), ("expire", "1w"), ("negttl", "1h")]
    [element "note" [] [element "record" [("type", "NS"), ("value", "n ")]
      [element "RECORD" [("type", "MX"), ("value", "m"), ("priority", "5")] []]]]

example : (ofEvents sample.events none).outcome = .ok [("e".toList,
    Zone.mk "e".toList "h@e".toList "1d".toList "3h".toList "1h".toList "1w".toList "1h".toList
      [⟨.ns, ["n".toList], none, none⟩, ⟨.mx, ["5".toList, "m".toList], none, none⟩])] := by
  decide +kernel

end Element

end Declaration

end ZoneKeeper
