import ZoneKeeper.Proofs.Literal
import ZoneKeeper.Proofs.Outcome
import ZoneKeeper.Spf

/-!
# Reading criteria

What criteria say and what is wrong with them, all of it at once: the character in brackets at the
end, the items between commas, and the faults in the order in which they count. Criteria without
faults are published term by term, and all others are refused for the first of their faults.
-/

namespace ZoneKeeper.Spf

open Text

/-! ## What criteria say -/

/-- The character in brackets that criteria end with, unless it is a line feed. -/
def suffix? (criteria : Text) : Option Char :=
  match (trim criteria).drop ((trim criteria).length - 3) with
  | ['[', c, ']'] => if c = '\n' then none else some c
  | _ => none

/-- The criteria without a character in brackets at the end and the blanks around the rest. -/
def body (criteria : Text) : Text :=
  if (suffix? criteria).isSome then trim ((trim criteria).take ((trim criteria).length - 3))
  else trim criteria

/-- The items of criteria, each without the blanks around it. -/
def itemsOf (criteria : Text) : List Text := (items (body criteria)).map trim

/-- The qualifier that criteria give, or the default one. -/
def qualifierOf (criteria : Text) : Char := (suffix? criteria).getD defaultQualifier

/-- What is wrong with an item: it looks like an address and is none. -/
def itemFaults (item : Text) : List Fault :=
  if isDottedNumeric item && !isAddress item then [.badAddress item] else []

/-- What is wrong with the character in brackets: it is no qualifier. -/
def suffixFaults (criteria : Text) : List Fault :=
  ((suffix? criteria).toList.filter fun c => !qualifiers.contains c).map .unknownQualifier

/-- All that is wrong with criteria. -/
def faults (criteria : Text) : List Fault :=
  suffixFaults criteria ++ (itemsOf criteria).flatMap itemFaults

/-! ## What is published -/

/-- The term that an item is published as. -/
def term (item : Text) : Text :=
  if isAddress item then "ip4:".toList ++ item else "include:".toList ++ item

/-- The terms of the policy with these items and this qualifier. -/
def terms (criteriaItems : List Text) (qualifier : Char) : List Text :=
  "v=spf1".toList :: criteriaItems.map term ++ [closing qualifier]

theorem space_not_mem_term_iff {item : Text} : ' ' ∉ term item ↔ ' ' ∉ item := by
  have hwords : ' ' ∉ "ip4:".toList ∧ ' ' ∉ "include:".toList := by decide
  rw [term]
  split
  · rw [List.mem_append, or_iff_right hwords.1]
  · rw [List.mem_append, or_iff_right hwords.2]

theorem space_not_mem_closing {q : Char} (hq : q ∈ qualifiers) : ' ' ∉ closing q := by
  have hall : ∀ q ∈ qualifiers, ' ' ∉ closing q := by decide
  exact hall q hq

/-- The terms of a policy are the words of its text if no item holds a space. -/
theorem split_join_terms {its : List Text} {q : Char} (hits : ∀ item ∈ its, ' ' ∉ item)
    (hq : q ∈ qualifiers) : split ' ' (join [' '] (terms its q)) = terms its q := by
  refine split_join_of_not_mem (List.cons_ne_nil _ _) ?_
  rw [terms, List.forall_mem_append, List.forall_mem_cons, List.forall_mem_map,
    List.forall_mem_singleton]
  exact ⟨⟨by decide, fun item hitem => space_not_mem_term_iff.mpr (hits item hitem)⟩,
    space_not_mem_closing hq⟩

/-! ## The qualifier -/

variable {criteria : Text} {c : Char}

theorem take_append_suffix (t : Text) (c : Char) :
    (t ++ ['[', c, ']']).take ((t ++ ['[', c, ']']).length - 3) = t := by
  simp

theorem drop_append_suffix (t : Text) (c : Char) :
    (t ++ ['[', c, ']']).drop ((t ++ ['[', c, ']']).length - 3) = ['[', c, ']'] := by
  simp

theorem suffix?_eq_some_iff :
    suffix? criteria = some c ↔ c ≠ '\n' ∧ ∃ t, trim criteria = t ++ ['[', c, ']'] := by
  constructor
  · intro h
    rw [suffix?] at h
    split at h
    · next d hdrop =>
      by_cases hd : d = '\n'
      · rw [if_pos hd] at h
        cases h
      · rw [if_neg hd] at h
        obtain rfl := Option.some.inj h
        refine ⟨hd, (trim criteria).take ((trim criteria).length - 3), ?_⟩
        rw [← hdrop, List.take_append_drop]
    · cases h
  · rintro ⟨hc, t, ht⟩
    rw [suffix?, ht, drop_append_suffix]
    exact if_neg hc

theorem body_of_suffix {t : Text} (hc : c ≠ '\n') (ht : trim criteria = t ++ ['[', c, ']']) :
    body criteria = trim t := by
  have hsuffix : suffix? criteria = some c := suffix?_eq_some_iff.mpr ⟨hc, t, ht⟩
  rw [body, hsuffix, ht, take_append_suffix]
  rfl

theorem splitQualifier_eq (criteria : Text) :
    splitQualifier (trim criteria) =
      verdict (suffixFaults criteria) (body criteria, qualifierOf criteria) := by
  rw [suffixFaults, qualifierOf]
  cases hsuffix : suffix? criteria with
  | some c =>
    obtain ⟨hc, t, ht⟩ := suffix?_eq_some_iff.mp hsuffix
    have hreverse : (t ++ ['[', c, ']']).reverse = ']' :: c :: '[' :: t.reverse := by simp
    rw [body_of_suffix hc ht, splitQualifier, ht, hreverse]
    simp only [hc, if_false, List.reverse_reverse, Option.toList, List.filter_singleton]
    cases qualifiers.contains c <;> rfl
  | none =>
    have hbody : body criteria = trim criteria := by
      rw [body, hsuffix]
      rfl
    rw [hbody, splitQualifier]
    split
    · next c rest hreverse =>
      have ht : trim criteria = rest.reverse ++ ['[', c, ']'] := by
        rw [← List.reverse_reverse (trim criteria), hreverse]
        simp
      by_cases hc : c = '\n'
      · rw [if_pos hc]
        rfl
      · rw [suffix?_eq_some_iff.mpr ⟨hc, rest.reverse, ht⟩] at hsuffix
        cases hsuffix
    · rfl

/-! ## The items -/

/-- The mechanism that an item without blanks around it stands for, if it stands for one. -/
def mechanism (item : Text) : Mechanism :=
  if isAddress item then .address item else .target item

theorem render_mechanism (item : Text) : (mechanism item).render = term item := by
  rw [mechanism, term]
  split <;> rfl

theorem ofItem_eq (item : Text) :
    Mechanism.ofItem item = verdict (itemFaults (trim item)) (mechanism (trim item)) := by
  rw [Mechanism.ofItem, itemFaults, mechanism]
  cases haddress : isAddress (trim item) with
  | true => simp [isDottedNumeric_of_isAddress haddress]
  | false => cases isDottedNumeric (trim item) <;> simp

/-! ## The policy -/

theorem ofCriteria_eq (criteria : Text) :
    Policy.ofCriteria criteria =
      verdict (faults criteria) ⟨(itemsOf criteria).map mechanism, qualifierOf criteria⟩ := by
  have hitems : (items (body criteria)).mapM Mechanism.ofItem =
      verdict ((itemsOf criteria).flatMap itemFaults) ((itemsOf criteria).map mechanism) := by
    have hitem : Mechanism.ofItem =
        (fun item => verdict (itemFaults item) (mechanism item)) ∘ trim := funext ofItem_eq
    rw [hitem, ← List.mapM_map, ← itemsOf, mapM_verdict]
  rw [Policy.ofCriteria, splitQualifier_eq, faults]
  cases suffixFaults criteria with
  | cons fault rest => rfl
  | nil =>
    show (items (body criteria)).mapM Mechanism.ofItem >>= _ = _
    rw [hitems]
    cases (itemsOf criteria).flatMap itemFaults <;> rfl

/-- Criteria are published term by term if nothing is wrong with them, and refused for their first
fault otherwise. -/
theorem publish_eq (criteria : Text) :
    publish criteria = verdict (faults criteria)
      (join [' '] (terms (itemsOf criteria) (qualifierOf criteria))) := by
  have hrender : Mechanism.render ∘ mechanism = term := funext render_mechanism
  rw [publish, ofCriteria_eq, map_verdict, Policy.render, List.map_map, hrender, terms]

theorem eq_badAddress_of_mem {item : Text} {fault : Fault} (h : fault ∈ itemFaults item) :
    fault = .badAddress item := by
  rw [itemFaults] at h
  split at h
  · exact List.mem_singleton.mp h
  · cases h

theorem suffixFaults_eq_nil_iff :
    suffixFaults criteria = [] ↔ ∀ c, suffix? criteria = some c → c ∈ qualifiers := by
  rw [suffixFaults]
  cases suffix? criteria with
  | none => simp
  | some c => simp

/-- A character in brackets that is no qualifier is refused whatever the items are. -/
theorem publish_of_not_mem (h : suffix? criteria = some c) (hc : c ∉ qualifiers) :
    publish criteria = .error (.unknownQualifier c) := by
  have hfault : suffixFaults criteria = [.unknownQualifier c] := by
    rw [suffixFaults, h]
    simp [hc]
  rw [publish_eq, faults, hfault]
  rfl

/-- Without a character in brackets only items are refused. -/
theorem publish_ne_unknownQualifier (h : suffix? criteria = none) (d : Char) :
    publish criteria ≠ .error (.unknownQualifier d) := by
  have hnone : suffixFaults criteria = [] := by
    rw [suffixFaults, h]
    rfl
  rw [publish_eq, faults, hnone, List.nil_append]
  intro hfault
  have hmem : Fault.unknownQualifier d ∈ (itemsOf criteria).flatMap itemFaults := by
    cases hfaults : (itemsOf criteria).flatMap itemFaults with
    | nil =>
      rw [hfaults] at hfault
      cases hfault
    | cons fault rest =>
      rw [hfaults, verdict_cons] at hfault
      rw [Except.error.inj hfault]
      exact List.mem_cons_self
  obtain ⟨item, -, hitem⟩ := List.mem_flatMap.mp hmem
  cases eq_badAddress_of_mem hitem

end ZoneKeeper.Spf
