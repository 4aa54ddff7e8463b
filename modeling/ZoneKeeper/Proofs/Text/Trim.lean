import Mathlib.Data.List.DropRight
import ZoneKeeper.Proofs.Text.Split
import ZoneKeeper.Text.Blank

/-!
# Trimmed texts

A text is trimmed if trimming leaves it as it is. Whatever is trimmed comes out trimmed, and so is
every text without blanks. Blanks around a text do not matter to what it is trimmed to, nor to what
the pieces between separators are trimmed to.
-/

namespace ZoneKeeper.Text

/-- Whether a text neither begins nor ends with a blank. -/
def IsTrimmed (t : Text) : Prop := trim t = t

variable {t : Text}

@[simp] theorem trimRight_trimRight (t : Text) : trimRight (trimRight t) = trimRight t :=
  List.rdropWhile_idempotent isBlank t

theorem isBlank_of_trimLeft_eq_cons {c : Char} {rest : Text} (h : trimLeft t = c :: rest) :
    isBlank c = false := by
  have hdrop : t.dropWhile isBlank = c :: rest := h
  have hne : t.dropWhile isBlank ≠ [] := hdrop ▸ List.cons_ne_nil c rest
  have hhead := List.head_dropWhile_not isBlank hne
  simpa only [hdrop, List.head_cons] using hhead

/-- Trimming at the end uncovers no blank at the beginning. -/
theorem trimLeft_trim (t : Text) : trimLeft (trim t) = trim t := by
  obtain ⟨blanks, hblanks⟩ : trim t <+: trimLeft t := List.rdropWhile_prefix isBlank (trimLeft t)
  cases h : trim t with
  | nil => rfl
  | cons c rest =>
    rw [h] at hblanks
    have hc : isBlank c = false := isBlank_of_trimLeft_eq_cons hblanks.symm
    rw [trimLeft, List.dropWhile_cons_of_neg (by simp [hc])]

theorem isTrimmed_trim (t : Text) : (trim t).IsTrimmed := by
  rw [IsTrimmed, trim, trimLeft_trim, trim, trimRight_trimRight]

theorem IsTrimmed.trimRight_eq (h : t.IsTrimmed) : trimRight t = t := by
  rw [← h, trim, trimRight_trimRight]

theorem isTrimmed_of_forall_not_isBlank (h : ∀ c ∈ t, isBlank c = false) : t.IsTrimmed := by
  have hleft : trimLeft t = t := by
    cases t with
    | nil => rfl
    | cons c rest =>
      rw [trimLeft, List.dropWhile_cons_of_neg (by simp [h c List.mem_cons_self])]
  have hright : trimRight t = t := by
    refine (List.rdropWhile_eq_self_iff (p := isBlank)).mpr fun hne => ?_
    simp [h _ (List.getLast_mem hne)]
  rw [IsTrimmed, trim, hleft, hright]

/-! ## Blanks around a text -/

/-- Whether a text is nothing but blanks. -/
def IsBlanks (t : Text) : Prop := ∀ c ∈ t, isBlank c = true

variable {l r : Text}

theorem IsBlanks.not_mem (h : t.IsBlanks) {c : Char} (hc : isBlank c = false) : c ∉ t := by
  intro hmem
  rw [h c hmem] at hc
  cases hc

theorem trimLeft_eq_nil_iff : trimLeft t = [] ↔ t.IsBlanks := List.dropWhile_eq_nil_iff

theorem trimLeft_append_of_isBlanks (h : l.IsBlanks) (t : Text) :
    trimLeft (l ++ t) = trimLeft t :=
  List.dropWhile_append_of_pos h

theorem trimLeft_append (h : trimLeft t ≠ []) (r : Text) : trimLeft (t ++ r) = trimLeft t ++ r := by
  have hne : ¬ (t.dropWhile isBlank).isEmpty = true := by rwa [List.isEmpty_iff]
  rw [trimLeft, List.dropWhile_append, if_neg hne]
  rfl

theorem trimRight_append_of_isBlanks (h : r.IsBlanks) (t : Text) :
    trimRight (t ++ r) = trimRight t := by
  have hreverse : ∀ c ∈ r.reverse, isBlank c = true := fun c hc => h c (List.mem_reverse.mp hc)
  rw [trimRight, List.reverse_append, List.dropWhile_append_of_pos hreverse]
  rfl

/-- A text that holds a character that is not blank keeps everything before it. -/
theorem trimRight_append (s : Text) (h : ∃ c ∈ t, isBlank c = false) :
    trimRight (s ++ t) = s ++ trimRight t := by
  obtain ⟨c, hc, hblank⟩ := h
  have hne : (t.reverse.dropWhile isBlank).isEmpty = false := by
    rw [List.isEmpty_eq_false_iff, Ne, List.dropWhile_eq_nil_iff]
    intro hall
    simp [hall c (List.mem_reverse.mpr hc)] at hblank
  simp [trimRight, List.dropWhile_append, hne]

/-- Trimming takes blanks away at the end and nothing else. -/
theorem exists_trimRight_append (t : Text) :
    ∃ blanks, IsBlanks blanks ∧ t = trimRight t ++ blanks :=
  ⟨t.rtakeWhile isBlank, fun _ hc => List.mem_rtakeWhile_imp hc,
    List.rdropWhile_append_rtakeWhile.symm⟩

theorem trim_append_of_isBlanks (h : r.IsBlanks) (t : Text) : trim (t ++ r) = trim t := by
  by_cases hne : trimLeft t = []
  · have hblanks := trimLeft_eq_nil_iff.mp hne
    have hall : trimLeft (t ++ r) = [] :=
      trimLeft_eq_nil_iff.mpr (List.forall_mem_append.mpr ⟨hblanks, h⟩)
    rw [trim, trim, hall, hne]
  · rw [trim, trim, trimLeft_append hne, trimRight_append_of_isBlanks h]

theorem trim_append_of_isBlanks_left (h : l.IsBlanks) (t : Text) : trim (l ++ t) = trim t := by
  rw [trim, trim, trimLeft_append_of_isBlanks h]

/-- Whether a text is another one with blanks around it. -/
def Pads (t padded : Text) : Prop :=
  ∃ l r, IsBlanks l ∧ IsBlanks r ∧ padded = l ++ t ++ r

theorem Pads.trim_eq {padded : Text} (h : Pads t padded) : trim padded = trim t := by
  obtain ⟨l, r, hl, hr, rfl⟩ := h
  rw [trim_append_of_isBlanks hr, trim_append_of_isBlanks_left hl]

theorem Pads.not_mem {padded : Text} (h : Pads t padded) {c : Char} (hc : isBlank c = false)
    (ht : c ∉ t) : c ∉ padded := by
  obtain ⟨l, r, hl, hr, rfl⟩ := h
  rw [List.mem_append, List.mem_append, not_or, not_or]
  exact ⟨⟨hl.not_mem hc, ht⟩, hr.not_mem hc⟩

/-- A text is what it is trimmed to, with blanks around it. -/
theorem pads_trim (t : Text) : Pads (trim t) t := by
  obtain ⟨blanks, hblanks, hright⟩ := exists_trimRight_append (trimLeft t)
  refine ⟨t.takeWhile isBlank, blanks, fun c hc => List.mem_takeWhile_imp hc, hblanks, ?_⟩
  rw [List.append_assoc, trim, ← hright]
  exact List.takeWhile_append_dropWhile.symm

@[simp] theorem trim_trimLeft (t : Text) : trim (trimLeft t) = trim t := by
  have hleft : trimLeft (trimLeft t) = trimLeft t := List.dropWhile_idempotent isBlank t
  rw [trim, hleft, trim]

theorem mem_of_mem_trim {c : Char} (h : c ∈ trim t) : c ∈ t := by
  obtain ⟨l, r, -, -, ht⟩ := pads_trim t
  rw [ht]
  exact List.mem_append_left r (List.mem_append_right l h)

/-- Of a text that begins and ends with visible characters nothing is trimmed off, whatever comes
before it. -/
theorem trim_append_visible {c d : Char} (hc : isBlank c = false) (hd : isBlank d = false)
    (t m : Text) : trim (t ++ c :: (m ++ [d])) = trimLeft t ++ c :: (m ++ [d]) := by
  have hleft : trimLeft (t ++ c :: (m ++ [d])) = trimLeft t ++ c :: (m ++ [d]) := by
    by_cases hne : trimLeft t = []
    · have hrest : trimLeft (c :: (m ++ [d])) = c :: (m ++ [d]) :=
        List.dropWhile_cons_of_neg (by simp [hc])
      rw [trimLeft_append_of_isBlanks (trimLeft_eq_nil_iff.mp hne), hne, hrest, List.nil_append]
    · exact trimLeft_append hne _
  have hright : trimRight (trimLeft t ++ c :: (m ++ [d])) = trimLeft t ++ c :: (m ++ [d]) := by
    rw [← List.cons_append, ← List.append_assoc]
    exact List.rdropWhile_concat_neg isBlank _ d (by simp [hd])
  rw [trim, hleft, hright]

/-! ## Blanks around pieces -/

theorem map_trim_split_append_left {c : Char} (hc : isBlank c = false) (hl : l.IsBlanks)
    (t : Text) : (split c (l ++ t)).map trim = (split c t).map trim := by
  induction l with
  | nil => rfl
  | cons a l ih =>
    obtain ⟨ha, hl⟩ := List.forall_mem_cons.mp hl
    have hne : a ≠ c := by
      rintro rfl
      rw [ha] at hc
      cases hc
    obtain ⟨p, ps, hps⟩ := List.exists_cons_of_ne_nil (split_ne_nil c (l ++ t))
    have hp : trim (a :: p) = trim p :=
      trim_append_of_isBlanks_left (l := [a]) (by simpa [IsBlanks] using ha) p
    rw [List.cons_append, split_cons_of_ne hne hps, ← ih hl, hps, List.map_cons, List.map_cons, hp]

theorem map_trim_split_append_right {c : Char} (hc : isBlank c = false) (hr : r.IsBlanks)
    (t : Text) : (split c (t ++ r)).map trim = (split c t).map trim := by
  obtain ⟨ps, last, hps⟩ := (List.eq_nil_or_concat' (split c t)).resolve_left (split_ne_nil c t)
  rw [split_append_of_not_mem hps (hr.not_mem hc), hps, List.map_append, List.map_append,
    List.map_singleton, List.map_singleton, trim_append_of_isBlanks hr]

/-- Trimming a text first makes no difference to what its pieces are trimmed to. -/
theorem map_trim_split_trim {c : Char} (hc : isBlank c = false) (t : Text) :
    (split c (trim t)).map trim = (split c t).map trim := by
  obtain ⟨l, r, hl, hr, ht⟩ := pads_trim t
  conv_rhs => rw [ht]
  rw [map_trim_split_append_right hc hr, map_trim_split_append_left hc hl]

end ZoneKeeper.Text
