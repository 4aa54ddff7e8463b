import Mathlib.Data.List.Basic
import ZoneKeeper.MasterFile.Name
import ZoneKeeper.Proofs.Outcome
import ZoneKeeper.Proofs.Text.Numeral
import ZoneKeeper.Proofs.Text.Split

/-!
# Plain names

A name of labels of letters, digits, hyphens and underscores, as hosts have them, is read as its
labels, completed by the origin; a star may stand for the first label. What such a name takes in
bytes is known from the length of its text.
-/

namespace ZoneKeeper.MasterFile

open Text

/-- Whether a character may stand in a label of a host. -/
def isLabelChar (c : Char) : Bool :=
  'a' ≤ c && c ≤ 'z' || 'A' ≤ c && c ≤ 'Z' || isAsciiDigit c || c = '-' || c = '_'

/-- Whether a text is a label of a host. -/
def IsLabel (l : Text) : Prop := l ≠ [] ∧ l.length ≤ 63 ∧ ∀ c ∈ l, isLabelChar c = true

instance (l : Text) : Decidable (IsLabel l) := by
  unfold IsLabel
  infer_instance

namespace Name

/-- The name that a text without escapes writes: the labels are what stands between the dots, and a
dot at the end makes the name absolute. -/
def ofParts (t : Text) : Name :=
  let parts := split '.' t
  if parts.getLast? = some [] then ⟨parts.dropLast, true⟩ else ⟨parts, false⟩

/-- The length of a name without a final dot. -/
def textLength (n : Name) : Nat := (join ['.'] n.labels).length

/-- Whether the labels of a name are those of a host, where the first one may be a star. -/
def IsProper (n : Name) : Prop :=
  n.labels ≠ [] ∧ ∀ l ∈ n.labels, IsLabel l ∨ l = ['*'] ∧ n.labels.head? = some l

instance (n : Name) : Decidable n.IsProper := by
  unfold IsProper
  infer_instance

/-- Whether a character may stand in a label of a plain name. -/
def isNameChar (c : Char) : Bool := isLabelChar c || c = '*'

/-- Whether a name has labels of the right size without dots or escapes. -/
def IsPlain (n : Name) : Prop :=
  n.labels ≠ [] ∧ ∀ l ∈ n.labels, l ≠ [] ∧ l.length ≤ 63 ∧ ∀ c ∈ l, isNameChar c = true

variable {n : Name} {t : Text}

theorem IsProper.isPlain (h : n.IsProper) : n.IsPlain := by
  refine ⟨h.1, fun l hl => ?_⟩
  rcases h.2 l hl with ⟨hne, hlen, hchars⟩ | ⟨rfl, -⟩
  · exact ⟨hne, hlen, fun c hc => by simp [isNameChar, hchars c hc]⟩
  · exact ⟨by decide, by decide, by decide⟩

theorem toNat_lt_of_isNameChar {c : Char} (h : isNameChar c = true) : c.toNat < 128 := by
  simp only [isNameChar, isLabelChar, isAsciiDigit, Bool.or_eq_true, Bool.and_eq_true,
    decide_eq_true_eq, Char.le_def, UInt32.le_iff_toNat_le] at h
  show c.val.toNat < 128
  rcases h with ((((⟨-, h⟩ | ⟨-, h⟩) | ⟨-, h⟩) | rfl) | rfl) | rfl
  · exact Nat.lt_of_le_of_lt h (by decide)
  · exact Nat.lt_of_le_of_lt h (by decide)
  · exact Nat.lt_of_le_of_lt h (by decide)
  · decide
  · decide
  · decide

/-- A property of the characters of plain names has to be checked of ASCII characters only. -/
theorem of_isNameChar {p : Char → Bool} {c : Char} (h : isNameChar c = true)
    (hall : ∀ n < 128, isNameChar (Char.ofNat n) = true → p (Char.ofNat n) = true) :
    p c = true :=
  forall_toNat_lt (p := fun c => isNameChar c = true → p c = true) hall (toNat_lt_of_isNameChar h) h

/-! ## Reading the labels -/

/-- Without escapes the labels are the pieces between the dots, if only the last one is empty. -/
theorem scanLabels_eq {label p : Text} {ps : List Text} (hescape : '\\' ∉ t)
    (hsplit : split '.' t = p :: ps)
    (hfull : ∀ l ∈ ((label.reverse ++ p) :: ps).dropLast, l ≠ []) :
    scanLabels true label t = .ok ((label.reverse ++ p) :: ps) := by
  -- The scan keeps the label it is in, reversed, so the induction is over any label begun before.
  induction t generalizing label p ps with
  | nil =>
    cases hsplit
    rw [scanLabels.eq_1, List.append_nil]
  | cons c t ih =>
    rw [List.mem_cons, not_or] at hescape
    have hc : c ≠ '\\' := Ne.symm hescape.1
    obtain ⟨q, qs, hqs⟩ := List.exists_cons_of_ne_nil (split_ne_nil '.' t)
    rw [scanLabels.eq_6 _ _ _ _ (by simp [hc]) (by simp [hc]) (by simp [hc]) (by simp [hc])]
    by_cases hdot : c = '.'
    · subst hdot
      rw [split, if_pos rfl, hqs] at hsplit
      cases hsplit
      rw [List.append_nil, List.dropLast_cons_of_ne_nil (by simp)] at hfull
      have hlabel : label ≠ [] := fun h => hfull _ List.mem_cons_self (by simp [h])
      have hrest : scanLabels true [] t = .ok (q :: qs) := ih hescape.2 hqs fun l hl =>
        hfull l (List.mem_cons_of_mem _ hl)
      rw [if_pos (by simp [isDot]), if_neg hlabel, hrest]
      simp [Except.map]
    · obtain ⟨rfl, rfl⟩ := List.cons.inj (hsplit.symm.trans (split_cons_of_ne hdot hqs))
      have hrest : scanLabels true (c :: label) t = .ok (((c :: label).reverse ++ q) :: ps) :=
        ih hescape.2 hqs fun l hl => hfull l (by simpa using hl)
      rw [if_neg (by simp [isDot, hdot]), hrest]
      simp

theorem split_eq (t : Text) :
    split '.' t = (ofParts t).labels ++ if (ofParts t).isAbsolute then [[]] else [] := by
  unfold ofParts
  dsimp only
  split
  · next hlast => exact (List.dropLast_append_getLast? [] hlast).symm
  · exact (List.append_nil _).symm

theorem IsPlain.eq_dot_or (h : (ofParts t).IsPlain) {c : Char} (hc : c ∈ t) :
    c = '.' ∨ isNameChar c = true := by
  refine (eq_or_exists_mem_split hc).imp_right fun ⟨l, hl, hcl⟩ => ?_
  rw [split_eq, List.mem_append] at hl
  rcases hl with hl | hl
  · exact (h.2 l hl).2.2 c hcl
  · split at hl
    · obtain rfl := List.mem_singleton.mp hl
      cases hcl
    · cases hl

/-- A plain name is read as its labels, completed by the origin, as long as that fits. -/
theorem ofText_eq_check (h : (ofParts t).IsPlain) (origin : Option Name) :
    ofText t origin = check ((ofParts t).complete origin) := by
  have hchars {p : Char → Bool} (hdot : p '.' = true)
      (hall : ∀ n < 128, isNameChar (Char.ofNat n) = true → p (Char.ofNat n) = true) :
      ∀ c ∈ t, p c = true := by
    intro c hc
    rcases h.eq_dot_or hc with rfl | hc
    · exact hdot
    · exact of_isNameChar hc hall
  have hascii : t.all International.isAscii = true :=
    List.all_eq_true.mpr (hchars (by decide) (by decide +kernel))
  have hescape : '\\' ∉ t := by
    intro hmem
    have hc := hchars (p := fun c => c ≠ '\\') (by decide) (by decide +kernel) _ hmem
    simp at hc
  have hat : ¬ (t = [] || t = ['@']) = true := by
    rw [Bool.or_eq_true, decide_eq_true_eq, decide_eq_true_eq]
    rintro (rfl | rfl)
    · exact h.1 rfl
    · have hc := (h.2 ['@'] (by decide)).2.2 '@' (by decide)
      exact absurd hc (by decide)
  have hroot : ¬ (t.length = 1 && t.all (isDot true)) = true := by
    rw [Bool.and_eq_true, decide_eq_true_eq, List.length_eq_one_iff]
    rintro ⟨⟨c, rfl⟩, hdot⟩
    obtain rfl : c = '.' := by simpa [isDot] using hdot
    exact (h.2 [] (by decide)).1 rfl
  obtain ⟨p, ps, hps⟩ := List.exists_cons_of_ne_nil (split_ne_nil '.' t)
  have hscan : scanLabels true [] t = .ok (split '.' t) := by
    rw [hps]
    refine scanLabels_eq hescape hps fun l hl => ?_
    have hl : l ∈ (split '.' t).dropLast := hps ▸ hl
    rw [split_eq] at hl
    split at hl
    · rw [List.dropLast_concat] at hl
      exact (h.2 l hl).1
    · rw [List.append_nil] at hl
      exact (h.2 l (List.dropLast_subset _ hl)).1
  rw [ofText]
  simp only [hascii, if_neg hat, if_neg hroot, hscan, ok_bind, if_true]
  rw [ofParts]
  by_cases hlast : (split '.' t).getLast? = some []
  · simp [hlast]
  · simp [hlast]

/-! ## The size of a name -/

theorem size_eq {n : Name} (hlabels : n.labels ≠ []) (habsolute : n.isAbsolute = true) :
    n.size = n.textLength + 2 := by
  have hfold (ls : List Text) (k : Nat) : ls.foldl (fun size l => size + (l.length + 1)) k =
      k + (ls.map (·.length + 1)).sum := by
    induction ls generalizing k with
    | nil => rfl
    | cons l ls ih =>
      rw [List.foldl_cons, ih, List.map_cons, List.sum_cons]
      omega
  have hjoin (l : Text) (ls : List Text) :
      (join ['.'] (l :: ls)).length + 1 = ((l :: ls).map (·.length + 1)).sum := by
    induction ls generalizing l with
    | nil => simp [join]
    | cons l' ls ih =>
      have hrest := ih l'
      rw [List.map_cons, List.sum_cons, ← hrest]
      simp [join]
      omega
  obtain ⟨l, ls, hls⟩ := List.exists_cons_of_ne_nil hlabels
  rw [size, habsolute, hfold, textLength, hls, ← hjoin]
  simp only [if_true]
  omega

/-- Checking a name does not change it. -/
theorem eq_of_check {n m : Name} (h : n.check = .ok m) : m = n := by
  unfold check at h
  split at h
  · cases h
  · split at h
    · cases h
    · exact (Except.ok.inj h).symm

/-- A name that a text writes passes its own check. -/
theorem check_of_ofText {t : Text} {origin : Option Name} {n : Name}
    (h : ofText t origin = .ok n) : n.check = .ok n := by
  have hchecked {m : Name} (hm : m.check = .ok n) : n.check = .ok n := by
    obtain rfl := eq_of_check hm
    exact hm
  unfold ofText at h
  dsimp only at h
  split at h
  · exact hchecked h
  · split at h
    · cases h
      rfl
    · obtain ⟨labels, -, h⟩ := bind_eq_ok_iff.mp h
      split at h <;>
        · obtain ⟨labels', -, h⟩ := bind_eq_ok_iff.mp h
          exact hchecked h

end Name

/-! ## Names as texts -/

/-- Whether a text writes a proper name that has at most 253 characters once the origin completes
it. -/
def IsNameText (origin : Name) (t : Text) : Prop :=
  (Name.ofParts t).IsProper ∧ ((Name.ofParts t).complete (some origin)).textLength ≤ 253

instance (origin : Name) (t : Text) : Decidable (IsNameText origin t) := by
  unfold IsNameText
  infer_instance

/-- An absolute name that has room for its labels. -/
structure IsOrigin (n : Name) : Prop where
  absolute : n.isAbsolute = true
  labels : ∀ l ∈ n.labels, l.length ≤ 63
  size : n.size ≤ 255

variable {n origin : Name} {t : Text}

theorem isOrigin_root : IsOrigin .root := ⟨rfl, by simp [Name.root], by decide⟩

theorem IsOrigin.check_eq (h : IsOrigin n) : n.check = .ok n := by
  have hlong : ¬ n.labels.any (63 < ·.length) = true := by
    rw [List.any_eq_true]
    rintro ⟨l, hl, hlong⟩
    exact absurd (h.labels l hl) (Nat.not_le.mpr (of_decide_eq_true hlong))
  rw [Name.check, if_neg hlong, if_neg (Nat.not_lt.mpr h.size)]

/-- A plain name completed by an origin fits if it has at most 253 characters. -/
theorem IsNameText.isOrigin (h : IsNameText origin t) (horigin : IsOrigin origin) :
    IsOrigin ((Name.ofParts t).complete (some origin)) := by
  obtain ⟨hproper, hlength⟩ := h
  have hplain := hproper.isPlain
  have hne : ((Name.ofParts t).complete (some origin)).labels ≠ [] := by
    rw [Name.complete]
    split
    · exact hplain.1
    · exact List.append_ne_nil_of_left_ne_nil hplain.1 _
  have habsolute : ((Name.ofParts t).complete (some origin)).isAbsolute = true := by
    rw [Name.complete]
    split
    · assumption
    · exact horigin.absolute
  refine ⟨habsolute, fun l hl => ?_, ?_⟩
  · rw [Name.complete] at hl
    split at hl
    · exact (hplain.2 l hl).2.1
    · rcases List.mem_append.mp hl with hl | hl
      · exact (hplain.2 l hl).2.1
      · exact horigin.labels l hl
  · rw [Name.size_eq hne habsolute]
    omega

theorem IsNameText.ofText (h : IsNameText origin t) (horigin : IsOrigin origin) :
    Name.ofText t (some origin) = .ok ((Name.ofParts t).complete (some origin)) := by
  rw [Name.ofText_eq_check h.1.isPlain, (h.isOrigin horigin).check_eq]

end ZoneKeeper.MasterFile
