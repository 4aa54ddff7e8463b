import ZoneKeeper.Literal
import ZoneKeeper.Proofs.Text.Numeral
import ZoneKeeper.Proofs.Text.Split
import ZoneKeeper.Proofs.Text.Trim

/-!
# The characters of literals

Times, addresses and preferences are digits, of whatever script, with a unit letter or dots among
them; so none of them holds a blank or another character that separates the fields of a file.
-/

namespace ZoneKeeper

open Text

theorem isAsciiDigit_of_isNonZeroDigit {c : Char} (h : isNonZeroDigit c = true) :
    isAsciiDigit c = true := by
  simp only [isNonZeroDigit, Bool.and_eq_true, decide_eq_true_eq, Char.le_def,
    UInt32.le_iff_toNat_le] at h
  have hfrom : 49 ≤ c.toNat := h.1
  have hto : c.toNat ≤ 57 := h.2
  exact isAsciiDigit_iff.mpr ⟨by omega, hto⟩

theorem isDigit_of_isNonZeroDigit {c : Char} (h : isNonZeroDigit c = true) : isDigit c = true :=
  isDigit_of_isAsciiDigit (isAsciiDigit_of_isNonZeroDigit h)

theorem isDigit_or_mem_timeUnits_of_isTimeTail {t : Text} (h : isTimeTail t = true) {c : Char}
    (hc : c ∈ t) : isDigit c = true ∨ c ∈ timeUnits := by
  induction t with
  | nil => cases hc
  | cons a t ih =>
    cases t with
    | nil =>
      obtain rfl := List.mem_singleton.mp hc
      simpa [isTimeTail] using h
    | cons b t =>
      obtain ⟨ha, htail⟩ : isDigit a = true ∧ isTimeTail (b :: t) = true := by
        simpa [isTimeTail] using h
      rcases List.mem_cons.mp hc with rfl | hc
      · exact .inl ha
      · exact ih htail hc

/-- A time begins with a digit, and has digits and unit letters only. -/
theorem exists_cons_of_isTime {t : Text} (h : isTime t = true) :
    ∃ c rest, t = c :: rest ∧ isDigit c = true ∧
      ∀ a ∈ t, isDigit a = true ∨ a ∈ timeUnits := by
  cases t with
  | nil => cases h
  | cons c rest =>
    obtain ⟨hc, hrest⟩ : isNonZeroDigit c = true ∧ isTimeTail rest = true := by
      simpa [isTime] using h
    have hdigit := isDigit_of_isNonZeroDigit hc
    refine ⟨c, rest, rfl, hdigit, fun a ha => ?_⟩
    rcases List.mem_cons.mp ha with rfl | ha
    · exact .inl hdigit
    · exact isDigit_or_mem_timeUnits_of_isTimeTail hrest ha

theorem not_mem_of_isTime {t : Text} (h : isTime t = true) {c : Char} (hc : isDigit c = false)
    (hunit : c ∉ timeUnits) : c ∉ t := by
  intro hmem
  obtain ⟨-, -, -, -, hall⟩ := exists_cons_of_isTime h
  rcases hall c hmem with hdigit | hmem
  · rw [hc] at hdigit
    cases hdigit
  · exact hunit hmem

theorem ne_nil_of_isPreference {t : Text} (h : isPreference t = true) : t ≠ [] := by
  rintro rfl
  cases h

theorem isDigit_of_isPreference {t : Text} (h : isPreference t = true) {c : Char} (hc : c ∈ t) :
    isDigit c = true := by
  cases t with
  | nil => cases h
  | cons a rest =>
    obtain ⟨⟨ha, -⟩, hrest⟩ : (isNonZeroDigit a = true ∧ rest.length ≤ 2) ∧
        ∀ x ∈ rest, isDigit x = true := by simpa [isPreference] using h
    rcases List.mem_cons.mp hc with rfl | hc
    · exact isDigit_of_isNonZeroDigit ha
    · exact hrest c hc

theorem not_mem_of_isPreference {t : Text} (h : isPreference t = true) {c : Char}
    (hc : isDigit c = false) : c ∉ t := by
  intro hmem
  rw [isDigit_of_isPreference h hmem] at hc
  cases hc

theorem length_le_of_isPreference {t : Text} (h : isPreference t = true) : t.length ≤ 3 := by
  cases t with
  | nil => cases h
  | cons a rest =>
    obtain ⟨⟨-, hlen⟩, -⟩ : (isNonZeroDigit a = true ∧ rest.length ≤ 2) ∧
        ∀ x ∈ rest, isDigit x = true := by simpa [isPreference] using h
    exact Nat.succ_le_succ hlen

/-- No digit of any script is a blank. -/
theorem isBlank_of_isDigit {c : Char} (h : isDigit c = true) : isBlank c = false := by
  have hall : ∀ z ∈ digitZeros, ∀ k < 10, isBlank (Char.ofNat (z + k)) = false := by decide
  obtain ⟨_, hvalue⟩ := Option.isSome_iff_exists.mp h
  obtain ⟨z, hz, -⟩ := Option.map_eq_some_iff.mp hvalue
  have hin := List.find?_some hz
  simp only [Bool.and_eq_true, decide_eq_true_eq] at hin
  have hc := hall z (List.mem_of_find?_eq_some hz) (c.toNat - z) (by omega)
  rwa [Nat.add_sub_cancel' hin.1, Char.ofNat_toNat] at hc

/-- An address has digits and dots only. -/
theorem eq_or_isDigit_of_isAddress {t : Text} (h : isAddress t = true) {c : Char} (hc : c ∈ t) :
    c = '.' ∨ isDigit c = true := by
  obtain ⟨-, hoctets⟩ : (split '.' t).length = 4 ∧ ∀ octet ∈ split '.' t, isOctet octet = true := by
    simpa [isAddress] using h
  refine (eq_or_exists_mem_split hc).imp_right fun ⟨octet, hoctet, hc⟩ => ?_
  obtain ⟨⟨-, hdigits⟩, -⟩ : (_ ∧ ∀ c ∈ octet, isDigit c = true) ∧ _ := by
    simpa [isOctet, isOctetNumeral] using hoctets octet hoctet
  exact hdigits c hc

theorem ne_nil_of_isAddress {t : Text} (h : isAddress t = true) : t ≠ [] := by
  rintro rfl
  cases h

theorem isBlank_of_isAddress {t : Text} (h : isAddress t = true) {c : Char} (hc : c ∈ t) :
    isBlank c = false := by
  rcases eq_or_isDigit_of_isAddress h hc with rfl | hdigit
  · decide
  · exact isBlank_of_isDigit hdigit

theorem isTrimmed_of_isAddress {t : Text} (h : isAddress t = true) : t.IsTrimmed :=
  isTrimmed_of_forall_not_isBlank fun _ hc => isBlank_of_isAddress h hc

/-! ## What looks like an address -/

/-- Whether a text is at least two groups of one to three digits with dots between them. -/
def IsDottedGroups (t : Text) : Prop :=
  ∃ groups : List Text, 2 ≤ groups.length ∧
    (∀ g ∈ groups, 1 ≤ g.length ∧ g.length ≤ 3 ∧ ∀ c ∈ g, isDigit c = true) ∧
    t = join ['.'] groups

theorem isOctetNumeral_iff {t : Text} :
    isOctetNumeral t = true ↔ 1 ≤ t.length ∧ t.length ≤ 3 ∧ ∀ c ∈ t, isDigit c = true := by
  simp [isOctetNumeral, and_assoc]

theorem isDottedNumeric_iff {t : Text} : isDottedNumeric t = true ↔ IsDottedGroups t := by
  have hsplit : isDottedNumeric t = true ↔
      2 ≤ (split '.' t).length ∧ ∀ g ∈ split '.' t, isOctetNumeral g = true := by
    simp [isDottedNumeric]
  rw [hsplit]
  constructor
  · rintro ⟨hlength, hgroups⟩
    exact ⟨split '.' t, hlength, fun g hg => isOctetNumeral_iff.mp (hgroups g hg),
      (join_split '.' t).symm⟩
  · rintro ⟨groups, hlength, hgroups, rfl⟩
    have hne : groups ≠ [] := by
      rintro rfl
      cases hlength
    have hdots : ∀ g ∈ groups, '.' ∉ g := by
      intro g hg hdot
      have hdigit := (hgroups g hg).2.2 '.' hdot
      exact absurd hdigit (by decide)
    rw [split_join_of_not_mem hne hdots]
    exact ⟨hlength, fun g hg => isOctetNumeral_iff.mpr (hgroups g hg)⟩

instance (t : Text) : Decidable (IsDottedGroups t) :=
  decidable_of_iff (isDottedNumeric t = true) isDottedNumeric_iff

theorem isDottedNumeric_of_isAddress {t : Text} (h : isAddress t = true) :
    isDottedNumeric t = true := by
  obtain ⟨hlength, hoctets⟩ :
      (split '.' t).length = 4 ∧ ∀ octet ∈ split '.' t, isOctet octet = true := by
    simpa [isAddress] using h
  have hnumerals : ∀ g ∈ split '.' t, isOctetNumeral g = true := by
    intro g hg
    exact (Bool.and_eq_true_iff.mp (hoctets g hg)).1
  have htwo : 2 ≤ (split '.' t).length := by omega
  simpa [isDottedNumeric] using ⟨htwo, hnumerals⟩

end ZoneKeeper
