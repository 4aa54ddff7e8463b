import ZoneKeeper.Proofs.MasterFile.Contract
import ZoneKeeper.Proofs.Zone.Published

/-!
# Literals as fields

The times, addresses and preferences of a declaration are single words of a master file, in digits
of whatever script. A preference is always a number that fits. An address is read if its numbers are
in ASCII and have no leading zeros.
-/

namespace ZoneKeeper.MasterFile

open Text

variable {t : Text}

/-! ## Literals as words -/

theorem not_endsWord_of_isDigit {c : Char} (h : isDigit c = true) :
    endsWord c = false ∧ c ≠ '\\' := by
  have hspecial : ∀ c ∈ [' ', '\t', '\n', ';', '(', ')', '"', '\\'], isDigit c = false := by decide
  constructor
  · by_contra hends
    simp only [endsWord, Bool.not_eq_false, List.contains_iff_mem] at hends
    have hno := hspecial c (List.mem_append_left ['\\'] hends)
    rw [h] at hno
    cases hno
  · rintro rfl
    exact absurd h (by decide)

/-- A word that does not end in a blank. -/
structure IsVisibleWord (t : Text) : Prop where
  isOneWord : IsOneWord t
  endsVisibly : t.EndsVisibly

/-- A literal has digits only, apart from a few characters. -/
theorem isVisibleWord_of_forall {others : Text} (hne : t ≠ [])
    (h : ∀ c ∈ t, isDigit c = true ∨ c ∈ others)
    (hothers : ∀ c ∈ others, endsWord c = false ∧ c ≠ '\\' ∧ isBlank c = false) :
    IsVisibleWord t := by
  have hchars : ∀ c ∈ t, (endsWord c = false ∧ c ≠ '\\') ∧ isBlank c = false := by
    intro c hc
    rcases h c hc with hdigit | hother
    · exact ⟨not_endsWord_of_isDigit hdigit, isBlank_of_isDigit hdigit⟩
    · obtain ⟨hends, hescape, hblank⟩ := hothers c hother
      exact ⟨⟨hends, hescape⟩, hblank⟩
  exact ⟨isOneWord_of_forall hne fun c hc => (hchars c hc).1,
    endsVisibly_of_forall hne fun c hc => (hchars c hc).2⟩

theorem isVisibleWord_of_isTime (h : isTime t = true) : IsVisibleWord t := by
  obtain ⟨c, rest, rfl, -, hall⟩ := exists_cons_of_isTime h
  exact isVisibleWord_of_forall (List.cons_ne_nil c rest) hall (by decide)

theorem isTtlShaped_of_isTime (h : isTime t = true) : IsTtlShaped t where
  isOneWord := (isVisibleWord_of_isTime h).isOneWord
  digit := by
    cases t with
    | nil => cases h
    | cons c rest =>
      obtain ⟨hc, -⟩ : isNonZeroDigit c = true ∧ isTimeTail rest = true := by
        simpa [isTime] using h
      exact isAsciiDigit_of_isNonZeroDigit hc
  noRange := not_mem_of_isTime h (by decide) (by decide)

theorem isVisibleWord_of_isPreference (h : isPreference t = true) : IsVisibleWord t :=
  isVisibleWord_of_forall (ne_nil_of_isPreference h)
    (fun _ hc => .inl (isDigit_of_isPreference h hc)) (List.forall_mem_nil _)

theorem isVisibleWord_of_isAddress (h : isAddress t = true) : IsVisibleWord t :=
  isVisibleWord_of_forall (ne_nil_of_isAddress h)
    (fun _ hc => (eq_or_isDigit_of_isAddress h hc).symm.imp_right List.mem_singleton.mpr)
    (by decide)

/-! ## Literals as fields -/

/-- Whether a text is an address in ASCII digits, without leading zeros. -/
def isCanonicalAddress (t : Text) : Bool :=
  isAddress t && (split '.' t).all fun octet =>
    octet.all isAsciiDigit && (octet.length = 1 || octet.head? ≠ some '0')

example : isCanonicalAddress "10.0.0.1".toList ∧ ¬ isCanonicalAddress "10.0.0.01".toList := by
  decide

theorem isAddress_of_isCanonicalAddress (h : isCanonicalAddress t = true) : isAddress t = true :=
  (Bool.and_eq_true_iff.mp h).1

/-- An address is strict exactly if it is canonical. -/
theorem isStrictAddress_iff (h : isAddress t = true) :
    isStrictAddress t = true ↔ isCanonicalAddress t = true := by
  obtain ⟨hlength, hoctets⟩ : (split '.' t).length = 4 ∧
      ∀ octet ∈ split '.' t, isOctet octet = true := by simpa [isAddress] using h
  have hstrict : ∀ octet ∈ split '.' t, isStrictOctet octet =
      (octet.all isAsciiDigit && (octet.length = 1 || octet.head? ≠ some '0')) := by
    intro octet hoctet
    obtain ⟨hnumeral, hvalue⟩ := Bool.and_eq_true_iff.mp (hoctets octet hoctet)
    have hne : octet ≠ [] := by
      rintro rfl
      cases hnumeral
    simp [isStrictOctet, hvalue, hne]
  rw [isStrictAddress, isCanonicalAddress, h, Bool.true_and]
  rw [hlength, decide_eq_true rfl, Bool.true_and, List.all_eq_true, List.all_eq_true]
  exact forall₂_congr fun octet hoctet => by rw [hstrict octet hoctet]

variable {f : Fields}

/-- Three digits of whatever script fit into 16 bits. -/
theorem Fields.TakesLiterals.isPreference (hf : f.TakesLiterals) (h : isPreference t = true) :
    f.IsPreference t := by
  obtain ⟨n, hn, hlt⟩ := exists_numeral? fun c hc => isDigit_of_isPreference h hc
  have hlength : t.length ≤ 3 := length_le_of_isPreference h
  have hpow : 10 ^ t.length ≤ 10 ^ 3 := Nat.pow_le_pow_right (by decide) hlength
  exact hf.preference (ne_nil_of_isPreference h) (by omega)
    (fun _ hc => isDigit_of_isPreference h hc) hn (by omega)

theorem Fields.TakesLiterals.isData_address (hf : f.TakesLiterals)
    (h : isCanonicalAddress t = true) (apex : Name) : f.IsData .a apex [.word t] :=
  hf.address ((isStrictAddress_iff (isAddress_of_isCanonicalAddress h)).mpr h)

end ZoneKeeper.MasterFile
