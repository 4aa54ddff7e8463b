import ZoneKeeper.MasterFile.Data
import ZoneKeeper.Proofs.Literal
import ZoneKeeper.Proofs.MasterFile.Name
import ZoneKeeper.Proofs.MasterFile.Token

/-!
# Plain data

Times, preferences, addresses and strings in ASCII, and what reading them gives. Times are worth
what their digits say, times what their unit stands for.
-/

namespace ZoneKeeper.MasterFile

open Text

/-! ## Plain fields -/

/-- What the unit of a time is worth in seconds; a time without a unit is in seconds. -/
def timeSuffixes : List (Text × Nat) :=
  [([], 1), (['s'], 1), (['S'], 1), (['m'], 60), (['M'], 60), (['h'], 3600), (['H'], 3600),
   (['d'], 86400), (['D'], 86400), (['w'], 604800), (['W'], 604800)]

/-- Whether a text is a time in ASCII that is worth a number of seconds. -/
def IsWorth (t : Text) (seconds : Nat) : Prop :=
  isTime t = true ∧ ∃ digits suffix n unit, t = digits ++ suffix ∧
    (∀ c ∈ digits, isAsciiDigit c = true) ∧ numeral? digits = some n ∧
      (suffix, unit) ∈ timeSuffixes ∧ seconds = n * unit

/-- Whether a text is a time in ASCII that is worth at most 2³² - 1 seconds. -/
def IsPlainTime (t : Text) : Prop := ∃ seconds, IsWorth t seconds ∧ seconds ≤ 4294967295

/-- Whether a text is a number in ASCII of at most 2³² - 1. -/
def IsPlainSerial (t : Text) : Prop :=
  t ≠ [] ∧ (∀ c ∈ t, isAsciiDigit c = true) ∧ ∃ n, numeral? t = some n ∧ n ≤ 4294967295

/-- Whether a text is a preference in ASCII. -/
def IsPlainPreference (t : Text) : Prop :=
  isPreference t = true ∧ ∀ c ∈ t, isAsciiDigit c = true

instance (t : Text) : Decidable (IsPlainPreference t) := by
  unfold IsPlainPreference
  infer_instance

/-- Whether a text is four numbers of at most 255 between dots. -/
def IsPlainAddress (t : Text) : Prop :=
  ∃ a b c d : Nat, a ≤ 255 ∧ b ≤ 255 ∧ c ≤ 255 ∧ d ≤ 255 ∧
    t = decimal a ++ '.' :: (decimal b ++ '.' :: (decimal c ++ '.' :: decimal d))

/-- Whether a text is at most 255 printable ASCII characters between double quotes, none of them a
double quote or a backslash. -/
def IsPlainQuoted (t : Text) : Prop :=
  ∃ inner, t = '"' :: (inner ++ ['"']) ∧ inner.length ≤ 255 ∧
    ∀ c ∈ inner, 0x20 ≤ c.toNat ∧ c.toNat ≤ 0x7E ∧ c ≠ '"' ∧ c ≠ '\\'

/-! ## Times -/

theorem isPlain_of_isAsciiDigit {c : Char} (h : isAsciiDigit c = true) : isPlain c = true := by
  have hall : ∀ n < 58, isAsciiDigit (Char.ofNat n) = true → isPlain (Char.ofNat n) = true := by
    decide
  have hlt : c.toNat < 58 := Nat.lt_succ_of_le (isAsciiDigit_iff.mp h).2
  exact forall_toNat_lt (p := fun c => isAsciiDigit c = true → isPlain c = true) hall hlt h

theorem IsPlainWord.of_digits {w : Text} (hne : w ≠ []) (h : ∀ c ∈ w, isAsciiDigit c = true) :
    IsPlainWord w :=
  ⟨hne, fun c hc => isPlain_of_isAsciiDigit (h c hc)⟩

theorem timeSuffixes_spec : ∀ p ∈ timeSuffixes, p.1.length ≤ 1 ∧ (p.1 = [] → p.2 = 1) ∧
    ∀ c ∈ p.1, digitValue? c = none ∧ unitSeconds? c = some p.2 ∧ isPlain c = true := by
  decide

theorem scanUnits_digits {digits : Text} (h : ∀ c ∈ digits, isDigit c = true) (k total : Nat)
    (rest : Text) : ∃ n, numeralFrom? k digits = some n ∧
      scanUnits total (some k) (digits ++ rest) = scanUnits total (some n) rest := by
  induction digits generalizing k with
  | nil => exact ⟨k, rfl, rfl⟩
  | cons c digits ih =>
    obtain ⟨d, hd⟩ := Option.isSome_iff_exists.mp (h c List.mem_cons_self)
    obtain ⟨n, hn, hscan⟩ := ih (fun c hc => h c (List.mem_cons_of_mem _ hc)) (10 * k + d)
    refine ⟨n, by rw [numeralFrom?_cons, hd, Option.bind_some, hn], ?_⟩
    rw [List.cons_append, scanUnits, hd]
    exact hscan

/-- Digits and a unit are worth the number of the digits in units. -/
theorem scanUnits_unit {digits : Text} {c : Char} {n unit : Nat} (hne : digits ≠ [])
    (hdigits : ∀ c ∈ digits, isDigit c = true) (hn : numeral? digits = some n)
    (hc : digitValue? c = none) (hunit : unitSeconds? c = some unit) :
    scanUnits 0 none (digits ++ [c]) = some (n * unit) := by
  cases digits with
  | nil => exact absurd rfl hne
  | cons d digits =>
    obtain ⟨value, hd⟩ := Option.isSome_iff_exists.mp (hdigits d List.mem_cons_self)
    obtain ⟨m, hm, hscan⟩ :=
      scanUnits_digits (fun c hc => hdigits c (List.mem_cons_of_mem _ hc)) (10 * 0 + value) 0 [c]
    have hnm : numeralFrom? 0 (d :: digits) = some n := hn
    rw [numeralFrom?_cons, hd, Option.bind_some, hm] at hnm
    obtain rfl := Option.some.inj hnm
    rw [List.cons_append, scanUnits, hd]
    show scanUnits 0 (some (10 * 0 + value)) (digits ++ [c]) = _
    rw [hscan, scanUnits, hc]
    simp [hunit, scanUnits]

/-- Digits, of whatever script, and a unit are read as the number of the digits in units, if that
fits. -/
theorem ttl?_append {digits suffix : Text} {n unit : Nat} (hne : digits ≠ [])
    (hdigits : ∀ c ∈ digits, isDigit c = true) (hn : numeral? digits = some n)
    (hunit : (suffix, unit) ∈ timeSuffixes) :
    ttl? (digits ++ suffix) = if n * unit ≤ maxTtl then some (n * unit) else none := by
  obtain ⟨hlen, hnil, hletter⟩ := timeSuffixes_spec _ hunit
  rw [ttl?, if_neg (List.append_ne_nil_of_left_ne_nil hne _)]
  match suffix, hlen, hnil, hletter with
  | [], _, hnil, _ =>
    obtain rfl : unit = 1 := hnil rfl
    rw [List.append_nil, if_pos (List.all_eq_true.mpr hdigits), hn, Nat.mul_one]
    rfl
  | [c], _, _, hletter =>
    obtain ⟨hc, hunit, -⟩ := hletter c List.mem_cons_self
    have hall : ¬ (digits ++ [c]).all isDigit = true := by
      rw [List.all_eq_true]
      intro hall
      have hdigit := hall c (by simp)
      rw [isDigit, hc] at hdigit
      cases hdigit
    rw [if_neg hall, scanUnits_unit hne hdigits hn hc hunit]
    rfl

variable {t : Text} {seconds : Nat}

theorem IsWorth.exists_digits (h : IsWorth t seconds) :
    ∃ digits suffix n unit, digits ≠ [] ∧ t = digits ++ suffix ∧
      (∀ c ∈ digits, isAsciiDigit c = true) ∧ numeral? digits = some n ∧
        (suffix, unit) ∈ timeSuffixes ∧ seconds = n * unit := by
  obtain ⟨htime, digits, suffix, n, unit, rfl, hdigits, hn, hunit, hseconds⟩ := h
  refine ⟨digits, suffix, n, unit, ?_, rfl, hdigits, hn, hunit, hseconds⟩
  rintro rfl
  obtain ⟨c, rest, hsuffix, hc, -⟩ := exists_cons_of_isTime htime
  rw [List.nil_append] at hsuffix
  subst hsuffix
  have hnone := ((timeSuffixes_spec _ hunit).2.2 c List.mem_cons_self).1
  rw [isDigit, hnone] at hc
  cases hc

/-- A time in ASCII is read as what it is worth. -/
theorem IsWorth.ttl?_eq (h : IsWorth t seconds) (hle : seconds ≤ 4294967295) :
    ttl? t = some seconds := by
  obtain ⟨digits, suffix, n, unit, hne, rfl, hdigits, hn, hunit, rfl⟩ := h.exists_digits
  exact (ttl?_append hne (fun c hc => isDigit_of_isAsciiDigit (hdigits c hc)) hn hunit).trans
    (if_pos hle)

theorem IsWorth.isPlainWord (h : IsWorth t seconds) : IsPlainWord t := by
  obtain ⟨digits, suffix, n, unit, hne, rfl, hdigits, -, hunit, -⟩ := h.exists_digits
  refine ⟨List.append_ne_nil_of_left_ne_nil hne _, fun c hc => ?_⟩
  rcases List.mem_append.mp hc with hc | hc
  · exact isPlain_of_isAsciiDigit (hdigits c hc)
  · exact ((timeSuffixes_spec _ hunit).2.2 c hc).2.2

theorem IsPlainTime.isPlainWord (h : IsPlainTime t) : IsPlainWord t :=
  h.choose_spec.1.isPlainWord

theorem IsPlainTime.isTime (h : IsPlainTime t) : isTime t = true :=
  h.choose_spec.1.1

theorem IsPlainTime.exists_ttl? (h : IsPlainTime t) : ∃ n, ttl? t = some n :=
  ⟨_, h.choose_spec.1.ttl?_eq h.choose_spec.2⟩

/-! ## Words read as data -/

theorem unescape_cons {c : Char} (hc : c ≠ '\\') (t : Text) :
    unescape (c :: t) = (unescape t).map ((c, (Utf8.encodeChar c).length) :: ·) :=
  unescape.eq_4 c t fun _ _ h => absurd h hc

theorem unescape_eq (h : '\\' ∉ t) :
    unescape t = .ok (t.map fun c => (c, (Utf8.encodeChar c).length)) := by
  induction t with
  | nil => rfl
  | cons c t ih =>
    rw [List.mem_cons, not_or] at h
    rw [unescape_cons (Ne.symm h.1), ih h.2]
    rfl

/-- An escape stands for one character, and it takes at least the one behind the backslash. -/
theorem exists_of_unescape_escape {a : Char} {u : List (Char × Nat)}
    (h : unescape ('\\' :: a :: t) = .ok u) :
    ∃ x rest u', u = x :: u' ∧ rest <:+ t ∧ unescape rest = .ok u' := by
  by_cases ha : isDigit a = true
  · match t with
    | [] | [_] => simp [unescape, ha] at h
    | b :: c :: rest =>
      rw [unescape.eq_2, if_pos ha] at h
      split at h
      · obtain ⟨u', hu', rfl⟩ := map_eq_ok_iff.mp h
        exact ⟨_, rest, u', rfl, ⟨[b, c], rfl⟩, hu'⟩
      · cases h
  · have hstep : unescape ('\\' :: a :: t) =
        (unescape t).map ((a, (Utf8.encodeChar a).length) :: ·) := by
      match t with
      | [] | [_] => rw [unescape.eq_3 _ _ (by simp), if_neg ha]
      | b :: c :: rest => rw [unescape.eq_2, if_neg ha]
    rw [hstep] at h
    obtain ⟨u', hu', rfl⟩ := map_eq_ok_iff.mp h
    exact ⟨_, t, u', rfl, List.suffix_rfl, hu'⟩

/-- Undoing escapes makes no text longer. -/
theorem length_unescape_le {u : List (Char × Nat)} (h : unescape t = .ok u) :
    u.length ≤ t.length := by
  induction hn : t.length using Nat.strong_induction_on generalizing t u with
  | _ n ih =>
    subst hn
    match t with
    | [] =>
      obtain rfl := Except.ok.inj h
      exact Nat.le_refl _
    | c :: t =>
      by_cases hc : c = '\\'
      · subst hc
        cases t with
        | nil =>
          obtain rfl := Except.ok.inj h
          exact Nat.le_refl _
        | cons a t =>
          obtain ⟨x, rest, u', rfl, hrest, hu'⟩ := exists_of_unescape_escape h
          have hshorter := hrest.length_le
          have hle := ih rest.length (by simp only [List.length_cons]; omega) hu' rfl
          simp only [List.length_cons]
          omega
      · rw [unescape_cons hc] at h
        obtain ⟨u', hu', rfl⟩ := map_eq_ok_iff.mp h
        have hle := ih t.length (Nat.lt_succ_self _) hu' rfl
        simp only [List.length_cons]
        omega

/-- An escaped text that stands for itself has no escapes: any of them would make it shorter. -/
theorem IsEscaped.not_mem_escape {u : List (Char × Nat)} (h : IsEscaped t)
    (hu : unescape t = .ok u) (heq : u.map (·.1) = t) : '\\' ∉ t := by
  induction h generalizing u with
  | nil => exact List.not_mem_nil
  | plain _ hescape _ _ ih =>
    rw [unescape_cons hescape] at hu
    obtain ⟨u', hu', rfl⟩ := map_eq_ok_iff.mp hu
    rw [List.mem_cons, not_or]
    exact ⟨Ne.symm hescape, ih hu' (List.cons.inj heq).2⟩
  | escape c _ _ =>
    obtain ⟨x, rest, u', rfl, hrest, hu'⟩ := exists_of_unescape_escape hu
    have hlength := congrArg List.length heq
    have hshorter := hrest.length_le
    have hle := length_unescape_le hu'
    simp only [List.map_cons, List.length_cons, List.length_map] at hlength
    omega

/-! ## Addresses -/

theorem isStrictOctet_decimal : ∀ n ≤ 255, isStrictOctet (decimal n) = true := by
  decide +kernel

theorem IsPlainAddress.isStrictAddress (h : IsPlainAddress t) : isStrictAddress t = true := by
  obtain ⟨a, b, c, d, ha, hb, hc, hd, rfl⟩ := h
  have hdot (n : Nat) : '.' ∉ decimal n := fun hmem =>
    absurd (isAsciiDigit_of_mem_decimal hmem) (by decide)
  simp only [MasterFile.isStrictAddress, split_append_cons (hdot _), split_of_not_mem (hdot _)]
  simp [isStrictOctet_decimal, ha, hb, hc, hd]

theorem IsPlainAddress.isPlainWord (h : IsPlainAddress t) : IsPlainWord t := by
  obtain ⟨a, b, c, d, -, -, -, -, rfl⟩ := h
  refine ⟨by simp, fun x hx => ?_⟩
  simp only [List.mem_append, List.mem_cons] at hx
  rcases hx with hx | rfl | hx | rfl | hx | rfl | hx
  · exact isPlain_of_isAsciiDigit (isAsciiDigit_of_mem_decimal hx)
  · decide
  · exact isPlain_of_isAsciiDigit (isAsciiDigit_of_mem_decimal hx)
  · decide
  · exact isPlain_of_isAsciiDigit (isAsciiDigit_of_mem_decimal hx)
  · decide
  · exact isPlain_of_isAsciiDigit (isAsciiDigit_of_mem_decimal hx)

/-! ## Names -/

theorem Name.IsPlain.isPlainWord (h : (Name.ofParts t).IsPlain) : IsPlainWord t := by
  refine ⟨?_, fun c hc => ?_⟩
  · rintro rfl
    exact h.1 rfl
  · rcases h.eq_dot_or hc with rfl | hc
    · decide
    · exact Name.of_isNameChar hc (by decide +kernel)

theorem IsNameText.isPlainWord {origin : Name} (h : IsNameText origin t) : IsPlainWord t :=
  h.1.isPlain.isPlainWord

end ZoneKeeper.MasterFile
