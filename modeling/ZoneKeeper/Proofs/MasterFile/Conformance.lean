import ZoneKeeper.Proofs.MasterFile.Reading

/-!
# The check as a loader

The check does what is asked of a loader. What one row makes of the record sets so far is proved of
the row, in both directions, and by induction over the rows of the whole file. The fields that it
takes are those that it reads, and the plain ones are among them.
-/

namespace ZoneKeeper.MasterFile

open Text

variable {s s' : State} {c c' c₁ c₂ : Cursor} {w row t rest : Text} {owner apex : Name}
  {tokens : List Token} {e : ResourceRecord} {entries : List ResourceRecord}
  {sets sets' : List (Name × Kind)}

/-- The fields that are taken. -/
def checkFields : Fields where
  zone t := (Name.ofText t (some .root)).toOption
  name apex t := (Name.ofText t (some apex)).toOption
  IsTtl t := ∃ n, ttl? t = some n
  IsData := IsRowOf
  AreHosts apex host mailbox := IsNameWord apex host ∧ IsNameWord apex mailbox
  IsSerial := IsNumberWord maxTtl
  IsTiming := IsTtlWord
  IsPreference := IsNumberWord 65535

theorem toOption_eq_some_iff {ε α : Type} {x : Except ε α} {a : α} :
    x.toOption = some a ↔ x = .ok a := by
  cases x <;> simp [Except.toOption]

/-! ## Whose row it is -/

theorem Yields.skipLine (h : Yields c tokens c') {fuel : Nat} (hfuel : tokens.length < fuel) :
    skipLine fuel c = .ok c' := by
  induction h generalizing fuel with
  | finish h =>
    obtain ⟨fuel, rfl⟩ := Nat.exists_eq_add_of_lt hfuel
    rw [MasterFile.skipLine, h]
    rfl
  | cons h hends _ _ ih =>
    obtain ⟨fuel, rfl⟩ := Nat.exists_eq_add_of_lt hfuel
    rw [MasterFile.skipLine, h, ok_bind]
    simp only [hends, Bool.false_eq_true, if_false]
    exact ih (Nat.lt_of_succ_lt_succ hfuel)

/-- A line that begins with a word is a directive or belongs to the owner that the word names. -/
theorem readLine_of_word (h : c.first true = .ok (.word w, c')) (hw : w.head? ≠ some '$') :
    readLine s c = (readEntry s c).map some := by
  rw [readLine, h, orReject_ok, ok_bind]
  dsimp only
  -- Of the ways a line can begin, only a word is left, and one with a dollar is excluded.
  split
  · next heq => cases heq
  · next heq => cases heq
  · next heq => cases heq
  · next heq => cases heq
  · next heq =>
    obtain rfl := Token.word.inj heq
    exact absurd rfl hw
  · next heq => cases heq
  · cases readEntry s c <;> rfl

theorem readLine_directive (h : c.first true = .ok (.word w, c')) (hw : w.head? = some '$') :
    readLine s c = (readDirective s w c').map some := by
  obtain ⟨rest, rfl⟩ := List.head?_eq_some_iff.mp hw
  rw [readLine, h, orReject_ok, ok_bind]
  show (readDirective s ('$' :: rest) c' >>= fun read => pure (some read)) = _
  cases readDirective s ('$' :: rest) c' <;> rfl

/-- A directive takes one word, so none is followed by two tokens. -/
theorem readDirective_ne_ok (h : Yields c tokens c') (htokens : 2 ≤ tokens.length)
    (directive : Text) {read : State × Cursor} : readDirective s directive c ≠ .ok read := by
  have hend {w : Text} {c₁ : Cursor} (hw : c.word = .ok (w, c₁)) {c₂ : Cursor} :
      c₁.endLine ≠ .ok c₂ := by
    cases h with
    | finish _ => simp at htokens
    | cons h _ _ hrest =>
      obtain ⟨-, rfl⟩ := (word_eq_ok_iff h).mp hw
      rw [Ne, endLine_eq_ok_iff hrest]
      rintro ⟨rfl, -⟩
      simp at htokens
  intro hread
  unfold readDirective at hread
  dsimp only at hread
  split at hread
  · obtain ⟨⟨w, c₁⟩, hw, hread⟩ := bind_eq_ok_iff.mp hread
    dsimp only at hread
    cases hn : ttl? w with
    | none =>
      rw [hn] at hread
      cases hread
    | some n =>
      rw [hn] at hread
      obtain ⟨c₂, hc, -⟩ := bind_eq_ok_iff.mp hread
      exact hend (mapError_eq_ok_iff.mp hw) (mapError_eq_ok_iff.mp hc)
  · split at hread
    · obtain ⟨⟨n, c₁⟩, hn, hread⟩ := bind_eq_ok_iff.mp hread
      obtain ⟨⟨w, _⟩, hw, hname⟩ := bind_eq_ok_iff.mp (mapError_eq_ok_iff.mp hn)
      obtain ⟨_, -, ⟨⟩⟩ := bind_eq_ok_iff.mp hname
      obtain ⟨c₂, hc, -⟩ := bind_eq_ok_iff.mp hread
      exact hend hw (mapError_eq_ok_iff.mp hc)
    · cases hread

/-! ## The row of a record -/

/-- What is known between the rows of a zone file: its apex completes names, there is a default time
to live, and these are the record sets so far. -/
structure Reading (apex : Name) (sets : List (Name × Kind)) (s : State) : Prop where
  zone : s.zone = apex
  origin : s.origin = apex
  defaultTtl : s.defaultTtl.isSome = true
  sets : s.sets = sets

theorem ResourceRecord.IsProper.length_tokens (he : e.IsProper) : 2 ≤ e.tokens.length := by
  have hdata := List.length_pos_of_ne_nil he.data
  simp [ResourceRecord.tokens]
  omega

/-- The row of a record is read with its owner, which has a name. -/
theorem readLine_owner_iff (s : State) (he : e.IsProper) (hends : EndsWord (row ++ rest))
    (h : Yields ⟨row ++ rest, 0⟩ e.tokens c') (read : State × Cursor) :
    readLine s ⟨e.owner ++ (row ++ rest), 0⟩ = .ok (some read) ↔
      e.owner.head? ≠ some '$' ∧ ∃ owner, Name.ofText e.owner (some s.origin) = .ok owner ∧
        (if owner.isIn s.zone then readRecord { s with owner } ⟨row ++ rest, 0⟩
          else .ok ({ s with owner }, c')) = .ok read := by
  have hfirst (comments : Bool) : Cursor.first ⟨e.owner ++ (row ++ rest), 0⟩ comments =
      .ok (.word e.owner, ⟨row ++ rest, 0⟩) := (Spells.word he.owner).first hends comments
  have hskip : skipLine ((row ++ rest).length + 1) ⟨row ++ rest, 0⟩ = .ok c' :=
    h.skipLine (Nat.lt_succ_of_le h.length_le)
  by_cases hdollar : e.owner.head? = some '$'
  · rw [readLine_directive (hfirst true) hdollar, map_eq_ok_iff]
    constructor
    · rintro ⟨_, hread, -⟩
      exact absurd hread (readDirective_ne_ok h he.length_tokens _)
    · exact fun h => absurd hdollar h.1
  · rw [readLine_of_word (hfirst true) hdollar, readEntry, hfirst false, orReject_ok, ok_bind]
    dsimp only
    cases hname : Name.ofText e.owner (some s.origin) with
    | error why => simp [orReject, Except.mapError]
    | ok owner =>
      rw [orReject_ok, ok_bind, hskip]
      split
      · next hin => simp [hdollar, hin]
      · next hout => simp [hdollar, hout, orReject_ok]

section

variable (he : e.IsProper) (hends : EndsWord row) (hrow : Row 0 row e.tokens)
  (hs : Reading apex sets s)

include he hends hrow hs

/-- The row of a record that is read loads the record, and reading goes on behind it. -/
theorem loads_of_readLine
    (hread : readLine s ⟨e.owner ++ (row ++ rest), 0⟩ = .ok (some (s', c))) :
    c = ⟨rest, 0⟩ ∧ ∃ sets', checkFields.Loads apex e sets sets' ∧ Reading apex sets' s' := by
  have hyields := hrow.yields rest
  obtain ⟨hdollar, owner, howner, hread⟩ :=
    (readLine_owner_iff s he (hends.append hrow.ne_nil rest) hyields _).mp hread
  obtain ⟨rfl, horigin, hdefault, rfl⟩ := hs
  rw [horigin] at howner
  have hname := toOption_eq_some_iff.mpr howner
  split at hread
  · next hin =>
    obtain ⟨given, httl, ⟨hdata, rfl⟩, hadd⟩ :=
      (readRecord_eq_ok_iff (s := { s with owner }) he hdefault hyields).mp hread
    obtain ⟨hfits, rfl⟩ := State.add_eq_ok_iff.mp hadd
    refine ⟨rfl, _, .inside hdollar hname hin (fun ttl hsome => ?_) (horigin ▸ hdata) hfits,
      rfl, horigin, hdefault, rfl⟩
    rw [hsome] at httl
    obtain ⟨n, -, hn⟩ := Option.map_eq_some_iff.mp httl.symm
    exact ⟨n, hn.symm⟩
  · next hout =>
    cases hread
    exact ⟨rfl, _, .outside hdollar hname (by simpa using hout), rfl, horigin, hdefault, rfl⟩

/-- The row of a record that loads is read. -/
theorem readLine_of_loads (hloads : checkFields.Loads apex e sets sets') (rest : Text) :
    ∃ s', readLine s ⟨e.owner ++ (row ++ rest), 0⟩ = .ok (some (s', ⟨rest, 0⟩)) ∧
      Reading apex sets' s' := by
  have hyields := hrow.yields rest
  have hline := readLine_owner_iff s he (hends.append hrow.ne_nil rest) hyields
  obtain ⟨rfl, horigin, hdefault, rfl⟩ := hs
  have howner {owner : Name} (hname : checkFields.name s.zone e.owner = some owner) :
      Name.ofText e.owner (some s.origin) = .ok owner := by
    rw [horigin]
    exact toOption_eq_some_iff.mp hname
  cases hloads with
  | @outside owner hdollar hname hout =>
    exact ⟨_, (hline _).mpr ⟨hdollar, owner, howner hname, if_neg (by simp [hout])⟩,
      rfl, horigin, hdefault, rfl⟩
  | @inside owner hdollar hname hin httl hdata hfits =>
    obtain ⟨given, hgiven⟩ : ∃ given : Option Nat, e.ttl.map ttl? = given.map some := by
      cases hsome : e.ttl with
      | none => exact ⟨none, rfl⟩
      | some ttl =>
        obtain ⟨n, hn⟩ := httl ttl hsome
        exact ⟨some n, congrArg some hn⟩
    have hread := (readRecord_eq_ok_iff (s := { s with owner }) he hdefault hyields).mpr
      ⟨given, hgiven, ⟨horigin.symm ▸ hdata, rfl⟩, State.add_eq_ok_iff.mpr ⟨hfits, rfl⟩⟩
    exact ⟨_, (hline _).mpr ⟨hdollar, owner, howner hname, (if_pos hin).trans hread⟩,
      rfl, horigin, hdefault, rfl⟩

end

/-! ## One row after another -/

theorem readLines_succ {fuel : Nat} (h : readLine s c = .ok (some (s', c'))) :
    readLines (fuel + 1) s c = readLines fuel s' c' := by
  rw [readLines, h]
  rfl

theorem readLine_blank (s : State) (rest : Text) :
    readLine s ⟨'\n' :: rest, 0⟩ = .ok (some (s, ⟨rest, 0⟩)) := by
  rw [readLine, first_line]
  rfl

theorem readLines_finish (fuel : Nat) (s : State) : readLines (fuel + 1) s ⟨[], 0⟩ = .ok s := by
  have hline : readLine s ⟨[], 0⟩ = .ok none := by
    rw [readLine, Cursor.first, if_neg (by simp), scanToken.eq_1]
    rfl
  rw [readLines, hline]
  rfl

/-- The row of a record is not the end of the text. -/
theorem readLine_ne_none (he : e.IsProper) (hends : EndsWord row) :
    readLine s ⟨e.owner ++ row, 0⟩ ≠ .ok none := by
  have hfirst : Cursor.first ⟨e.owner ++ row, 0⟩ true = .ok (.word e.owner, ⟨row, 0⟩) :=
    (Spells.word he.owner).first hends true
  intro hread
  by_cases hdollar : e.owner.head? = some '$'
  · rw [readLine_directive hfirst hdollar] at hread
    obtain ⟨_, -, ⟨⟩⟩ := map_eq_ok_iff.mp hread
  · rw [readLine_of_word hfirst hdollar] at hread
    obtain ⟨_, -, ⟨⟩⟩ := map_eq_ok_iff.mp hread

/-- Reading rows to the end loads their records. -/
theorem loadsAll_of_readLines (h : Rows t entries) {fuel : Nat} (hfuel : t.length < fuel)
    (hs : Reading apex sets s) (hread : readLines fuel s ⟨t, 0⟩ = .ok s') :
    checkFields.LoadsAll apex entries sets s'.sets := by
  induction h generalizing sets s fuel with
  | nil =>
    obtain ⟨fuel, rfl⟩ := Nat.exists_eq_add_of_lt hfuel
    rw [readLines_finish] at hread
    cases hread
    rw [hs.sets]
    exact .nil
  | blank _ ih =>
    obtain ⟨fuel, rfl⟩ := Nat.exists_eq_add_of_lt hfuel
    rw [readLines_succ (readLine_blank s _)] at hread
    exact ih (Nat.lt_of_succ_lt_succ hfuel) hs hread
  | @entry e row t entries he hends hrow _ ih =>
    obtain ⟨fuel, rfl⟩ := Nat.exists_eq_add_of_lt hfuel
    obtain ⟨read, hline, hread⟩ := bind_eq_ok_iff.mp hread
    cases read with
    | none => exact absurd hline (readLine_ne_none he (hends.append hrow.ne_nil t))
    | some read =>
      obtain ⟨hc, sets₁, hloads, hs₁⟩ := loads_of_readLine he hends hrow hs hline
      obtain ⟨s₁, c₁⟩ := read
      obtain rfl : c₁ = _ := hc
      exact .cons hloads (ih (Nat.lt_add_right fuel (hrow.length_lt e.owner t)) hs₁ hread)

/-- The rows of records that load are read to the end. -/
theorem readLines_of_loadsAll (h : Rows t entries) {fuel : Nat} (hfuel : t.length < fuel)
    (hs : Reading apex sets s) (hloads : checkFields.LoadsAll apex entries sets sets') :
    ∃ s', readLines fuel s ⟨t, 0⟩ = .ok s' ∧ Reading apex sets' s' := by
  induction h generalizing sets s fuel with
  | nil =>
    obtain ⟨fuel, rfl⟩ := Nat.exists_eq_add_of_lt hfuel
    cases hloads
    exact ⟨s, readLines_finish _ s, hs⟩
  | blank _ ih =>
    obtain ⟨fuel, rfl⟩ := Nat.exists_eq_add_of_lt hfuel
    rw [readLines_succ (readLine_blank s _)]
    exact ih (Nat.lt_of_succ_lt_succ hfuel) hs hloads
  | @entry e row t entries he hends hrow _ ih =>
    obtain ⟨fuel, rfl⟩ := Nat.exists_eq_add_of_lt hfuel
    cases hloads with
    | cons hloads hall =>
      obtain ⟨s₁, hline, hs₁⟩ := readLine_of_loads he hends hrow hs hloads t
      rw [readLines_succ hline]
      exact ih (Nat.lt_add_right fuel (hrow.length_lt e.owner t)) hs₁ hall

/-! ## The file -/

/-- The row of the default time to live holds nothing else. -/
theorem readLine_ttl {ttl : Text} (hends : EndsWord row) (hrow : Row 0 row [.word ttl])
    (s : State) (rest : Text) :
    readLine s ⟨"$TTL".toList ++ (row ++ rest), 0⟩ = match ttl? ttl with
      | some n => .ok (some ({ s with defaultTtl := some n }, ⟨rest, 0⟩))
      | none => reject .badTtl := by
  have hfirst : Cursor.first ⟨"$TTL".toList ++ (row ++ rest), 0⟩ true =
      .ok (.word "$TTL".toList, ⟨row ++ rest, 0⟩) :=
    (Spells.word (by decide)).first (hends.append hrow.ne_nil rest) true
  have hname : "$TTL".toList.map Char.toUpper = "$TTL".toList := by decide
  rw [readLine_directive hfirst (by decide)]
  unfold readDirective
  dsimp only
  cases hrow.yields rest with
  | cons h _ _ hrest =>
    rw [if_pos hname, word_of_next h, orReject_ok, ok_bind,
      (endLine_eq_ok_iff hrest).mpr ⟨rfl, rfl⟩]
    cases ttl? ttl <;> rfl

theorem reading_start (apex : Name) (n : Nat) :
    Reading apex [] { State.start apex with defaultTtl := some n } :=
  ⟨rfl, rfl, rfl, rfl⟩

/-- The check reads a file row by row. -/
theorem check_eq_ok_iff {domain text ttl : Text} {n : Nat} (h : File ttl entries text) :
    check domain text = .ok n ↔ checkFields.IsTtl ttl ∧ ∃ apex sets,
      checkFields.zone domain = some apex ∧ checkFields.LoadsAll apex entries [] sets ∧
        n = sets.length := by
  obtain ⟨hends, hrow, hrows⟩ := h
  next row t =>
  have hlt := hrow.length_lt "$TTL".toList t
  constructor
  · intro hcheck
    obtain ⟨apex, hname, hcheck⟩ := bind_eq_ok_iff.mp hcheck
    obtain ⟨s, hread, ⟨⟩⟩ := bind_eq_ok_iff.mp hcheck
    have hzone := toOption_eq_some_iff.mpr (mapError_eq_ok_iff.mp hname)
    cases hk : ttl? ttl with
    | none =>
      rw [readLines, readLine_ttl hends hrow, hk] at hread
      cases hread
    | some k =>
      rw [readLines_succ (by rw [readLine_ttl hends hrow, hk])] at hread
      exact ⟨⟨k, hk⟩, apex, s.sets, hzone,
        loadsAll_of_readLines hrows hlt (reading_start apex k) hread, rfl⟩
  · rintro ⟨⟨k, hk⟩, apex, sets, hzone, hloads, rfl⟩
    obtain ⟨s, hread, hs⟩ := readLines_of_loadsAll hrows hlt (reading_start apex k) hloads
    have hlines : readLines (("$TTL".toList ++ (row ++ t)).length + 1) (.start apex)
        ⟨"$TTL".toList ++ (row ++ t), 0⟩ = .ok s := by
      rw [readLines_succ (by rw [readLine_ttl hends hrow, hk])]
      exact hread
    rw [check, toOption_eq_some_iff.mp hzone, orReject_ok, ok_bind, hlines, ok_bind, hs.sets]
    rfl

theorem isNameWord_iff : IsNameWord apex w ↔ (checkFields.name apex w).isSome = true := by
  rw [Option.isSome_iff_exists]
  simp only [checkFields, toOption_eq_some_iff]
  rfl

/-- The check does what is asked of a loader. -/
theorem describes_check : checkFields.Describes check where
  load_iff := check_eq_ok_iff
  name_at h := toOption_eq_some_iff.mpr (Name.check_of_ofText (toOption_eq_some_iff.mp h))
  authority _ := by
    show AreWords _ _ ↔ (IsNameWord _ _ ∧ IsNameWord _ _) ∧ _
    rw [areWords_cons_iff, areWords_cons_iff, and_assoc]
    refine and_congr_right' (and_congr_right' ?_)
    rw [AreWords, List.forall₂_cons_left_iff]
    constructor
    · rintro ⟨_, _, ⟨serial, rfl, hserial⟩, htimings, rfl⟩
      obtain ⟨timings, rfl, hlength, htimings⟩ := areWords_replicate_iff.mp htimings
      exact ⟨serial, timings, rfl, hlength, hserial, htimings⟩
    · rintro ⟨serial, timings, rfl, hlength, hserial, htimings⟩
      exact ⟨_, _, ⟨serial, rfl, hserial⟩,
        areWords_replicate_iff.mpr ⟨timings, rfl, hlength, htimings⟩, rfl⟩
  exchange {_ _ _} := by
    show AreWords _ _ ↔ IsNumberWord 65535 _ ∧ _
    rw [areWords_cons_iff, areWords_cons_iff, isNameWord_iff]
    simp [AreWords]

/-! ## Plain fields -/

/-- A word without escapes stands for itself. -/
theorem exists_unescape (h : '\\' ∉ w) : ∃ u, unescape w = .ok u ∧ u.map (·.1) = w := by
  refine ⟨_, unescape_eq h, ?_⟩
  rw [List.map_map]
  exact List.map_id w

theorem isNumberWord_of_numeral? {greatest n : Nat} (h : '\\' ∉ w) (hne : w ≠ [])
    (hn : numeral? w = some n) (hle : n ≤ greatest) : IsNumberWord greatest w := by
  obtain ⟨u, hu, rfl⟩ := exists_unescape h
  exact ⟨u, n, hu, by simpa using hne, hn, hle⟩

theorem isTtlWord_of_isPlainTime (h : IsPlainTime w) : IsTtlWord w := by
  obtain ⟨n, hn⟩ := h.exists_ttl?
  obtain ⟨u, hu, rfl⟩ := exists_unescape h.isPlainWord.not_mem_escape
  exact ⟨u, n, hu, hn⟩

theorem isAddressWord_of_isStrictAddress (h : isStrictAddress w = true) : IsAddressWord w := by
  have hescape : '\\' ∉ w := by
    intro hmem
    obtain hdot | ⟨octet, hoctet, hc⟩ := eq_or_exists_mem_split (c := '.') hmem
    · cases hdot
    · have hstrict := List.all_eq_true.mp (Bool.and_eq_true_iff.mp h).2 octet hoctet
      simp only [isStrictOctet, Bool.and_eq_true, List.all_eq_true] at hstrict
      exact absurd (hstrict.1.1.2 _ hc) (by decide)
  obtain ⟨u, hu, rfl⟩ := exists_unescape hescape
  exact ⟨u, hu, h⟩

/-- Printable ASCII without backslashes is as many bytes as characters. -/
theorem isString_quoted (hlength : t.length ≤ 255)
    (h : ∀ c ∈ t, 0x20 ≤ c.toNat ∧ c.toNat ≤ 0x7E ∧ c ≠ '"' ∧ c ≠ '\\') :
    IsString (.quoted t) := by
  have hone : (t.map fun c => (Utf8.encodeChar c).length) = t.map fun _ => 1 := by
    refine List.map_congr_left fun c hc => ?_
    have hlt : c.toNat < 128 := Nat.lt_of_le_of_lt (h c hc).2.1 (by decide)
    rw [Utf8.encodeChar, if_pos hlt]
    rfl
  refine ⟨_, unescape_eq fun hc => (h _ hc).2.2.2 rfl, ?_⟩
  rw [List.map_map]
  show (t.map fun c => (Utf8.encodeChar c).length).sum ≤ 255
  rwa [hone, List.map_const', List.sum_replicate_nat, Nat.mul_one]

theorem takesLiterals_check : checkFields.TakesLiterals where
  ttl h := h.exists_ttl?
  timing h := isTtlWord_of_isPlainTime h
  address h := .cons ⟨_, rfl, isAddressWord_of_isStrictAddress h⟩ .nil
  preference hne _ hdigits hn hle :=
    isNumberWord_of_numeral? (fun hmem => absurd (hdigits _ hmem) (by decide)) hne hn hle

theorem takesPlain_check : checkFields.TakesPlain where
  toTakesLiterals := takesLiterals_check
  zone h := toOption_eq_some_iff.mpr (h.ofText isOrigin_root)
  name hapex h := toOption_eq_some_iff.mpr (h.ofText hapex)
  hosts hapex hhost hmailbox := ⟨⟨_, hhost.ofText hapex⟩, _, hmailbox.ofText hapex⟩
  host {_ _ _} hapex hkind h := by
    have hwords : AreWords [IsNameWord _] [.word _] := .cons ⟨_, rfl, _, h.ofText hapex⟩ .nil
    rcases hkind with rfl | rfl <;> exact hwords
  serial h := by
    obtain ⟨hne, hdigits, n, hn, hle⟩ := h
    exact isNumberWord_of_numeral? (IsPlainWord.of_digits hne hdigits).not_mem_escape hne hn hle
  text hlength h :=
    ⟨List.cons_ne_nil _ _, List.forall_mem_singleton.mpr (isString_quoted hlength h)⟩

end ZoneKeeper.MasterFile
