import ZoneKeeper.Proofs.MasterFile.Data

/-!
# What reading a field asks of it

Every field of a record is read from the next token, and what the token has to be does not depend on
where it stands. So the data of a record are read exactly if its tokens are, one after another, what
its type asks for, and reading ends where the row does.
-/

namespace ZoneKeeper.MasterFile

open Text

/-! ## Words -/

/-- Whether a word writes a number of at most `greatest`, its escapes undone. -/
def IsNumberWord (greatest : Nat) (w : Text) : Prop :=
  ∃ u n, unescape w = .ok u ∧ u ≠ [] ∧ numeral? (u.map (·.1)) = some n ∧ n ≤ greatest

/-- Whether a word writes a time to live, its escapes undone. -/
def IsTtlWord (w : Text) : Prop := ∃ u n, unescape w = .ok u ∧ ttl? (u.map (·.1)) = some n

/-- Whether a word writes an address, its escapes undone. -/
def IsAddressWord (w : Text) : Prop :=
  ∃ u, unescape w = .ok u ∧ isStrictAddress (u.map (·.1)) = true

/-- Whether a word writes a name, completed by an origin. -/
def IsNameWord (origin : Name) (w : Text) : Prop := ∃ n, Name.ofText w (some origin) = .ok n

/-- Whether a token is a character string of at most 255 bytes, its escapes undone. -/
def IsString : Token → Prop
  | .word t | .quoted t => ∃ u, unescape t = .ok u ∧ (u.map (·.2)).sum ≤ 255
  | _ => False

variable {c c' c₁ c₂ : Cursor} {w t : Text} {token : Token} {tokens : List Token} {α β : Type}

/-- Whether reading takes the next token exactly if it is a word of a sort, and is then behind
it. -/
def TakesWord (read : Cursor → Except Reason (α × Cursor)) (p : Text → Prop) : Prop :=
  ∀ ⦃c c₁ c' : Cursor⦄ ⦃token : Token⦄, c.next = .ok (token, c₁) →
    ((∃ a, read c = .ok (a, c')) ↔ (∃ w, token = .word w ∧ p w) ∧ c' = c₁)

/-- Whether reading takes what is left of a row exactly if the tokens are of a sort, and is then
before the end of the line. -/
def TakesRow (read : Cursor → Except Reason (β × Cursor)) (p : List Token → Prop) : Prop :=
  ∀ ⦃c c' c₂ : Cursor⦄ ⦃tokens : List Token⦄, Yields c tokens c' →
    ((∃ b c₁, read c = .ok (b, c₁) ∧ c₁.endLine = .ok c₂) ↔ p tokens ∧ c₂ = c')

theorem word_eq_ok_iff (h : c.next = .ok (token, c₁)) :
    c.word = .ok (w, c') ↔ token = .word w ∧ c' = c₁ := by
  rw [Cursor.word, h, ok_bind]
  cases token <;> simp [eq_comm]

theorem plainWord_eq_ok_iff (h : c.next = .ok (token, c₁)) :
    c.plainWord = .ok (t, c') ↔
      (∃ w u, token = .word w ∧ unescape w = .ok u ∧ u.map (·.1) = t) ∧ c' = c₁ := by
  rw [Cursor.plainWord, bind_eq_ok_iff]
  constructor
  · rintro ⟨⟨w, _⟩, hw, ht⟩
    obtain ⟨rfl, rfl⟩ := (word_eq_ok_iff h).mp hw
    obtain ⟨u, hu, ⟨⟩⟩ := bind_eq_ok_iff.mp ht
    exact ⟨⟨w, u, rfl, hu, rfl⟩, rfl⟩
  · rintro ⟨⟨w, u, rfl, hu, rfl⟩, rfl⟩
    refine ⟨_, (word_eq_ok_iff h).mpr ⟨rfl, rfl⟩, ?_⟩
    simp only [hu, ok_bind]
    rfl

theorem takesWord_name (origin : Name) :
    TakesWord (fun c => c.name origin) (IsNameWord origin) := by
  intro c c₁ c' token h
  constructor
  · rintro ⟨n, hn⟩
    obtain ⟨⟨w, _⟩, hw, hn⟩ := bind_eq_ok_iff.mp hn
    obtain ⟨rfl, rfl⟩ := (word_eq_ok_iff h).mp hw
    obtain ⟨_, hname, ⟨⟩⟩ := bind_eq_ok_iff.mp hn
    exact ⟨⟨w, rfl, n, hname⟩, rfl⟩
  · rintro ⟨⟨w, rfl, n, hn⟩, rfl⟩
    refine ⟨n, ?_⟩
    show c.name (some origin) = _
    rw [Cursor.name, (word_eq_ok_iff h).mpr ⟨rfl, rfl⟩, ok_bind]
    simp only [hn, ok_bind]
    rfl

theorem takesWord_number (greatest : Nat) :
    TakesWord (fun c => c.number greatest) (IsNumberWord greatest) := by
  intro c c₁ c' token h
  constructor
  · rintro ⟨n, hn⟩
    obtain ⟨⟨t, _⟩, hword, hn⟩ := bind_eq_ok_iff.mp hn
    obtain ⟨⟨w, u, rfl, hu, rfl⟩, rfl⟩ := (plainWord_eq_ok_iff h).mp hword
    dsimp only at hn
    by_cases hnil : u = []
    · simp [hnil] at hn
    · rw [if_neg (by simpa using hnil)] at hn
      cases hk : numeral? (u.map (·.1)) with
      | none => simp [hk] at hn
      | some k =>
        simp only [hk] at hn
        split at hn
        · next hle =>
          cases hn
          exact ⟨⟨w, rfl, u, n, hu, hnil, hk, hle⟩, rfl⟩
        · cases hn
  · rintro ⟨⟨w, rfl, u, n, hu, hnil, hn, hle⟩, rfl⟩
    refine ⟨n, ?_⟩
    show c.number greatest = _
    rw [Cursor.number, (plainWord_eq_ok_iff h).mpr ⟨⟨w, u, rfl, hu, rfl⟩, rfl⟩, ok_bind]
    dsimp only
    rw [if_neg (by simpa using hnil)]
    simp only [hn, if_pos hle]

theorem takesWord_ttl : TakesWord Cursor.ttl IsTtlWord := by
  intro c c₁ c' token h
  constructor
  · rintro ⟨n, hn⟩
    obtain ⟨⟨t, _⟩, hword, hn⟩ := bind_eq_ok_iff.mp hn
    obtain ⟨⟨w, u, rfl, hu, rfl⟩, rfl⟩ := (plainWord_eq_ok_iff h).mp hword
    cases hk : ttl? (u.map (·.1)) with
    | none => simp [hk] at hn
    | some k =>
      simp only [hk] at hn
      cases hn
      exact ⟨⟨w, rfl, u, n, hu, hk⟩, rfl⟩
  · rintro ⟨⟨w, rfl, u, n, hu, hn⟩, rfl⟩
    refine ⟨n, ?_⟩
    rw [Cursor.ttl, (plainWord_eq_ok_iff h).mpr ⟨⟨w, u, rfl, hu, rfl⟩, rfl⟩, ok_bind]
    simp only [hn]

/-! ## Rows -/

theorem endLine_eq_ok_iff (h : Yields c tokens c') :
    c.endLine = .ok c₂ ↔ tokens = [] ∧ c₂ = c' := by
  cases h with
  | finish h =>
    rw [Cursor.endLine, h, ok_bind]
    simp [Token.endsLine, eq_comm]
  | cons h hends _ _ =>
    rw [Cursor.endLine, h, ok_bind]
    simp [hends]

theorem Yields.length_le (h : Yields c tokens c') : tokens.length ≤ c.rest.length := by
  induction h with
  | finish _ => exact Nat.zero_le _
  | cons _ _ hlt _ ih => exact Nat.succ_le_of_lt (Nat.lt_of_le_of_lt ih hlt)

/-- Whether tokens are words of these sorts, one each. -/
def AreWords (ps : List (Text → Prop)) (tokens : List Token) : Prop :=
  List.Forall₂ (fun p token => ∃ w, token = .word w ∧ p w) ps tokens

theorem areWords_cons_iff {p : Text → Prop} {ps : List (Text → Prop)} :
    AreWords (p :: ps) (.word w :: tokens) ↔ p w ∧ AreWords ps tokens := by
  simp [AreWords]

theorem areWords_replicate_iff {p : Text → Prop} {n : Nat} :
    AreWords (List.replicate n p) tokens ↔
      ∃ ws : List Text, tokens = ws.map .word ∧ ws.length = n ∧ ∀ w ∈ ws, p w := by
  induction n generalizing tokens with
  | zero => simp [AreWords]
  | succ n ih =>
    rw [List.replicate_succ, AreWords, List.forall₂_cons_left_iff]
    constructor
    · rintro ⟨_, rest, ⟨w, rfl, hw⟩, hrest, rfl⟩
      obtain ⟨ws, rfl, rfl, hws⟩ := ih.mp hrest
      exact ⟨w :: ws, rfl, rfl, List.forall_mem_cons.mpr ⟨hw, hws⟩⟩
    · rintro ⟨ws, rfl, hlength, hws⟩
      obtain ⟨w, ws, rfl⟩ := List.exists_cons_of_length_eq_add_one hlength
      obtain ⟨hw, hws⟩ := List.forall_mem_cons.mp hws
      exact ⟨_, _, ⟨w, rfl, hw⟩, ih.mpr ⟨ws, rfl, Nat.succ.inj hlength, hws⟩, rfl⟩

/-- At the end of the row nothing is left to read. -/
theorem takesRow_pure (b : β) : TakesRow (fun c => .ok (b, c)) (AreWords []) := by
  intro c c' c₂ tokens h
  rw [AreWords, List.forall₂_nil_left_iff]
  constructor
  · rintro ⟨_, _, ⟨⟩, hend⟩
    exact (endLine_eq_ok_iff h).mp hend
  · rintro ⟨htokens, hc⟩
    exact ⟨b, c, rfl, (endLine_eq_ok_iff h).mpr ⟨htokens, hc⟩⟩

/-- A field is read, and then those behind it. -/
theorem TakesWord.before {read : Cursor → Except Reason (α × Cursor)} {p : Text → Prop}
    {others : α → Cursor → Except Reason (β × Cursor)} {ps : List (Text → Prop)}
    (hread : TakesWord read p) (hothers : ∀ a, TakesRow (others a) (AreWords ps)) :
    TakesRow (fun c => read c >>= fun x => others x.1 x.2) (AreWords (p :: ps)) := by
  intro c c' c₂ tokens h
  rw [AreWords, List.forall₂_cons_left_iff]
  constructor
  · rintro ⟨b, c₃, hb, hend⟩
    obtain ⟨⟨a, c₁⟩, ha, hb⟩ := bind_eq_ok_iff.mp hb
    cases h with
    | finish h =>
      obtain ⟨⟨w, hw, -⟩, -⟩ := (hread h).mp ⟨a, ha⟩
      cases hw
    | cons h _ _ hrest =>
      obtain ⟨hw, rfl⟩ := (hread h).mp ⟨a, ha⟩
      obtain ⟨hps, hc⟩ := (hothers a hrest).mp ⟨b, c₃, hb, hend⟩
      exact ⟨⟨_, _, hw, hps, rfl⟩, hc⟩
  · rintro ⟨⟨token, rest, hw, hps, rfl⟩, hc⟩
    cases h with
    | cons h _ _ hrest =>
      obtain ⟨a, ha⟩ := (hread h).mpr ⟨hw, rfl⟩
      obtain ⟨b, c₃, hb, hend⟩ := (hothers a hrest).mpr ⟨hps, hc⟩
      exact ⟨b, c₃, bind_eq_ok_iff.mpr ⟨_, ha, hb⟩, hend⟩

/-! ## Strings -/

/-- A string is read if it fits, and then those behind it. -/
theorem exists_strings_text_iff {fuel n : Nat} (htoken : token = .word t ∨ token = .quoted t)
    (h : c.next = .ok (token, c₁)) :
    (∃ c', Cursor.strings (fuel + 1) c = .ok (n, c') ∧ c'.endLine = .ok c₂) ↔
      IsString token ∧ ∃ k c', Cursor.strings fuel c₁ = .ok (k, c') ∧ c'.endLine = .ok c₂ ∧
        n = k + 1 := by
  have hread : Cursor.strings (fuel + 1) c = unescape t >>= fun u =>
      if 255 < (u.map (·.2)).sum then .error .longString
      else Cursor.strings fuel c₁ >>= fun read => .ok (read.1 + 1, read.2) := by
    show (c.next >>= _) = _
    rw [h]
    rcases htoken with rfl | rfl <;> rfl
  have hstring : IsString token ↔ ∃ u, unescape t = .ok u ∧ (u.map (·.2)).sum ≤ 255 := by
    rcases htoken with rfl | rfl <;> rfl
  rw [hread, hstring]
  constructor
  · rintro ⟨c', hn, hend⟩
    obtain ⟨u, hu, hn⟩ := bind_eq_ok_iff.mp hn
    split at hn
    · cases hn
    · next hle =>
      obtain ⟨⟨k, _⟩, hk, ⟨⟩⟩ := bind_eq_ok_iff.mp hn
      exact ⟨⟨u, hu, Nat.le_of_not_lt hle⟩, k, _, hk, hend, rfl⟩
  · rintro ⟨⟨u, hu, hle⟩, k, c', hk, hend, rfl⟩
    refine ⟨c', bind_eq_ok_iff.mpr ⟨u, hu, ?_⟩, hend⟩
    rw [if_neg (Nat.not_lt.mpr hle), hk]
    rfl

/-- Blanks and comments are no strings, and behind the last string the line has to end. -/
theorem not_exists_strings {fuel n : Nat} (htoken : token = .blank ∨ token = .comment)
    (h : c.next = .ok (token, c₁)) :
    ¬ ∃ c', Cursor.strings (fuel + 1) c = .ok (n, c') ∧ c'.endLine = .ok c₂ := by
  have hnone : Cursor.strings (fuel + 1) c = .ok (0, c) := by
    show (c.next >>= _) = _
    rw [h]
    rcases htoken with rfl | rfl <;> rfl
  have hend : c.endLine = .error .expectedEnd := by
    rw [Cursor.endLine, h]
    rcases htoken with rfl | rfl <;> rfl
  rw [hnone]
  rintro ⟨_, ⟨⟩, hc⟩
  rw [hend] at hc
  cases hc

theorem exists_strings_succ_iff {fuel n : Nat} (h : c.next = .ok (token, c₁))
    (hends : token.endsLine = false) :
    (∃ c', Cursor.strings (fuel + 1) c = .ok (n, c') ∧ c'.endLine = .ok c₂) ↔
      IsString token ∧ ∃ k c', Cursor.strings fuel c₁ = .ok (k, c') ∧ c'.endLine = .ok c₂ ∧
        n = k + 1 := by
  cases token with
  | word t => exact exists_strings_text_iff (.inl rfl) h
  | quoted t => exact exists_strings_text_iff (.inr rfl) h
  | blank => exact iff_of_false (not_exists_strings (.inl rfl) h) fun hstring => hstring.1.elim
  | comment => exact iff_of_false (not_exists_strings (.inr rfl) h) fun hstring => hstring.1.elim
  | line => cases hends
  | finish => cases hends

/-- Strings are read up to the end of their row. -/
theorem exists_strings_iff (h : Yields c tokens c') {fuel n : Nat} (hfuel : tokens.length < fuel) :
    (∃ c₁, Cursor.strings fuel c = .ok (n, c₁) ∧ c₁.endLine = .ok c₂) ↔
      (∀ token ∈ tokens, IsString token) ∧ n = tokens.length ∧ c₂ = c' := by
  induction h generalizing fuel n with
  | @finish c c' h =>
    obtain ⟨fuel, rfl⟩ := Nat.exists_eq_add_of_lt hfuel
    have hnone : Cursor.strings (fuel + 1) c = .ok (0, c) := by
      show (c.next >>= _) = _
      rw [h]
      rfl
    rw [List.length_nil, Nat.zero_add, hnone]
    constructor
    · rintro ⟨_, ⟨⟩, hend⟩
      exact ⟨List.forall_mem_nil _, rfl, ((endLine_eq_ok_iff (.finish h)).mp hend).2⟩
    · rintro ⟨-, rfl, rfl⟩
      exact ⟨c, rfl, (endLine_eq_ok_iff (.finish h)).mpr ⟨rfl, rfl⟩⟩
  | cons h hends _ _ ih =>
    obtain ⟨fuel, rfl⟩ := Nat.exists_eq_add_of_lt hfuel
    rw [List.length_cons] at *
    have hlt : _ < _ := Nat.lt_of_succ_lt_succ hfuel
    rw [exists_strings_succ_iff h hends, List.forall_mem_cons]
    constructor
    · rintro ⟨htoken, k, c₁, hk, hend, rfl⟩
      obtain ⟨htokens, rfl, rfl⟩ := (ih hlt).mp ⟨c₁, hk, hend⟩
      exact ⟨⟨htoken, htokens⟩, rfl, rfl⟩
    · rintro ⟨⟨htoken, htokens⟩, rfl, rfl⟩
      obtain ⟨c₁, hk, hend⟩ := (ih hlt).mpr ⟨htokens, rfl, rfl⟩
      exact ⟨htoken, _, c₁, hk, hend, rfl⟩

/-! ## Data -/

/-- Whether tokens are the data of a type, names completed by an origin. -/
def IsRowOf (kind : Kind) (origin : Name) (tokens : List Token) : Prop :=
  match kind with
  | .soa => AreWords (IsNameWord origin :: IsNameWord origin :: IsNumberWord maxTtl ::
      List.replicate 4 IsTtlWord) tokens
  | .ns | .cname => AreWords [IsNameWord origin] tokens
  | .a => AreWords [IsAddressWord] tokens
  | .mx => AreWords [IsNumberWord 65535, IsNameWord origin] tokens
  | .txt => tokens ≠ [] ∧ ∀ token ∈ tokens, IsString token

/-- The address is read before it is looked at, so that it is a field of its own. -/
theorem takesWord_address :
    TakesWord (fun c => c.plainWord >>= fun read =>
      if isStrictAddress read.1 then .ok ((), read.2) else .error .badAddress) IsAddressWord := by
  intro c c₁ c' token h
  constructor
  · rintro ⟨_, hread⟩
    obtain ⟨⟨t, _⟩, ht, hread⟩ := bind_eq_ok_iff.mp hread
    obtain ⟨⟨w, u, rfl, hu, rfl⟩, rfl⟩ := (plainWord_eq_ok_iff h).mp ht
    dsimp only at hread
    split at hread
    · next haddress =>
      cases hread
      exact ⟨⟨w, rfl, u, hu, haddress⟩, rfl⟩
    · cases hread
  · rintro ⟨⟨w, rfl, u, hu, haddress⟩, rfl⟩
    exact ⟨(), bind_eq_ok_iff.mpr
      ⟨_, (plainWord_eq_ok_iff h).mpr ⟨⟨w, u, rfl, hu, rfl⟩, rfl⟩, if_pos haddress⟩⟩

theorem takesRow_host (origin : Name) :
    TakesRow (readData .ns origin) (AreWords [IsNameWord origin]) :=
  (takesWord_name origin).before fun _ => takesRow_pure none

theorem takesRow_exchange (origin : Name) :
    TakesRow (readData .mx origin) (AreWords [IsNumberWord 65535, IsNameWord origin]) :=
  (takesWord_number 65535).before fun _ => takesRow_host origin

theorem takesRow_authority (origin : Name) :
    TakesRow (readData .soa origin) (IsRowOf .soa origin) :=
  (takesWord_name origin).before fun _ => (takesWord_name origin).before fun _ =>
    (takesWord_number maxTtl).before fun _ => takesWord_ttl.before fun _ =>
    takesWord_ttl.before fun _ => takesWord_ttl.before fun _ => takesWord_ttl.before fun n =>
    takesRow_pure (some n)

theorem takesRow_address (origin : Name) :
    TakesRow (readData .a origin) (AreWords [IsAddressWord]) := by
  have hread : readData .a origin = fun c => (c.plainWord >>= fun read =>
      if isStrictAddress read.1 then .ok ((), read.2) else .error .badAddress) >>= fun x =>
        .ok (none, x.2) := by
    funext c
    show (c.plainWord >>= fun read => if isStrictAddress read.1 then .ok (none, read.2)
      else .error .badAddress) = _
    cases c.plainWord with
    | error why => rfl
    | ok read =>
      simp only [ok_bind]
      split <;> rfl
  rw [hread]
  exact takesWord_address.before fun _ => takesRow_pure none

theorem takesRow_texts (origin : Name) : TakesRow (readData .txt origin) (IsRowOf .txt origin) := by
  intro c c' c₂ tokens h
  have hfuel : tokens.length < c.rest.length + 1 := Nat.lt_succ_of_le h.length_le
  have hread : readData .txt origin c = c.strings (c.rest.length + 1) >>= fun read =>
      if read.1 = 0 then .error .noString else .ok (none, read.2) := rfl
  rw [hread]
  constructor
  · rintro ⟨_, c₁, hn, hend⟩
    obtain ⟨⟨n, _⟩, hn, hrest⟩ := bind_eq_ok_iff.mp hn
    dsimp only at hrest
    split at hrest
    · cases hrest
    · next hne =>
      cases hrest
      obtain ⟨htokens, rfl, rfl⟩ := (exists_strings_iff h hfuel).mp ⟨c₁, hn, hend⟩
      exact ⟨⟨by simpa using hne, htokens⟩, rfl⟩
  · rintro ⟨⟨hne, htokens⟩, rfl⟩
    obtain ⟨c₁, hn, hend⟩ := (exists_strings_iff h hfuel).mpr ⟨htokens, rfl, rfl⟩
    exact ⟨none, c₁, bind_eq_ok_iff.mpr ⟨_, hn, if_neg (by simpa using hne)⟩, hend⟩

/-- The data of a record are read exactly if its tokens are what its type asks for. -/
theorem takesRow_readData (kind : Kind) (origin : Name) :
    TakesRow (readData kind origin) (IsRowOf kind origin) := by
  cases kind with
  | soa => exact takesRow_authority origin
  | ns => exact takesRow_host origin
  | a => exact takesRow_address origin
  | cname => exact takesRow_host origin
  | mx => exact takesRow_exchange origin
  | txt => exact takesRow_texts origin

end ZoneKeeper.MasterFile
