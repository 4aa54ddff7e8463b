import ZoneKeeper.MasterFile.Check
import ZoneKeeper.Proofs.MasterFile.Contract
import ZoneKeeper.Proofs.MasterFile.Field

/-!
# Reading a record

What reading a record comes to, step by step: the record set that it adds, its data, its time to
live, class and type, and whose line it is. Each step is known from the tokens that are left of the
row.
-/

namespace ZoneKeeper.MasterFile

open Text

variable {s s' : State} {c c' c₁ c₂ : Cursor} {w : Text} {kind : Kind} {owner : Name}
  {tokens : List Token} {e : ResourceRecord}

theorem orReject_ok {α : Type} (a : α) : orReject (.ok a) = .ok a := rfl

theorem orReject_pure {α : Type} (a : α) : orReject (pure a) = .ok a := rfl

/-! ## Adding a record set -/

theorem mem_beside_iff {owner : Name} {other : Kind} :
    other ∈ (s.sets.filter (·.1 = owner)).map (·.2) ↔ (owner, other) ∈ s.sets := by
  simp only [List.mem_map, List.mem_filter, decide_eq_true_eq, Prod.exists]
  constructor
  · rintro ⟨_, _, ⟨hmem, rfl⟩, rfl⟩
    exact hmem
  · intro hmem
    exact ⟨owner, other, ⟨hmem, rfl⟩, rfl⟩

theorem conflict_iff {owner : Name} :
    (kind = .cname ∧ ((s.sets.filter (·.1 = owner)).map (·.2)).any (· ≠ .cname) = true ∨
      kind ≠ .cname ∧ ((s.sets.filter (·.1 = owner)).map (·.2)).contains .cname = true) ↔
      ¬ ∀ q ∈ s.sets, q.1 = owner → (q.2 = .cname ↔ kind = .cname) := by
  simp only [List.any_eq_true, List.contains_iff_mem, mem_beside_iff, decide_eq_true_eq]
  constructor
  · rintro (⟨rfl, other, hmem, hother⟩ | ⟨hne, hmem⟩) hall
    · exact hother ((hall _ hmem rfl).mpr rfl)
    · exact hne ((hall _ hmem rfl).mp rfl)
  · intro hall
    simp only [not_forall] at hall
    obtain ⟨⟨_, other⟩, hmem, rfl, hother⟩ := hall
    by_cases hkind : kind = .cname
    · exact .inl ⟨hkind, other, hmem, fun halias => hother (by simp [halias, hkind])⟩
    · obtain rfl : other = .cname := by simpa [hkind] using hother
      exact .inr ⟨hkind, hmem⟩

/-- A record set is added exactly if it fits to the others. -/
theorem State.add_eq_ok_iff :
    s.add kind = .ok s' ↔ Fits s.zone s.sets (s.owner.folded, kind) ∧
      s' = { s with sets := withSet s.sets (s.owner.folded, kind) } := by
  by_cases hsoa : kind = .soa ∧ s.owner.folded ≠ s.zone.folded
  · rw [State.add, if_pos hsoa]
    exact ⟨nofun, fun h => absurd (h.1.1 hsoa.1) hsoa.2⟩
  · by_cases hbeside : ∀ q ∈ s.sets, q.1 = s.owner.folded → (q.2 = .cname ↔ kind = .cname)
    · have hfits : Fits s.zone s.sets (s.owner.folded, kind) :=
        ⟨fun hkind => of_not_not fun howner => hsoa ⟨hkind, howner⟩, hbeside⟩
      rw [State.add, if_neg hsoa, if_neg fun h => conflict_iff.mp h hbeside]
      simp only [List.contains_iff_mem, mem_beside_iff, withSet]
      split <;>
        exact ⟨fun h => ⟨hfits, (Except.ok.inj h).symm⟩, fun h => congrArg Except.ok h.2.symm⟩
    · rw [State.add, if_neg hsoa, if_pos (conflict_iff.mpr hbeside)]
      exact ⟨nofun, fun h => absurd h.1.2 hbeside⟩

/-! ## Behind the type -/

/-- What is left of reading a record behind its type. -/
def readBehindType (s : State) (given : Option Nat) (kind : Kind) (c : Cursor) :
    Except Fault (State × Cursor) := do
  let (negative, c) ← orReject (readData kind s.origin c)
  let c ← orReject c.endLine
  let lastTtl := given <|> s.lastTtl
  let defaultTtl := s.defaultTtl <|> negative
  let s := { s with lastTtl, defaultTtl }
  match lastTtl <|> defaultTtl with
  | none => reject .noTtl
  | some _ => return (← s.add kind, c)

/-- Under a default time to live, what is left of a record behind its type are its data up to the
end of the row, and its record set. -/
theorem readBehindType_eq_ok_iff {given : Option Nat} (hdefault : s.defaultTtl.isSome = true)
    (h : Yields c tokens c') :
    readBehindType s given kind c = .ok (s', c₂) ↔ (IsRowOf kind s.origin tokens ∧ c₂ = c') ∧
      State.add { s with lastTtl := given <|> s.lastTtl } kind = .ok s' := by
  obtain ⟨default, hdefault⟩ := Option.isSome_iff_exists.mp hdefault
  have hsame (negative : Option Nat) : (s.defaultTtl <|> negative) = s.defaultTtl := by
    rw [hdefault]
    rfl
  obtain ⟨n, hn⟩ : ∃ n, ((given <|> s.lastTtl) <|> s.defaultTtl) = some n := by
    rw [hdefault]
    cases given <|> s.lastTtl <;> exact ⟨_, rfl⟩
  have hread {negative : Option Nat} {c₁ c₂ : Cursor}
      (hdata : readData kind s.origin c = .ok (negative, c₁)) (hend : c₁.endLine = .ok c₂) :
      readBehindType s given kind c =
        (State.add { s with lastTtl := given <|> s.lastTtl } kind).map fun s => (s, c₂) := by
    simp only [readBehindType, hdata, hend, orReject_ok, ok_bind, hsame, hn]
    cases State.add { s with lastTtl := given <|> s.lastTtl } kind <;> rfl
  rw [← takesRow_readData kind s.origin h]
  constructor
  · intro hs
    obtain ⟨⟨negative, c₁⟩, hdata, hrest⟩ := bind_eq_ok_iff.mp hs
    obtain ⟨c₃, hend, -⟩ := bind_eq_ok_iff.mp hrest
    have hdata := mapError_eq_ok_iff.mp hdata
    have hend := mapError_eq_ok_iff.mp hend
    rw [hread hdata hend] at hs
    obtain ⟨s₁, hadd, ⟨⟩⟩ := map_eq_ok_iff.mp hs
    exact ⟨⟨negative, c₁, hdata, hend⟩, hadd⟩
  · rintro ⟨⟨negative, c₁, hdata, hend⟩, hadd⟩
    rw [hread hdata hend, hadd]
    rfl

/-! ## Time to live, class and type -/

theorem word_of_next (h : c.next = .ok (.word w, c')) : c.word = .ok (w, c') :=
  (word_eq_ok_iff h).mpr ⟨rfl, rfl⟩

theorem optionalTtl_eq (h : c.next = .ok (.word w, c')) :
    optionalTtl c = .ok ((ttl? w).elim (none, c) fun n => (some n, c')) := by
  rw [optionalTtl, word_of_next h, ok_bind]
  dsimp only
  cases ttl? w <;> rfl

theorem optionalClass_eq (h : c.next = .ok (.word w, c')) (hw : internetClass? w ≠ some false) :
    optionalClass c = .ok ((internetClass? w).elim c fun _ => c') := by
  rw [optionalClass, word_of_next h, ok_bind]
  dsimp only
  match internetClass? w, hw with
  | none, _ | some true, _ => rfl

/-- The token of a type is neither a time to live nor a class, and that of the class is no time to
live. -/
theorem token_spec (kind : Kind) : ttl? kind.token = none ∧ internetClass? kind.token = none ∧
    Kind.ofWord? kind.token = some kind := by
  cases kind <;> decide +kernel

theorem class_spec : ttl? "IN".toList = none ∧ internetClass? "IN".toList = some true := by
  decide +kernel

/-- A word that begins with a digit is no class and no type: these begin with letters. -/
theorem ofWord?_of_digit (h : w.head?.any isAsciiDigit = true) :
    internetClass? w = none ∧ Kind.ofWord? w = none := by
  cases w with
  | nil => cases h
  | cons c rest =>
    have hc : isAsciiDigit c = true := h
    have hupper : c.toUpper = c := by
      have hall : ∀ n < 58, isAsciiDigit (Char.ofNat n) = true →
          (Char.ofNat n).toUpper = Char.ofNat n := by decide
      exact forall_toNat_lt (p := fun c => isAsciiDigit c = true → c.toUpper = c) hall
        (Nat.lt_succ_of_le (isAsciiDigit_iff.mp hc).2) hc
    have hne {u : Text} (hu : u.head?.any (!isAsciiDigit ·) = true) (rest : Text) :
        u ≠ c :: rest := by
      rintro rfl
      simp [hc] at hu
    have hnumber {start : Text} (hstart : start.head?.any (!isAsciiDigit ·) = true) (rest : Text) :
        numbered? start (c :: rest) = none := by
      cases start with
      | nil => cases hstart
      | cons a start =>
        have hac : a ≠ c := by
          rintro rfl
          simp [hc] at hstart
        rw [numbered?, dropPrefix?, if_neg hac]
        rfl
    have hno {classes : List Text}
        (hclasses : classes.all (fun u => u.head?.any (!isAsciiDigit ·)) = true) :
        ¬ classes.contains (c :: rest.map Char.toUpper) = true := by
      rw [List.contains_iff_mem]
      exact fun hmem => hne (List.all_eq_true.mp hclasses _ hmem) _ rfl
    have htypes : Kind.tokens.all (fun entry => entry.1.head?.any (!isAsciiDigit ·)) = true := by
      decide
    constructor
    · unfold internetClass?
      dsimp only
      rw [List.map_cons, hupper, if_neg (hno (by decide)), if_neg (hno (by decide)),
        hnumber (by decide)]
    · unfold Kind.ofWord?
      dsimp only
      rw [List.map_cons, hupper, hnumber (by decide), List.find?_eq_none.mpr]
      · rfl
      · intro entry hentry
        simp [hne (List.all_eq_true.mp htypes entry hentry)]

/-- What is left of reading a record at its type. -/
def readAtType (s : State) (given : Option Nat) (c : Cursor) : Except Fault (State × Cursor) := do
  let (w, c) ← orReject c.word
  let some kind := Kind.ofWord? w | reject .unknownType
  readBehindType s given kind c

/-- What is left of reading a record at its class. -/
def readAtClass (s : State) (before : Option Nat) (c : Cursor) :
    Except Fault (State × Cursor) := do
  let c ← orReject (optionalClass c)
  let (given, c) ← orReject (if before.isSome then pure (before, c) else optionalTtl c)
  readAtType s given c

theorem readRecord_eq (s : State) (c : Cursor) :
    readRecord s c = orReject (optionalTtl c) >>= fun read => readAtClass s read.1 read.2 := rfl

theorem readAtType_eq {given : Option Nat} (h : c.next = .ok (.word kind.token, c')) :
    readAtType s given c = readBehindType s given kind c' := by
  rw [readAtType, word_of_next h, orReject_ok, ok_bind]
  simp only [(token_spec kind).2.2]

/-- The class may be given or not. -/
theorem readAtClass_eq (s : State) (given : Option Nat) {hasClass : Bool}
    (h : Yields c ((if hasClass then [.word "IN".toList] else []) ++ .word kind.token :: tokens)
      c') :
    ∃ c₁, Yields c₁ tokens c' ∧ readAtClass s given c = readBehindType s given kind c₁ := by
  obtain ⟨httl, hclass, -⟩ := token_spec kind
  obtain ⟨c₂, hskip, hrest⟩ : ∃ c₂, optionalClass c = .ok c₂ ∧
      Yields c₂ (.word kind.token :: tokens) c' := by
    cases hasClass with
    | false =>
      refine ⟨c, ?_, h⟩
      cases h with
      | cons h _ _ _ => rw [optionalClass_eq h (by simp [hclass]), hclass]; rfl
    | true =>
      cases h with
      | @cons _ c₁ _ _ _ h _ _ hrest =>
        refine ⟨c₁, ?_, hrest⟩
        rw [optionalClass_eq h (by rw [class_spec.2]; decide), class_spec.2]
        rfl
  cases hrest with
  | @cons _ c₁ _ _ _ hnext _ _ hdata =>
    refine ⟨c₁, hdata, ?_⟩
    rw [readAtClass, hskip, orReject_ok, ok_bind]
    cases given with
    | none =>
      rw [if_neg (by simp), optionalTtl_eq hnext, httl, orReject_ok, ok_bind]
      exact readAtType_eq hnext
    | some n =>
      rw [if_pos Option.isSome_some, orReject_pure, ok_bind]
      exact readAtType_eq hnext

/-- A record is read if its time to live and its data are readable and its record set fits. -/
theorem readRecord_eq_ok_iff (he : e.IsProper) (hdefault : s.defaultTtl.isSome = true)
    (h : Yields c e.tokens c') :
    readRecord s c = .ok (s', c₂) ↔ ∃ given, e.ttl.map ttl? = given.map some ∧
      (IsRowOf e.kind s.origin e.data ∧ c₂ = c') ∧
        State.add { s with lastTtl := given <|> s.lastTtl } e.kind = .ok s' := by
  obtain ⟨owner, ttl, hasClass, kind, data⟩ := e
  rw [readRecord_eq]
  cases ttl with
  | none =>
    have hnone : optionalTtl c = .ok (none, c) := by
      cases hasClass with
      | false =>
        cases h with
        | cons h _ _ _ =>
          rw [optionalTtl_eq h, (token_spec kind).1]
          rfl
      | true =>
        cases h with
        | cons h _ _ _ =>
          rw [optionalTtl_eq h, class_spec.1]
          rfl
    obtain ⟨c₁, hdata, hread⟩ := readAtClass_eq s none h
    rw [hnone, orReject_ok, ok_bind, hread, readBehindType_eq_ok_iff hdefault hdata]
    simp
  | some t =>
    cases h with
    | cons hnext hends hlt hrest =>
      rw [optionalTtl_eq hnext, orReject_ok, ok_bind]
      cases hn : ttl? t with
      | none =>
        obtain ⟨hclass, hkind⟩ := ofWord?_of_digit (he.ttl t rfl).digit
        have hreject : readAtClass s none c = reject .unknownType := by
          rw [readAtClass, optionalClass_eq hnext (by simp [hclass]), hclass, orReject_ok, ok_bind]
          simp only [Option.elim_none, Option.isSome_none, Bool.false_eq_true, if_false]
          rw [optionalTtl_eq hnext, hn, orReject_ok, ok_bind]
          simp only [Option.elim_none]
          rw [readAtType, word_of_next hnext, orReject_ok, ok_bind]
          simp only [hkind]
        simp only [Option.elim_none]
        rw [hreject]
        simp [reject, hn, Option.map_eq_some_iff, eq_comm]
      | some n =>
        obtain ⟨c₁, hdata, hread⟩ := readAtClass_eq s (some n) hrest
        simp only [Option.elim_some]
        rw [hread, readBehindType_eq_ok_iff hdefault hdata]
        simp [hn, eq_comm]

end ZoneKeeper.MasterFile
