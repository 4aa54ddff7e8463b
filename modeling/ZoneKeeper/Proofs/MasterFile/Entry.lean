import ZoneKeeper.Proofs.MasterFile.Written

/-!
# Loading plain records

What loading plain records makes of the record sets so far: a record with an owner in the zone adds
its owner and kind, unless they are there, and one with another owner adds nothing. Owners of
aliases stay free of other kinds, so no record is refused.
-/

namespace ZoneKeeper

open Text MasterFile

/-! ## Plain records -/

namespace Record

/-- Whether the data of a record are as its type asks for them, in ASCII and fitting. -/
def HasPlainData (origin : Name) (r : Record) : Prop :=
  match r.type, r.values with
  | .mx, [preference, host] => IsPlainPreference preference ∧ IsNameText origin host
  | .ns, [host] | .cname, [host] => IsNameText origin host
  | .a, [address] => IsPlainAddress address
  | .spf, [text] | .txt, [text] => IsPlainQuoted text
  | _, _ => False

/-- A record of plain fields, names completed by an origin. -/
structure IsPlain (origin : Name) (r : Record) : Prop where
  owner : r.ownerLabel = ['@'] ∨ IsNameText origin r.ownerLabel
  ttl : ∀ ttl, r.ttl = some ttl → IsPlainTime ttl
  data : r.HasPlainData origin

/-- The owner of a record, completed by an origin. -/
def ownerName (origin : Name) (r : Record) : Name :=
  if r.ownerLabel = ['@'] then origin else (Name.ofParts r.ownerLabel).complete (some origin)

/-- The record set that a record belongs to, if its owner is in the zone. -/
def recordSets (origin : Name) (r : Record) : List (Name × Kind) :=
  if (r.ownerName origin).isIn origin then [((r.ownerName origin).folded, r.type.kind)] else []

end Record

/-! ## Plain fields -/

theorem MasterFile.IsPlainWord.isWord {w : Text} (h : IsPlainWord w) : w.IsWord := by
  have hall : ∀ n < 0x7F, isPlain (Char.ofNat n) = true → isBlank (Char.ofNat n) = false := by
    decide
  refine ⟨h.1, fun c hc => ?_⟩
  have hplain := h.2 c hc
  have hlt : c.toNat < 0x7F := by
    simp only [isPlain, Bool.and_eq_true, decide_eq_true_eq] at hplain
    exact Nat.lt_succ_of_le hplain.1.1.2
  exact forall_toNat_lt (p := fun c => isPlain c = true → isBlank c = false) hall hlt hplain

theorem MasterFile.IsPlainQuoted.isQuoted {t : Text} (h : IsPlainQuoted t) : t.IsQuoted := by
  obtain ⟨inner, rfl, -, hchars⟩ := h
  refine ⟨fun hmem => ?_, inner, rfl⟩
  simp only [List.mem_cons, List.mem_append, List.not_mem_nil, or_false] at hmem
  rcases hmem with hquote | hinner | hquote
  · cases hquote
  · exact absurd (hchars _ hinner).1 (by decide)
  · cases hquote

theorem MasterFile.IsPlainPreference.isPlainWord {t : Text} (h : IsPlainPreference t) :
    IsPlainWord t :=
  IsPlainWord.of_digits (by
    rintro rfl
    cases h.1) h.2

/-- Quoted printable ASCII is one string. -/
theorem MasterFile.IsPlainQuoted.row {inner : Text}
    (h : ∀ c ∈ inner, 0x20 ≤ c.toNat ∧ c.toNat ≤ 0x7E ∧ c ≠ '"' ∧ c ≠ '\\') :
    Row 0 ('"' :: (inner ++ ['"']) ++ ['\n']) [.quoted inner] := by
  have hplain : IsPlainString inner := ⟨fun hc => (h _ hc).2.2.1 rfl, fun hc => (h _ hc).2.2.2 rfl,
    fun hc => absurd (h _ hc).1 (by decide)⟩
  exact .token (.quoted hplain.isEscaped) (endsWord_cons (by decide) _) .finish

namespace Record

variable {f : Fields} {load : Loader} {r : Record} {rs : List Record} {origin : Name}
  {sets known : List (Name × Kind)}

theorem HasPlainData.hasData (h : r.HasPlainData origin) : r.HasData := by
  obtain ⟨type, values, owner, ttl⟩ := r
  unfold HasPlainData at h
  simp only at h
  split at h
  · exact ⟨h.1.1, h.2.isPlainWord.isWord⟩
  · exact h.isPlainWord.isWord
  · exact h.isPlainWord.isWord
  · exact h.isPlainWord.isWord
  · exact h.isQuoted
  · exact h.isQuoted
  · exact h.elim

/-- Plain data are tokens, and a loader that takes plain fields takes them. -/
theorem HasPlainData.exists_tokens (h : r.HasPlainData origin) :
    ∃ tokens, r.HasTokens tokens ∧ ∀ {f : Fields} {load : Loader}, f.Describes load →
      f.TakesPlain → IsOrigin origin → f.IsData r.type.kind origin tokens := by
  obtain ⟨type, values, owner, ttl⟩ := r
  have htext {text : Text} (h : IsPlainQuoted text) :
      ∃ tokens, (tokens ≠ [] ∧ Row 0 (text ++ ['\n']) tokens) ∧
        ∀ {f : Fields} {load : Loader}, f.Describes load → f.TakesPlain → IsOrigin origin →
          f.IsData .txt origin tokens := by
    obtain ⟨inner, rfl, hlength, hchars⟩ := h
    exact ⟨_, ⟨List.cons_ne_nil _ _, IsPlainQuoted.row hchars⟩,
      fun _ hf _ => hf.text hlength hchars⟩
  unfold HasPlainData at h
  simp only at h
  split at h
  · obtain ⟨hpreference, hhost⟩ := h
    refine ⟨_, ⟨rfl, hpreference.isPlainWord.isOneWord, hhost.isPlainWord.isOneWord⟩,
      fun hload hf horigin => hload.exchange.mpr ⟨hf.isPreference hpreference.1, ?_⟩⟩
    rw [hf.name horigin hhost]
    rfl
  · exact ⟨_, ⟨rfl, h.isPlainWord.isOneWord⟩, fun _ hf horigin => hf.host horigin (.inl rfl) h⟩
  · exact ⟨_, ⟨rfl, h.isPlainWord.isOneWord⟩, fun _ hf horigin => hf.host horigin (.inr rfl) h⟩
  · exact ⟨_, ⟨rfl, h.isPlainWord.isOneWord⟩, fun _ hf _ => hf.address h.isStrictAddress⟩
  · exact htext h
  · exact htext h
  · exact h.elim

theorem IsPlain.isTokenwise (h : r.IsPlain origin) : r.IsTokenwise where
  owner := by
    rcases h.owner with hat | howner
    · rw [hat]
      decide
    · exact howner.isPlainWord.isOneWord
  ttl ttl httl := isTtlShaped_of_isTime (h.ttl ttl httl).isTime
  data := by
    obtain ⟨tokens, htokens, -⟩ := h.data.exists_tokens
    exact ⟨tokens, htokens⟩
  visible value hvalue := (h.data.hasData.values_spec value hvalue).2

theorem IsPlain.head?_ownerLabel (h : r.IsPlain origin) : r.ownerLabel.head? ≠ some '$' := by
  intro hhead
  rcases h.owner with hat | howner
  · rw [hat] at hhead
    cases hhead
  · rcases howner.1.isPlain.eq_dot_or (List.mem_of_head? hhead) with hdot | hchar
    · cases hdot
    · exact absurd hchar (by decide)

theorem IsPlain.name_ownerLabel (h : r.IsPlain origin) (hf : f.TakesPlain)
    (horigin : IsOrigin origin) (hat : f.name origin ['@'] = some origin) :
    f.name origin r.ownerLabel = some (r.ownerName origin) := by
  rw [ownerName]
  by_cases howner : r.ownerLabel = ['@']
  · rw [if_pos howner, howner, hat]
  · rw [if_neg howner, hf.name horigin (h.owner.resolve_left howner)]

end Record

/-! ## Record sets -/

/-- Whether the owner of an alias has nothing else. -/
def MasterFile.Compatible (sets : List (Name × Kind)) : Prop :=
  ∀ p ∈ sets, ∀ q ∈ sets, p.1 = q.1 → p.2 = .cname → q.2 = .cname

theorem MasterFile.Compatible.mono {sets sets' : List (Name × Kind)} (h : Compatible sets)
    (hsub : sets' ⊆ sets) : Compatible sets' :=
  fun p hp q hq => h p (hsub hp) q (hsub hq)

namespace Record

variable {f : Fields} {load : Loader} {r : Record} {rs : List Record} {origin : Name}
  {sets known : List (Name × Kind)}

theorem kind_ne_soa (type : RecordType) : type.kind ≠ .soa := by
  cases type <;> nofun

theorem mem_recordSets {p : Name × Kind} :
    p ∈ r.recordSets origin ↔
      (r.ownerName origin).isIn origin = true ∧ p = ((r.ownerName origin).folded, r.type.kind) := by
  unfold recordSets
  split
  · next hin => simp [hin]
  · next hin => simp [hin]

section

variable (hload : f.Describes load) (hf : f.TakesPlain) (horigin : IsOrigin origin)
  (hat : f.name origin ['@'] = some origin)

include hload hf horigin hat

/-- A plain record loads if it is compatible with the record sets so far, and then its own is one of
them. -/
theorem IsPlain.exists_loads (h : r.IsPlain origin) (hnodup : sets.Nodup)
    (hmem : ∀ p, p ∈ sets ↔ p ∈ known) (hfits : Compatible (known ++ r.recordSets origin)) :
    ∃ e sets', r.Gives e ∧ f.Loads origin e sets sets' ∧ sets'.Nodup ∧
      ∀ p, p ∈ sets' ↔ p ∈ known ++ r.recordSets origin := by
  obtain ⟨tokens, htokens, hdata⟩ := h.data.exists_tokens
  have howner := h.name_ownerLabel hf horigin hat
  refine ⟨r.entry tokens, ?_⟩
  unfold recordSets at hfits ⊢
  split
  · next hin =>
    rw [if_pos hin] at hfits
    have hnew : ((r.ownerName origin).folded, r.type.kind) ∈
        known ++ [((r.ownerName origin).folded, r.type.kind)] := by simp
    have hfits : Fits origin sets ((r.ownerName origin).folded, r.type.kind) := by
      refine ⟨fun hsoa => absurd hsoa (kind_ne_soa r.type), fun q hq hsame => ?_⟩
      have hold := List.mem_append_left [((r.ownerName origin).folded, r.type.kind)]
        ((hmem q).mp hq)
      exact ⟨hfits q hold _ hnew hsame, hfits _ hnew q hold hsame.symm⟩
    refine ⟨_, ⟨tokens, htokens, rfl⟩, .inside h.head?_ownerLabel howner hin
      (fun ttl httl => hf.ttl (h.ttl ttl httl)) (hdata hload hf horigin) hfits,
      nodup_withSet hnodup _, fun p => ?_⟩
    rw [mem_withSet, List.mem_append, List.mem_singleton, hmem]
    rfl
  · next hin =>
    rw [List.append_nil]
    exact ⟨sets, ⟨tokens, htokens, rfl⟩,
      .outside h.head?_ownerLabel howner (Bool.eq_false_iff.mpr hin), hnodup, hmem⟩

theorem exists_loadsAll (hrs : ∀ r ∈ rs, r.IsPlain origin) (hnodup : sets.Nodup)
    (hmem : ∀ p, p ∈ sets ↔ p ∈ known)
    (hfits : Compatible (known ++ rs.flatMap (recordSets origin))) :
    ∃ entries sets', List.Forall₂ Gives rs entries ∧ f.LoadsAll origin entries sets sets' ∧
      sets'.Nodup ∧ ∀ p, p ∈ sets' ↔ p ∈ known ++ rs.flatMap (recordSets origin) := by
  induction rs generalizing sets known with
  | nil => exact ⟨[], sets, .nil, .nil, hnodup, by simpa using hmem⟩
  | cons r rs ih =>
    rw [List.flatMap_cons, ← List.append_assoc] at hfits ⊢
    obtain ⟨e, sets₁, he, hloads, hnodup₁, hmem₁⟩ := (hrs r List.mem_cons_self).exists_loads hload
      hf horigin hat hnodup hmem (hfits.mono (List.subset_append_left _ _))
    obtain ⟨entries, sets', hentries, hall, hspec⟩ :=
      ih (fun r hr => hrs r (List.mem_cons_of_mem _ hr)) hnodup₁ hmem₁ hfits
    exact ⟨e :: entries, sets', .cons he hentries, .cons hloads hall, hspec⟩

end

end Record

end ZoneKeeper
