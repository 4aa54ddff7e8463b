import ZoneKeeper.Proofs.MasterFile.Data

/-!
# What is asked of a loader

What is known of a loader of master files without looking into it. It reads the rows of a file one
after another, each by its fields, and gathers the record sets of owners in the zone. What it takes
as a field is its own affair, apart from the fields that every loader takes: times of at most
2³² - 1 seconds, addresses in strict form and preferences that fit into 16 bits, and, where a zone
is plain, the names of hosts, serials and quoted ASCII.
-/

namespace ZoneKeeper.MasterFile

open Text

/-! ## Record sets -/

/-- The record sets with one more, unless it is there. -/
def withSet (sets : List (Name × Kind)) (p : Name × Kind) : List (Name × Kind) :=
  if p ∈ sets then sets else sets ++ [p]

/-- Whether a record set may stand with others: the start of authority belongs to the zone, and an
alias stands beside aliases only. -/
def Fits (zone : Name) (sets : List (Name × Kind)) (p : Name × Kind) : Prop :=
  (p.2 = .soa → p.1 = zone.folded) ∧ ∀ q ∈ sets, q.1 = p.1 → (q.2 = .cname ↔ p.2 = .cname)

theorem mem_withSet {sets : List (Name × Kind)} {p q : Name × Kind} :
    q ∈ withSet sets p ↔ q ∈ sets ∨ q = p := by
  unfold withSet
  split
  · next hthere => exact ⟨.inl, fun h => h.elim id fun heq => heq ▸ hthere⟩
  · rw [List.mem_append, List.mem_singleton]

theorem nodup_withSet {sets : List (Name × Kind)} (h : sets.Nodup) (p : Name × Kind) :
    (withSet sets p).Nodup := by
  unfold withSet
  split
  · exact h
  · next hnew =>
    refine List.nodup_append.mpr ⟨h, by simp, fun q hq p' hp => ?_⟩
    rintro rfl
    exact hnew (List.mem_singleton.mp hp ▸ hq)

/-! ## Loading -/

/-- What a loader takes as the fields of a file. -/
structure Fields where
  /-- The name of a zone. -/
  zone : Text → Option Name
  /-- The name that a word writes, completed by an origin. -/
  name : Name → Text → Option Name
  /-- Whether a word is a time to live. -/
  IsTtl : Text → Prop
  /-- Whether tokens are the data of a type, names completed by an origin. -/
  IsData : Kind → Name → List Token → Prop
  /-- Whether two words are the nameserver and the mailbox of a start of authority. -/
  AreHosts : Name → Text → Text → Prop
  /-- Whether a word is the serial of a start of authority. -/
  IsSerial : Text → Prop
  /-- Whether a word is one of the timings of a start of authority. -/
  IsTiming : Text → Prop
  /-- Whether a word is the preference of a mail exchange. -/
  IsPreference : Text → Prop

namespace Fields

/-- What loading a record of a zone makes of the record sets so far. A word that begins with a
dollar is the name of no owner. -/
inductive Loads (f : Fields) (apex : Name) (e : ResourceRecord) (sets : List (Name × Kind)) :
    List (Name × Kind) → Prop where
  /-- The owner is not in the zone; time to live and data do not matter. -/
  | outside {owner : Name} (hdollar : e.owner.head? ≠ some '$')
      (howner : f.name apex e.owner = some owner) (hout : owner.isIn apex = false) :
      Loads f apex e sets sets
  /-- The owner is in the zone, and its record set fits to the others. -/
  | inside {owner : Name} (hdollar : e.owner.head? ≠ some '$')
      (howner : f.name apex e.owner = some owner) (hin : owner.isIn apex = true)
      (httl : ∀ ttl, e.ttl = some ttl → f.IsTtl ttl) (hdata : f.IsData e.kind apex e.data)
      (hfits : Fits apex sets (owner.folded, e.kind)) :
      Loads f apex e sets (withSet sets (owner.folded, e.kind))

/-- What loading records one after another makes of the record sets so far. -/
inductive LoadsAll (f : Fields) (apex : Name) :
    List ResourceRecord → List (Name × Kind) → List (Name × Kind) → Prop where
  /-- No records change nothing. -/
  | nil {sets : List (Name × Kind)} : LoadsAll f apex [] sets sets
  /-- A record, and then the others. -/
  | cons {e : ResourceRecord} {entries : List ResourceRecord}
      {sets sets₁ sets' : List (Name × Kind)} (h : f.Loads apex e sets sets₁)
      (hrest : LoadsAll f apex entries sets₁ sets') : LoadsAll f apex (e :: entries) sets sets'

/-- Whether a loader reads files by these fields. -/
structure Describes (f : Fields) (load : Loader) : Prop where
  /-- A file loads exactly if the zone has a name, the default time to live is one and the records
  load; the loader then says how many record sets there are. -/
  load_iff {domain text ttl : Text} {entries : List ResourceRecord} {n : Nat}
      (h : File ttl entries text) : load domain text = .ok n ↔ f.IsTtl ttl ∧ ∃ apex sets,
        f.zone domain = some apex ∧ f.LoadsAll apex entries [] sets ∧ n = sets.length
  /-- An at sign stands for the name of the zone. -/
  name_at {domain : Text} {apex : Name} (h : f.zone domain = some apex) :
    f.name apex ['@'] = some apex
  /-- A start of authority with an absolute mailbox is two hosts, a serial and four timings. -/
  authority {apex : Name} {host mailbox : Text} {tokens : List Token}
      (hmailbox : mailbox.getLast? = some '.') :
    f.IsData .soa apex (.word host :: .word mailbox :: tokens) ↔ f.AreHosts apex host mailbox ∧
      ∃ serial timings, tokens = (serial :: timings).map .word ∧ timings.length = 4 ∧
        f.IsSerial serial ∧ ∀ timing ∈ timings, f.IsTiming timing
  /-- A mail exchange is a preference and the name of a host. -/
  exchange {apex : Name} {preference host : Text} :
    f.IsData .mx apex [.word preference, .word host] ↔
      f.IsPreference preference ∧ (f.name apex host).isSome = true

/-- Whether the literals that every loader takes are fields: times in ASCII, strict addresses, and as
preferences numbers of at most five digits, of whatever script, and at most 65535. -/
structure TakesLiterals (f : Fields) : Prop where
  ttl {t : Text} (h : IsPlainTime t) : f.IsTtl t
  timing {t : Text} (h : IsPlainTime t) : f.IsTiming t
  address {apex : Name} {t : Text} (h : isStrictAddress t = true) : f.IsData .a apex [.word t]
  preference {t : Text} {n : Nat} (hne : t ≠ []) (hlength : t.length ≤ 5)
    (hdigits : ∀ c ∈ t, isDigit c = true) (hn : numeral? t = some n) (hle : n ≤ 65535) :
    f.IsPreference t

/-- Whether what a plain zone has are fields too: the names of hosts are read as what they write,
and serials and quoted strings of printable ASCII are taken. -/
structure TakesPlain (f : Fields) : Prop extends f.TakesLiterals where
  zone {t : Text} (h : IsNameText .root t) :
    f.zone t = some ((Name.ofParts t).complete (some .root))
  name {apex : Name} {t : Text} (hapex : IsOrigin apex) (h : IsNameText apex t) :
    f.name apex t = some ((Name.ofParts t).complete (some apex))
  hosts {apex : Name} {host mailbox : Text} (hapex : IsOrigin apex) (hhost : IsNameText apex host)
    (hmailbox : IsNameText apex mailbox) : f.AreHosts apex host mailbox
  host {apex : Name} {kind : Kind} {t : Text} (hapex : IsOrigin apex)
    (hkind : kind = .ns ∨ kind = .cname) (h : IsNameText apex t) : f.IsData kind apex [.word t]
  serial {t : Text} (h : IsPlainSerial t) : f.IsSerial t
  text {apex : Name} {t : Text} (hlength : t.length ≤ 255)
    (h : ∀ c ∈ t, 0x20 ≤ c.toNat ∧ c.toNat ≤ 0x7E ∧ c ≠ '"' ∧ c ≠ '\\') :
    f.IsData .txt apex [.quoted t]

end Fields

end ZoneKeeper.MasterFile
