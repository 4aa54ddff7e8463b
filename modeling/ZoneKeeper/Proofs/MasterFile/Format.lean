import ZoneKeeper.MasterFile.Data

/-!
# The format of master files

How a master file is written, whoever reads it. A row is tokens with blanks, tabs, parentheses and
comments between them; it ends with its line, unless parentheses are open. The first row
gives the default time to live. Every other one is blank or a record: its owner, a time to live and
the class where they are given, its type and its data.
-/

namespace ZoneKeeper.MasterFile

/-! ## Tokens -/

/-- Whether the characters of a text belong to one word: none of them ends words, and a backslash
takes the character behind it along, which is no line feed. -/
inductive IsWordText : Text → Prop where
  /-- Nothing ends a word. -/
  | nil : IsWordText []
  /-- A character that stands for itself. -/
  | plain {c : Char} {t : Text} (hends : endsWord c = false) (hescape : c ≠ '\\')
      (h : IsWordText t) : IsWordText (c :: t)
  /-- A backslash and the character that it escapes. -/
  | escape {c : Char} {t : Text} (hline : c ≠ '\n') (h : IsWordText t) : IsWordText ('\\' :: c :: t)

/-- Whether a text is one word. -/
def IsOneWord (w : Text) : Prop := w ≠ [] ∧ IsWordText w

/-- Whether a text has no quote and no line feed but behind a backslash, and no backslash at its
end; what comes behind a backslash is passed over with it. -/
inductive IsEscaped : Text → Prop where
  /-- Nothing is to be escaped. -/
  | nil : IsEscaped []
  /-- A character that stands for itself. -/
  | plain {c : Char} {t : Text} (hquote : c ≠ '"') (hescape : c ≠ '\\') (hline : c ≠ '\n')
      (h : IsEscaped t) : IsEscaped (c :: t)
  /-- A backslash and the character that it escapes. -/
  | escape (c : Char) {t : Text} (h : IsEscaped t) : IsEscaped ('\\' :: c :: t)

/-- How a token is written. -/
inductive Spells : Text → Token → Prop where
  /-- A word is written as it is. -/
  | word {w : Text} (h : IsOneWord w) : Spells w (.word w)
  /-- A string is written in quotes. -/
  | quoted {t : Text} (h : IsEscaped t) : Spells ('"' :: (t ++ ['"'])) (.quoted t)

/-- Whether a word ends where a text goes on. -/
def EndsWord (rest : Text) : Prop := ∀ c ∈ rest.head?, endsWord c = true

/-- How tokens are written up to the end of their row, by how many parentheses are open. -/
inductive Row : Nat → Text → List Token → Prop where
  /-- The line ends. -/
  | finish : Row 0 ['\n'] []
  /-- The line ends with a comment. -/
  | comment {comment : Text} (hcomment : '\n' ∉ comment) : Row 0 (';' :: (comment ++ ['\n'])) []
  /-- A token, and then the others. -/
  | token {depth : Nat} {chunk t : Text} {token : Token} {tokens : List Token}
      (hchunk : Spells chunk token) (hends : EndsWord t) (h : Row depth t tokens) :
      Row depth (chunk ++ t) (token :: tokens)
  /-- A blank or a tab before what is left of the row. -/
  | blank {depth : Nat} {c : Char} {t : Text} {tokens : List Token} (hc : c = ' ' ∨ c = '\t')
      (h : Row depth t tokens) : Row depth (c :: t) tokens
  /-- An opening parenthesis. -/
  | opening {depth : Nat} {t : Text} {tokens : List Token} (h : Row (depth + 1) t tokens) :
      Row depth ('(' :: t) tokens
  /-- A closing parenthesis. -/
  | closing {depth : Nat} {t : Text} {tokens : List Token} (h : Row depth t tokens) :
      Row (depth + 1) (')' :: t) tokens
  /-- A line end between parentheses. -/
  | line {depth : Nat} {t : Text} {tokens : List Token} (h : Row (depth + 1) t tokens) :
      Row (depth + 1) ('\n' :: t) tokens
  /-- A comment between parentheses. -/
  | commentLine {depth : Nat} {comment t : Text} {tokens : List Token} (hcomment : '\n' ∉ comment)
      (h : Row (depth + 1) t tokens) : Row (depth + 1) (';' :: (comment ++ '\n' :: t)) tokens

/-! ## Records -/

/-- The token of a type. -/
def Kind.token : Kind → Text
  | .soa => "SOA".toList
  | .ns => "NS".toList
  | .a => "A".toList
  | .cname => "CNAME".toList
  | .mx => "MX".toList
  | .txt => "TXT".toList

/-- A record as a row gives it. -/
structure ResourceRecord where
  /-- The word that names its owner. -/
  owner : Text
  /-- Its time to live, if one is given. -/
  ttl : Option Text
  /-- Whether the class is given. -/
  hasClass : Bool
  /-- Its type. -/
  kind : Kind
  /-- The tokens of its data. -/
  data : List Token

/-- The tokens of a record behind its owner. -/
def ResourceRecord.tokens (e : ResourceRecord) : List Token :=
  e.ttl.toList.map .word ++ ((if e.hasClass then [.word "IN".toList] else []) ++
    .word e.kind.token :: e.data)

/-- Whether a word stands where a time to live may stand, readable or not: it begins with a digit,
as no class and no type does, and is no range, which a directive might have. -/
structure IsTtlShaped (w : Text) : Prop where
  isOneWord : IsOneWord w
  digit : w.head?.any Text.isAsciiDigit = true
  noRange : '-' ∉ w

/-- Whether a row can give a record. -/
structure ResourceRecord.IsProper (e : ResourceRecord) : Prop where
  owner : IsOneWord e.owner
  ttl : ∀ ttl, e.ttl = some ttl → IsTtlShaped ttl
  data : e.data ≠ []

/-- How records are written, one row each, with blank lines among them. -/
inductive Rows : Text → List ResourceRecord → Prop where
  /-- No records are written as nothing. -/
  | nil : Rows [] []
  /-- A blank line. -/
  | blank {t : Text} {entries : List ResourceRecord} (h : Rows t entries) : Rows ('\n' :: t) entries
  /-- The row of a record, and then the others. -/
  | entry {e : ResourceRecord} {row t : Text} {entries : List ResourceRecord} (he : e.IsProper)
      (hends : EndsWord row) (hrow : Row 0 row e.tokens) (h : Rows t entries) :
      Rows (e.owner ++ (row ++ t)) (e :: entries)

/-- How a master file with a default time to live and records is written. -/
inductive File (ttl : Text) (entries : List ResourceRecord) : Text → Prop where
  /-- The row of the default time to live, and then the records. -/
  | intro {row t : Text} (hends : EndsWord row) (hrow : Row 0 row [.word ttl])
      (h : Rows t entries) : File ttl entries ("$TTL".toList ++ (row ++ t))

/-! ## Plain tokens -/

/-- Whether a character is printable ASCII and stands for itself in a word. -/
def isPlain (c : Char) : Bool :=
  0x21 ≤ c.toNat && c.toNat ≤ 0x7E && !endsWord c && c ≠ '\\'

/-- Whether a text is a word of printable ASCII in which every character stands for itself. -/
def IsPlainWord (w : Text) : Prop := w ≠ [] ∧ ∀ c ∈ w, isPlain c = true

/-- Whether every character of a text stands for itself in a quoted string. -/
def IsPlainString (t : Text) : Prop := '"' ∉ t ∧ '\\' ∉ t ∧ '\n' ∉ t

variable {w t chunk : Text} {token : Token} {tokens : List Token} {depth : Nat}

theorem isOneWord_of_forall (hne : w ≠ []) (h : ∀ c ∈ w, endsWord c = false ∧ c ≠ '\\') :
    IsOneWord w := by
  refine ⟨hne, ?_⟩
  clear hne
  induction w with
  | nil => exact .nil
  | cons c w ih =>
    obtain ⟨hc, hescape⟩ := h c List.mem_cons_self
    exact .plain hc hescape (ih fun c hc => h c (List.mem_cons_of_mem _ hc))

theorem of_isPlain {c : Char} (h : isPlain c = true) : endsWord c = false ∧ c ≠ '\\' := by
  simp only [isPlain, Bool.and_eq_true, Bool.not_eq_true', decide_eq_true_eq] at h
  exact ⟨h.1.2, h.2⟩

theorem IsPlainWord.isOneWord (h : IsPlainWord w) : IsOneWord w :=
  isOneWord_of_forall h.1 fun c hc => of_isPlain (h.2 c hc)

theorem IsPlainWord.not_mem_escape (h : IsPlainWord w) : '\\' ∉ w := by
  intro hmem
  exact absurd (h.2 _ hmem) (by decide)

theorem IsPlainString.isEscaped (h : IsPlainString t) : IsEscaped t := by
  induction t with
  | nil => exact .nil
  | cons c t ih =>
    obtain ⟨hquote, hescape, hline⟩ := h
    rw [List.mem_cons, not_or] at hquote hescape hline
    exact .plain (Ne.symm hquote.1) (Ne.symm hescape.1) (Ne.symm hline.1)
      (ih ⟨hquote.2, hescape.2, hline.2⟩)

/-- Without backslashes there is nothing but plain characters. -/
theorem IsEscaped.isPlainString (h : IsEscaped t) (hescape : '\\' ∉ t) : IsPlainString t := by
  induction h with
  | nil => exact ⟨List.not_mem_nil, List.not_mem_nil, List.not_mem_nil⟩
  | plain hquote _ hline _ ih =>
    obtain ⟨hquotes, -, hlines⟩ := ih fun h => hescape (List.mem_cons_of_mem _ h)
    refine ⟨?_, hescape, ?_⟩
    · rw [List.mem_cons, not_or]
      exact ⟨Ne.symm hquote, hquotes⟩
    · rw [List.mem_cons, not_or]
      exact ⟨Ne.symm hline, hlines⟩
  | escape => exact absurd List.mem_cons_self hescape

/-- A word begins with a character that does not end words. -/
theorem IsOneWord.exists_cons (h : IsOneWord w) : ∃ c u, w = c :: u ∧ endsWord c = false := by
  obtain ⟨hne, hw⟩ := h
  cases hw with
  | nil => exact absurd rfl hne
  | @plain c t hends _ _ => exact ⟨c, t, rfl, hends⟩
  | @escape c t _ _ => exact ⟨'\\', c :: t, rfl, by decide⟩

/-- A token begins with a character that stands between no tokens. -/
theorem Spells.exists_cons (h : Spells chunk token) :
    ∃ c u, chunk = c :: u ∧ ∀ depth, isSeparator depth c = false := by
  cases h with
  | word h =>
    obtain ⟨c, w, rfl, hc⟩ := h.exists_cons
    refine ⟨c, w, rfl, fun depth => ?_⟩
    simp only [endsWord, List.contains_eq_mem, List.mem_cons, not_or,
      decide_eq_false_iff_not] at hc
    simp [isSeparator, hc]
  | quoted h => exact ⟨'"', _, rfl, fun depth => by simp [isSeparator]⟩

/-- No token ends a line. -/
theorem Spells.endsLine_eq_false (h : Spells chunk token) : token.endsLine = false := by
  cases h <;> rfl

/-! ## Rows -/

theorem Row.ne_nil (h : Row depth t tokens) : t ≠ [] := by
  cases h with
  | token hchunk _ _ =>
    obtain ⟨c, u, rfl, -⟩ := hchunk.exists_cons
    simp
  | _ => simp

/-- What comes behind a row is shorter than the whole. -/
theorem Row.length_lt (h : Row depth t tokens) (before behind : Text) :
    behind.length < (before ++ (t ++ behind)).length := by
  have hlength := List.length_pos_iff.mpr h.ne_nil
  simp only [List.length_append]
  omega

theorem Row.tabs (h : Row depth t tokens) (n : Nat) :
    Row depth (List.replicate n '\t' ++ t) tokens := by
  induction n with
  | zero => exact h
  | succ n ih => exact .blank (.inr rfl) ih

theorem EndsWord.append (h : EndsWord t) (hne : t ≠ []) (rest : Text) : EndsWord (t ++ rest) := by
  cases t with
  | nil => exact absurd rfl hne
  | cons c t => exact h

theorem endsWord_cons {c : Char} (hc : endsWord c = true) (t : Text) : EndsWord (c :: t) := by
  intro c' hc'
  obtain rfl := Option.some.inj hc'
  exact hc

theorem endsWord_tabs {n : Nat} (hn : 0 < n) (t : Text) :
    EndsWord (List.replicate n '\t' ++ t) := by
  obtain ⟨n, rfl⟩ := Nat.exists_eq_add_one.mpr hn
  exact endsWord_cons (by decide) _

/-- A word at the end of a line. -/
theorem row_word (h : IsOneWord w) : Row 0 (w ++ ['\n']) [.word w] :=
  .token (.word h) (endsWord_cons (by decide) []) .finish

end ZoneKeeper.MasterFile
