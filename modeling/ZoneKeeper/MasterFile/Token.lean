import ZoneKeeper.MasterFile.Fault

/-!
# Tokens of a master file

A master file is words and quoted strings, separated by blanks, tabs, parentheses and comments. Line
ends count as tokens, except between parentheses, where they are blanks. A token is read from a
cursor, which knows how many parentheses are open; reading again from the same cursor gives the same
token, so looking ahead is reading and keeping the old cursor.

Escapes stay in the token as they are written: what they stand for depends on what the token is.
-/

namespace ZoneKeeper.MasterFile

/-- One token. -/
inductive Token where
  /-- The text ends. -/
  | finish
  /-- The line ends. -/
  | line
  /-- Blanks, where those at the start of a line are asked for. -/
  | blank
  /-- A comment, where comments are asked for. -/
  | comment
  /-- A word. -/
  | word (text : Text)
  /-- A quoted string, without its quotes. -/
  | quoted (text : Text)
  deriving DecidableEq, Repr

/-- Whether a token ends a line. -/
def Token.endsLine : Token → Bool
  | .finish | .line => true
  | _ => false

/-- Where reading has come to. -/
structure Cursor where
  /-- What is left of the text. -/
  rest : Text
  /-- How many parentheses are open. -/
  depth : Nat
  deriving DecidableEq, Repr

/-- Whether a character separates tokens; a line end does so between parentheses. -/
def isSeparator (depth : Nat) (c : Char) : Bool :=
  c = ' ' || c = '\t' || (c = '\n' && 0 < depth)

/-- Whether a character ends a word. -/
def endsWord (c : Char) : Bool :=
  [' ', '\t', '\n', ';', '(', ')', '"'].contains c

/-- The word that a text begins with, and what follows it. -/
def scanWord : Text → Except Reason (Text × Text)
  | [] => .ok ([], [])
  | ['\\'] => .error .danglingEscape
  | '\\' :: c :: rest =>
    if c = '\n' then .error .danglingEscape
    else (scanWord rest).map fun (word, rest) => ('\\' :: c :: word, rest)
  | c :: rest =>
    if endsWord c then .ok ([], c :: rest)
    else (scanWord rest).map fun (word, rest) => (c :: word, rest)

/-- The quoted string whose opening quote precedes a text, and what follows its closing quote. -/
def scanQuoted : Text → Except Reason (Text × Text)
  | [] => .error .unclosedQuote
  | ['\\'] => .error .danglingEscape
  | '\\' :: c :: rest => (scanQuoted rest).map fun (text, rest) => ('\\' :: c :: text, rest)
  | c :: rest =>
    if c = '"' then .ok ([], rest)
    else if c = '\n' then .error .lineInQuotes
    else (scanQuoted rest).map fun (text, rest) => (c :: text, rest)

theorem length_dropWhile_le (p : Char → Bool) (t : Text) : (t.dropWhile p).length ≤ t.length :=
  (List.dropWhile_suffix p).length_le

/-- The token that a text without leading separators begins with. A parenthesis is read over, and so
is a comment between parentheses; elsewhere a comment ends its line. -/
def scanToken (comments : Bool) (depth : Nat) (t : Text) : Except Reason (Token × Cursor) :=
  match t with
  | [] => if 0 < depth then .error .unbalanced else .ok (.finish, ⟨[], depth⟩)
  | '(' :: rest => scanToken comments (depth + 1) (rest.dropWhile (isSeparator (depth + 1)))
  | ')' :: rest =>
    if depth = 0 then .error .unbalanced
    else scanToken comments (depth - 1) (rest.dropWhile (isSeparator (depth - 1)))
  | '"' :: rest => (scanQuoted rest).map fun (text, rest) => (.quoted text, ⟨rest, depth⟩)
  | '\n' :: rest => .ok (.line, ⟨rest, depth⟩)
  | ';' :: rest =>
    let after := rest.dropWhile (· ≠ '\n')
    if comments then .ok (.comment, ⟨after, depth⟩)
    else if after = [] then
      if 0 < depth then .error .unbalanced else .ok (.finish, ⟨[], depth⟩)
    else if 0 < depth then
      scanToken comments depth (after.tail.dropWhile (isSeparator depth))
    else .ok (.line, ⟨after.tail, depth⟩)
  | c :: rest => (scanWord (c :: rest)).map fun (word, rest) => (.word word, ⟨rest, depth⟩)
termination_by t.length
decreasing_by
  · have := length_dropWhile_le (isSeparator (depth + 1)) rest
    simp; omega
  · have := length_dropWhile_le (isSeparator (depth - 1)) rest
    simp; omega
  · have h₁ := length_dropWhile_le (isSeparator depth) (rest.dropWhile (· ≠ '\n')).tail
    have h₂ := length_dropWhile_le (· ≠ '\n') rest
    have h₃ := List.length_tail (l := rest.dropWhile (· ≠ '\n'))
    simp only [List.length_cons]
    omega

namespace Cursor

/-- The next token, blanks and comments read over. -/
def next (c : Cursor) : Except Reason (Token × Cursor) :=
  scanToken false c.depth (c.rest.dropWhile (isSeparator c.depth))

/-- The token that a line begins with: leading blanks are a token of their own. -/
def first (c : Cursor) (comments : Bool) : Except Reason (Token × Cursor) :=
  if c.rest.head?.any (isSeparator c.depth) then
    .ok (.blank, ⟨c.rest.dropWhile (isSeparator c.depth), c.depth⟩)
  else scanToken comments c.depth c.rest

/-- The next token, which must be a word. -/
def word (c : Cursor) : Except Reason (Text × Cursor) := do
  match ← c.next with
  | (.word w, c) => .ok (w, c)
  | _ => .error .expectedWord

/-- Past the end of the line, which must be next. -/
def endLine (c : Cursor) : Except Reason Cursor := do
  let (token, c) ← c.next
  if token.endsLine then .ok c else .error .expectedEnd

end Cursor

end ZoneKeeper.MasterFile
