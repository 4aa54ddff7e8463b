/-!
# Text

Text is a list of characters. Everything that the library reads, compares and prints is decided
character by character, so the list is the form that both the functions and the statements about
them need; a `String` appears only where a message leaves the library.
-/

namespace ZoneKeeper

/-- A text: its characters in order. -/
abbrev Text := List Char

namespace Text

/-- The pieces between the occurrences of a separator; one piece more than there are occurrences. -/
def split (separator : Char) : Text → List Text
  | [] => [[]]
  | c :: rest =>
    if c = separator then [] :: split separator rest
    else match split separator rest with
      | [] => [[c]]
      | piece :: pieces => (c :: piece) :: pieces

/-- The pieces in order with a glue text between every two. -/
def join (glue : Text) : List Text → Text
  | [] => []
  | [piece] => piece
  | piece :: pieces => piece ++ glue ++ join glue pieces

/-- What follows `start` in a text that begins with it. -/
def dropPrefix? : (start text : Text) → Option Text
  | [], text => some text
  | _ :: _, [] => none
  | a :: start, b :: text => if a = b then dropPrefix? start text else none

/-- Whether a text begins with `start`. -/
def startsWith (start text : Text) : Bool := (dropPrefix? start text).isSome

/-- The part before the first occurrence of a character and the part after it. -/
def cut? (c : Char) : Text → Option (Text × Text)
  | [] => none
  | a :: rest =>
    if a = c then some ([], rest)
    else (cut? c rest).map fun (before, after) => (a :: before, after)

/-- The text with every occurrence of one character changed into another. -/
def replace (old new : Char) (t : Text) : Text := t.map fun c => if c = old then new else c

/-- The text in single quotes, as messages name things. -/
def named (t : Text) : Text := '\'' :: t ++ ['\'']

/-- Lexicographic order by code point. -/
def before : Text → Text → Bool
  | [], b => !b.isEmpty
  | _ :: _, [] => false
  | a :: s, b :: t => a < b || (a = b && before s t)

@[simp] theorem split_nil (c : Char) : split c [] = [[]] := rfl

theorem split_ne_nil (c : Char) (t : Text) : split c t ≠ [] := by
  cases t with
  | nil => simp
  | cons a rest =>
    unfold split
    split
    · simp
    · split <;> simp

/-- Splitting and joining with the separator gives the text back. -/
theorem join_split (c : Char) (t : Text) : join [c] (split c t) = t := by
  induction t with
  | nil => rfl
  | cons a rest ih =>
    unfold split
    split
    · next h =>
      cases hs : split c rest with
      | nil => exact absurd hs (split_ne_nil c rest)
      | cons p ps =>
        rw [hs] at ih
        simp [join, ih, h]
    · cases hs : split c rest with
      | nil => exact absurd hs (split_ne_nil c rest)
      | cons p ps =>
        rw [hs] at ih
        cases ps with
        | nil => simpa [join] using ih
        | cons q qs => simpa [join] using ih

end Text

end ZoneKeeper
