/-!
# Splitting at delimiters

A text between delimiters, each of one character. A text without delimiters is one piece, and
delimiters side by side, or at an end, have an empty piece between them.
-/

namespace TagTemplate.Text

/-- The pieces between delimiters. There is always one. -/
def splitChars (isDelimiter : Char → Bool) : List Char → List (List Char)
  | [] => [[]]
  | c :: rest =>
    if isDelimiter c then [] :: splitChars isDelimiter rest
    else match splitChars isDelimiter rest with
      | [] => [[c]]
      | piece :: pieces => (c :: piece) :: pieces

/-- The pieces of a text between any of the delimiters. -/
def splitAny (delimiters : String) (s : String) : List String :=
  (splitChars (delimiters.toList.contains ·) s.toList).map String.ofList

theorem splitChars_ne_nil (isDelimiter : Char → Bool) (cs : List Char) :
    splitChars isDelimiter cs ≠ [] := by
  cases cs with
  | nil => simp [splitChars]
  | cons c rest =>
    unfold splitChars
    split
    · simp
    · split <;> simp

end TagTemplate.Text
