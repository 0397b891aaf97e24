/-!
# Blank characters

White space as Unicode defines it, and trimming by it. Tag attributes, variable names between
`#` marks, and numerals are all trimmed this way, so a no-break space counts as blank while a
zero-width space does not.
-/

namespace TagTemplate.Text

/-- A character with the property `White_Space`. -/
def isBlank (c : Char) : Bool :=
  let n := c.toNat
  (9 ≤ n && n ≤ 13) || n == 32 || n == 133 || n == 160 || n == 5760 || (8192 ≤ n && n ≤ 8202) ||
    n == 8232 || n == 8233 || n == 8239 || n == 8287 || n == 12288

/-- Drops the blanks in front. -/
def dropBlanks (cs : List Char) : List Char := cs.dropWhile isBlank

/-- Drops the blanks at the end. -/
def dropTrailingBlanks (cs : List Char) : List Char := (cs.reverse.dropWhile isBlank).reverse

/-- Drops the blanks at both ends. -/
def trimChars (cs : List Char) : List Char := dropTrailingBlanks (dropBlanks cs)

/-- The text without the blanks at its two ends. -/
def trim (s : String) : String := String.ofList (trimChars s.toList)

/-- The text holds no character but blanks. -/
def isBlankText (s : String) : Bool := s.toList.all isBlank

/-- Every white-space character of ASCII is blank. -/
theorem isBlank_of_isWhitespace {c : Char} (h : c.isWhitespace = true) : isBlank c = true := by
  simp only [Char.isWhitespace, Bool.or_eq_true, decide_eq_true_eq] at h
  rcases h with ((rfl | rfl) | rfl) | rfl <;> rfl

/-- Nothing in front is lost but blanks. -/
theorem takeWhile_append_dropBlanks (cs : List Char) :
    cs.takeWhile isBlank ++ dropBlanks cs = cs :=
  List.takeWhile_append_dropWhile

theorem length_dropBlanks_le (cs : List Char) : (dropBlanks cs).length ≤ cs.length := by
  have h := congrArg List.length (takeWhile_append_dropBlanks cs)
  simp only [List.length_append] at h
  omega

end TagTemplate.Text
