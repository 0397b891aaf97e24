import Mathlib.Data.List.TakeWhile
import TagTemplate.Text.Blank

/-!
# Blanks at the ends

Trimming a text takes blanks from its two ends and nothing else (`trimChars_split`), and stops at
the first character that is none. The blanks are few enough to be looked up one by one
(`eq_false_of_isBlank`).
-/

namespace TagTemplate.Text

variable {cs front back : List Char} {c : Char}

/-! ## The blanks -/

/-- The code points of the blanks. -/
def blankCodes : List Nat :=
  [9, 10, 11, 12, 13, 32, 133, 160, 5760, 8192, 8193, 8194, 8195, 8196, 8197, 8198, 8199, 8200,
    8201, 8202, 8232, 8233, 8239, 8287, 12288]

theorem toNat_mem_blankCodes (h : isBlank c = true) : c.toNat ∈ blankCodes := by
  simp only [isBlank, Bool.or_eq_true, Bool.and_eq_true, decide_eq_true_eq, beq_iff_eq] at h
  simp only [blankCodes, List.mem_cons, List.not_mem_nil, or_false]
  omega

/-- A class of characters holds no blank if it holds none of these. -/
theorem eq_false_of_isBlank {p : Char → Bool}
    (hp : ∀ n ∈ blankCodes, p (Char.ofNat n) = false) (h : isBlank c = true) : p c = false := by
  have hc := hp c.toNat (toNat_mem_blankCodes h)
  rwa [Char.ofNat_toNat] at hc

/-- A blank is no character that has a meaning of its own. -/
theorem ne_of_isBlank {d : Char} (h : isBlank c = true) (hd : isBlank d = false) : c ≠ d := by
  rintro rfl
  rw [h] at hd
  cases hd

/-! ## In front -/

theorem dropBlanks_append (h : ∀ c ∈ front, isBlank c = true) (cs : List Char) :
    dropBlanks (front ++ cs) = dropBlanks cs :=
  List.dropWhile_append_of_pos h

theorem dropBlanks_cons (h : isBlank c = false) (cs : List Char) : dropBlanks (c :: cs) = c :: cs :=
  List.dropWhile_cons_of_neg (Bool.eq_false_iff.mp h)

/-- A character at the end that is not dropped is kept. -/
theorem dropWhile_concat {p : Char → Bool} (h : p c = false) (cs : List Char) :
    (cs ++ [c]).dropWhile p = cs.dropWhile p ++ [c] := by
  rw [List.dropWhile_append]
  split
  · next hempty =>
    rw [List.dropWhile_cons_of_neg (Bool.eq_false_iff.mp h), List.isEmpty_iff.mp hempty]
    rfl
  · rfl

theorem dropBlanks_concat (h : isBlank c = false) (cs : List Char) :
    dropBlanks (cs ++ [c]) = dropBlanks cs ++ [c] :=
  dropWhile_concat h cs

/-! ## At the end -/

theorem dropTrailingBlanks_append (h : ∀ c ∈ back, isBlank c = true) (cs : List Char) :
    dropTrailingBlanks (cs ++ back) = dropTrailingBlanks cs := by
  rw [dropTrailingBlanks, List.reverse_append]
  show (dropBlanks (back.reverse ++ cs.reverse)).reverse = _
  rw [dropBlanks_append fun d hd => h d (List.mem_reverse.mp hd)]
  rfl

/-- Nothing is dropped from a text that does not end in a blank. -/
theorem dropTrailingBlanks_eq (h : ∀ c ∈ cs.getLast?, isBlank c = false) :
    dropTrailingBlanks cs = cs := by
  have hreverse : dropBlanks cs.reverse = cs.reverse := by
    cases hcs : cs.reverse with
    | nil => rfl
    | cons d ds =>
      have hlast : cs.getLast? = some d := by rw [← List.head?_reverse, hcs]; rfl
      exact dropBlanks_cons (h d hlast) ds
  show (dropBlanks cs.reverse).reverse = cs
  rw [hreverse, List.reverse_reverse]

/-- What is left ends as the text did. -/
theorem mem_getLast?_of_dropBlanks (h : c ∈ (dropBlanks cs).getLast?) : c ∈ cs.getLast? := by
  rw [← takeWhile_append_dropBlanks cs, List.getLast?_append, Option.mem_def.mp h]
  rfl

/-- A text that does not end in a blank is trimmed in front only. -/
theorem trimChars_eq (h : ∀ c ∈ cs.getLast?, isBlank c = false) : trimChars cs = dropBlanks cs :=
  dropTrailingBlanks_eq fun c hc => h c (mem_getLast?_of_dropBlanks hc)

theorem isBlank_of_mem_takeWhile (h : c ∈ cs.takeWhile isBlank) : isBlank c = true :=
  List.mem_takeWhile_imp h

/-- Nothing at the end is lost but blanks. -/
theorem dropTrailingBlanks_split (cs : List Char) :
    ∃ back, (∀ c ∈ back, isBlank c = true) ∧ cs = dropTrailingBlanks cs ++ back := by
  refine ⟨(cs.reverse.takeWhile isBlank).reverse,
    fun c hc => isBlank_of_mem_takeWhile (List.mem_reverse.mp hc), ?_⟩
  have hback := congrArg List.reverse (takeWhile_append_dropBlanks cs.reverse)
  rw [List.reverse_append, List.reverse_reverse] at hback
  exact hback.symm

/-- A text is what trimming leaves of it, between blanks. -/
theorem trimChars_split (cs : List Char) :
    ∃ front back, (∀ c ∈ front, isBlank c = true) ∧ (∀ c ∈ back, isBlank c = true) ∧
      cs = front ++ (trimChars cs ++ back) := by
  obtain ⟨back, hback, hsplit⟩ := dropTrailingBlanks_split (dropBlanks cs)
  refine ⟨cs.takeWhile isBlank, back, fun c hc => isBlank_of_mem_takeWhile hc, hback, ?_⟩
  rw [trimChars, ← hsplit, takeWhile_append_dropBlanks]

end TagTemplate.Text
