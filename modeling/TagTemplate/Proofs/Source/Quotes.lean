import TagTemplate.Proofs.Source.Printed

/-!
# In and out of quotes

A quote is opened by one of two marks and closed by the next mark of its kind, so a doubled mark
closes a quote and opens it again. What is left when all quoted texts are taken out is what stands
outside of them (`outsideQuotes`). A tag hides any text in which all quotes are closed and no `>`
stands outside of them (`hidden_of_quoteAfter`).
-/

namespace TagTemplate

/-- The quote that is open after a character, given by its mark. -/
def quoteStep (quote : Option Char) (c : Char) : Option Char :=
  match quote with
  | none => if c = '"' ∨ c = '\'' then some c else none
  | some mark => if c = mark then none else some mark

/-- The quote that is open after a text. -/
def quoteAfter (quote : Option Char) (cs : List Char) : Option Char := cs.foldl quoteStep quote

/-- The characters outside of quotes, where one quote may be open at the start. -/
def outsideQuotes : Option Char → List Char → List Char
  | _, [] => []
  | some mark, c :: rest => outsideQuotes (quoteStep (some mark) c) rest
  | none, c :: rest =>
    if c = '"' ∨ c = '\'' then outsideQuotes (some c) rest else c :: outsideQuotes none rest

/-- Outside of quotes a mark opens one. -/
theorem quoteAfter_mark {c : Char} (hc : c = '"' ∨ c = '\'') (cs : List Char) :
    quoteAfter none (c :: cs) = quoteAfter (some c) cs := by
  rw [quoteAfter, List.foldl_cons, quoteStep, if_pos hc]
  rfl

theorem quoteAfter_other {c : Char} (hc : ¬ (c = '"' ∨ c = '\'')) (cs : List Char) :
    quoteAfter none (c :: cs) = quoteAfter none cs := by
  rw [quoteAfter, List.foldl_cons, quoteStep, if_neg hc]
  rfl

/-- In quotes only the mark that opened them closes them. -/
theorem quoteAfter_kept {c mark : Char} (hc : c ≠ mark) (cs : List Char) :
    quoteAfter (some mark) (c :: cs) = quoteAfter (some mark) cs := by
  rw [quoteAfter, List.foldl_cons, quoteStep, if_neg hc]
  rfl

/-- A doubled mark leads out of the quote and back into it. -/
theorem quoteAfter_doubled {mark : Char} (hmark : mark = '"' ∨ mark = '\'') (cs : List Char) :
    quoteAfter (some mark) (mark :: mark :: cs) = quoteAfter (some mark) cs := by
  have hreopened : quoteStep none mark = some mark := if_pos hmark
  rw [quoteAfter, List.foldl_cons, List.foldl_cons, quoteStep, if_pos rfl, hreopened]
  rfl

theorem quoteAfter_append (quote : Option Char) (cs ds : List Char) :
    quoteAfter quote (cs ++ ds) = quoteAfter (quoteAfter quote cs) ds :=
  List.foldl_append

theorem outsideQuotes_append (quote : Option Char) (cs ds : List Char) :
    outsideQuotes quote (cs ++ ds) =
      outsideQuotes quote cs ++ outsideQuotes (quoteAfter quote cs) ds := by
  induction cs generalizing quote with
  | nil => rfl
  | cons c cs ih =>
    cases quote with
    | some mark => exact ih _
    | none =>
      rw [List.cons_append, outsideQuotes, outsideQuotes, quoteAfter, List.foldl_cons, quoteStep]
      split
      · exact ih _
      · exact congrArg (c :: ·) (ih none)

/-- A text without marks leaves things as they are outside of quotes. -/
theorem quoteAfter_of_plain {cs : List Char} (h : ∀ c ∈ cs, ¬ (c = '"' ∨ c = '\'')) :
    quoteAfter none cs = none ∧ outsideQuotes none cs = cs := by
  induction cs with
  | nil => exact ⟨rfl, rfl⟩
  | cons c cs ih =>
    obtain ⟨hc, hcs⟩ := List.forall_mem_cons.mp h
    obtain ⟨hafter, houtside⟩ := ih hcs
    refine ⟨?_, ?_⟩
    · rw [quoteAfter_other hc, hafter]
    · rw [outsideQuotes, if_neg hc, houtside]

/-- No mark is blank. -/
theorem not_mark_of_isBlank {c : Char} (h : Text.isBlank c = true) : ¬ (c = '"' ∨ c = '\'') :=
  not_or.mpr ⟨Text.ne_of_isBlank h rfl, Text.ne_of_isBlank h rfl⟩

/-- A quote that is open is one of the two marks. -/
theorem isMark_of_quoteAfter {quote : Option Char}
    (hquote : ∀ mark, quote = some mark → mark = '"' ∨ mark = '\'') {cs : List Char} {mark : Char}
    (h : quoteAfter quote cs = some mark) : mark = '"' ∨ mark = '\'' := by
  induction cs generalizing quote with
  | nil => exact hquote mark h
  | cons c cs ih =>
    refine ih ?_ h
    intro next hnext
    cases quote with
    | none =>
      rw [quoteStep] at hnext
      split at hnext
      · next hc =>
        cases hnext
        exact hc
      · cases hnext
    | some opened =>
      rw [quoteStep] at hnext
      split at hnext
      · cases hnext
      · cases hnext
        exact hquote _ rfl

/-- A quote that is open hides a text without its mark. -/
theorem quoteAfter_inside {cs : List Char} {mark : Char} (h : mark ∉ cs) :
    quoteAfter (some mark) cs = some mark ∧ outsideQuotes (some mark) cs = [] := by
  induction cs with
  | nil => exact ⟨rfl, rfl⟩
  | cons c cs ih =>
    rw [List.mem_cons, not_or] at h
    have hstep : quoteStep (some mark) c = some mark := if_neg (Ne.symm h.1)
    rw [quoteAfter, List.foldl_cons, outsideQuotes, hstep]
    exact ih h.2

/-! ## The end of a tag -/

/-- A character is outside of quotes where no quote is open and it opens none. -/
theorem gt_not_mem_outsideQuotes_cons {quote : Option Char} {c : Char} {cs : List Char} :
    '>' ∉ outsideQuotes quote (c :: cs) ↔
      (quote = none → c ≠ '>') ∧ '>' ∉ outsideQuotes (quoteStep quote c) cs := by
  cases quote with
  | some mark => simp [outsideQuotes]
  | none =>
    by_cases hc : c = '"' ∨ c = '\''
    · have hend : c ≠ '>' := by
        rcases hc with rfl | rfl <;> decide
      simp [outsideQuotes, quoteStep, hc, hend]
    · simp [outsideQuotes, quoteStep, hc, eq_comm]

/-- The end of a tag is looked for behind any character but a `>` outside of quotes. -/
theorem closeTagOutsideQuotes_cons {quote : Option Char} {c : Char} (h : quote = none → c ≠ '>')
    (rest : List Char) :
    closeTagOutsideQuotes quote (c :: rest) =
      (closeTagOutsideQuotes (quoteStep quote c) rest).map
        fun split => (c :: split.1, split.2) := by
  cases quote with
  | some mark => exact closeTagOutsideQuotes_inside mark c rest
  | none => exact closeTagOutsideQuotes_outside (h rfl) rest

/-- It is looked for behind a text without `>` outside of quotes. -/
theorem closeTagOutsideQuotes_append_eq {cs : List Char} {quote : Option Char}
    (h : '>' ∉ outsideQuotes quote cs) (rest : List Char) :
    closeTagOutsideQuotes quote (cs ++ rest) =
      (closeTagOutsideQuotes (quoteAfter quote cs) rest).map
        fun split => (cs ++ split.1, split.2) := by
  induction cs generalizing quote with
  | nil => exact (congrFun Except.map_id _).symm
  | cons c cs ih =>
    obtain ⟨hc, hcs⟩ := gt_not_mem_outsideQuotes_cons.mp h
    rw [List.cons_append, closeTagOutsideQuotes_cons hc, ih hcs]
    show _ = (closeTagOutsideQuotes (quoteAfter (quoteStep quote c) cs) rest).map _
    cases closeTagOutsideQuotes (quoteAfter (quoteStep quote c) cs) rest with
    | error isOpen => rfl
    | ok split => rfl

theorem closeTagOutsideQuotes_append_left {cs : List Char} {quote : Option Char}
    (h : '>' ∉ outsideQuotes quote cs) {rest inside after : List Char}
    (hrest : closeTagOutsideQuotes (quoteAfter quote cs) rest = .ok (inside, after)) :
    closeTagOutsideQuotes quote (cs ++ rest) = .ok (cs ++ inside, after) := by
  rw [closeTagOutsideQuotes_append_eq h, hrest]
  rfl

/-- Where a tag ends, all quotes are closed, and no `>` stands outside of them before. -/
theorem closed_of_closeTagOutsideQuotes {quote : Option Char} {cs inside after : List Char}
    (h : closeTagOutsideQuotes quote cs = .ok (inside, after)) :
    quoteAfter quote inside = none ∧ '>' ∉ outsideQuotes quote inside := by
  induction cs generalizing quote inside with
  | nil => cases h
  | cons c cs ih =>
    by_cases hend : quote = none ∧ c = '>'
    · obtain ⟨rfl, rfl⟩ := hend
      cases h
      exact ⟨rfl, List.not_mem_nil⟩
    · have hc : quote = none → c ≠ '>' := fun hnone hgt => hend ⟨hnone, hgt⟩
      rw [closeTagOutsideQuotes_cons hc] at h
      cases hclose : closeTagOutsideQuotes (quoteStep quote c) cs with
      | error isOpen =>
        rw [hclose] at h
        cases h
      | ok split =>
        rw [hclose] at h
        cases h
        obtain ⟨hafter, houtside⟩ := ih hclose
        exact ⟨hafter, gt_not_mem_outsideQuotes_cons.mpr ⟨hc, houtside⟩⟩

/-- Where a tag does not end, no `>` stands outside of quotes. -/
theorem gt_not_mem_of_closeTagOutsideQuotes {quote : Option Char} {cs : List Char} {isOpen : Bool}
    (h : closeTagOutsideQuotes quote cs = .error isOpen) : '>' ∉ outsideQuotes quote cs := by
  induction cs generalizing quote isOpen with
  | nil =>
    cases quote <;> exact List.not_mem_nil
  | cons c cs ih =>
    by_cases hend : quote = none ∧ c = '>'
    · obtain ⟨rfl, rfl⟩ := hend
      cases h
    · have hc : quote = none → c ≠ '>' := fun hnone hgt => hend ⟨hnone, hgt⟩
      rw [closeTagOutsideQuotes_cons hc] at h
      cases hclose : closeTagOutsideQuotes (quoteStep quote c) cs with
      | error isOpen' => exact gt_not_mem_outsideQuotes_cons.mpr ⟨hc, ih hclose⟩
      | ok split =>
        rw [hclose] at h
        cases h

theorem hidden_of_quoteAfter {cs : List Char} (hclosed : quoteAfter none cs = none)
    (h : '>' ∉ outsideQuotes none cs) : Hidden cs := by
  intro rest inside after hrest
  refine closeTagOutsideQuotes_append_left h ?_
  rw [hclosed]
  exact hrest

/-- A quoted text closes its quote, and nothing in it is outside. -/
theorem quoteAfter_of_readQuoted {mark : Char} (hmark : mark = '"' ∨ mark = '\'')
    {cs value after : List Char} (h : Attributes.readQuoted mark cs = some (value, after)) :
    ∃ inside, cs = inside ++ after ∧ quoteAfter (some mark) inside = none ∧
      outsideQuotes (some mark) inside = [] ∧ inside.getLast? = some mark := by
  fun_induction Attributes.readQuoted mark cs generalizing value with
  | case1 => cases h
  | case2 rest ih =>
    obtain ⟨⟨value', after'⟩, hread, hpair⟩ := Option.map_eq_some_iff.mp h
    cases hpair
    obtain ⟨inside, rfl, hafter, houtside, hlast⟩ := ih hread
    refine ⟨mark :: mark :: inside, rfl, ?_, ?_, ?_⟩
    · rw [quoteAfter_doubled hmark, hafter]
    · rw [outsideQuotes, quoteStep, if_pos rfl, outsideQuotes, if_pos hmark]
      exact houtside
    · rw [List.getLast?_cons, List.getLast?_cons, hlast]
      rfl
  | case3 d rest hd =>
    cases h
    refine ⟨[mark], rfl, ?_, ?_, rfl⟩ <;> simp [quoteAfter, outsideQuotes, quoteStep]
  | case4 =>
    cases h
    refine ⟨[mark], rfl, ?_, ?_, rfl⟩ <;> simp [quoteAfter, outsideQuotes, quoteStep]
  | case5 c rest hc ih =>
    obtain ⟨⟨value', after'⟩, hread, hpair⟩ := Option.map_eq_some_iff.mp h
    cases hpair
    obtain ⟨inside, rfl, hafter, houtside, hlast⟩ := ih hread
    refine ⟨c :: inside, rfl, ?_, ?_, ?_⟩
    · rw [quoteAfter_kept hc, hafter]
    · rw [outsideQuotes, quoteStep, if_neg hc]
      exact houtside
    · rw [List.getLast?_cons, hlast]
      rfl

end TagTemplate
