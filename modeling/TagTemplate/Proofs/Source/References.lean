import TagTemplate.Proofs.Source.Sights
import TagTemplate.Proofs.Text.Blanks
import TagTemplate.Proofs.Text.Runs
import TagTemplate.Proofs.Variables.Expansion
import TagTemplate.Render.State

/-!
# References in a text

The scanner looks for the partner of a `#` mark in the same line, and the text between the two
becomes a token of its own. The expansion of a text pairs its marks from the left and looks at
nothing else. Where each pair holds a reference (`IsReference`), the two find the same pairs:
with references replaced, the tokens of a text come to its expansion
(`RenderState.fills_sights`).
-/

namespace TagTemplate

/-! ## Pairs of marks -/

/-- Of the pieces between marks, those that stand between the marks of a pair. -/
def betweenPairs : (pieces : List (List Char)) → List (List Char)
  | _ :: name :: next :: rest => name :: betweenPairs (next :: rest)
  | _ => []

/-- What the pairs of marks of a text enclose, when its marks are paired from the left. -/
def pairedNames (cs : List Char) : List (List Char) :=
  betweenPairs (Text.splitChars (· == '#') cs)

variable {before name after rest cs : List Char}

theorem notMark_of_plain (h : '#' ∉ cs) : ∀ c ∈ cs, (c == '#') = false := by
  intro c hc
  have hne : c ≠ '#' := fun heq => h (heq ▸ hc)
  exact beq_eq_false_iff_ne.mpr hne

theorem splitChars_mark (h : '#' ∉ before) (after : List Char) :
    Text.splitChars (· == '#') (before ++ '#' :: after) =
      before :: Text.splitChars (· == '#') after :=
  Text.splitChars_append_cons (notMark_of_plain h) rfl after

theorem pairedNames_plain (h : '#' ∉ cs) : pairedNames cs = [] := by
  rw [pairedNames, Text.splitChars_of_plain (notMark_of_plain h)]
  rfl

theorem pairedNames_stray (hbefore : '#' ∉ before) (hafter : '#' ∉ after) :
    pairedNames (before ++ '#' :: after) = [] := by
  rw [pairedNames, splitChars_mark hbefore,
    Text.splitChars_of_plain (notMark_of_plain hafter)]
  rfl

theorem pairedNames_pair (hbefore : '#' ∉ before) (hname : '#' ∉ name) (rest : List Char) :
    pairedNames (before ++ '#' :: (name ++ '#' :: rest)) = name :: pairedNames rest := by
  rw [pairedNames, splitChars_mark hbefore, splitChars_mark hname, pairedNames]
  cases hpieces : Text.splitChars (· == '#') rest with
  | nil => exact absurd hpieces (Text.splitChars_ne_nil _ rest)
  | cons next pieces => rfl

/-- A character in front makes no pair. -/
theorem pairedNames_cons {c : Char} (h : c ≠ '#') (cs : List Char) :
    pairedNames (c :: cs) = pairedNames cs := by
  have hc : ¬(c == '#') = true := mt beq_iff_eq.mp h
  rw [pairedNames, pairedNames, Text.splitChars, if_neg hc]
  rcases Text.splitChars (· == '#') cs with _ | ⟨first, _ | ⟨second, pieces⟩⟩
  · rfl
  · rfl
  · cases pieces <;> rfl

/-- What stands between marks stands in the text. -/
theorem mem_of_mem_pairedNames {c : Char} (hname : name ∈ pairedNames cs) (hc : c ∈ name) :
    c ∈ cs := by
  induction cs using Scope.marks_induction with
  | plain cs hplain =>
    rw [pairedNames_plain hplain] at hname
    cases hname
  | stray before after hbefore hafter =>
    rw [pairedNames_stray hbefore hafter] at hname
    cases hname
  | pair before first rest hbefore hfirst ih =>
    rw [pairedNames_pair hbefore hfirst] at hname
    rcases List.mem_cons.mp hname with rfl | hrest
    · simp [hc]
    · simp [ih hrest]

theorem mem_of_mem_doubledBy {mark c : Char} (h : c ∈ Attributes.doubledBy mark cs) : c ∈ cs := by
  obtain ⟨d, hd, hc⟩ := List.mem_flatMap.mp h
  by_cases hmark : d = mark
  · rw [if_pos hmark, ← hmark] at hc
    simp only [List.mem_cons, List.not_mem_nil, or_false, or_self] at hc
    exact hc ▸ hd
  · rw [if_neg hmark, List.mem_singleton] at hc
    exact hc ▸ hd

/-- The pairs of a text with its marks doubled enclose nothing. -/
theorem pairedNames_doubledBy (cs : List Char) :
    ∀ name ∈ pairedNames (Attributes.doubledBy '#' cs), name = [] := by
  induction cs with
  | nil => exact nofun
  | cons c cs ih =>
    rw [Attributes.doubledBy, List.flatMap_cons]
    by_cases hc : c = '#'
    · have hpair := pairedNames_pair List.not_mem_nil List.not_mem_nil
        (Attributes.doubledBy '#' cs)
      rw [if_pos hc]
      exact hpair ▸ List.forall_mem_cons.mpr ⟨rfl, ih⟩
    · rw [if_neg hc]
      exact (pairedNames_cons hc (Attributes.doubledBy '#' cs)).symm ▸ ih

/-! ## References -/

/-- What stands between two marks is a reference: it ends in the line in which it begins, no tag
begins or ends in it, and it has a character other than a blank, unless it is empty. -/
structure IsReference (name : List Char) : Prop where
  plain : ∀ c ∈ name, c ≠ '<' ∧ c ≠ '>' ∧ c ≠ '\n'
  shows : name ≠ [] → ∃ c ∈ name, Text.isBlank c = false

theorem isReference_nil : IsReference [] := ⟨nofun, fun h => absurd rfl h⟩

/-- Trimming leaves nothing of an empty reference and something of any other. -/
theorem IsReference.isEmpty_trim (h : IsReference name) :
    (Text.trim (String.ofList name)).isEmpty = name.isEmpty := by
  by_cases hname : name = []
  · rw [hname]
    rfl
  · have htrim : Text.trimChars name ≠ [] := by
      intro hnone
      obtain ⟨c, hc, hblank⟩ := h.shows hname
      obtain ⟨front, back, hfront, hback, hsplit⟩ := Text.trimChars_split name
      rw [hnone, List.nil_append] at hsplit
      rw [hsplit, List.mem_append] at hc
      have hall := hc.elim (hfront c) (hback c)
      rw [hblank] at hall
      cases hall
    rw [List.isEmpty_eq_false_iff.mpr hname, Text.trim, String.toList_ofList]
    exact Bool.eq_false_iff.mpr fun hempty =>
      htrim (String.ofList_eq_empty_iff.mp (String.isEmpty_iff.mp hempty))

/-- Where references are replaced, a reference comes to what its pair of marks expands to. -/
theorem RenderState.interpolation_of_isReference {st : RenderState}
    (hreplaces : st.interpolating = true) (h : IsReference name) :
    st.interpolation (String.ofList name) = st.scope.paired name := by
  have htrim : Text.trim (String.ofList name) = String.ofList (Text.trimChars name) := by
    rw [Text.trim, String.toList_ofList]
  have hempty := h.isEmpty_trim
  rw [htrim] at hempty
  cases hvalue : st.scope.get? (String.ofList (Text.trimChars name)) with
  | _ =>
    simp only [interpolation, hreplaces, if_true, htrim, hempty, Scope.paired, Scope.reference,
      hvalue]

/-! ## What is seen of a text -/

theorem closeInterpolation_of_noMark (h : '#' ∉ cs) : closeInterpolation cs = none := by
  cases hclose : closeInterpolation cs with
  | none => rfl
  | some split =>
    have hmark : '#' ∈ split.1 ++ '#' :: split.2 := List.mem_append_cons_self
    rw [closeInterpolation_append hclose] at hmark
    exact absurd hmark h

namespace Scanner

/-- Plain text is kept. -/
theorem sights_plain (hlt : '<' ∉ cs) (hmark : '#' ∉ cs) (kept rest : List Char) :
    sights kept (cs ++ rest) = sights (cs.reverse ++ kept) rest := by
  induction cs generalizing kept with
  | nil => rfl
  | cons c cs ih =>
    have hlead := lead_of_plain (List.ne_of_not_mem_cons hlt).symm
      (List.ne_of_not_mem_cons hmark).symm (cs ++ rest)
    rw [List.cons_append, sights_literal hlead,
      ih (List.not_mem_of_not_mem_cons hlt) (List.not_mem_of_not_mem_cons hmark),
      List.reverse_cons, List.append_assoc]
    rfl

/-- At the end of a source the text run ends. -/
theorem sights_nil (kept : List Char) : sights kept [] = showText kept.reverse := by
  have hend : AtMarkup [] none := rfl
  rw [sights_of_atMarkup hend]
  exact List.append_nil _

/-- A mark without partner is kept. -/
theorem sights_stray (h : '#' ∉ after) (kept : List Char) :
    sights kept ('#' :: after) = sights ('#' :: kept) after := by
  refine sights_literal ?_ kept
  unfold lead
  rw [if_neg (by decide), if_pos rfl, closeInterpolation_of_noMark h]

end Scanner

/-! ## Both readings -/

/-- Tokens that are text and references, and what they come to where references are replaced as
the state says. -/
inductive RenderState.Fills (st : RenderState) : List Scanner.Sight → String → Prop
  | nil : Fills st [] ""
  | text {text lexeme out : String} {sights : List Scanner.Sight} (h : Fills st sights out) :
    Fills st (.ok (.text text, lexeme) :: sights) (text ++ out)
  | interpolation {expression lexeme out : String} {sights : List Scanner.Sight}
    (h : Fills st sights out) :
    Fills st (.ok (.interpolation expression, lexeme) :: sights)
      (st.interpolation expression ++ out)

namespace RenderState

open Scanner (sights showText)

variable {st : RenderState} {out : String} {shown : List Scanner.Sight}

theorem Fills.showText (h : st.Fills shown out) (text : List Char) :
    st.Fills (Scanner.showText text ++ shown) (String.ofList text ++ out) := by
  cases text with
  | nil => exact String.empty_append.symm ▸ h
  | cons c text => exact h.text

/-- A source in which everything is literal comes to itself. -/
theorem Fills.of_literal {kept : List Char}
    (h : sights kept cs = Scanner.showText (kept.reverse ++ cs)) :
    st.Fills (sights kept cs) (String.ofList kept.reverse ++ String.ofList cs) := by
  have hall : st.Fills (Scanner.showText (kept.reverse ++ cs) ++ []) _ := Fills.nil.showText _
  rwa [List.append_nil, String.append_empty, String.ofList_append, ← h] at hall

/-- A source without `<` whose pairs of marks hold references comes to its expansion. -/
theorem fills_sights (hreplaces : st.interpolating = true) (kept : List Char) (hlt : '<' ∉ cs)
    (hnames : ∀ name ∈ pairedNames cs, IsReference name) :
    st.Fills (sights kept cs) (String.ofList kept.reverse ++ st.scope.expanded cs) := by
  -- Pair by pair, as the expansion goes: what the scanner has kept is the text before the next one.
  induction cs using Scope.marks_induction generalizing kept with
  | plain cs hmark =>
    have hsights := Scanner.sights_plain hlt hmark kept []
    rw [List.append_nil, Scanner.sights_nil, List.reverse_append, List.reverse_reverse] at hsights
    rw [Scope.expanded_plain _ hmark]
    exact .of_literal hsights
  | stray before after hbefore hafter =>
    simp only [List.mem_append, List.mem_cons, not_or] at hlt
    obtain ⟨hbefore', -, hafter'⟩ := hlt
    have hplain := Scanner.sights_plain hafter' hafter ('#' :: (before.reverse ++ kept)) []
    rw [List.append_nil, Scanner.sights_nil] at hplain
    have hsights : sights kept (before ++ '#' :: after) =
        showText (kept.reverse ++ (before ++ '#' :: after)) := by
      rw [Scanner.sights_plain hbefore' hbefore, Scanner.sights_stray hafter, hplain]
      simp
    rw [Scope.expanded_stray _ hbefore hafter]
    exact .of_literal hsights
  | pair before name rest hbefore hname ih =>
    rw [pairedNames_pair hbefore hname] at hnames
    obtain ⟨hreference, hrest⟩ := List.forall_mem_cons.mp hnames
    simp only [List.mem_append, List.mem_cons, not_or] at hlt
    obtain ⟨hbefore', -, -, -, hrest'⟩ := hlt
    have hclose : closeInterpolation (name ++ '#' :: rest) = some (name, rest) :=
      closeInterpolation_of_plain (fun c hc => ⟨fun heq => hname (heq ▸ hc),
        hreference.plain c hc⟩) rest
    have hfirst : st.Fills (Scanner.showLexeme (.interpolation (String.ofList name))
        ('#' :: name ++ ['#']) :: sights [] rest)
        (st.interpolation (String.ofList name) ++ st.scope.expanded rest) := by
      have hbehind := ih [] hrest' hrest
      rw [show String.ofList ([] : List Char).reverse = "" from rfl, String.empty_append] at hbehind
      exact hbehind.interpolation
    have hall := hfirst.showText (before.reverse ++ kept).reverse
    rw [List.reverse_append, List.reverse_reverse, String.ofList_append,
      String.append_assoc] at hall
    rw [Scanner.sights_plain hbefore' hbefore, Scanner.sights_interpolation hclose,
      Scope.expanded_pair _ hbefore hname, ← interpolation_of_isReference hreplaces hreference,
      List.reverse_append, List.reverse_reverse]
    exact hall

end RenderState

end TagTemplate
