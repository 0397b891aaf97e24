import Mathlib.Algebra.Ring.Parity
import Mathlib.Data.List.Basic
import Mathlib.Data.List.TakeWhile
import TagTemplate.Proofs.Source.AttributeText
import TagTemplate.Variables.Scope

/-!
# Expanding a text

The marks of a text are paired from the left. `marks_induction` follows that pairing: a text is
without marks, or it has one mark that stands alone, or it begins with a pair and goes on behind
it. What a text expands to is put together in the same way (`expanded_pair`), and no step looks at
what an earlier one has put out: a value that holds marks is not expanded again.
-/

namespace TagTemplate

namespace Scope

/-! ## Texts by their marks -/

theorem notMark_of_notMem {cs : List Char} (h : '#' ∉ cs) : ∀ c ∈ cs, notMark c = true := by
  intro c hc
  have hne : c ≠ '#' := fun heq => h (heq ▸ hc)
  exact bne_iff_ne.mpr hne

theorem takeWhile_notMark {cs : List Char} (h : '#' ∉ cs) (rest : List Char) :
    (cs ++ '#' :: rest).takeWhile notMark = cs := by
  rw [List.takeWhile_append_of_pos (notMark_of_notMem h)]
  exact List.append_nil cs

theorem dropWhile_notMark {cs : List Char} (h : '#' ∉ cs) (rest : List Char) :
    (cs ++ '#' :: rest).dropWhile notMark = '#' :: rest := by
  rw [List.dropWhile_append_of_pos (notMark_of_notMem h)]
  rfl

theorem dropWhile_notMark_eq_nil {cs : List Char} (h : '#' ∉ cs) : cs.dropWhile notMark = [] :=
  List.dropWhile_eq_nil_iff.mpr (notMark_of_notMem h)

/-- A text is followed mark by mark. The marks of a pair have no other mark before or between
them. -/
@[elab_as_elim]
theorem marks_induction {motive : List Char → Prop} (cs : List Char)
    (plain : ∀ cs, '#' ∉ cs → motive cs)
    (stray : ∀ before after, '#' ∉ before → '#' ∉ after → motive (before ++ '#' :: after))
    (pair : ∀ before name rest, '#' ∉ before → '#' ∉ name → motive rest →
      motive (before ++ '#' :: (name ++ '#' :: rest))) : motive cs := by
  by_cases hopen : '#' ∈ cs
  · obtain ⟨before, after, rfl, hbefore⟩ := List.eq_append_cons_of_mem hopen
    by_cases hclose : '#' ∈ after
    · obtain ⟨name, rest, rfl, hname⟩ := List.eq_append_cons_of_mem hclose
      exact pair before name rest hbefore hname (marks_induction rest plain stray pair)
    · exact stray before after hbefore hclose
  · exact plain cs hopen
termination_by cs.length
decreasing_by
  simp only [*, List.length_append, List.length_cons]
  omega

/-! ## One step of the expansion -/

/-- What characters expand to. -/
def expanded (scope : Scope) (cs : List Char) : String := String.join (scope.expandPieces cs)

/-- What a pair of marks stands for. -/
def paired (scope : Scope) (name : List Char) : String :=
  if name.isEmpty then "#" else scope.reference name

theorem paired_of_ne_nil (scope : Scope) {name : List Char} (h : name ≠ []) :
    scope.paired name = scope.reference name :=
  if_neg (mt List.isEmpty_iff.mp h)

/-- A text without marks expands to itself. -/
theorem expanded_plain (scope : Scope) {cs : List Char} (h : '#' ∉ cs) :
    scope.expanded cs = String.ofList cs := by
  rw [expanded, expandPieces]
  split
  · rw [List.takeWhile_eq_self_iff.mpr (notMark_of_notMem h)]
    exact String.empty_append
  · next hmark =>
    rw [dropWhile_notMark_eq_nil h] at hmark
    cases hmark

theorem expandText_of_noMark (scope : Scope) {text : String} (h : '#' ∉ text.toList) :
    scope.expandText text = text :=
  (expanded_plain scope h).trans String.ofList_toList

/-- A mark without partner stays. -/
theorem expanded_stray (scope : Scope) {before after : List Char} (hbefore : '#' ∉ before)
    (hafter : '#' ∉ after) :
    scope.expanded (before ++ '#' :: after) = String.ofList (before ++ '#' :: after) := by
  rw [expanded, expandPieces]
  split
  · next hnone =>
    rw [dropWhile_notMark hbefore] at hnone
    cases hnone
  · next hmark =>
    rw [dropWhile_notMark hbefore] at hmark
    cases hmark
    split
    · rw [takeWhile_notMark hbefore, String.ofList_append]
      rfl
    · next hsecond =>
      rw [dropWhile_notMark_eq_nil hafter] at hsecond
      cases hsecond

/-- A pair of marks is replaced, and the expansion goes on behind it. -/
theorem expanded_pair (scope : Scope) {before name : List Char} (hbefore : '#' ∉ before)
    (hname : '#' ∉ name) (rest : List Char) :
    scope.expanded (before ++ '#' :: (name ++ '#' :: rest)) =
      String.ofList before ++ (scope.paired name ++ scope.expanded rest) := by
  rw [expanded, expandPieces]
  split
  · next hnone =>
    rw [dropWhile_notMark hbefore] at hnone
    cases hnone
  · next hmark =>
    rw [dropWhile_notMark hbefore] at hmark
    cases hmark
    split
    · next hnone =>
      rw [dropWhile_notMark hname] at hnone
      cases hnone
    · next hsecond =>
      rw [dropWhile_notMark hname] at hsecond
      cases hsecond
      rw [takeWhile_notMark hbefore, takeWhile_notMark hname, String.join_cons, String.join_cons]
      rfl

/-- A text without marks stays in front of whatever follows. -/
theorem expanded_plain_append (scope : Scope) {before : List Char} (hbefore : '#' ∉ before)
    (cs : List Char) : scope.expanded (before ++ cs) = String.ofList before ++ scope.expanded cs := by
  cases cs using marks_induction with
  | plain cs hcs =>
    have hboth : '#' ∉ before ++ cs := List.not_mem_append hbefore hcs
    rw [expanded_plain scope hboth, expanded_plain scope hcs, String.ofList_append]
  | stray first after hfirst hafter =>
    have hboth : '#' ∉ before ++ first := List.not_mem_append hbefore hfirst
    rw [expanded_stray scope hfirst hafter, ← List.append_assoc,
      expanded_stray scope hboth hafter, List.append_assoc, String.ofList_append]
  | pair first name rest hfirst hname =>
    have hboth : '#' ∉ before ++ first := List.not_mem_append hbefore hfirst
    rw [expanded_pair scope hfirst hname, ← List.append_assoc, expanded_pair scope hboth hname,
      String.ofList_append, String.append_assoc]

/-! ## Texts put together -/

theorem count_mark_eq_zero {cs : List Char} (h : '#' ∉ cs) : cs.count '#' = 0 :=
  List.count_eq_zero.mpr h

/-- Behind an even number of marks the expansion begins anew. -/
theorem expanded_append (scope : Scope) {cs : List Char} (heven : Even (cs.count '#'))
    (ds : List Char) : scope.expanded (cs ++ ds) = scope.expanded cs ++ scope.expanded ds := by
  induction cs using marks_induction with
  | plain cs hcs => rw [expanded_plain_append scope hcs, expanded_plain scope hcs]
  | stray before after hbefore hafter =>
    -- the one mark cannot stand here
    rw [List.count_append, List.count_cons_self, count_mark_eq_zero hbefore,
      count_mark_eq_zero hafter] at heven
    exact absurd heven (by decide)
  | pair before name rest hbefore hname ih =>
    have hcount : (before ++ '#' :: (name ++ '#' :: rest)).count '#' = rest.count '#' + 2 := by
      rw [List.count_append, List.count_cons_self, List.count_append, List.count_cons_self,
        count_mark_eq_zero hbefore, count_mark_eq_zero hname]
      omega
    have hrest : Even (rest.count '#') := by
      rw [hcount] at heven
      exact (Nat.even_add.mp heven).mpr even_two
    have hsplit : before ++ '#' :: (name ++ '#' :: rest) ++ ds =
        before ++ '#' :: (name ++ '#' :: (rest ++ ds)) := by
      simp only [List.append_assoc, List.cons_append]
    rw [hsplit, expanded_pair scope hbefore hname, expanded_pair scope hbefore hname, ih hrest,
      String.append_assoc, String.append_assoc]

/-- A text with its marks doubled expands to the text. -/
theorem expanded_doubledBy (scope : Scope) (cs : List Char) :
    scope.expanded (Attributes.doubledBy '#' cs) = String.ofList cs := by
  induction cs with
  | nil => exact expanded_plain scope List.not_mem_nil
  | cons c cs ih =>
    have hcons : String.ofList (c :: cs) = String.ofList [c] ++ String.ofList cs :=
      @String.ofList_append [c] cs
    by_cases hc : c = '#'
    · -- the two marks are a pair with nothing between them
      have hdoubled : Attributes.doubledBy '#' (c :: cs) =
          [] ++ '#' :: ([] ++ '#' :: Attributes.doubledBy '#' cs) := by
        rw [Attributes.doubledBy, List.flatMap_cons, if_pos hc]
        rfl
      rw [hdoubled, expanded_pair scope List.not_mem_nil List.not_mem_nil, ih, hcons, hc]
      exact String.empty_append
    · have hsingle : '#' ∉ [c] := fun hmem => hc (List.mem_singleton.mp hmem).symm
      have hdoubled : Attributes.doubledBy '#' (c :: cs) = [c] ++ Attributes.doubledBy '#' cs := by
        rw [Attributes.doubledBy, List.flatMap_cons, if_neg hc]
        rfl
      rw [hdoubled, expanded_plain_append scope hsingle, ih, hcons]

/-! ## A text that is one reference -/

theorem soleReference?_eq_some {text name : String} (h : soleReference? text = some name) :
    ∃ inner, text.toList = '#' :: (inner ++ ['#']) ∧ inner ≠ [] ∧ '#' ∉ inner ∧
      name = String.ofList (Text.trimChars inner) := by
  unfold soleReference? at h
  split at h
  · next rest htext =>
    dsimp only at h
    split at h
    · next hsole =>
      rw [Bool.and_eq_true, Bool.and_eq_true, decide_eq_true_eq, Bool.not_eq_true',
        List.isEmpty_eq_false_iff, List.all_eq_true] at hsole
      obtain ⟨⟨hlast, hinner⟩, hall⟩ := hsole
      cases h
      refine ⟨rest.dropLast, ?_, hinner, fun hmem => bne_iff_ne.mp (hall '#' hmem) rfl, rfl⟩
      rw [htext, List.dropLast_append_getLast? '#' hlast]
    · cases h
  · cases h

/-- The two ways to expand a reference agree. -/
theorem display_expand (scope : Scope) (text : String) :
    (scope.expand text).display = scope.expandText text := by
  rw [expand]
  split
  · next name hsole =>
    obtain ⟨inner, htext, hinner, hmark, rfl⟩ := soleReference?_eq_some hsole
    have hone : scope.expandText text = scope.reference inner := by
      show scope.expanded text.toList = _
      rw [htext]
      have hpair := expanded_pair scope (List.not_mem_nil (a := '#')) hmark []
      rw [List.nil_append] at hpair
      rw [hpair, paired_of_ne_nil scope hinner, expanded_plain scope List.not_mem_nil]
      exact String.empty_append.trans String.append_empty
    rw [hone, reference]
    cases scope.get? (String.ofList (Text.trimChars inner)) with
    | none => rfl
    | some value => rfl
  · rfl

/-- A text with its marks doubled is no reference. -/
theorem soleReference?_doubledBy (cs : List Char) :
    soleReference? (String.ofList (Attributes.doubledBy '#' cs)) = none := by
  rw [Option.eq_none_iff_forall_ne_some]
  intro name hsole
  obtain ⟨inner, htext, hinner, hmark, -⟩ := soleReference?_eq_some hsole
  rw [String.toList_ofList] at htext
  cases cs with
  | nil => cases htext
  | cons c cs =>
    rw [Attributes.doubledBy, List.flatMap_cons] at htext
    by_cases hc : c = '#'
    · -- a second mark stands right behind the first one
      rw [if_pos hc] at htext
      obtain ⟨d, ds, rfl⟩ := List.exists_cons_of_ne_nil hinner
      have hd : '#' = d := (List.cons.inj (List.cons.inj htext).2).1
      exact hmark (hd ▸ List.mem_cons_self)
    · rw [if_neg hc] at htext
      exact hc (List.cons.inj htext).1

/-! ## The laws -/

/-- A text with its marks doubled. -/
def escaped (text : String) : String := String.ofList (Attributes.doubledBy '#' text.toList)

theorem expandText_escaped (scope : Scope) (text : String) :
    scope.expandText (escaped text) = text := by
  show scope.expanded (escaped text).toList = text
  rw [escaped, String.toList_ofList, expanded_doubledBy, String.ofList_toList]

/-- The value of an attribute shows as its expanded text. Texts are expanded one after the other,
as long as the first one leaves no mark open, and each text is the expansion of itself with its
marks doubled. -/
theorem expansion_laws (scope : Scope) :
    (∀ text, (scope.expand text).display = scope.expandText text) ∧
    (∀ first second : String, Even (first.toList.count '#') →
      scope.expandText (first ++ second) = scope.expandText first ++ scope.expandText second) ∧
    (∀ text, scope.expandText (escaped text) = text ∧ scope.expand (escaped text) = .text text) := by
  refine ⟨scope.display_expand, ?_, ?_⟩
  · intro first second heven
    show scope.expanded (first ++ second).toList = _
    rw [String.toList_append, expanded_append scope heven]
    rfl
  · intro text
    refine ⟨scope.expandText_escaped text, ?_⟩
    rw [expand, show soleReference? (escaped text) = none from soleReference?_doubledBy _]
    exact congrArg Value.text (scope.expandText_escaped text)

/-- A value that looks like a reference to itself stays as it is. -/
theorem expansion_laws_marked_value :
    Scope.expandText (NameMap.ofList [("x", .text "#x#")]) ("#x#" ++ "##") = "#x##" := by
  obtain ⟨hdisplay, happend, hescaped⟩ := expansion_laws (NameMap.ofList [("x", .text "#x#")])
  rw [happend "#x#" "##" (by decide), ← hdisplay, show "##" = escaped "#" from rfl,
    (hescaped "#").1]
  rfl

end Scope

end TagTemplate
