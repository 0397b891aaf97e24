import TagTemplate.Proofs.Engine.Blocks

/-!
# The choice of a switch

A switch looks for a case that matches, and a case before it without a value is an error; if none
matches it takes a default. The choice can be told from the cases and the defaults among its
children (`chosen`), and the switch comes to the body of the child that is chosen
(`Engine.node_switch`). Nothing else among the children can be seen in the result.
-/

namespace TagTemplate

namespace Builtin

variable {scope : Scope} {expression : String} {nodes children children' : List Node}

/-! ## Cases and defaults -/

/-- The node as a tag among its siblings, if it is one. -/
def element? : Node → Option Element
  | .void tag => some ⟨tag, none⟩
  | .block tag children => some ⟨tag, some children⟩
  | _ => none

/-- The tags of a name among some nodes, in order. -/
def tagsNamed (name : String) (nodes : List Node) : List Element :=
  (nodes.filterMap element?).filter (·.tag.name == name)

/-- The case has a value, and one of its alternatives is the expression. -/
def isMatch (scope : Scope) (expression : String) (tag : Tag) : Bool :=
  (tag.text? scope "value").any (caseMatches tag · expression)

/-- The case has no value. -/
def lacksValue (tag : Tag) : Bool := (tag.attr? "value").isNone

/-- The choice between a case that is found and a default, unless there is a case without a value
before. -/
def choice (lacking found fallback : Option Element) : Except RenderError (Option Element) :=
  match lacking with
  | some child => .error (.missingAttribute child.tag.name "value" child.tag.span.line)
  | none => .ok (found <|> fallback)

/-- The child that a switch renders: the first case that matches, or else the first default. A case
without a value that stands before the first match is an error. -/
def chosen (scope : Scope) (expression : String) (children : List Node) :
    Except RenderError (Option Element) :=
  let cases := tagsNamed "cfcase" children
  choice ((cases.takeWhile (!isMatch scope expression ·.tag)).find? (lacksValue ·.tag))
    (cases.find? (isMatch scope expression ·.tag)) (tagsNamed "cfdefault" children).head?

/-- Where the first case has a value and does not match, the second is chosen if it does. -/
theorem chosen_of_second {scope : Scope} {expression : String} {children : List Node}
    {first second : Element} {others : List Element}
    (hcases : tagsNamed "cfcase" children = first :: second :: others)
    (hvalue : lacksValue first.tag = false) (hfirst : isMatch scope expression first.tag = false)
    (hsecond : isMatch scope expression second.tag = true) :
    chosen scope expression children = .ok (some second) := by
  have hbefore : ((first :: second :: others).takeWhile (!isMatch scope expression ·.tag)).find?
      (lacksValue ·.tag) = none := by
    simp [hfirst, hsecond, hvalue]
  rw [chosen, hcases]
  simp only [hbefore, List.find?_cons, hfirst, hsecond]
  rfl

/-! ## The search -/

theorem requireText_of_lacksValue {tag : Tag} (h : lacksValue tag = true) (scope : Scope)
    (expression : String) :
    tag.requireText scope "value" = .error (.missingAttribute tag.name "value" tag.span.line) ∧
      isMatch scope expression tag = false := by
  have hnone : tag.text? scope "value" = none := by
    rw [Tag.text?, Option.isNone_iff_eq_none.mp h]
    rfl
  rw [Tag.requireText, isMatch, hnone]
  exact ⟨rfl, rfl⟩

theorem requireText_of_value {tag : Tag} (h : lacksValue tag = false) (scope : Scope)
    (expression : String) :
    ∃ value, tag.requireText scope "value" = .ok value ∧
      isMatch scope expression tag = caseMatches tag value expression := by
  obtain ⟨raw, hraw⟩ := Option.isSome_iff_exists.mp (Option.isNone_eq_false_iff.mp h)
  have hsome : tag.text? scope "value" = some (scope.expandText raw) := by
    rw [Tag.text?, hraw]
    rfl
  rw [Tag.requireText, isMatch, hsome]
  exact ⟨_, rfl, rfl⟩

/-- The choice with a default found before. -/
def chosenAfter (scope : Scope) (expression : String) (fallback : Option (List Node))
    (children : List Node) : Except RenderError (Option (List Node)) :=
  let cases := tagsNamed "cfcase" children
  match (cases.takeWhile (!isMatch scope expression ·.tag)).find? (lacksValue ·.tag) with
  | some child => .error (.missingAttribute child.tag.name "value" child.tag.span.line)
  | none =>
    .ok ((cases.find? (isMatch scope expression ·.tag)).map Element.children <|>
      (fallback <|> (tagsNamed "cfdefault" children).head?.map Element.children))

theorem tag?_eq (node : Node) : node.tag? = (element? node).map Element.tag := by
  cases node with
  | _ => rfl

theorem children_of_element? {node : Node} {e : Element} (h : element? node = some e) :
    e.children = node.children := by
  cases node with
  | text => cases h
  | interpolation => cases h
  | void tag =>
    cases h
    rfl
  | block tag children =>
    cases h
    rfl

theorem tagsNamed_of_none {node : Node} (h : element? node = none) (name : String)
    (rest : List Node) : tagsNamed name (node :: rest) = tagsNamed name rest := by
  rw [tagsNamed, List.filterMap_cons_none h, tagsNamed]

/-- A tag comes first among those of its name, and not among others. -/
theorem tagsNamed_of_some {node : Node} {e : Element} (h : element? node = some e) (name : String)
    (rest : List Node) : tagsNamed name (node :: rest) =
      if e.tag.name = name then e :: tagsNamed name rest else tagsNamed name rest := by
  rw [tagsNamed, List.filterMap_cons_some h, List.filter_cons, tagsNamed]
  simp only [beq_iff_eq]

/-- A case decides if it has no value or matches; else the choice is among the rest. -/
theorem chosenAfter_case {node : Node} {e : Element} (h : element? node = some e)
    (hcase : e.tag.name = "cfcase") (fallback : Option (List Node)) (rest : List Node) :
    chosenAfter scope expression fallback (node :: rest) =
      match e.tag.requireText scope "value" with
      | .error error => .error error
      | .ok value =>
        if caseMatches e.tag value expression then .ok (some e.children)
        else chosenAfter scope expression fallback rest := by
  have hdefault : e.tag.name ≠ "cfdefault" := by
    rw [hcase]
    decide
  rw [chosenAfter, tagsNamed_of_some h, tagsNamed_of_some h, if_pos hcase, if_neg hdefault]
  cases hlacks : lacksValue e.tag with
  | true =>
    obtain ⟨hvalue, hmatch⟩ := requireText_of_lacksValue hlacks scope expression
    rw [hvalue]
    simp only [List.takeWhile_cons, hmatch, Bool.not_false, if_true, List.find?_cons, hlacks]
  | false =>
    obtain ⟨value, hvalue, hmatch⟩ := requireText_of_value hlacks scope expression
    rw [hvalue]
    simp only [List.takeWhile_cons, List.find?_cons, hmatch]
    cases caseMatches e.tag value expression with
    | true => rfl
    | false =>
      simp only [Bool.not_false, if_true, List.find?_cons, hlacks]
      rfl

/-- A default stands behind one that was found before. -/
theorem chosenAfter_default {node : Node} {e : Element} (h : element? node = some e)
    (hdefault : e.tag.name = "cfdefault") (fallback : Option (List Node)) (rest : List Node) :
    chosenAfter scope expression fallback (node :: rest) =
      chosenAfter scope expression (fallback <|> some e.children) rest := by
  have hcase : e.tag.name ≠ "cfcase" := by
    rw [hdefault]
    decide
  rw [chosenAfter, tagsNamed_of_some h, tagsNamed_of_some h, if_neg hcase, if_pos hdefault]
  cases fallback with
  | none => rfl
  | some => rfl

/-- Any other tag is not looked at. -/
theorem chosenAfter_other {node : Node} {e : Element} (h : element? node = some e)
    (hcase : e.tag.name ≠ "cfcase") (hdefault : e.tag.name ≠ "cfdefault")
    (fallback : Option (List Node)) (rest : List Node) :
    chosenAfter scope expression fallback (node :: rest) =
      chosenAfter scope expression fallback rest := by
  rw [chosenAfter, tagsNamed_of_some h, tagsNamed_of_some h, if_neg hcase, if_neg hdefault]
  rfl

/-- The search finds the place of the child that is chosen. -/
theorem chosenChild_eq {rowAt : Nat → List Node} {place : Nat} (fallback : Option Nat)
    (hrow : ∀ (i : Nat) (node : Node), nodes[i]? = some node → rowAt (place + i) = node.children) :
    (chosenChild scope expression place fallback nodes).map (Option.map rowAt) =
      chosenAfter scope expression (fallback.map rowAt) nodes := by
  -- On the children that are left, with the place of the first of them and the default so far.
  induction nodes generalizing place fallback with
  | nil => cases fallback with | _ => rfl
  | cons node rest ih =>
    have hnext : ∀ (i : Nat) (node : Node), rest[i]? = some node →
        rowAt (place + 1 + i) = node.children := by
      intro i node h
      rw [Nat.add_assoc, Nat.add_comm 1]
      exact hrow (i + 1) node h
    rw [chosenChild.eq_def]
    simp only
    rw [tag?_eq]
    cases helement : element? node with
    | none =>
      simp only [Option.map_none, chosenAfter, tagsNamed_of_none helement]
      exact ih fallback hnext
    | some e =>
      have hfirst : rowAt place = e.children :=
        (hrow 0 node rfl).trans (children_of_element? helement).symm
      simp only [Option.map_some]
      by_cases hcase : e.tag.name = "cfcase"
      · rw [chosenAfter_case helement hcase, if_pos hcase]
        cases e.tag.requireText scope "value" with
        | error error => rfl
        | ok value =>
          dsimp only
          by_cases hmatch : caseMatches e.tag value expression = true
          · rw [if_pos hmatch, if_pos hmatch, ← hfirst]
            rfl
          · rw [if_neg hmatch, if_neg hmatch]
            exact ih fallback hnext
      · by_cases hdefault : e.tag.name = "cfdefault"
        · rw [chosenAfter_default helement hdefault, if_neg hcase, if_pos hdefault, ih _ hnext,
            ← hfirst]
          cases fallback with
          | none => rfl
          | some => rfl
        · rw [chosenAfter_other helement hcase hdefault, if_neg hcase, if_neg hdefault]
          exact ih fallback hnext

theorem chosenAfter_none : chosenAfter scope expression none children =
    (chosen scope expression children).map (Option.map Element.children) := by
  unfold chosenAfter chosen choice
  simp only
  split
  · rfl
  · cases (tagsNamed "cfcase" children).find? (isMatch scope expression ·.tag) with
    | none => rfl
    | some => rfl

/-- The row of the place that is found is the body of the child that is chosen. -/
theorem chosenChild_row (scope : Scope) (expression : String) (e : Element) :
    (chosenChild scope expression 0 none e.children).map
        (Option.map fun place => e.row (.bodyOfChild place)) =
      (chosen scope expression e.children).map (Option.map Element.children) := by
  rw [← chosenAfter_none]
  refine chosenChild_eq none fun i node h => ?_
  rw [Nat.zero_add, Element.row, h]
  rfl

/-! ## What the choice depends on -/

/-- The cases up to the first that matches. -/
def casesRead (scope : Scope) (expression : String) (children : List Node) : List Element :=
  let cases := tagsNamed "cfcase" children
  cases.takeWhile (!isMatch scope expression ·.tag) ++
    (cases.find? (isMatch scope expression ·.tag)).toList

/-- Children of which a switch chooses one in the same way: up to the first case that matches the
cases have the same tags; where none matches there is a default in both or in neither; and the
child that is chosen has the same body. -/
structure SameChoice (scope : Scope) (expression : String) (children children' : List Node) :
    Prop where
  cases : (casesRead scope expression children').map Element.tag =
    (casesRead scope expression children).map Element.tag
  defaults : (∀ e ∈ tagsNamed "cfcase" children, isMatch scope expression e.tag = false) →
    (tagsNamed "cfdefault" children').isEmpty = (tagsNamed "cfdefault" children).isEmpty
  body : ∀ child child', chosen scope expression children = .ok (some child) →
    chosen scope expression children' = .ok (some child') → child'.children = child.children

/-- Up to the first tag that is looked for, a row of tags shows those before it, and itself. -/
theorem map_takeWhile_append_find? (p : Tag → Bool) (row : List Element) :
    let read := (row.takeWhile (!p ·.tag) ++ (row.find? (p ·.tag)).toList).map Element.tag
    read.takeWhile (!p ·) = (row.takeWhile (!p ·.tag)).map Element.tag ∧
      read.find? p = (row.find? (p ·.tag)).map Element.tag := by
  induction row with
  | nil => exact ⟨rfl, rfl⟩
  | cons e rest ih =>
    cases h : p e.tag with
    | true => simp [h]
    | false => simpa [h] using ih

theorem choice_congr {lacking lacking' found found' fallback fallback' : Option Element}
    (hlacking : lacking'.map Element.tag = lacking.map Element.tag)
    (hfound : found'.map Element.tag = found.map Element.tag)
    (hfallback : found = none → fallback'.isNone = fallback.isNone)
    (hbody : ∀ child child', choice lacking found fallback = .ok (some child) →
      choice lacking' found' fallback' = .ok (some child') → child'.children = child.children) :
    (choice lacking' found' fallback').map (Option.map Element.children) =
      (choice lacking found fallback).map (Option.map Element.children) := by
  have hchild : ∀ {child child' : Element}, child'.children = child.children →
      (Except.ok (some child'.children) : Except RenderError (Option (List Node))) =
        .ok (some child.children) := fun h => by rw [h]
  -- Both have a case without a value or neither, and so it is with a match.
  rcases lacking with _ | lacking <;> rcases lacking' with _ | lacking'
  · rcases found with _ | found <;> rcases found' with _ | found'
    · -- no case matches: it is up to the defaults
      have hnone := hfallback rfl
      rcases fallback with _ | fallback <;> rcases fallback' with _ | fallback'
      · rfl
      · cases hnone
      · cases hnone
      · exact hchild (hbody fallback fallback' rfl rfl)
    · cases hfound
    · cases hfound
    · exact hchild (hbody found found' rfl rfl)
  · cases hlacking
  · cases hlacking
  · have htag : lacking'.tag = lacking.tag := Option.some.inj hlacking
    rw [choice, choice, htag]

theorem SameChoice.chosen_eq (h : SameChoice scope expression children children') :
    (chosen scope expression children').map (Option.map Element.children) =
      (chosen scope expression children).map (Option.map Element.children) := by
  obtain ⟨hbefore, hmatch⟩ :=
    map_takeWhile_append_find? (isMatch scope expression) (tagsNamed "cfcase" children)
  obtain ⟨hbefore', hmatch'⟩ :=
    map_takeWhile_append_find? (isMatch scope expression) (tagsNamed "cfcase" children')
  have hread := h.cases
  unfold casesRead at hread
  rw [← hread, hbefore'] at hbefore
  rw [← hread, hmatch'] at hmatch
  have hlacking := congrArg (List.find? lacksValue) hbefore
  rw [List.find?_map, List.find?_map] at hlacking
  refine choice_congr hlacking hmatch (fun hnone => ?_) h.body
  have hhead : ∀ row : List Element, row.head?.isNone = row.isEmpty := by
    intro row
    cases row with
    | _ => rfl
  rw [hhead, hhead]
  exact h.defaults fun e he => by simpa using List.find?_eq_none.mp hnone e he

end Builtin

/-! ## The body of a switch -/

/-- Renders the row that was chosen, if there is one. -/
def Setting.renderChosen (s : Setting) : Except RenderError (Option (List Node)) → Render
  | .error error, st => (⟨"", .error error⟩, st)
  | .ok none, st => (⟨"", .ok .proceed⟩, st)
  | .ok (some row), st => pass (s.walk row) st

theorem Builtin.switchBody_comesTo {s : Setting} {e : Element} {st : RenderState}
    {expression : String} (hexpression : e.tag.requireText st.scope "expression" = .ok expression) :
    (switchBody e).ComesTo (s.around e) st
      (s.renderChosen ((chosen st.scope expression e.children).map (Option.map Element.children))
        st) := by
  rw [Program.ComesTo]
  show ((Program.ofExcept (e.tag.requireText st.scope "expression")).andThen _).run _ _ = _
  rw [hexpression, ← chosenChild_row]
  show ((Program.ofExcept (chosenChild st.scope expression 0 none e.children)).andThen _).run _ _ =
    _
  rcases chosenChild st.scope expression 0 none e.children with error | _ | place
  · rfl
  · rfl
  · exact Program.rendered_comesTo (s.around e) (.bodyOfChild place) st

namespace Engine

/-- What a switch comes to. With room for one more open block it comes to the body of the child that
is chosen, to nothing if there is none, and to the error if a case that was to be looked at has no
value; without room it fails before anything else. Other children of which one is chosen in the same
way make no difference. -/
theorem node_switch (loader : Loader) (limits : Limits) (budget : Nat) {tag : Tag} {raw : String}
    (hname : tag.name = "cfswitch") (hexpression : tag.attr? "expression" = some raw)
    (children : List Node) (chain : Chain) (out : String) {st : RenderState}
    (hst : st.journal = none) :
    let s := settingAt ⟨Builtin.registry, loader, limits⟩ budget
    let expression := st.scope.expandText raw
    (st.depth < limits.maxDepth → s.node (.block tag children) chain out st =
      match Builtin.chosen st.scope expression children with
      | .error error => .ends ⟨out, .error error, st⟩
      | .ok none => .goesOn none out st
      | .ok (some child) =>
        let (rendered, after) :=
          Element.enclose ⟨tag, some children⟩ none (Setting.pass (s.walk child.children)) st
        .ofRendered out rendered after) ∧
    (limits.maxDepth ≤ st.depth → s.node (.block tag children) chain out st =
      .ends ⟨out, .error (.tooDeep limits.maxDepth tag.span.line), st⟩) ∧
    ∀ children', Builtin.SameChoice st.scope expression children children' →
      s.node (.block tag children') chain out st = s.node (.block tag children) chain out st := by
  intro s expression
  have hs : s.Tidy := settingAt_tidy rfl budget
  have hget : s.registry.get? tag.name = some Builtin.switch := by
    rw [hname]
    rfl
  have hvalue : tag.requireText st.scope "expression" = .ok expression := by
    rw [Tag.requireText, Tag.text?, hexpression]
    rfl
  have hroom : ∀ row, st.depth < limits.maxDepth → s.node (.block tag row) chain out st =
      let (rendered, after) := Element.enclose ⟨tag, some row⟩ none (s.renderChosen
        ((Builtin.chosen st.scope expression row).map (Option.map Element.children))) st
      .ofRendered out rendered after := by
    intro row hroom
    have hnode := Setting.node_of_body (e := ⟨tag, some row⟩) hs chain out hget rfl
      (fun _ => hroom) hst ⟨rfl, rfl, fun _ => rfl⟩ (Builtin.switchBody_comesTo hvalue)
    exact hnode.trans (Step.withChain_none_ofRendered ..)
  have hfull : ∀ row, limits.maxDepth ≤ st.depth → s.node (.block tag row) chain out st =
      .ends ⟨out, .error (.tooDeep limits.maxDepth tag.span.line), st⟩ :=
    fun row => Setting.node_of_full (e := ⟨tag, some row⟩) hget rfl rfl
  refine ⟨fun h => ?_, hfull children, fun children' hsame => ?_⟩
  · rw [hroom children h]
    cases Builtin.chosen st.scope expression children with
    | error error => rfl
    | ok choice =>
      cases choice with
      | none => exact congrArg (Step.goesOn none · st) String.append_empty
      | some child => rfl
  · rcases Nat.lt_or_ge st.depth limits.maxDepth with h | h
    · rw [hroom children h, hroom children' h, hsame.chosen_eq]
      rfl
    · rw [hfull children h, hfull children' h]

/-- The second alternative of the second case matches. The default before it, the case after it,
which has no value, and the body of the case that does not match can be others. -/
theorem node_switch_of_alternative :
    let tag : Tag := ⟨"cfswitch", .ofList [("expression", "#x#")], "", ⟨0, 0, 1, 1⟩⟩
    let child (name : String) (attributes : Attributes) (body : List Node) : Node :=
      .block ⟨name, attributes, "", ⟨0, 0, 2, 1⟩⟩ body
    let first := child "cfcase" (.ofList [("value", "a,bb")])
    let second := child "cfcase" (.ofList [("value", "c; b"), ("delimiters", ";")]) [.text "yes"]
    let children := [.text "t", child "cfdefault" .empty [.text "no"], first [.text "no"], second,
      child "cfcase" .empty []]
    let children' := [first [child "cfbreak" .empty []], second, .void tag]
    let st : RenderState := .start (.ofList [("x", .text "b")])
    (setting {}).node (.block tag children) none "out:" st = .goesOn none "out:yes" st ∧
      (setting {}).node (.block tag children') none "out:" st = .goesOn none "out:yes" st := by
  intro tag child first second children children' st
  have hexpression : tag.attr? "expression" = some "#x#" := by decide +kernel
  have hfirst : Builtin.isMatch st.scope (st.scope.expandText "#x#")
      ⟨"cfcase", .ofList [("value", "a,bb")], "", ⟨0, 0, 2, 1⟩⟩ = false := by decide +kernel
  have hsecond : Builtin.isMatch st.scope (st.scope.expandText "#x#")
      ⟨"cfcase", .ofList [("value", "c; b"), ("delimiters", ";")], "", ⟨0, 0, 2, 1⟩⟩ = true := by
    decide +kernel
  have hchosen : Builtin.chosen st.scope (st.scope.expandText "#x#") children =
      .ok (some ⟨⟨"cfcase", .ofList [("value", "c; b"), ("delimiters", ";")], "", ⟨0, 0, 2, 1⟩⟩,
        some [.text "yes"]⟩) :=
    Builtin.chosen_of_second rfl (by decide +kernel) hfirst hsecond
  have hchosen' : Builtin.chosen st.scope (st.scope.expandText "#x#") children' =
      .ok (some ⟨⟨"cfcase", .ofList [("value", "c; b"), ("delimiters", ";")], "", ⟨0, 0, 2, 1⟩⟩,
        some [.text "yes"]⟩) :=
    Builtin.chosen_of_second rfl (by decide +kernel) hfirst hsecond
  have hmatches : ¬∀ e ∈ Builtin.tagsNamed "cfcase" children,
      Builtin.isMatch st.scope (st.scope.expandText "#x#") e.tag = false := by decide +kernel
  have hsame : Builtin.SameChoice st.scope (st.scope.expandText "#x#") children children' := by
    refine ⟨by decide +kernel, fun h => absurd h hmatches, fun e e' he he' => ?_⟩
    rw [hchosen] at he
    rw [hchosen'] at he'
    cases he
    cases he'
    rfl
  have hst : st.journal = none := rfl
  obtain ⟨hroom, -, hother⟩ := node_switch Loader.none {} ({} : Limits).maxIncludeDepth rfl
    hexpression children none "out:" hst
  have hnode := hroom (by decide)
  rw [hchosen] at hnode
  have hyes : (setting {}).node (.block tag children) none "out:" st =
      .goesOn none "out:yes" st := hnode
  exact ⟨hyes, (hother children' hsame).trans hyes⟩

end Engine

end TagTemplate
