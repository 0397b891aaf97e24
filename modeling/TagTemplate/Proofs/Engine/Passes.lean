import TagTemplate.Proofs.Builtin.Loops
import TagTemplate.Proofs.Engine.Blocks
import TagTemplate.Proofs.Text.Runs

/-!
# A loop, pass by pass

The elements of a loop without a condition are fixed before the first pass. So the loop comes to
what its passes do in turn, each with its own element bound before the body is rendered
(`Engine.node_loop`), whatever the body does to the variables. Over a text the elements are its runs
between delimiters (`Builtin.nonemptyPieces_eq_runs`).
-/

namespace TagTemplate

/-! ## Renders in turn -/

namespace Render

/-- Renders one thing after the other, up to the first after which the siblings are not rendered. -/
def inTurn : List Render → Render
  | [], st => (⟨"", .ok .proceed⟩, st)
  | render :: others, st =>
    let (first, st) := render st
    match first.outcome with
    | .ok .proceed =>
      let (rest, st) := inTurn others st
      (⟨first.text ++ rest.text, rest.outcome⟩, st)
    | _ => (first, st)

theorem inTurn_of_ends {render : Render} (others : List Render) {st after : RenderState}
    {first : Rendered} (h : render st = (first, after)) (hends : first.outcome ≠ .ok .proceed) :
    inTurn (render :: others) st = (first, after) := by
  rw [inTurn, h]
  obtain ⟨text, outcome⟩ := first
  cases outcome with
  | error error => rfl
  | ok flow =>
    cases flow with
    | proceed => exact absurd rfl hends
    | breakLoop => rfl
    | abort => rfl

/-- Binds variables, one after the other, and renders. -/
def withBindings (bindings : List (String × Value)) (render : Render) : Render := fun st =>
  render { st with scope := bindings.foldl (fun scope b => scope.insert b.1 b.2) st.scope }

/-- What surrounds a loop goes on after a break in it. -/
def outsideLoop (render : Render) : Render := fun st =>
  let (rendered, st) := render st
  match rendered.outcome with
  | .ok .breakLoop => (⟨rendered.text, .ok .proceed⟩, st)
  | _ => (rendered, st)

theorem outsideLoop_of_break {render : Render} {st after : RenderState} {text : String}
    (h : render st = (⟨text, .ok .breakLoop⟩, after)) :
    render.outsideLoop st = (⟨text, .ok .proceed⟩, after) := by
  rw [outsideLoop, h]

end Render

namespace Builtin

variable {tag : Tag} {s : Surroundings} {st : RenderState} {out : String}

/-- What a pass binds, the first one being number 1: the element to `item` and then the number to
`index`, or the element to `index` if there is no `item`. -/
def passBindings (tag : Tag) (element : Value) (number : Nat) : List (String × Value) :=
  match tag.attr? "item", tag.attr? "index" with
  | some item, some index => [(item, element), (index, .number number.toUInt64.toFloat)]
  | some item, none => [(item, element)]
  | none, some index => [(index, element)]
  | none, none => []

/-- The passes of a loop over some elements, the first of them with a number. -/
def passes (tag : Tag) (body : Render) (items : List Value) (number : Nat) : List Render :=
  (items.zipIdx number).map fun (element, number) =>
    body.withBindings (passBindings tag element number)

theorem foldl_passBindings (tag : Tag) (element : Value) (place : Nat) (scope : Scope) :
    (passBindings tag element (place + 1)).foldl (fun scope b => scope.insert b.1 b.2) scope =
      bindElement tag place element scope := by
  unfold passBindings bindElement
  cases tag.attr? "item" with
  | none => cases tag.attr? "index" with | _ => rfl
  | some item => cases tag.attr? "index" with | _ => rfl

/-- The passes that a loop makes are these, in turn. -/
theorem passOver_eq (tag : Tag) (s : Surroundings) (items : List Value) (place : Nat) (out : String)
    (st : RenderState) :
    (passOver tag place items out).run s st =
      let (rendered, after) :=
        Render.outsideLoop (.inTurn (passes tag (s.region .body) items (place + 1))) st
      (rendered.outcome.map (out ++ rendered.text, ·), after) := by
  -- On the elements: what the passes before have put out only stands in front.
  induction items generalizing place out st with
  | nil =>
    show (Except.ok (out, Flow.proceed), st) = (Except.ok (out ++ "", Flow.proceed), st)
    rw [String.append_empty]
  | cons element rest ih =>
    have hrun : (passOver tag place (element :: rest) out).run s st =
        let (first, after) :=
          s.region .body { st with scope := bindElement tag place element st.scope }
        (afterPass out first (passOver tag (place + 1) rest)).run s after := rfl
    have hpasses : passes tag (s.region .body) (element :: rest) (place + 1) =
        Render.withBindings (passBindings tag element (place + 1)) (s.region .body) ::
          passes tag (s.region .body) rest (place + 1 + 1) := rfl
    rw [hrun, hpasses, Render.outsideLoop, Render.inTurn, Render.withBindings, foldl_passBindings]
    rcases s.region .body { st with scope := bindElement tag place element st.scope } with
      ⟨⟨text, error | flow⟩, after⟩
    · rfl
    cases flow with
    | breakLoop => rfl
    | abort => rfl
    | proceed =>
      -- only now do the passes behind it matter
      show (passOver tag (place + 1) rest (out ++ text)).run s after = _
      rw [ih, Render.outsideLoop]
      simp only
      rcases Render.inTurn (passes tag (s.region .body) rest (place + 1 + 1)) after with
        ⟨⟨others, error | flow⟩, after'⟩
      · rfl
      · have hout : out ++ text ++ others = out ++ (text ++ others) := String.append_assoc
        cases flow with
        | proceed => exact congrArg (fun text => (Except.ok (text, Flow.proceed), after')) hout
        | breakLoop => exact congrArg (fun text => (Except.ok (text, Flow.proceed), after')) hout
        | abort => exact congrArg (fun text => (Except.ok (text, Flow.abort), after')) hout

/-- So a loop without a condition comes to them. -/
theorem loopBody_comesTo {e : Element} {items : List Value}
    (hcondition : e.tag.attr? "condition" = none)
    (hitems : loopElements e.tag st.scope s.limits.loopLimit = .ok items) :
    (loopBody e).ComesTo s st
      (Render.outsideLoop (.inTurn (passes e.tag (s.region .body) items 1)) st) := by
  rw [Program.ComesTo, (loopBody_of_elements hcondition hitems).1, passOver_eq]
  simp only [String.empty_append]

/-! ## The elements of a text -/

/-- The pieces of a text that are not empty are its runs between delimiters. -/
theorem nonemptyPieces_eq_runs (delimiters text : String) :
    nonemptyPieces delimiters text =
      (Text.runs (delimiters.toList.contains ·) text.toList).map fun run =>
        .text (String.ofList (slice text.toList run.1 run.2)) := by
  have hempty : (fun piece : String => !piece.isEmpty) ∘ String.ofList =
      fun piece => !piece.isEmpty := by
    funext piece
    rw [Function.comp_apply, Bool.eq_iff_iff]
    simp
  rw [nonemptyPieces, Text.splitAny, List.filter_map, hempty, ← Text.map_slice_runs, List.map_map,
    List.map_map]
  rfl

/-- Together they are the text without the delimiters. -/
theorem join_nonemptyPieces (delimiters text : String) :
    String.join ((nonemptyPieces delimiters text).map Value.display) =
      String.ofList (text.toList.filter fun c => !delimiters.toList.contains c) := by
  have hjoin : ∀ pieces : List (List Char),
      String.join (pieces.map String.ofList) = String.ofList pieces.flatten := by
    intro pieces
    induction pieces with
    | nil => rfl
    | cons piece pieces ih =>
      rw [List.map_cons, String.join_cons, ih, List.flatten_cons, String.ofList_append]
  have hpieces : (nonemptyPieces delimiters text).map Value.display =
      ((Text.splitChars (delimiters.toList.contains ·) text.toList).filter (!·.isEmpty)).map
        String.ofList := by
    rw [nonemptyPieces_eq_runs, ← Text.map_slice_runs, List.map_map, List.map_map]
    rfl
  rw [hpieces, hjoin, List.flatten_filter_not_isEmpty, Text.flatten_splitChars]

end Builtin

namespace Engine

/-- What a loop without a condition comes to. If its elements can be told when it begins, and the
limit allows so many, it comes to its passes in turn, the first that does not proceed being the
last; after a break the siblings go on. Elements of a list or an array that are no more than the
limit are as they were then. Those of a text are the runs between its delimiters, from left to
right, which together make the text without them. Without room the loop fails before anything
else. -/
theorem node_loop (loader : Loader) (limits : Limits) (budget : Nat) {e : Element}
    (hname : e.tag.name = "cfloop") (hcondition : e.tag.attr? "condition" = none) (chain : Chain)
    (out : String) {st : RenderState} (hst : st.journal = none) :
    let s := settingAt ⟨Builtin.registry, loader, limits⟩ budget
    (∀ items, e.Fits limits st →
      Builtin.loopElements e.tag st.scope limits.loopLimit = .ok items →
      s.node e.node chain out st =
        let (rendered, after) := e.enclose none (Render.outsideLoop (.inTurn
          (Builtin.passes e.tag (Setting.pass (s.walk e.children)) items 1))) st
        .ofRendered out rendered after) ∧
    (∀ items, Builtin.listed? e.tag st.scope = some items → items.length ≤ limits.loopLimit →
      Builtin.loopElements e.tag st.scope limits.loopLimit = .ok items) ∧
    (∀ value : Value, (∀ items, value ≠ .list items) →
      let isDelimiter (c : Char) := ((e.tag.attr? "delimiters").getD ",").toList.contains c
      let text := value.display.toList
      ∃ runs : List (Nat × Nat),
        (∀ start stop, (start, stop) ∈ runs ↔ Text.IsRun isDelimiter text start stop) ∧
        runs.Pairwise (fun run later => run.2 < later.1) ∧
        Builtin.listElements e.tag value =
          runs.map (fun run => .text (String.ofList (slice text run.1 run.2))) ∧
        String.join ((Builtin.listElements e.tag value).map Value.display) =
          String.ofList (text.filter (!isDelimiter ·))) ∧
    (¬e.Fits limits st → s.node e.node chain out st =
      .ends ⟨out, .error (.tooDeep limits.maxDepth e.tag.span.line), st⟩) := by
  intro s
  have hget : s.registry.get? e.tag.name = some Builtin.loop := by
    rw [hname]
    rfl
  refine ⟨fun items hfits hitems => ?_, fun items hlisted hfew => ?_, fun value hvalue => ?_,
    fun hfull => ?_⟩
  · have hinside : Builtin.loopElements e.tag (st.inside e).scope (s.around e).limits.loopLimit =
        .ok items := hitems
    have hbody := Builtin.loopBody_comesTo hcondition hinside
    have hnode := Setting.node_of_body (settingAt_tidy rfl budget) chain out hget rfl hfits hst
      ⟨rfl, rfl, fun _ => rfl⟩ hbody
    exact hnode.trans (Step.withChain_none_ofRendered ..)
  · rw [Builtin.loopElements_of_listed hlisted, Builtin.withinLimit, if_neg (Nat.not_lt.mpr hfew)]
  · have helements : Builtin.listElements e.tag value =
        Builtin.nonemptyPieces ((e.tag.attr? "delimiters").getD ",") value.display := by
      cases value with
      | list items => exact absurd rfl (hvalue items)
      | _ => rfl
    rw [helements]
    exact ⟨_, fun _ _ => Text.mem_runs_iff, Text.pairwise_runs _ _,
      Builtin.nonemptyPieces_eq_runs _ _, Builtin.join_nonemptyPieces _ _⟩
  · obtain ⟨hblock, hdepth⟩ := Classical.not_imp.mp hfull
    exact Setting.node_of_full hget rfl hblock (Nat.not_lt.mp hdepth)

/-- A break in the first pass over two elements. The body binds the list anew, to no effect on the
pass, and what it put out before the break stays. -/
theorem node_loop_of_break :
    let tag : Tag := ⟨"cfloop", .ofList [("list", "#l#"), ("item", "x")], "", ⟨0, 0, 1, 1⟩⟩
    let span : Span := ⟨0, 0, 2, 1⟩
    let body : List Node := [.void ⟨"cfset", .ofList [("l", "z")], "", span⟩, .text "-",
      .void ⟨"cfbreak", .empty, "", span⟩, .text "no"]
    let scope : Scope := .ofList [("l", .text "a,,b")]
    (setting {}).node (.block tag body) none "out:" (.start scope) =
      .goesOn none "out:-" (.start (.ofList [("l", .text "z"), ("x", .text "a")])) := by
  intro tag span body scope
  have hvalue : tag.value? scope "list" = some (.text "a,,b") := by with_unfolding_all rfl
  have hpieces : Builtin.nonemptyPieces "," "a,,b" = [.text "a", .text "b"] := rfl
  have hrange : ¬(tag.attributes.contains "from" || tag.attributes.contains "to") = true := by
    decide +kernel
  have hdelimiters : tag.attr? "delimiters" = none := by decide +kernel
  have hlisted : Builtin.listed? tag scope = some [.text "a", .text "b"] := by
    rw [Builtin.listed?, if_neg hrange, hvalue]
    show some (Builtin.nonemptyPieces ((tag.attr? "delimiters").getD ",") "a,,b") = _
    rw [hdelimiters, Option.getD_none, hpieces]
  have hst : (RenderState.start scope).journal = none := rfl
  obtain ⟨hpasses, hfew, -⟩ := node_loop Loader.none {} ({} : Limits).maxIncludeDepth
    (e := ⟨tag, some body⟩) rfl (by decide +kernel) none "out:" hst
  have hnode := hpasses _ (fun _ => by decide) (hfew _ hlisted (by decide))
  -- the first pass ends in the break, and the second is not made
  have hwalk (bound : Scope) : (setting {}).walk body none "" ⟨bound, false, 1, 0, none⟩ =
      ⟨"-", .ok .breakLoop, ⟨bound.insert "l" (.text "z"), false, 1, 0, none⟩⟩ := by
    have hset : (setting {}).node (.void ⟨"cfset", .ofList [("l", "z")], "", span⟩) none ""
        ⟨bound, false, 1, 0, none⟩ =
        .goesOn none "" ⟨bound.insert "l" (bound.expand "z"), false, 1, 0, none⟩ := rfl
    have hexpand : bound.expand "z" = .text "z" := by with_unfolding_all rfl
    rw [hexpand] at hset
    rw [Setting.walk, hset]
    rfl
  have hturns (render : Render) : Builtin.passes tag render [.text "a", .text "b"] 1 =
      [render.withBindings [("x", .text "a")], render.withBindings [("x", .text "b")]] := rfl
  have hfirst : (Setting.pass ((setting {}).walk body)).withBindings [("x", .text "a")]
      ⟨scope, false, 1, 0, none⟩ = (⟨"-", .ok .breakLoop⟩,
        ⟨(scope.insert "x" (.text "a")).insert "l" (.text "z"), false, 1, 0, none⟩) := by
    show Setting.pass _ ⟨scope.insert "x" (.text "a"), false, 1, 0, none⟩ = _
    rw [Setting.pass, RenderState.note_of_none rfl, hwalk]
    rfl
  have hloop (first second : Render)
      (h : first ⟨scope, false, 1, 0, none⟩ = (⟨"-", .ok .breakLoop⟩,
        ⟨(scope.insert "x" (.text "a")).insert "l" (.text "z"), false, 1, 0, none⟩)) :
      (⟨tag, some body⟩ : Element).enclose none (Render.outsideLoop (.inTurn [first, second]))
        (.start scope) = (⟨"-", .ok .proceed⟩,
          .start ((scope.insert "x" (.text "a")).insert "l" (.text "z"))) := by
    have hbreaks : (.ok .breakLoop : Except RenderError Flow) ≠ .ok .proceed := by
      intro h
      cases h
    have hends := Render.outsideLoop_of_break (Render.inTurn_of_ends [second] h hbreaks)
    exact @Element.enclose_eq ⟨tag, some body⟩ (.start scope) none _ _ _ hends
  refine hnode.trans ?_
  rw [hturns, hloop]
  · rfl
  · exact hfirst

end Engine

end TagTemplate
