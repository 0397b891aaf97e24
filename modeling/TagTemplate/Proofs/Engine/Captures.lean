import TagTemplate.Proofs.Engine.Deeper
import TagTemplate.Proofs.Engine.Output

/-!
# Captured output

`cfsavecontent` renders its body onto a buffer of its own and binds what it finds there. The body
comes to the same as it would outside, only that one more block is open around it
(`Setting.node_capture`). So what is captured and then shown is what the body would have put out
(`Engine.walk_captured`).
-/

namespace TagTemplate

/-- What a render comes to when its output is captured: nothing is put out, and the output is bound
unless the render was aborted. -/
def captured (name : String) (result : Rendered × RenderState) : Rendered × RenderState :=
  match result.1.outcome with
  | .error error => (⟨"", .error error⟩, result.2)
  | .ok .abort => (⟨"", .ok .abort⟩, result.2)
  | .ok flow => (⟨"", .ok flow⟩,
      { result.2 with scope := result.2.scope.insert name (.text result.1.text) })

/-- A state that is put back after a captured render can be put back after the render. -/
theorem captured_restored (name : String) (rendered : Rendered) (st before : RenderState) :
    ((captured name (rendered, st)).1, { (captured name (rendered, st)).2 with
      depth := before.depth, interpolating := before.interpolating }) =
    captured name (rendered,
      { st with depth := before.depth, interpolating := before.interpolating }) := by
  rcases rendered with ⟨text, error | flow⟩
  · rfl
  · cases flow with
    | _ => rfl

namespace Builtin

variable {e : Element} {name : String} {s : Surroundings} {st : RenderState}

/-- The body of a capture comes to its captured children. -/
theorem capture_comesTo (hname : e.tag.requireText st.scope "variable" = .ok name) :
    (capture e).ComesTo s st (captured name (s.region .body st)) := by
  show ((Program.ofExcept (e.tag.requireText st.scope "variable")).andThen _).run s st = _
  rw [hname]
  show (Program.andThen (Program.passOn (s.region .body st).1) _).run s (s.region .body st).2 =
    ((captured name (s.region .body st)).1.outcome.map _, (captured name (s.region .body st)).2)
  rcases s.region .body st with ⟨⟨text, error | flow⟩, after⟩
  · rfl
  · cases flow with
    | _ => rfl

end Builtin

/-- The tag captures what its body puts out, in a variable whose name is written in it. -/
structure Tag.Captures (tag : Tag) (name : String) : Prop where
  name_eq : tag.name = "cfsavecontent"
  variable_eq : tag.attr? "variable" = some name
  noMark : '#' ∉ name.toList

theorem Tag.Captures.requireText {tag : Tag} {name : String} (h : tag.Captures name)
    (scope : Scope) : tag.requireText scope "variable" = .ok name := by
  rw [Tag.requireText, Tag.text?, h.variable_eq, Option.map_some,
    scope.expandText_of_noMark h.noMark]

namespace Setting

variable {s : Setting} {st after : RenderState} {tag : Tag} {name text : String}
  {outcome : Except RenderError Flow}

theorem get?_capture (hbuiltin : s.registry = Builtin.registry) (htag : tag.Captures name) :
    s.registry.get? tag.name = some Builtin.saveContent := by
  rw [hbuiltin, htag.name_eq]
  rfl

/-- A capture comes to what its children come to inside, with one more block open. -/
theorem node_capture_inside (hs : s.Tidy) (hbuiltin : s.registry = Builtin.registry)
    (htag : tag.Captures name) {children : List Node} (chain : Chain) (out : String)
    (hst : st.journal = none) (hroom : st.depth < s.limits.maxDepth)
    (hwalk : s.walk children none "" (st.deeper 1) = ⟨text, outcome, after⟩) :
    s.node (.block tag children) chain out st =
      Step.ofRendered out (captured name (⟨text, outcome⟩, after)).1
        { (captured name (⟨text, outcome⟩, after)).2 with
          depth := st.depth, interpolating := st.interpolating } := by
  let e : Element := ⟨tag, some children⟩
  let render : Render := fun st => captured name (pass (s.walk children) st)
  have hbody : (Builtin.saveContent.body e).ComesTo (s.around e)
      (Builtin.saveContent.inBody (st.inside e))
      (render (Builtin.saveContent.inBody (st.inside e))) :=
    Builtin.capture_comesTo (htag.requireText _)
  have hdeep : (st.deeper 1).journal = none := hst
  have hafter := (hs.walk_unwatched children none "" _ hdeep).2
  rw [hwalk] at hafter
  have hinside : render (st.deeper 1) = captured name (⟨text, outcome⟩, after) :=
    congrArg (captured name) (pass_of_unwatched hdeep hwalk hafter)
  have henclose : e.enclose Builtin.saveContent.interpolation render st =
      ((captured name (⟨text, outcome⟩, after)).1,
        { (captured name (⟨text, outcome⟩, after)).2 with
          depth := st.depth, interpolating := st.interpolating }) :=
    Element.enclose_eq hinside
  have hnode := node_of_body hs chain out (get?_capture hbuiltin htag) rfl (fun _ => hroom) hst
    ⟨rfl, rfl, fun _ => rfl⟩ hbody
  rw [henclose] at hnode
  rw [← Step.withChain_none_ofRendered]
  exact hnode

/-- A capture comes to what its children come to beside it, unless a block nests too deep. -/
theorem node_capture (hs : s.Tidy) (hbuiltin : s.registry = Builtin.registry)
    (hembed : ∀ path, Render.SameDeeper 1 (s.embed path)) (htag : tag.Captures name)
    {children : List Node} (chain : Chain) (out : String) (hst : st.journal = none)
    (hspared : (s.node (.block tag children) chain out st).Spared)
    (hwalk : s.walk children none "" st = ⟨text, outcome, after⟩) :
    st.depth < s.limits.maxDepth ∧ s.node (.block tag children) chain out st =
      Step.ofRendered out (captured name (⟨text, outcome⟩, after)).1
        (captured name (⟨text, outcome⟩, after)).2 := by
  have hroom : st.depth < s.limits.maxDepth := by
    by_contra hfull
    have hnode := @node_of_full s ⟨tag, some children⟩ _ chain out st
      (get?_capture hbuiltin htag) rfl rfl (Nat.not_lt.mp hfull)
    rw [show s.node (.block tag children) chain out st = _ from hnode] at hspared
    exact nomatch hspared _ rfl
  refine ⟨hroom, ?_⟩
  rcases hdeep : s.walk children none "" (st.deeper 1) with ⟨text', outcome', after'⟩
  have hnode := node_capture_inside hs hbuiltin htag chain out hst hroom hdeep
  have houtcome : TagTemplate.Spared outcome' := by
    rw [hnode] at hspared
    rcases outcome' with error | flow
    · exact hspared.of_error
    · exact spared_ok flow
  -- the children are rendered in the same way further in, and put the books back
  have hsame : s.walk children none "" (st.deeper 1) = (s.walk children none "" st).deeper 1 := by
    refine walk_deeper hs ?_ hembed children none "" st hst (by rwa [hdeep])
    rw [hbuiltin]
    exact Builtin.registry_raises.passesOn
  have hbooks := hs.walk_restores children none "" st
  rw [hwalk] at hbooks hsame
  obtain ⟨rfl, rfl, rfl⟩ := Walk.mk.inj (hdeep.symm.trans hsame)
  have hput : { after.deeper 1 with depth := st.depth, interpolating := st.interpolating } =
      after := by
    have hdepth : after.depth = st.depth := congrArg Books.depth hbooks
    have hflag : after.interpolating = st.interpolating := congrArg Books.interpolating hbooks
    rw [← hdepth, ← hflag]
    rfl
  have hrestored := captured_restored name ⟨text', outcome'⟩ (after.deeper 1) st
  rw [hput] at hrestored
  rw [hnode, ← hrestored]

end Setting

/-- Where references are replaced, one to a variable gives the text of its value. -/
theorem RenderState.interpolation_of_bound {st : RenderState} {name : String} {value : Value}
    (hflag : st.interpolating = true) (hname : name ≠ "") (htrim : Text.trim name = name)
    (hbound : st.scope.get? name = some value) : st.interpolation name = value.display := by
  have hfilled : ¬name.isEmpty = true := mt String.isEmpty_iff.mp hname
  rw [interpolation, if_pos hflag, htrim]
  simp only [if_neg hfilled, hbound]

namespace Engine

/-- What is captured and then shown is what the body puts out beside the capture, with the same
variables after it but for the one that holds the output; and a body that does not proceed ends the
row, with nothing put out. This is so unless a block nests too deep. -/
theorem walk_captured (loader : Loader) (limits : Limits) (budget : Nat) {tag shown : Tag}
    {name : String} (htag : tag.Captures name) (hname : name ≠ "") (htrim : Text.trim name = name)
    (hshown : shown.name = "cfoutput") (span : Span) (children : List Node) (chain : Chain)
    (out : String) (st : RenderState) (hst : st.journal = none) :
    let s := settingAt ⟨Builtin.registry, loader, limits⟩ budget
    let w := s.walk children none "" st
    let row := s.walk [.block tag children, .block shown [.interpolation name span]] chain out st
    let bound := { w.state with scope := w.state.scope.insert name (.text w.out) }
    Spared row.outcome →
      (w.outcome = .ok .proceed → row = ⟨out ++ w.out, .ok .proceed, bound⟩) ∧
      (w.outcome = .ok .breakLoop → row = ⟨out, .ok .breakLoop, bound⟩) ∧
      (w.outcome = .ok .abort → row = ⟨out, .ok .abort, w.state⟩) ∧
      ∀ error, w.outcome = .error error → row = ⟨out, .error error, w.state⟩ := by
  intro s w row bound hspared
  have hs : s.Tidy := settingAt_tidy rfl budget
  have hfirst : (s.node (.block tag children) chain out st).Spared :=
    Step.spared_of_andThen hspared
  obtain ⟨hroom, hnode⟩ := Setting.node_capture hs rfl (embed_deeper rfl budget) htag chain out hst
    hfirst rfl
  have hafter : w.state.journal = none := (hs.walk_unwatched children none "" st hst).2
  have hbooks : w.state.books = st.books := hs.walk_restores children none "" st
  have hrow : row = (Step.ofRendered out (captured name (⟨w.out, w.outcome⟩, w.state)).1
      (captured name (⟨w.out, w.outcome⟩, w.state)).2).andThen
        (s.walk [.block shown [.interpolation name span]]) := congrArg (Step.andThen · _) hnode
  refine ⟨fun hw => ?_, fun hw => ?_, fun hw => ?_, fun error hw => ?_⟩
  · have hoff : bound.journal = none := hafter
    have hdepth : bound.depth = st.depth := congrArg Books.depth hbooks
    have hplain : ∀ node ∈ [Node.interpolation name span], node.tag? = none := by
      intro node hnode
      rw [List.mem_singleton.mp hnode]
      rfl
    have hshow := Setting.node_output hs rfl hshown hplain none (out ++ "") hoff
      (by rw [hdepth]; exact hroom)
    have hbound : bound.replacing.scope.get? name = some (.text w.out) :=
      OrderedMap.get?_insert_self ..
    have htext : bound.replacing.shown (.interpolation name span) = w.out :=
      RenderState.interpolation_of_bound rfl hname htrim hbound
    rw [RenderState.shownAll_singleton, htext, String.append_empty] at hshow
    rw [hrow, hw]
    show (s.node (.block shown [.interpolation name span]) none (out ++ "") bound).andThen _ = _
    rw [String.append_empty, hshow]
    rfl
  · rw [hrow, hw]
    show Walk.mk (out ++ "") _ _ = _
    rw [String.append_empty]
    rfl
  · rw [hrow, hw]
    show Walk.mk (out ++ "") _ _ = _
    rw [String.append_empty]
    rfl
  · rw [hrow, hw]
    rfl

/-- Marks and tags in what was captured are shown as they are, and a break leaves the capture. -/
theorem walk_captured_of_marks :
    let s := settingAt ⟨Builtin.registry, Loader.none, {}⟩ 0
    let span : Span := ⟨0, 0, 1, 1⟩
    let capture (children : List Node) : Node :=
      .block ⟨"cfsavecontent", .ofList [("variable", "v")], "", span⟩ children
    let shown : Node := .block ⟨"cfoutput", .empty, "", span⟩ [.interpolation "v" span]
    let halt : Node := .void ⟨"cfbreak", .empty, "", span⟩
    s.walk [capture [.text "#v#<cfset>"], shown] none "o" (.start .empty) =
        ⟨"o#v#<cfset>", .ok .proceed, .start (.ofList [("v", .text "#v#<cfset>")])⟩ ∧
      s.walk [capture [.text "a", halt], shown] none "o" (.start .empty) =
        ⟨"o", .ok .breakLoop, .start (.ofList [("v", .text "a")])⟩ := by
  intro s span capture shown halt
  have htag : (⟨"cfsavecontent", .ofList [("variable", "v")], "", span⟩ : Tag).Captures "v" :=
    ⟨rfl, rfl, by decide⟩
  have hspared : ∀ {w : Walk}, w.outcome.isOk = true → Spared w.outcome := by
    intro w hok error herror
    rw [herror] at hok
    cases hok
  have hshown : (⟨"cfoutput", .empty, "", span⟩ : Tag).name = "cfoutput" := rfl
  have htrim : Text.trim "v" = "v" := by decide +kernel
  have hshows := walk_captured Loader.none {} 0 htag (by decide) htrim hshown span
    [.text "#v#<cfset>"] none "o" (.start .empty) rfl (hspared (by decide +kernel))
  have hbreaks := walk_captured Loader.none {} 0 htag (by decide) htrim hshown span
    [.text "a", halt] none "o" (.start .empty) rfl (hspared (by decide +kernel))
  exact ⟨hshows.1 rfl, hbreaks.2.1 rfl⟩

end Engine

end TagTemplate
