import TagTemplate.Proofs.Builtin.Errors
import TagTemplate.Proofs.Builtin.Flows
import TagTemplate.Proofs.Engine.Unrolled

/-!
# What becomes of a break

A break goes outwards from tag to tag, and out of an include into the template that includes it,
until a loop catches it. So where each break has a loop around it in its own template, none goes
beyond that loop, and no render ends with a break that nothing has caught
(`Engine.breaks_stay_in_loops`).
-/

namespace TagTemplate

namespace Setting

variable {s : Setting}

/-- A loop is never left by a break, whatever is in it and wherever it stands. -/
theorem node_loop_avoids (hbuiltin : s.registry = Builtin.registry) {e : Element}
    (hname : e.tag.name = loopName) (chain : Chain) (out : String) (st : RenderState) :
    (s.node e.node chain out st).Avoids .breakLoop := by
  rw [node_tag]
  refine visit_avoids (by decide) (Surroundings.answers_anything _) (fun h hget => ?_) chain out st
  rw [hbuiltin, hname, Builtin.get?_loop] at hget
  cases hget
  exact ⟨Program.asks_anything _, Builtin.loop_catches e⟩

/-- The tags in a row that a built-in tag has rendered, if the tag is no loop, have their loops
inside it. -/
theorem breaksInLoops_row {e : Element} (h : BreaksInLoops e.children) {region : Region}
    (hregion : e.Cases (.render region)) : BreaksInLoops (e.row region) := by
  cases region with
  | body => exact h
  | bodyOfChild index =>
    rw [Element.row]
    cases hchild : e.children[index]? with
    | none => exact breaksInLoops_nil
    | some child =>
      refine h.children (List.mem_of_getElem? hchild) ?_
      -- a case or a default is no loop
      rintro ⟨tag, htag, hname⟩
      rcases hregion child tag hchild htag with hcase | hdefault
      · exact absurd (hname.symm.trans hcase) (by decide)
      · exact absurd (hname.symm.trans hdefault) (by decide)

/-- No break gets out of a row in which each has a loop around it. -/
theorem walk_avoids (hbuiltin : s.registry = Builtin.registry)
    (hembed : ∀ path, Render.Avoids .breakLoop (s.embed path)) {nodes : List Node}
    (h : BreaksInLoops nodes) : Walker.Avoids .breakLoop (s.walk nodes) := by
  induction nodes using siblings_induction with
  | nil => exact fun _ _ _ => nofun
  | text text rest ih => exact fun _ _ st => ih (breaksInLoops_cons.mp h).2 _ _ st
  | interpolation expression span rest ih =>
    exact fun _ _ st => ih (breaksInLoops_cons.mp h).2 _ _ st
  | tag e rest hrows ih =>
    intro chain out st
    have hnode : (s.node e.node chain out st).Avoids .breakLoop := by
      by_cases hloop : e.tag.name = loopName
      · exact node_loop_avoids hbuiltin hloop chain out st
      · obtain ⟨⟨hbreak, -⟩, -⟩ := breaksInLoops_cons.mp h
        rw [Element.isNamed_node] at hbreak
        have hchildren : BreaksInLoops e.children := by
          rw [← e.children_node]
          exact h.children List.mem_cons_self (mt Element.isNamed_node.mp hloop)
        rw [node_tag]
        have hanswers : Surroundings.Answers
            ⟨s.limits, fun region => pass (s.walk (e.row region)), s.embed⟩ e.Cases
            (Rendered.Avoids .breakLoop) :=
          ⟨fun region hregion => (hrows region (breaksInLoops_row hchildren hregion)).pass,
            fun path _ => hembed path⟩
        refine visit_avoids (by decide) hanswers (fun handler hget => ?_) chain out st
        rw [hbuiltin] at hget
        refine ⟨(Builtin.registry_asks hget e).body, Builtin.registry_handsOn (by decide) hget ?_ e⟩
        exact fun hsame => hbreak (Option.some.inj hsame)
    rw [walk]
    cases hstep : s.node e.node chain out st with
    | goesOn after out' st₁ => exact ih (breaksInLoops_cons.mp h).2 after out' st₁
    | ends w => exact hnode w hstep

end Setting

namespace Engine

variable {engine : Engine}

/-- Any template that can be included has a loop around each break. -/
def IncludesCatchBreaks (engine : Engine) : Prop :=
  ∀ path template, engine.fetch path = .ok template → BreaksInLoops template.nodes

theorem embed_avoids (hbuiltin : engine.registry = Builtin.registry)
    (hincludes : engine.IncludesCatchBreaks) (budget : Nat) (path : String) :
    Render.Avoids .breakLoop (engine.embed budget path) := by
  induction budget generalizing path with
  | zero => exact fun _ => nofun
  | succ budget ih =>
    intro st
    rw [embed_succ]
    rcases engine.opening_cases (Setting.walk ⟨engine.registry, engine.limits, engine.embed budget⟩)
      path st with ⟨error, hopening, -⟩ | ⟨template, hfetch, hopening⟩
    · rw [hopening]
      exact nofun
    · rw [hopening]
      have hwalk := @Setting.walk_avoids ⟨engine.registry, engine.limits, engine.embed budget⟩
        hbuiltin ih template.nodes (hincludes path template hfetch)
      exact hwalk.pass { st with interpolating := false, includeDepth := st.includeDepth + 1 }

/-- The error is another one than that nothing has caught a break. -/
def NotOutsideLoop (e : RenderError) : Prop := e ≠ .breakOutsideLoop

theorem fetch_notOutsideLoop (path : String) : FailsOnly NotOutsideLoop (engine.fetch path) := by
  unfold fetch
  split
  · exact failsOnly_error nofun
  · split
    · exact failsOnly_error nofun
    · exact failsOnly_ok _

/-- No tag fails because of a break by itself. -/
theorem registry_notOutsideLoop (hbuiltin : engine.registry = Builtin.registry) :
    engine.registry.Raises NotOutsideLoop := by
  rw [hbuiltin]
  refine Builtin.registry_raises.mono fun e he => ?_
  rintro rfl
  cases he

theorem embed_notOutsideLoop (hbuiltin : engine.registry = Builtin.registry)
    (budget includes : Nat) (path : String) :
    Render.FailsOnly NotOutsideLoop includes (engine.embed budget path) := by
  induction budget generalizing includes path with
  | zero => exact fun _ _ => failsOnly_error nofun
  | succ budget ih =>
    have hsetting : Setting.FailsOnly NotOutsideLoop (includes + 1)
        ⟨engine.registry, engine.limits, engine.embed budget⟩ :=
      ⟨registry_notOutsideLoop hbuiltin, engine.embed_restores budget, ih (includes + 1),
        fun _ => nofun, fun _ _ _ => nofun, fun _ _ => nofun⟩
    intro st hst
    rw [embed_succ]
    rcases engine.opening_cases (Setting.walk ⟨engine.registry, engine.limits, engine.embed budget⟩)
      path st with ⟨error, hopening, herror⟩ | ⟨template, -, hopening⟩
    · rw [hopening]
      rcases herror with rfl | hfetch
      · exact failsOnly_error nofun
      · exact failsOnly_error (fetch_notOutsideLoop path error hfetch)
    · rw [hopening]
      exact renderOpened_failsOnly (Setting.walk_failsOnly hsetting template.nodes) st hst

/-! ## Whole renders -/

/-- A render in which each break has a loop around it fails for some other reason, if at all. -/
theorem render_notOutsideLoop (hbuiltin : engine.registry = Builtin.registry)
    (hincludes : engine.IncludesCatchBreaks) {template : Template}
    (htemplate : BreaksInLoops template.nodes) (scope : Scope) :
    FailsOnly NotOutsideLoop (engine.render template scope).outcome := by
  have hsetting : Setting.FailsOnly NotOutsideLoop 0 engine.setting :=
    ⟨registry_notOutsideLoop hbuiltin, engine.embed_restores _, embed_notOutsideLoop hbuiltin _ 0,
      fun _ => nofun, fun _ _ _ => nofun, fun _ _ => nofun⟩
  have hfails := (Setting.walk_failsOnly hsetting template.nodes).pass (.start scope) rfl
  have havoids := (@Setting.walk_avoids engine.setting hbuiltin
    (embed_avoids hbuiltin hincludes _) _ htemplate).pass (.start scope)
  exact failsOnly_outputOf hfails fun hbreak => absurd hbreak havoids

/-- A loop is never left by a break. And if each break of a template has a loop around it, and those
of all templates that can be included do, no render of the template fails for a break that no loop
has caught. -/
theorem breaks_stay_in_loops (hbuiltin : engine.registry = Builtin.registry) :
    (∀ (embed : String → Render) (e : Element), e.tag.name = loopName → ∀ chain out st,
      (Setting.node ⟨engine.registry, engine.limits, embed⟩ e.node chain out st).Avoids
        .breakLoop) ∧
    (engine.IncludesCatchBreaks → ∀ template : Template, BreaksInLoops template.nodes →
      ∀ scope, (engine.render template scope).outcome ≠ .error .breakOutsideLoop) := by
  constructor
  · intro embed e hname chain out st
    exact Setting.node_loop_avoids hbuiltin hname chain out st
  · intro hincludes template htemplate scope hfails
    exact render_notOutsideLoop hbuiltin hincludes htemplate scope _ hfails rfl

/-! ## A break beside an include -/

/-- A loop that is broken in its first pass. -/
def brokenSource : String := "<cfloop list=\"1\">x<cfbreak></cfloop>"

/-- Finds that loop under any path. -/
def brokenInside : Engine := { loader := fun _ => .ok brokenSource }

/-- A loop with an include and a break after it. -/
def brokenOutside : Element :=
  ⟨⟨"cfloop", .ofList [("list", "1,2")], "", ⟨0, 0, 1, 1⟩⟩,
    some [.void ⟨"cfinclude", .ofList [("template", "x")], "", ⟨0, 0, 1, 1⟩⟩,
      .void ⟨"cfbreak", .empty, "", ⟨0, 0, 1, 1⟩⟩]⟩

theorem includesCatchBreaks_brokenInside : brokenInside.IncludesCatchBreaks := by
  have hparsed : (brokenInside.parse brokenSource).toOption.all
      fun template => decide (BreaksInLoops template.nodes) := by decide +kernel
  intro path template hfetch
  obtain ⟨source, hload, hparse⟩ := fetch_eq_ok_iff.mp hfetch
  cases hload
  rw [hparse] at hparsed
  exact of_decide_eq_true hparsed

/-- Each of the two breaks ends the loop that it stands in. -/
theorem breaks_stay_in_loops_of_include :
    (brokenInside.render ⟨[brokenOutside.node]⟩ .empty).outcome.toOption = some "x" ∧
      (Setting.node ⟨brokenInside.registry, brokenInside.limits, brokenInside.embed 1⟩
        brokenOutside.node none "" (.start .empty)).Avoids .breakLoop ∧
      (brokenInside.render ⟨[brokenOutside.node]⟩ .empty).outcome ≠ .error .breakOutsideLoop := by
  have hrender : (brokenInside.render ⟨[brokenOutside.node]⟩ .empty).outcome.toOption =
      some "x" := by decide +kernel
  have hbroken : BreaksInLoops [brokenOutside.node] := by decide +kernel
  obtain ⟨hloop, hwhole⟩ := @breaks_stay_in_loops brokenInside rfl
  have hnode := hloop (brokenInside.embed 1) brokenOutside rfl none "" (.start .empty)
  have hfails := hwhole includesCatchBreaks_brokenInside ⟨[brokenOutside.node]⟩ hbroken .empty
  exact ⟨hrender, hnode, hfails⟩

end Engine

end TagTemplate
