import TagTemplate.Proofs.Builtin.Loops
import TagTemplate.Proofs.Engine.Limits
import TagTemplate.Proofs.Engine.Places
import TagTemplate.Proofs.Engine.Unrolled

/-!
# Every render ends within its limits

Three things could make a render go on without end: blocks within blocks, includes within includes,
and loops. Each has a limit, and with the built-in tags a render keeps to all of them, whatever the
template, the loader and the variables (`render_keepsLimits`). A tree has finitely many nodes, a
loop renders its body so often at most, and beyond so many includes nothing is rendered at all: so
the render ends.
-/

namespace TagTemplate.Engine

/-- A render that keeps to the limits of its engine. -/
structure KeepsLimits (engine : Engine) (template : Template) (scope : Scope) : Prop where
  /-- The journal is that of the render: it is the same when nobody watches. -/
  watched : (engine.run template (.watched scope)).1 = (engine.run template (.start scope)).1 ∧
    (engine.run template (.watched scope)).2.scope = (engine.run template (.start scope)).2.scope
  /-- No hook is called with more blocks or more includes open than the limits allow. -/
  within : ∀ event ∈ engine.journal template scope, event.Within engine.limits
  /-- And so many are open indeed, where the tag of the hook stands. -/
  placed : ∀ event ∈ engine.journal template scope, engine.Placed template event
  /-- A loop keeps to its limit, wherever it stands. -/
  loops : engine.registry.get? "cfloop" = some Builtin.loop ∧
    ∀ e region embed st, Builtin.LoopKeepsLimit e ⟨engine.limits, region, embed⟩ st
  /-- Includes are followed no further than the limit: it does not matter what is further in. -/
  ends : ∀ beyond (n : Nat), engine.limits.maxIncludeDepth < n →
    engine.renderWith (engine.unrolled beyond n) template scope = engine.render template scope
  /-- Where as many includes are open as the limit allows, one more is refused, and the loader has
  no part in it. -/
  full : ∀ loader budget path (st : RenderState),
    engine.limits.maxIncludeDepth ≤ st.includeDepth →
    embed ⟨engine.registry, loader, engine.limits⟩ budget path st =
      (⟨"", .error (.includeDepthExceeded path engine.limits.maxIncludeDepth)⟩, st)
  /-- This is where all errors of too many includes are from: if what is reached with just as many
  includes open is met in another way, and does not fail so, nothing does. -/
  onlyFull :
    engine.render template scope = engine.renderWith
      (engine.unrolled engine.refuse engine.limits.maxIncludeDepth) template scope ∧
    ∀ beyond, (∀ path, Render.Restores (beyond path)) →
      (∀ path, Render.FailsOnly (fun e => e.isIncludeDepth = false)
        engine.limits.maxIncludeDepth (beyond path)) →
      FailsOnly (fun e => e.isIncludeDepth = false)
        (engine.renderWith (engine.unrolled beyond engine.limits.maxIncludeDepth) template
          scope).outcome

/-- With the built-in tags, every render keeps to its limits, and so it ends. -/
theorem render_keepsLimits (loader : Loader) (limits : Limits) (template : Template)
    (scope : Scope) : KeepsLimits ⟨Builtin.registry, loader, limits⟩ template scope where
  watched := ⟨(run_watched template scope).1, (run_watched template scope).2.1⟩
  within := (run_watched template scope).2.2
  placed := journal_placed _ template scope
  loops := ⟨rfl, fun e region embed st => Builtin.loop_keepsLimit e ⟨limits, region, embed⟩ st⟩
  ends beyond n hn := by
    rw [renderWith, render, runWith_unrolled beyond hn]
  full loader budget path st hfull := embed_of_full hfull
  onlyFull := by
    have hraises : Builtin.registry.Raises fun e => e.isIncludeDepth = false :=
      Builtin.registry_raises.mono fun e he => by
        cases e with
        | includeDepthExceeded path limit => cases he
        | _ => rfl
    constructor
    · rw [← embed_eq_unrolled]
      rfl
    · intro beyond hrestores hbeyond
      exact outcome_unrolled hraises hrestores hbeyond template scope

/-- A template that includes itself is refused where two includes are open. -/
example :
    let engine : Engine := ⟨Builtin.registry, fun _ => .ok "x<cfinclude template='a'>", ⟨9, 2, 9⟩⟩
    (match (engine.renderSource "<cfinclude template='a'>" .empty).1 with
      | .error (.render e) => e.isIncludeDepth
      | _ => false) = true := by
  decide +kernel

/-- A loop whose condition always holds ends too. -/
example :
    let engine : Engine := ⟨Builtin.registry, .none, ⟨9, 2, 9⟩⟩
    (match (engine.renderSource "<cfloop condition='1 eq 1'>x</cfloop>" .empty).1 with
      | .error (.render (.loopLimitExceeded limit line)) => (limit, line)
      | _ => (0, 0)) = (9, 1) := by
  decide +kernel

end TagTemplate.Engine
