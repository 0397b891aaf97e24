import TagTemplate.Proofs.Builtin.Requests
import TagTemplate.Proofs.Engine.Opening
import TagTemplate.Proofs.Render.Literal

/-!
# References are replaced by position

With the built-in tags, what becomes of a reference depends on where it stands in its own template
and on nothing else: inside a `cfoutput` or a `cfdump` of that template it is replaced, and outside
it is text. So a render is the same as one that goes by the position (`lexicalRender`), in which a
template that is included begins outside, and the same as the render of the template with all
references that are outside written as text (`render_lexical`).
-/

namespace TagTemplate.Engine

variable {engine : Engine}

/-! ## Rendering by position -/

/-- Renders the template at a path by position. It begins outside of the tags that replace
references, wherever the include stands. -/
def lexicalEmbed (engine : Engine) : (budget : Nat) → String → Render
  | 0, path => engine.embed 0 path
  | budget + 1, path => engine.opening
    (Setting.lexicalWalk ⟨engine.registry, engine.limits, engine.lexicalEmbed budget⟩ false) path

/-- Renders the nodes of a template by position. -/
def lexicalRun (engine : Engine) (template : Template) : Render :=
  Setting.pass (Setting.lexicalWalk ⟨engine.registry, engine.limits,
    engine.lexicalEmbed engine.limits.maxIncludeDepth⟩ false template.nodes)

/-- Renders a template by position. -/
def lexicalRender (engine : Engine) (template : Template) (scope : Scope) : Report :=
  let (rendered, st) := engine.lexicalRun template (.start scope)
  ⟨outputOf rendered, st.scope⟩

/-! ## The two renderers -/

/-- Includes come to the same by the flag and by position. -/
theorem lexicalEmbed_renders (hr : engine.registry.Lexical) (budget : Nat) (b : Books)
    (path : String) :
    (Coupling.identical engine.limits).Renders b b (engine.embed budget path)
      (engine.lexicalEmbed budget path) := by
  induction budget generalizing b path with
  | zero => exact fun _ _ hat _ => ⟨rfl, hat⟩
  | succ budget ih =>
    rw [embed_succ, lexicalEmbed]
    refine Coupling.opening rfl .inr (fun hroom => ⟨hroom, rfl, fun nodes => ?_⟩) path
    -- an include begins with the flag off
    exact Coupling.walk_lexical hr ih nodes b.included

/-- A template is rendered the same by the flag and by position, and the same with references that
are outside written as text, when the flag is off. -/
theorem run_lexical (hr : engine.registry.Lexical) (template : Template) {st : RenderState}
    (hflag : st.interpolating = false) :
    engine.lexicalRun template st = engine.run template st ∧
      engine.run template.literal st = engine.run template st := by
  have hrun : ∀ template, engine.lexicalRun template st = engine.run template st := by
    intro template
    have hwalk := Coupling.walk_lexical hr
      (fun b path => lexicalEmbed_renders hr engine.limits.maxIncludeDepth b path) template.nodes
      st.books
    have hoff : st.books.interpolating = false := hflag
    rw [hoff] at hwalk
    obtain ⟨hrendered, hafter⟩ := hwalk.pass st st (Coupling.identical_at st) nofun
    exact Prod.ext hrendered (hafter.eq_of hafter.books hafter.journals)
  refine ⟨hrun template, ?_⟩
  rw [← hrun, ← hrun]
  exact congrFun (congrArg Setting.pass
    (Setting.lexicalWalk_literalAll hr template.nodes false false fun h => h)) st

/-- With the built-in tags a render is the same with every reference that is in no tag that replaces
it written as text, and the same as the render by position. -/
theorem render_lexical (loader : Loader) (limits : Limits) (template : Template) (scope : Scope) :
    render ⟨Builtin.registry, loader, limits⟩ template.literal scope =
        render ⟨Builtin.registry, loader, limits⟩ template scope ∧
      lexicalRender ⟨Builtin.registry, loader, limits⟩ template scope =
        render ⟨Builtin.registry, loader, limits⟩ template scope := by
  have hflag : (RenderState.start scope).interpolating = false := rfl
  have hr : (Engine.registry ⟨Builtin.registry, loader, limits⟩).Lexical := Builtin.registry_lexical
  obtain ⟨hposition, hliteral⟩ := run_lexical hr template hflag
  constructor
  · rw [render, render, hliteral]
  · rw [lexicalRender, render, hposition]

end TagTemplate.Engine
