import TagTemplate.Proofs.Builtin.Truncation
import TagTemplate.Proofs.Engine.Unrolled

/-!
# What an abort does to a render

With the built-in tags an abort ends a render early and does nothing else. If the aborts are taken
out of a template, its output begins with what was its output before; and if none of them has been
reached, the render is the same (`Engine.render_withoutAborts`).
-/

namespace TagTemplate

/-- A template in the place of an include aborts as its walk does. -/
theorem Walker.OwnsUp.renderOpened {walk : Walker} (h : walk.OwnsUp) :
    Render.OwnsUp (Engine.renderOpened walk) where
  keeps {st} hst := by
    -- the journal is that of the pass
    have hopened : RenderState.ShowsAbort
        { st with interpolating := false, includeDepth := st.includeDepth + 1 } := hst
    have hafter := h.pass.keeps hopened
    exact hafter
  shows {st} hflow := by
    have hafter := h.pass.shows hflow
    exact hafter

namespace Engine

variable {engine : Engine}

theorem opening_ownsUp {walk : List Node → Walker} (h : ∀ nodes, (walk nodes).OwnsUp)
    (path : String) : Render.OwnsUp (engine.opening walk path) := by
  refine ⟨fun {st} hst => ?_, fun {st} hflow => ?_⟩
  · rcases engine.opening_cases walk path st with ⟨error, hopening, -⟩ | ⟨template, -, hopening⟩
    · rw [hopening]
      exact hst
    · rw [hopening]
      exact (h template.nodes).renderOpened.keeps hst
  · rcases engine.opening_cases walk path st with ⟨error, hopening, -⟩ | ⟨template, -, hopening⟩
    · rw [hopening] at hflow
      cases hflow
    · rw [hopening] at hflow ⊢
      exact (h template.nodes).renderOpened.shows hflow

/-- With the built-in tags nothing aborts but aborts, in included templates as elsewhere. -/
theorem embed_ownsUp (hbuiltin : engine.registry = Builtin.registry) (budget : Nat)
    (path : String) : Render.OwnsUp (engine.embed budget path) := by
  induction budget generalizing path with
  | zero => exact ⟨id, nofun⟩
  | succ budget ih =>
    have hsetting : Setting.OwnsUp ⟨engine.registry, engine.limits, engine.embed budget⟩ := by
      refine ⟨fun name h hget hname => ?_, ih⟩
      rw [hbuiltin] at hget
      exact Builtin.registry_innocent hget hname
    exact opening_ownsUp (Setting.walk_ownsUp hsetting) path

theorem run_ownsUp (hbuiltin : engine.registry = Builtin.registry) (template : Template) :
    Render.OwnsUp (engine.run template) := by
  have hsetting : engine.setting.OwnsUp := by
    refine ⟨fun name h hget hname => ?_, embed_ownsUp hbuiltin _⟩
    have hget' : engine.registry.get? name = some h := hget
    rw [hbuiltin] at hget'
    exact Builtin.registry_innocent hget' hname
  exact (Setting.walk_ownsUp hsetting template.nodes).pass

/-- A render that aborts has a hook of an abort in its journal. -/
theorem exists_ofAbort (hbuiltin : engine.registry = Builtin.registry) {template : Template}
    {scope : Scope} (habort : (engine.run template (.start scope)).1.outcome = .ok .abort) :
    ∃ event ∈ engine.journal template scope, event.ofAbort := by
  rw [← (run_watched template scope).1] at habort
  exact (run_ownsUp hbuiltin template).shows habort _ (journal_run_watched template scope)

/-- A template that has an output was rendered to its end or up to an abort. -/
theorem ending_of_outputOf {rendered : Rendered} {output : String}
    (h : outputOf rendered = .ok output) :
    rendered.ending? = some (output, .proceed) ∨ rendered.ending? = some (output, .abort) := by
  rcases rendered with ⟨text, error | flow⟩
  · cases h
  · cases flow with
    | proceed =>
      cases h
      exact .inl rfl
    | breakLoop => cases h
    | abort =>
      cases h
      exact .inr rfl

theorem run_withoutAborts (hbuiltin : engine.registry = Builtin.registry) (template : Template) :
    Render.Truncates (engine.run template) (engine.run template.withoutAborts) :=
  (Setting.Truncates.walk (Builtin.setting_truncates hbuiltin) template.nodes).pass

/-- Aborts only truncate. Where a template has an output with its aborts and without them, the first
output is a prefix of the second; and if no abort was executed in the first render, the two renders
come to the same output and the same variables. -/
theorem render_withoutAborts (hbuiltin : engine.registry = Builtin.registry) {template : Template}
    {scope : Scope} {output : String}
    (hrender : (engine.render template scope).outcome = .ok output) :
    (∀ output', (engine.render template.withoutAborts scope).outcome = .ok output' →
        output.toList <+: output'.toList) ∧
      ((∀ event ∈ engine.journal template scope, event.ofAbort = false) →
        engine.render template.withoutAborts scope = engine.render template scope) := by
  have hcut := run_withoutAborts hbuiltin template (.start scope)
  have hsame : (engine.run template (.start scope)).1.ending? = some (output, .proceed) →
      engine.render template.withoutAborts scope = engine.render template scope := by
    intro hending
    rw [Engine.render, Engine.render, hcut.same hending (by decide)]
  refine ⟨fun output' hwithout => ?_, fun hnone => ?_⟩
  · rcases ending_of_outputOf hrender with hending | habort
    · rw [hsame hending, hrender] at hwithout
      cases hwithout
      exact List.prefix_rfl
    · rcases ending_of_outputOf hwithout with hending' | hending'
      · exact hcut.begins habort hending'
      · exact hcut.begins habort hending'
  · rcases ending_of_outputOf hrender with hending | habort
    · exact hsame hending
    · have hflow : (engine.run template (.start scope)).1.outcome = .ok .abort := by
        obtain ⟨flow, hflow, hpair⟩ := Option.map_eq_some_iff.mp habort
        cases hpair
        exact toOption_eq_some.mp hflow
      obtain ⟨event, hmem, hevent⟩ := exists_ofAbort hbuiltin hflow
      exact absurd hevent (Bool.eq_false_iff.mp (hnone event hmem))

/-- An abort in a loop, and one that is not executed. -/
theorem render_withoutAborts_of_loop :
    let abort : Node := .void ⟨"cfabort", .empty, "", ⟨0, 0, 1, 1⟩⟩
    let aborting : Template := ⟨[.block ⟨"cfloop", .ofList [("list", "1,2")], "", ⟨0, 0, 1, 1⟩⟩
      [.text "a", abort, .text "b"]]⟩
    let passing : Template := ⟨[.block ⟨"cfif", .ofList [("condition", "0")], "", ⟨0, 0, 1, 1⟩⟩
      [abort], .text "c"]⟩
    (render {} aborting .empty).outcome.toOption = some "a" ∧
      (render {} aborting.withoutAborts .empty).outcome.toOption = some "abab" ∧
      "a".toList <+: "abab".toList ∧
      (render {} passing .empty).outcome.toOption = some "c" ∧
      render {} passing.withoutAborts .empty = render {} passing .empty := by
  intro abort aborting passing
  have haborting : (render {} aborting .empty).outcome.toOption = some "a" := by decide +kernel
  have hwithout : (render {} aborting.withoutAborts .empty).outcome.toOption = some "abab" := by
    decide +kernel
  have hpassing : (render {} passing .empty).outcome.toOption = some "c" := by decide +kernel
  have hnone : ∀ event ∈ journal {} passing .empty, event.ofAbort = false := by decide +kernel
  refine ⟨haborting, hwithout, ?_, hpassing, ?_⟩
  · exact (render_withoutAborts rfl (toOption_eq_some.mp haborting)).1 _
      (toOption_eq_some.mp hwithout)
  · exact (render_withoutAborts rfl (toOption_eq_some.mp hpassing)).2 hnone

end Engine

end TagTemplate
