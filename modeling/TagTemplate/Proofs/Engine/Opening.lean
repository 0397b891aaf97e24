import TagTemplate.Proofs.Render.Lockstep

/-!
# Opening an include

The includes of an engine are met by recursion on a budget. One step of that recursion opens an
include (`Engine.opening`): it asks whether one more may be open, loads and parses the template, and
renders it in its place by whatever walk there is for the templates further in. Two runs that open
the same include come to the same when these walks do (`Coupling.opening`).
-/

namespace TagTemplate

/-! ## One step of the recursion -/

namespace Engine

variable {engine : Engine} {path : String}

/-- A template can be had where its source is found and parsed. -/
theorem fetch_eq_ok_iff {template : Template} : engine.fetch path = .ok template ↔
    ∃ source, engine.loader path = .ok source ∧ engine.parse source = .ok template := by
  unfold fetch
  cases hload : engine.loader path with
  | error e => exact ⟨nofun, fun ⟨_, h, _⟩ => nomatch h⟩
  | ok source =>
    simp only
    constructor
    · intro hok
      cases hparse : engine.parse source with
      | error e =>
        rw [hparse] at hok
        cases hok
      | ok parsed =>
        rw [hparse] at hok
        cases hok
        exact ⟨source, rfl, hparse⟩
    · rintro ⟨found, hfound, hparse⟩
      cases hfound
      rw [hparse]

/-- Opens an include, the nodes of its template being rendered by a walk. -/
def opening (engine : Engine) (walk : List Node → Walker) (path : String) : Render := fun st =>
  if engine.limits.maxIncludeDepth ≤ st.includeDepth then
    (⟨"", .error (.includeDepthExceeded path engine.limits.maxIncludeDepth)⟩, st)
  else match engine.fetch path with
    | .error e => (⟨"", .error e⟩, st)
    | .ok template => renderOpened (walk template.nodes) st

/-- With a budget left an include is opened, and the template rendered with a smaller one. -/
theorem embed_succ (engine : Engine) (budget : Nat) (path : String) :
    engine.embed (budget + 1) path =
      engine.opening (Setting.walk ⟨engine.registry, engine.limits, engine.embed budget⟩) path :=
  rfl

/-- Where as many includes are open as the limit allows, the include fails whatever the loader. -/
theorem opening_of_full {walk : List Node → Walker} {st : RenderState}
    (hfull : engine.limits.maxIncludeDepth ≤ st.includeDepth) :
    engine.opening walk path st =
      (⟨"", .error (.includeDepthExceeded path engine.limits.maxIncludeDepth)⟩, st) := if_pos hfull

/-- Otherwise it fails when the template cannot be had. -/
theorem opening_of_fetch_error {walk : List Node → Walker} {st : RenderState} {e : RenderError}
    (hroom : st.includeDepth < engine.limits.maxIncludeDepth)
    (hfetch : engine.fetch path = .error e) :
    engine.opening walk path st = (⟨"", .error e⟩, st) := by
  rw [opening, if_neg (Nat.not_le.mpr hroom), hfetch]

/-- And it comes to what the template comes to when it can. -/
theorem opening_of_fetch {walk : List Node → Walker} {st : RenderState} {template : Template}
    (hroom : st.includeDepth < engine.limits.maxIncludeDepth)
    (hfetch : engine.fetch path = .ok template) :
    engine.opening walk path st = renderOpened (walk template.nodes) st := by
  rw [opening, if_neg (Nat.not_le.mpr hroom), hfetch]

/-- An include fails for want of room or of its template, or it comes to what its template comes to.
-/
theorem opening_cases (walk : List Node → Walker) (path : String) (st : RenderState) :
    (∃ error, engine.opening walk path st = (⟨"", .error error⟩, st) ∧
      (error = .includeDepthExceeded path engine.limits.maxIncludeDepth ∨
        engine.fetch path = .error error)) ∨
    ∃ template, engine.fetch path = .ok template ∧
      engine.opening walk path st = renderOpened (walk template.nodes) st := by
  by_cases hfull : engine.limits.maxIncludeDepth ≤ st.includeDepth
  · exact .inl ⟨_, opening_of_full hfull, .inl rfl⟩
  · rw [Nat.not_le] at hfull
    cases hfetch : engine.fetch path with
    | error e => exact .inl ⟨e, opening_of_fetch_error hfull hfetch, .inr rfl⟩
    | ok template => exact .inr ⟨template, rfl, opening_of_fetch hfull hfetch⟩

/-- An include that is opened leaves the books as they were if the walks do. -/
theorem opening_restores {walk : List Node → Walker} (h : ∀ nodes, (walk nodes).Restores)
    (path : String) : Render.Restores (engine.opening walk path) := by
  intro st
  rcases engine.opening_cases walk path st with ⟨error, hopening, -⟩ | ⟨template, -, hopening⟩
  · rw [hopening]
  · rw [hopening]
    exact renderOpened_restores (h template.nodes) st

end Engine

/-! ## Two runs -/

namespace Coupling

variable {limits : Limits} {c : Coupling limits} {b b' : Books}

/-- A template in the place of an include comes to the same when its walk does with one more include
that is open. -/
theorem renderOpened {walk walk' : Walker} (hbooks : c.books b b')
    (hincluded : c.books b.included b'.included)
    (h : c.Walkers b.included b'.included walk walk') :
    c.Renders b b' (Engine.renderOpened walk) (Engine.renderOpened walk') := by
  intro st st' hat hbinds
  have hopened : c.At b.included b'.included
      { st with interpolating := false, includeDepth := st.includeDepth + 1 }
      { st' with interpolating := false, includeDepth := st'.includeDepth + 1 } :=
    ⟨hincluded, by rw [← hat.left]; rfl, by rw [← hat.right]; rfl, hat.scope, hat.journals⟩
  obtain ⟨hrendered, hafter⟩ := h.pass _ _ hopened hbinds
  refine ⟨hrendered, hbooks, ?_, ?_, hafter.scope, hafter.journals⟩
  · have hflag := congrArg Books.interpolating hat.left
    have hdepth := congrArg Books.depth hafter.left
    have hincludes := congrArg Books.includeDepth hafter.left
    exact Books.ext hflag hdepth (congrArg (· - 1) hincludes)
  · have hflag := congrArg Books.interpolating hat.right
    have hdepth := congrArg Books.depth hafter.right
    have hincludes := congrArg Books.includeDepth hafter.right
    exact Books.ext hflag hdepth (congrArg (· - 1) hincludes)

end Coupling

/-- An include comes to the same when one more may be open in both runs or, failures apart, in
neither, and the walks over the template come to the same. -/
theorem Coupling.opening {engine : Engine} {c : Coupling engine.limits} {b b' : Books}
    {walk walk' : List Node → Walker} (hbooks : c.books b b')
    (hfull : engine.limits.maxIncludeDepth ≤ b.includeDepth →
      c.forgiving = true ∨ engine.limits.maxIncludeDepth ≤ b'.includeDepth)
    (hroom : b.includeDepth < engine.limits.maxIncludeDepth →
      b'.includeDepth < engine.limits.maxIncludeDepth ∧ c.books b.included b'.included ∧
      ∀ nodes, c.Walkers b.included b'.included (walk nodes) (walk' nodes)) (path : String) :
    c.Renders b b' (engine.opening walk path) (engine.opening walk' path) := by
  intro st st' hat hbinds
  have hincludes : st.includeDepth = b.includeDepth := congrArg Books.includeDepth hat.left
  have hincludes' : st'.includeDepth = b'.includeDepth := congrArg Books.includeDepth hat.right
  rw [← hincludes, ← hincludes'] at hfull hroom
  by_cases hcount : engine.limits.maxIncludeDepth ≤ st.includeDepth
  · rw [Engine.opening_of_full hcount] at hbinds
    rw [Engine.opening_of_full hcount]
    rcases hfull hcount with hforgiving | hcount'
    · cases hbinds hforgiving
    · rw [Engine.opening_of_full hcount']
      exact ⟨rfl, hat⟩
  · rw [Nat.not_le] at hcount
    obtain ⟨hroom', hincluded, hwalk⟩ := hroom hcount
    cases hfetch : engine.fetch path with
    | error e =>
      rw [Engine.opening_of_fetch_error hcount hfetch, Engine.opening_of_fetch_error hroom' hfetch]
      exact ⟨rfl, hat⟩
    | ok template =>
      rw [Engine.opening_of_fetch hcount hfetch] at hbinds
      rw [Engine.opening_of_fetch hcount hfetch, Engine.opening_of_fetch hroom' hfetch]
      exact renderOpened hbooks hincluded (hwalk template.nodes) st st' hat hbinds

end TagTemplate
