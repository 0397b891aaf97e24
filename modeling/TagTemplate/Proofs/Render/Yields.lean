import TagTemplate.Proofs.Render.Coupling

/-!
# What a hook comes to

`Program.Yields` says what the results of a program have in common as long as everything that it has
rendered is of some kind. It is shown by recursion on the program, and holds of each of its runs in
surroundings where all that is rendered is of that kind (`Program.Yields.of_run`), or all that the
program asks for.
-/

namespace TagTemplate

variable {α β : Type} {answers : Rendered → Prop} {good : α → Prop}

/-- Each result of the program is good if each answer to it is of some kind. -/
def Program.Yields (answers : Rendered → Prop) (good : α → Prop) : Program α → Prop
  | .done result => good result
  | .fail _ => True
  | .look next => ∀ view, (next view).Yields answers good
  | .update _ next => next.Yields answers good
  | .render _ next => ∀ rendered, answers rendered → (next rendered).Yields answers good
  | .embed _ next => ∀ rendered, answers rendered → (next rendered).Yields answers good

/-- All that may be rendered in some surroundings is of a kind. -/
structure Surroundings.Answers (s : Surroundings) (allowed : Request → Prop)
    (answers : Rendered → Prop) : Prop where
  region : ∀ region, allowed (.render region) → ∀ st, answers (s.region region st).1
  embed : ∀ path, allowed (.embed path) → ∀ st, answers (s.embed path st).1

/-- Anything may be rendered if nothing is said of it. -/
theorem Surroundings.answers_anything (s : Surroundings) :
    s.Answers (fun _ => True) fun _ => True :=
  ⟨fun _ _ _ => trivial, fun _ _ _ => trivial⟩

namespace Program.Yields

theorem andThen {first : α → Prop} {second : β → Prop} {p : Program α} {f : α → Program β}
    (hp : p.Yields answers first) (hf : ∀ a, first a → (f a).Yields answers second) :
    (p.andThen f).Yields answers second := by
  induction p with
  | done result => exact hf result hp
  | fail error => trivial
  | look next ih => exact fun view => ih view (hp view)
  | update change next ih => exact ih hp
  | render region next ih => exact fun rendered h => ih rendered (hp rendered h)
  | embed path next ih => exact fun rendered h => ih rendered (hp rendered h)

theorem mono {better : α → Prop} {p : Program α} (hp : p.Yields answers good)
    (h : ∀ a, good a → better a) : p.Yields answers better := by
  induction p with
  | done result => exact h result hp
  | fail error => trivial
  | look next ih => exact fun view => ih view (hp view)
  | update change next ih => exact ih hp
  | render region next ih => exact fun rendered hr => ih rendered (hp rendered hr)
  | embed path next ih => exact fun rendered hr => ih rendered (hp rendered hr)

/-- Any program yields something. -/
theorem anything (p : Program α) : p.Yields answers fun _ => True := by
  induction p with
  | done result => trivial
  | fail error => trivial
  | look next ih => exact ih
  | update change next ih => exact ih
  | render region next ih => exact fun rendered _ => ih rendered
  | embed path next ih => exact fun rendered _ => ih rendered

/-- What follows a program that may come to anything. -/
theorem after {second : β → Prop} (p : Program α) {f : α → Program β}
    (hf : ∀ a, (f a).Yields answers second) : (p.andThen f).Yields answers second :=
  (anything p).andThen fun a _ => hf a

/-- What was rendered is passed on as it is, or as an error. -/
theorem passOn {good : String × Flow → Prop} {rendered : Rendered}
    (h : ∀ flow, rendered.outcome = .ok flow → good (rendered.text, flow)) :
    (Program.passOn rendered).Yields answers good := by
  unfold Program.passOn
  cases hflow : rendered.outcome with
  | ok flow => exact h flow hflow
  | error e => trivial

variable {s : Surroundings} {allowed : Request → Prop}

/-- A run comes to a good result, or to an error, where all that it asks for is of the kind. -/
theorem of_run (hs : s.Answers allowed answers) {p : Program α} (hasks : p.Asks allowed)
    (hp : p.Yields answers good) {st : RenderState} {a : α} (hrun : (p.run s st).1 = .ok a) :
    good a := by
  induction p generalizing st with
  | done result =>
    cases hrun
    exact hp
  | fail error => cases hrun
  | look next ih => exact ih _ (hasks _) (hp _) hrun
  | update change next ih => exact ih hasks hp hrun
  | render region next ih => exact ih _ (hasks.2 _) (hp _ (hs.region region hasks.1 st)) hrun
  | embed path next ih => exact ih _ (hasks.2 _) (hp _ (hs.embed path hasks.1 st)) hrun

theorem of_runHook (hs : s.Answers allowed answers) {p : Program α} (hasks : p.Asks allowed)
    (hp : p.Yields answers good) {hook : Hook} {tag : Tag}
    {result : Except RenderError α → HookResult} {st st' : RenderState} {a : α}
    (hrun : p.runHook s hook tag result st = (.ok a, st')) : good a := by
  rw [Program.runHook] at hrun
  obtain ⟨hanswer, -⟩ := Prod.mk.inj hrun
  exact hp.of_run hs hasks hanswer

end Program.Yields

end TagTemplate
