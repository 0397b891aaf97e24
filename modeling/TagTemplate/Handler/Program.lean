import TagTemplate.Render.Error
import TagTemplate.Variables.Scope

/-!
# What a hook may do

A handler reacts to its tag in hooks. A hook does not touch the renderer; it is a program, a tree
of requests in the order it makes them, and each request comes with what the hook does next. It can
look at the variables, the limits and the interpolation state, change variables, have the body of
its tag or of a child rendered, have another template rendered, finish, or fail.

What is rendered comes back to the hook as a text with its outcome, so a hook decides what reaches
the output and whether an error in its body is an error of its own.
-/

namespace TagTemplate

/-- What becomes of the siblings that follow. -/
inductive Flow where
  /-- They are rendered. -/
  | proceed
  /-- The nearest loop around ends. -/
  | breakLoop
  /-- The whole render ends, with the output so far. -/
  | abort
deriving Repr, DecidableEq, Inhabited

/-- What a hook can have rendered in its tag. -/
inductive Region where
  /-- The children of the tag. -/
  | body
  /-- The children of the child at a place. -/
  | bodyOfChild (index : Nat)
deriving Repr, DecidableEq

/-- The output of a row of siblings, complete or up to an error, and how it ended. -/
structure Rendered where
  text : String
  outcome : Except RenderError Flow

/-- What a hook can see of a render. -/
structure View where
  scope : Scope
  limits : Limits
  interpolating : Bool

/-- What a hook asks of the renderer, in order. -/
inductive Program (α : Type) where
  | done (result : α)
  | fail (error : RenderError)
  | look (next : View → Program α)
  | update (change : Scope → Scope) (next : Program α)
  | render (region : Region) (next : Rendered → Program α)
  | embed (path : String) (next : Rendered → Program α)

namespace Program

variable {α β : Type}

/-- Goes on with the result of a program. -/
def andThen : Program α → (α → Program β) → Program β
  | .done result, f => f result
  | .fail error, _ => .fail error
  | .look next, f => .look fun view => (next view).andThen f
  | .update change next, f => .update change (next.andThen f)
  | .render region next, f => .render region fun rendered => (next rendered).andThen f
  | .embed path next, f => .embed path fun rendered => (next rendered).andThen f

instance : Monad Program where
  pure := .done
  bind := andThen

@[simp]
theorem pure_eq_done (a : α) : (pure a : Program α) = .done a := rfl

@[simp]
theorem bind_eq_andThen (p : Program α) (f : α → Program β) : p >>= f = p.andThen f := rfl

@[simp]
theorem andThen_done (p : Program α) : p.andThen .done = p := by
  induction p with
  | done => rfl
  | fail => rfl
  | look next ih => simp [andThen, ih]
  | update change next ih => simp [andThen, ih]
  | render region next ih => simp [andThen, ih]
  | embed path next ih => simp [andThen, ih]

theorem andThen_assoc {γ : Type} (p : Program α) (f : α → Program β) (g : β → Program γ) :
    (p.andThen f).andThen g = p.andThen fun a => (f a).andThen g := by
  induction p with
  | done => rfl
  | fail => rfl
  | look next ih => simp [andThen, ih]
  | update change next ih => simp [andThen, ih]
  | render region next ih => simp [andThen, ih]
  | embed path next ih => simp [andThen, ih]

/-- The variables as they stand. -/
def scope : Program Scope := .look fun view => .done view.scope

/-- The limits of the render. -/
def limits : Program Limits := .look fun view => .done view.limits

/-- Whether references in text are replaced just now. -/
def interpolating : Program Bool := .look fun view => .done view.interpolating

/-- Binds a variable. -/
def assign (name : String) (value : Value) : Program Unit :=
  .update (·.insert name value) (.done ())

/-- A result, or the error in its place. -/
def ofExcept : Except RenderError α → Program α
  | .ok result => .done result
  | .error error => .fail error

/-- What was rendered, an error in it being an error of the hook. -/
def passOn (rendered : Rendered) : Program (String × Flow) :=
  match rendered.outcome with
  | .ok flow => .done (rendered.text, flow)
  | .error error => .fail error

/-- Renders a region, passing errors on. -/
def rendered (region : Region) : Program (String × Flow) := .render region passOn

/-- Renders another template, passing errors on. -/
def embedded (path : String) : Program (String × Flow) := .embed path passOn

end Program

end TagTemplate
