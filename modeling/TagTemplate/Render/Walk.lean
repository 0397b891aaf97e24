import TagTemplate.Render.State

/-!
# Rendering trees

A row of siblings is rendered from left to right onto a buffer. Text goes to the buffer as it is,
an interpolation as the state tells, and a tag goes through the hooks of its handler. The walk
keeps track of chains of branches: once a branch has run, the later ones are passed over without
any hook; blank text does not break a chain, anything else does. When a tag does not proceed, the
siblings after it are not rendered.
-/

namespace TagTemplate

/-- A buffer, how the rendering onto it ended, and the state after it. -/
structure Walk where
  out : String
  outcome : Except RenderError Flow
  state : RenderState

/-- What an activated tag adds to the buffer; how it ended, and whether its guard let it run; and
the state after it. -/
structure Activation where
  text : String
  outcome : Except RenderError (Flow × Bool)
  state : RenderState

/-- Takes a tag through the hooks of its handler. -/
def Handler.activate (h : Handler) (e : Element) (s : Surroundings) (st : RenderState) :
    Activation :=
  match (h.guard e).runHook s .guard e.tag .guard st with
  | (.error error, st) => ⟨"", .error error, st⟩
  | (.ok false, st) => ⟨"", .ok (.proceed, false), st⟩
  | (.ok true, st) =>
    match (h.enter e).runHook s .enter e.tag .enter st with
    | (.error error, st) => ⟨"", .error error, st⟩
    | (.ok (), st) =>
      let outside := st.interpolating
      let (answer, st) :=
        (h.body e).runHook s .body e.tag .body
          { st with interpolating := h.interpolation.getD outside }
      let st := { st with interpolating := outside }
      match answer with
      | .error error => ⟨"", .error error, st⟩
      | .ok (text, .proceed) =>
        match (h.exit e text).runHook s .exit e.tag (.exit text) st with
        | (.error error, st) => ⟨"", .error error, st⟩
        | (.ok text, st) => ⟨text, .ok (.proceed, true), st⟩
      | .ok (text, flow) => ⟨text, .ok (flow, true), st⟩

/-- Takes a tag through its hooks, a block only if the limit allows one more that is open. -/
def Handler.activateWithin (h : Handler) (e : Element) (s : Surroundings) (st : RenderState) :
    Activation :=
  match e.body with
  | none => h.activate e s st
  | some _ =>
    if s.limits.maxDepth ≤ st.depth then
      ⟨"", .error (.tooDeep s.limits.maxDepth e.tag.span.line), st⟩
    else
      let a := h.activate e s { st with depth := st.depth + 1 }
      { a with state := { a.state with depth := a.state.depth - 1 } }

/-! ## Chains of branches -/

/-- Whether the siblings so far end in a chain of branches, and if so whether one has run. -/
abbrev Chain := Option Bool

/-- What a tag has to do in view of the chain before it. -/
inductive Turn where
  | run
  | passOver (after : Chain)
  | refuse

/-- What a tag of a branch has to do after a chain. -/
def turn (branch : Option Branch) (chain : Chain) : Turn :=
  match branch, chain with
  | some .alternative, none => .refuse
  | some .last, none => .refuse
  | some .alternative, some true => .passOver (some true)
  | some .last, some true => .passOver none
  | _, _ => .run

/-- The chain after a tag whose hooks were called. -/
def chainAfter (branch : Option Branch) (ran : Bool) : Chain :=
  match branch with
  | some .first => some ran
  | some .alternative => some ran
  | _ => none

/-! ## The walk -/

/-- What stays the same while a template is rendered. -/
structure Setting where
  registry : Registry
  limits : Limits
  embed : String → Render

/-- Renders siblings that follow a chain of branches onto a buffer. -/
abbrev Walker := Chain → String → RenderState → Walk

/-- What comes of one of some siblings: the row goes on after it, or it ends there. -/
inductive Step where
  | goesOn (chain : Chain) (out : String) (state : RenderState)
  | ends (walk : Walk)

/-- What a row that puts out onto a buffer makes of the activation of one of its tags. -/
def Activation.step (a : Activation) (branch : Option Branch) (out : String) : Step :=
  match a.outcome with
  | .error error => .ends ⟨out, .error error, a.state⟩
  | .ok (.proceed, ran) => .goesOn (chainAfter branch ran) (out ++ a.text) a.state
  | .ok (flow, _) => .ends ⟨out ++ a.text, .ok flow, a.state⟩

/-- Goes on with the siblings after a step. -/
def Step.andThen (step : Step) (rest : Walker) : Walk :=
  match step with
  | .goesOn chain out st => rest chain out st
  | .ends w => w

namespace Setting

/-- Renders a tag among its siblings. -/
def visit (s : Setting) (e : Element) (region : Region → Render) (chain : Chain) (out : String)
    (st : RenderState) : Step :=
  match s.registry.get? e.tag.name with
  | none => .ends ⟨out, .error (.unknownTag e.tag.name), st⟩
  | some h =>
    match turn h.branch chain with
    | .refuse => .ends ⟨out, .error (.misplaced e.tag.name .afterBranch e.tag.span.line), st⟩
    | .passOver after => .goesOn after out st
    | .run => (h.activateWithin e ⟨s.limits, region, s.embed⟩ st).step h.branch out

/-- A pass over siblings, onto a buffer of its own. -/
def pass (walk : Walker) : Render := fun st =>
  let w := walk none "" (st.note .passBegins)
  (⟨w.out, w.outcome⟩, w.state.note (.passEnds w.outcome))

/-- Finds no siblings. -/
def emptyWalk : Walker := fun _ out st => ⟨out, .ok .proceed, st⟩

/-- The regions of a tag, from the walks over its children and over theirs. -/
def regions (body : Walker) (bodies : List Walker) : Region → Render
  | .body => pass body
  | .bodyOfChild index => pass (bodies[index]?.getD emptyWalk)

mutual

/-- Renders one of some siblings. -/
def node (s : Setting) : Node → Chain → String → RenderState → Step
  | .text t, chain, out, st => .goesOn (if Text.isBlankText t then chain else none) (out ++ t) st
  | .interpolation expression _, _, out, st => .goesOn none (out ++ st.interpolation expression) st
  | .void tag, chain, out, st => s.visit ⟨tag, none⟩ (regions emptyWalk []) chain out st
  | .block tag children, chain, out, st =>
    s.visit ⟨tag, some children⟩ (regions (s.walk children) (s.bodies children)) chain out st
termination_by structural node => node

/-- Renders siblings onto a buffer. -/
def walk (s : Setting) : List Node → Walker
  | [], _, out, st => ⟨out, .ok .proceed, st⟩
  | first :: rest, chain, out, st => (s.node first chain out st).andThen (s.walk rest)
termination_by structural nodes => nodes

/-- The walk over the children of a node. -/
def bodyWalk (s : Setting) : Node → Walker
  | .block _ children => s.walk children
  | _ => emptyWalk
termination_by structural node => node

/-- The walks over the children of each of some siblings. -/
def bodies (s : Setting) : List Node → List Walker
  | [] => []
  | first :: rest => s.bodyWalk first :: s.bodies rest
termination_by structural nodes => nodes

end

end Setting

end TagTemplate
