import TagTemplate.Builtin.Registry
import TagTemplate.Proofs.Handler.Registry
import TagTemplate.Proofs.Render.Lexical

/-!
# What the built-in tags have rendered

Only in its body does a built-in tag have anything rendered, and then it is its own children, or
another template, or, for a switch, the children of a case or of a default (`registry_asks`). Two of
the tags replace references in their bodies, whatever is around them. And none of them looks into
its children, but for the switch, which looks at their tags. So the built-in tags are lexical
(`registry_lexical`).
-/

namespace TagTemplate

variable {α β : Type} {allowed : Request → Prop}

namespace Program

theorem Asks.andThen {p : Program α} {f : α → Program β} (hp : p.Asks allowed)
    (hf : ∀ a, (f a).Asks allowed) : (p.andThen f).Asks allowed := by
  induction p with
  | done result => exact hf result
  | fail error => exact trivial
  | look next ih => exact fun view => ih view (hp view)
  | update change next ih => exact ih hp
  | render region next ih => exact ⟨hp.1, fun rendered => ih rendered (hp.2 rendered)⟩
  | embed path next ih => exact ⟨hp.1, fun rendered => ih rendered (hp.2 rendered)⟩

theorem Asks.mono {p : Program α} {wider : Request → Prop} (hp : p.Asks allowed)
    (h : ∀ request, allowed request → wider request) : p.Asks wider := by
  induction p with
  | done result => exact trivial
  | fail error => exact trivial
  | look next ih => exact fun view => ih view (hp view)
  | update change next ih => exact ih hp
  | render region next ih => exact ⟨h _ hp.1, fun rendered => ih rendered (hp.2 rendered)⟩
  | embed path next ih => exact ⟨h _ hp.1, fun rendered => ih rendered (hp.2 rendered)⟩

theorem asks_ofExcept (result : Except RenderError α) : (ofExcept result).Asks allowed := by
  cases result with
  | error e => exact trivial
  | ok a => exact trivial

theorem asks_scope : Program.scope.Asks allowed := fun _ => trivial

theorem asks_passOn (rendered : Rendered) : (passOn rendered).Asks allowed := by
  unfold passOn
  split <;> exact trivial

theorem asks_rendered {region : Region} (h : allowed (.render region)) :
    (Program.rendered region).Asks allowed := ⟨h, asks_passOn⟩

theorem asks_embedded {path : String} (h : allowed (.embed path)) :
    (embedded path).Asks allowed := ⟨h, asks_passOn⟩

end Program

/-- The requests of a tag for its own children and for other templates, and for the children of a
case or of a default. -/
def Element.Cases (e : Element) : Request → Prop
  | .render .body => True
  | .render (.bodyOfChild index) => ∀ node tag, e.children[index]? = some node →
    node.tag? = some tag → tag.name = "cfcase" ∨ tag.name = "cfdefault"
  | .embed _ => True

/-- Neither a case nor a default has references replaced. -/
theorem Element.Cases.plain {e : Element} {request : Request} (h : e.Cases request) :
    e.Plain request := by
  cases request with
  | embed path => exact trivial
  | render region =>
    cases region with
    | body => exact trivial
    | bodyOfChild index =>
      intro node tag hnode htag
      unfold Tag.replaces
      rcases h node tag hnode htag with hname | hname
      · rw [hname]
        rfl
      · rw [hname]
        rfl

namespace Builtin

open Program

/-! ## Hooks that have nothing rendered -/

theorem conditionGuard_asks (e : Element) : (conditionGuard e).Asks allowed :=
  asks_scope.andThen fun _ => asks_ofExcept _

theorem declare_asks (e : Element) : (declare e).Asks allowed := by
  have hcheck : ∀ name, (Program.scope.andThen fun scope =>
      ofExcept (checkType e.tag name scope)).Asks allowed :=
    fun name => asks_scope.andThen fun _ => asks_ofExcept _
  unfold declare
  simp only [bind_eq_andThen]
  refine asks_scope.andThen fun scope => (asks_ofExcept _).andThen fun name => ?_
  split
  · split
    · exact trivial
    · exact hcheck name
  · exact hcheck name

theorem assignAll_asks (e : Element) : (assignAll e).Asks allowed := by
  unfold assignAll
  simp only [bind_eq_andThen]
  split
  · exact trivial
  · refine asks_scope.andThen fun scope => ?_
    split
    · split <;> exact trivial
    · exact trivial

theorem describeVariable_asks (e : Element) (text : String) :
    (describeVariable e text).Asks allowed := by
  unfold describeVariable
  refine asks_scope.andThen fun scope => ?_
  split <;> exact trivial

theorem abortRender_asks (e : Element) : (abortRender e).Asks allowed := by
  unfold abortRender
  refine asks_scope.andThen fun scope => ?_
  split <;> exact trivial

/-! ## Bodies -/

theorem afterPass_asks (out : String) (rendered : Rendered)
    {onward : String → Program (String × Flow)} (h : ∀ out, (onward out).Asks allowed) :
    (afterPass out rendered onward).Asks allowed := by
  unfold afterPass
  split
  · exact trivial
  · exact h _
  · exact trivial
  · exact trivial

theorem passOver_asks (hbody : allowed (.render .body)) (tag : Tag) (place : Nat)
    (items : List Value) (out : String) : (passOver tag place items out).Asks allowed := by
  induction items generalizing place out with
  | nil => exact trivial
  | cons element rest ih => exact ⟨hbody, fun rendered => afterPass_asks out rendered (ih _)⟩

theorem passWhile_asks (hbody : allowed (.render .body)) (tag : Tag) (condition : String)
    (limit left : Nat) (out : String) : (passWhile tag condition limit left out).Asks allowed := by
  induction left generalizing out with
  | zero =>
    rw [passWhile]
    intro view
    simp only
    split <;> exact trivial
  | succ left ih =>
    rw [passWhile]
    intro view
    simp only
    split
    · exact trivial
    · exact trivial
    · exact ⟨hbody, fun rendered => afterPass_asks out rendered ih⟩

theorem loopBody_asks (hbody : allowed (.render .body)) (e : Element) :
    (loopBody e).Asks allowed := by
  intro view
  simp only [bind_eq_andThen, andThen]
  split
  · exact passWhile_asks hbody _ _ _ _ _
  · refine asks_scope.andThen fun scope => (asks_ofExcept _).andThen fun elements => ?_
    exact passOver_asks hbody _ _ _ _

theorem capture_asks (hbody : allowed (.render .body)) (e : Element) :
    (capture e).Asks allowed := by
  unfold capture
  simp only [bind_eq_andThen]
  refine asks_scope.andThen fun scope => (asks_ofExcept _).andThen fun name => ?_
  refine (asks_rendered hbody).andThen fun result => ?_
  split <;> exact trivial

theorem embedTemplate_asks (hembed : ∀ path, allowed (.embed path)) (e : Element) :
    (embedTemplate e).Asks allowed :=
  asks_scope.andThen fun _ => (asks_ofExcept _).andThen fun path => asks_embedded (hembed path)

/-! ## The switch -/

/-- The chosen child of a switch is a case or a default, found before or among the children. -/
theorem tag_of_chosenChild {scope : Scope} {expression : String} {place chosen : Nat}
    {fallback : Option Nat} {nodes : List Node}
    (h : chosenChild scope expression place fallback nodes = .ok (some chosen)) :
    fallback = some chosen ∨ ∃ index node tag, chosen = place + index ∧ nodes[index]? = some node ∧
      node.tag? = some tag ∧ (tag.name = "cfcase" ∨ tag.name = "cfdefault") := by
  induction nodes generalizing place fallback with
  | nil => exact .inl (Except.ok.inj h)
  | cons node rest ih =>
    have hlater : ∀ {fallback}, chosenChild scope expression (place + 1) fallback rest =
        .ok (some chosen) → fallback = some chosen ∨ ∃ index later tag, chosen = place + index ∧
          (node :: rest)[index]? = some later ∧ later.tag? = some tag ∧
          (tag.name = "cfcase" ∨ tag.name = "cfdefault") := by
      intro fallback h
      rcases ih h with hfallback | ⟨index, later, tag, hplace, hlater, htag, hname⟩
      · exact .inl hfallback
      · exact .inr ⟨index + 1, later, tag, by omega, hlater, htag, hname⟩
    rw [chosenChild] at h
    cases htag : node.tag? with
    | none =>
      rw [htag] at h
      exact hlater h
    | some tag =>
      rw [htag] at h
      simp only at h
      by_cases hcase : tag.name = "cfcase"
      · rw [if_pos hcase] at h
        cases hvalue : tag.requireText scope "value" with
        | error e =>
          rw [hvalue] at h
          cases h
        | ok value =>
          rw [hvalue] at h
          simp only at h
          split at h
          · cases h
            exact .inr ⟨0, node, tag, rfl, rfl, htag, .inl hcase⟩
          · exact hlater h
      · rw [if_neg hcase] at h
        by_cases hdefault : tag.name = "cfdefault"
        · rw [if_pos hdefault] at h
          rcases hlater h with hfallback | hlater
          · cases fallback with
            | some before => exact .inl hfallback
            | none =>
              cases hfallback
              exact .inr ⟨0, node, tag, rfl, rfl, htag, .inr hdefault⟩
          · exact .inr hlater
        · rw [if_neg hdefault] at h
          exact hlater h

/-- Which child is chosen depends on the tags of the children alone. -/
theorem chosenChild_congr (scope : Scope) (expression : String) (place : Nat)
    (fallback : Option Nat) {nodes nodes' : List Node}
    (h : nodes'.map Node.tag? = nodes.map Node.tag?) :
    chosenChild scope expression place fallback nodes' =
      chosenChild scope expression place fallback nodes := by
  induction nodes generalizing place fallback nodes' with
  | nil =>
    rw [List.map_eq_nil_iff.mp h]
  | cons node rest ih =>
    obtain ⟨node', rest', rfl, hnode, hrest⟩ := List.map_eq_cons_iff.mp h
    have hlater := fun place fallback => ih place fallback hrest
    rw [chosenChild, chosenChild, hnode]
    simp only [hlater]

theorem switchBody_asks (e : Element) : (switchBody e).Asks e.Cases := by
  unfold switchBody
  simp only [bind_eq_andThen]
  refine asks_scope.andThen fun scope => (asks_ofExcept _).andThen fun expression => ?_
  cases hchosen : chosenChild scope expression 0 none e.children with
  | error error => exact trivial
  | ok chosen =>
    cases chosen with
    | none => exact trivial
    | some place =>
      refine asks_rendered fun node tag hnode htag => ?_
      rcases tag_of_chosenChild hchosen with
        hfallback | ⟨index, chosen, found, hplace, hat, hfound, hname⟩
      · cases hfallback
      · rw [Nat.zero_add] at hplace
        subst hplace
        cases hat.symm.trans hnode
        cases hfound.symm.trans htag
        exact hname

theorem switchBody_congr (tag : Tag) {children children' : List Node}
    (h : children'.map Node.tag? = children.map Node.tag?) :
    switchBody ⟨tag, some children'⟩ = switchBody ⟨tag, some children⟩ := by
  have hchosen : ∀ scope expression,
      chosenChild scope expression 0 none (Element.children ⟨tag, some children'⟩) =
        chosenChild scope expression 0 none (Element.children ⟨tag, some children⟩) :=
    fun scope expression => chosenChild_congr scope expression 0 none h
  unfold switchBody
  simp only [hchosen]

/-! ## The registry -/

/-- No built-in tag has anything rendered outside its body, or the children of any child but a case
or a default. -/
theorem handlers_ask : ∀ entry ∈ handlers, ∀ e, entry.2.Asks e (fun _ => False) e.Cases := by
  have hbody : ∀ e : Element, (Program.rendered .body).Asks e.Cases :=
    fun _ => asks_rendered trivial
  have hdone : ∀ {α : Type} {a : α} {allowed : Request → Prop}, (Program.done a).Asks allowed :=
    trivial
  simp only [handlers, List.forall_mem_cons, List.not_mem_nil, false_implies, implies_true,
    and_true]
  exact ⟨fun e => ⟨hdone, hdone, hbody e, fun _ => hdone⟩,
    fun e => ⟨hdone, hdone, hbody e, describeVariable_asks e⟩,
    fun e => ⟨conditionGuard_asks e, hdone, hbody e, fun _ => hdone⟩,
    fun e => ⟨conditionGuard_asks e, hdone, hbody e, fun _ => hdone⟩,
    fun e => ⟨hdone, hdone, hbody e, fun _ => hdone⟩,
    fun e => ⟨hdone, hdone, loopBody_asks trivial e, fun _ => hdone⟩,
    fun e => ⟨hdone, hdone, switchBody_asks e, fun _ => hdone⟩,
    fun e => ⟨hdone, trivial, hbody e, fun _ => hdone⟩,
    fun e => ⟨hdone, trivial, hbody e, fun _ => hdone⟩,
    fun e => ⟨hdone, declare_asks e, hbody e, fun _ => hdone⟩,
    fun e => ⟨hdone, assignAll_asks e, hbody e, fun _ => hdone⟩,
    fun e => ⟨hdone, hdone, capture_asks trivial e, fun _ => hdone⟩,
    fun e => ⟨hdone, hdone, embedTemplate_asks (fun _ => trivial) e, fun _ => hdone⟩,
    fun e => ⟨hdone, hdone, hdone, fun _ => hdone⟩,
    fun e => ⟨hdone, hdone, abortRender_asks e, fun _ => hdone⟩⟩

theorem registry_asks {name : String} {h : Handler} (hget : registry.get? name = some h)
    (e : Element) : h.Asks e (fun _ => False) e.Cases := by
  have hempty : ∀ name h, Registry.empty.get? name = some h →
      ∀ e, h.Asks e (fun _ => False) e.Cases := fun _ _ hget => nomatch hget
  exact Registry.of_get?_registerAll hempty handlers_ask name h hget e

/-- Two of the built-in tags have references replaced in their bodies. The hooks of all tags but the
switch are functions of the tag, and those of the switch look at the tags of the children. -/
theorem handlers_see : ∀ entry ∈ handlers,
    (∀ flag, entry.2.interpolation.getD flag =
      (flag || replacesReferences (Text.foldAscii entry.1))) ∧
    ∀ tag children children', children'.map Node.tag? = children.map Node.tag? →
      entry.2.SameHooks ⟨tag, some children⟩ ⟨tag, some children'⟩ := by
  have hkeeps : ∀ flag, flag = (flag || false) := fun flag => (Bool.or_false flag).symm
  have hreplaces : ∀ flag, true = (flag || true) := fun flag => (Bool.or_true flag).symm
  simp only [handlers, List.forall_mem_cons, List.not_mem_nil, false_implies, implies_true,
    and_true]
  exact ⟨⟨hreplaces, fun _ _ _ _ => ⟨rfl, rfl, rfl, rfl⟩⟩,
    ⟨hreplaces, fun _ _ _ _ => ⟨rfl, rfl, rfl, rfl⟩⟩,
    ⟨hkeeps, fun _ _ _ _ => ⟨rfl, rfl, rfl, rfl⟩⟩,
    ⟨hkeeps, fun _ _ _ _ => ⟨rfl, rfl, rfl, rfl⟩⟩,
    ⟨hkeeps, fun _ _ _ _ => ⟨rfl, rfl, rfl, rfl⟩⟩,
    ⟨hkeeps, fun _ _ _ _ => ⟨rfl, rfl, rfl, rfl⟩⟩,
    ⟨hkeeps, fun tag _ _ hchildren => ⟨rfl, rfl, switchBody_congr tag hchildren, rfl⟩⟩,
    ⟨hkeeps, fun _ _ _ _ => ⟨rfl, rfl, rfl, rfl⟩⟩,
    ⟨hkeeps, fun _ _ _ _ => ⟨rfl, rfl, rfl, rfl⟩⟩,
    ⟨hkeeps, fun _ _ _ _ => ⟨rfl, rfl, rfl, rfl⟩⟩,
    ⟨hkeeps, fun _ _ _ _ => ⟨rfl, rfl, rfl, rfl⟩⟩,
    ⟨hkeeps, fun _ _ _ _ => ⟨rfl, rfl, rfl, rfl⟩⟩,
    ⟨hkeeps, fun _ _ _ _ => ⟨rfl, rfl, rfl, rfl⟩⟩,
    ⟨hkeeps, fun _ _ _ _ => ⟨rfl, rfl, rfl, rfl⟩⟩,
    ⟨hkeeps, fun _ _ _ _ => ⟨rfl, rfl, rfl, rfl⟩⟩⟩

/-- Each of the built-in tags is lexical. -/
theorem handlers_lexical : ∀ entry ∈ handlers, entry.2.Lexical (Text.foldAscii entry.1) := by
  intro entry hentry
  obtain ⟨hflag, hsees⟩ := handlers_see entry hentry
  refine ⟨hflag, fun e => ?_, hsees⟩
  have hasks := handlers_ask entry hentry e
  exact ⟨hasks.guard, hasks.enter, hasks.body.mono fun _ => Element.Cases.plain, hasks.exit⟩

/-- Each handler of the registry is lexical. -/
theorem registry_lexical : registry.Lexical := by
  have hempty : ∀ name h, Registry.empty.get? name = some h → h.Lexical name :=
    fun _ _ hget => nomatch hget
  exact Registry.of_get?_registerEach hempty handlers_lexical

end Builtin

end TagTemplate
