import TagTemplate.Proofs.Handler.Registry
import TagTemplate.Proofs.Render.Depth
import TagTemplate.Proofs.Tree.Tags

/-!
# Transparent handlers

A transparent handler renders the body of its tag and does nothing else. Any registry can be made
transparent without a parser noticing (`table_transparent`). What a render under it comes to is
decided by how deep the blocks nest, and by nothing else: it goes to the end when they nest within
the limit (`walk_proceeds`), and is refused otherwise (`walk_refused`). It includes nothing.
-/

namespace TagTemplate

/-! ## Registries -/

/-- The handler that declares the same body and spellings, and is transparent. -/
def Handler.transparent (h : Handler) : Handler :=
  { hasBody := h.hasBody, answersTo := h.answersTo }

theorem Handler.honest_transparent (h : Handler) : h.transparent.Honest where
  guard _ := .done true
  enter _ := .done ()
  body _ := .rendered .body
  exit _ text := .done text

namespace Registry

variable {r : Registry}

/-- The registry with each handler made transparent. -/
def transparent (r : Registry) : Registry :=
  ⟨⟨r.handlers.entries.map fun entry => (entry.1, entry.2.transparent)⟩⟩

/-- Each handler of the registry is transparent. -/
def AllTransparent (r : Registry) : Prop :=
  ∀ name h, r.get? name = some h → h = h.transparent

theorem get?_transparent (name : String) :
    r.transparent.get? name = (r.get? name).map Handler.transparent := by
  show (List.map _ r.handlers.entries).lookup name = (r.handlers.entries.lookup name).map _
  induction r.handlers.entries with
  | nil => rfl
  | cons entry rest ih =>
    rw [List.map_cons, List.lookup_cons, List.lookup_cons]
    cases name == entry.1 with
    | true => rfl
    | false => exact ih

/-- A name refers to the same handler, made transparent. -/
theorem resolve?_transparent (written : String) : r.transparent.resolve? written =
    (r.resolve? written).map fun found => (found.1, found.2.transparent) := by
  have hget := r.get?_transparent (Text.foldAscii written)
  cases hfound : r.get? (Text.foldAscii written) with
  | some handler =>
    rw [hfound] at hget
    rw [resolve?_of_get? hget, resolve?_of_get? hfound]
    rfl
  | none =>
    rw [hfound] at hget
    rw [resolve?_of_get?_none hget, resolve?_of_get?_none hfound, transparent, List.find?_map]
    rfl

/-- A parser learns the same from both registries. -/
theorem table_transparent (r : Registry) : r.transparent.table = r.table := by
  funext written
  unfold table
  rw [resolve?_transparent, Option.map_map]
  rfl

theorem transparent_allTransparent : r.transparent.AllTransparent := by
  intro name h hget
  rw [get?_transparent] at hget
  obtain ⟨original, -, rfl⟩ := Option.map_eq_some_iff.mp hget
  rfl

theorem AllTransparent.honest (hr : r.AllTransparent) : r.Honest := by
  intro name h hget
  rw [hr name h hget]
  exact h.honest_transparent

end Registry

/-! ## Activations -/

variable {s : Surroundings} {d : Nat}

theorem Program.runHook_done {α : Type} (a : α) (hook : Hook) (tag : Tag)
    (result : Except RenderError α → HookResult) (st : RenderState) :
    ∃ st₁, (Program.done a).runHook s hook tag result st = (.ok a, st₁) ∧ st₁.books = st.books := by
  refine ⟨_, rfl, ?_⟩
  rw [RenderState.books_note, RenderState.books_note]

/-- A hook that renders the body comes to what the body comes to. -/
theorem Program.runHook_rendered (tag : Tag) (st : RenderState) :
    ∃ st₁ st₂, st₁.books = st.books ∧
      (Program.rendered .body).runHook s .body tag .body st =
        ((s.region .body st₁).1.outcome.map ((s.region .body st₁).1.text, ·), st₂) := by
  refine ⟨st.note (.hookBegins .body tag st.depth st.includeDepth), ?_⟩
  unfold Program.runHook Program.rendered
  rw [Program.run]
  rcases s.region .body (st.note _) with ⟨⟨text, outcome⟩, st₂⟩
  cases outcome with
  | error e => exact ⟨_, st.books_note _, rfl⟩
  | ok flow => exact ⟨_, st.books_note _, rfl⟩

/-- An activation comes to what the body comes to. -/
theorem Handler.outcome_activate_transparent (h : Handler) (e : Element) (st : RenderState) :
    ∃ st₁, st₁.books = st.books ∧ (h.transparent.activate e s st).outcome =
      (s.region .body st₁).1.outcome.map (·, true) := by
  obtain ⟨st₁, hguard, h₁⟩ := Program.runHook_done (s := s) true .guard e.tag .guard st
  obtain ⟨st₂, henter, h₂⟩ := Program.runHook_done (s := s) () .enter e.tag .enter st₁
  obtain ⟨st₃, st₄, h₃, hbody⟩ := Program.runHook_rendered (s := s) e.tag st₂
  refine ⟨st₃, by rw [h₃, h₂, h₁], ?_⟩
  -- The body decides in which hook the activation ends.
  generalize s.region .body st₃ = region at hbody
  obtain ⟨⟨text, outcome⟩, st₅⟩ := region
  cases outcome with
  | error error =>
    have ha : h.transparent.Activates e s st _ := .bodyFails hguard henter hbody
    rw [ha.eq]
    rfl
  | ok flow =>
    cases flow with
    | proceed =>
      obtain ⟨st₆, hexit, -⟩ :=
        Program.runHook_done (s := s) text .exit e.tag (.exit text) (st₄.afterBody st₂)
      have ha : h.transparent.Activates e s st _ := .exits hguard henter hbody hexit
      rw [ha.eq]
      rfl
    | breakLoop =>
      have ha : h.transparent.Activates e s st _ := .bodyEnds (by decide) hguard henter hbody
      rw [ha.eq]
      rfl
    | abort =>
      have ha : h.transparent.Activates e s st _ := .bodyEnds (by decide) hguard henter hbody
      rw [ha.eq]
      rfl

/-- A block is rendered as one more that is open, if the limit allows it. -/
theorem Handler.outcome_activateWithin_transparent (h : Handler) {e : Element} {st : RenderState}
    (hroom : e.Fits s.limits st) :
    ∃ st₁, st₁.depth = st.depth + e.body.isSome.toNat ∧
      (h.transparent.activateWithin e s st).outcome =
        (s.region .body st₁).1.outcome.map (·, true) := by
  obtain ⟨st₁, hbooks, houtcome⟩ := h.outcome_activate_transparent (s := s) e (st.inside e)
  have hdepth : st₁.depth = e.depthInside st.depth := congrArg Books.depth hbooks
  rw [e.depthInside_eq] at hdepth
  rw [activateWithin_of_fits hroom]
  exact ⟨st₁, hdepth, houtcome⟩

/-! ## Walking a tree -/

theorem not_spared_iff {α : Type} {outcome : Except RenderError α} :
    ¬ Spared outcome ↔ ∃ e, outcome = .error e ∧ e.isTooDeep = true := by
  simp only [Spared, Classical.not_forall, exists_prop, Bool.not_eq_false]

/-- The registry knows the name of a tag. -/
def Registry.Knows (r : Registry) (_hasBody : Bool) (tag : Tag) : Prop :=
  ∃ h, r.get? tag.name = some h

/-- A setting with transparent handlers, in which includes leave the books as they were. -/
structure Setting.Transparent (s : Setting) : Prop where
  registry : s.registry.AllTransparent
  embed : ∀ path, Render.Restores (s.embed path)

namespace Setting

variable {s : Setting}

/-- A transparent tag proceeds when its body does. -/
theorem Transparent.visit_proceeds (hs : s.Transparent) {e : Element} {hasBody : Bool}
    (hknown : s.registry.Knows hasBody e.tag) {region : Region → Render} {st : RenderState}
    (hroom : e.body.isSome = true → st.depth < s.limits.maxDepth)
    (hregion : ∀ st₁, st₁.depth = st.depth + e.body.isSome.toNat →
      (region .body st₁).1.outcome = .ok .proceed) (chain : Chain) (out : String) :
    ∃ chain' out' st', s.visit e region chain out st = .goesOn chain' out' st' := by
  obtain ⟨h, hname⟩ := hknown
  have hh := hs.registry _ h hname
  have hturn : turn h.branch chain = .run := by
    rw [hh]
    rfl
  obtain ⟨st₁, hdepth, houtcome⟩ :=
    h.outcome_activateWithin_transparent (s := ⟨s.limits, region, s.embed⟩) hroom
  rw [hregion st₁ hdepth, ← hh] at houtcome
  rcases ha : h.activateWithin e ⟨s.limits, region, s.embed⟩ st with ⟨text, outcome, st₂⟩
  rw [ha] at houtcome
  cases houtcome
  exact ⟨_, _, _, (Visits.proceeds hname hturn ha).eq⟩

/-- A transparent block is refused when the limit leaves no room for it or its body is refused. -/
theorem Transparent.visit_refused (hs : s.Transparent) {tag : Tag} {children : List Node}
    {hasBody : Bool} (hknown : s.registry.Knows hasBody tag) {region : Region → Render}
    {st : RenderState}
    (hregion : st.depth < s.limits.maxDepth → ∀ st₁, st₁.depth = st.depth + 1 →
      ¬ Spared (region .body st₁).1.outcome) (chain : Chain) (out : String) :
    ∃ w, s.visit ⟨tag, some children⟩ region chain out st = .ends w ∧ ¬ Spared w.outcome := by
  obtain ⟨h, hname⟩ := hknown
  have hh := hs.registry _ h hname
  have hturn : turn h.branch chain = .run := by
    rw [hh]
    rfl
  have hrefused : ∃ error, error.isTooDeep = true ∧
      (h.activateWithin ⟨tag, some children⟩ ⟨s.limits, region, s.embed⟩ st).outcome =
        .error error := by
    -- with room for the block it is its body that is refused, else it is the block itself
    by_cases hroom : st.depth < s.limits.maxDepth
    · obtain ⟨st₁, hdepth, houtcome⟩ :=
        h.outcome_activateWithin_transparent (s := ⟨s.limits, region, s.embed⟩)
          (e := ⟨tag, some children⟩) fun _ => hroom
      obtain ⟨error, herror, hdeep⟩ := not_spared_iff.mp (hregion hroom st₁ hdepth)
      rw [herror, ← hh] at houtcome
      exact ⟨error, hdeep, houtcome⟩
    · refine ⟨.tooDeep s.limits.maxDepth tag.span.line, rfl, ?_⟩
      rw [Handler.activateWithin_of_full fun hfits => hroom (hfits rfl)]
  obtain ⟨error, hdeep, houtcome⟩ := hrefused
  rcases ha : h.activateWithin ⟨tag, some children⟩ ⟨s.limits, region, s.embed⟩ st with
    ⟨text, outcome, st₂⟩
  rw [ha] at houtcome
  cases houtcome
  exact ⟨_, (Visits.fails hname hturn ha).eq, not_spared_iff.mpr ⟨error, rfl, hdeep⟩⟩

/-- A pass over a row comes to what the walk over it comes to. -/
theorem outcome_pass (walk : Walker) (st : RenderState) :
    ∃ st₁, st₁.depth = st.depth ∧ (pass walk st).1.outcome = (walk none "" st₁).outcome :=
  ⟨st.note .passBegins, congrArg Books.depth (st.books_note .passBegins), rfl⟩

mutual

/-- A row goes on after a node that nests within the limit. -/
theorem Transparent.node_proceeds (hs : s.Transparent) : (node : Node) → {d : Nat} →
    node.AllTags s.registry.Knows → d + node.height ≤ s.limits.maxDepth → (chain : Chain) →
    (out : String) → (st : RenderState) → st.depth = d →
    ∃ chain' out' st', s.node node chain out st = .goesOn chain' out' st'
  | .text _, _, _, _, _, _, _, _ => ⟨_, _, _, rfl⟩
  | .interpolation _ _, _, _, _, _, _, _, _ => ⟨_, _, _, rfl⟩
  | .void tag, d, hknown, _, chain, out, st, _ => by
    have htag : s.registry.Knows false tag := hknown
    rw [node]
    exact hs.visit_proceeds htag (fun h => by cases h) (fun _ _ => rfl) chain out
  | .block tag children, d, ⟨hknown, hchildren⟩, hheight, chain, out, st, hd => by
    rw [Node.height] at hheight
    rw [node]
    refine hs.visit_proceeds hknown (fun _ => by omega) (fun st₁ h₁ => ?_) chain out
    obtain ⟨st₂, h₂, hpass⟩ := outcome_pass (s.walk children) st₁
    have h₃ : st₁.depth = st.depth + 1 := h₁
    exact hpass.trans
      (hs.walk_proceeds children hchildren (by omega : d + 1 + heightAll children ≤ _) none ""
        st₂ (by omega))

/-- Siblings that nest within the limit are rendered to the end. -/
theorem Transparent.walk_proceeds (hs : s.Transparent) : (nodes : List Node) → {d : Nat} →
    AllTagsOf s.registry.Knows nodes → d + heightAll nodes ≤ s.limits.maxDepth → (chain : Chain) →
    (out : String) → (st : RenderState) → st.depth = d →
    (s.walk nodes chain out st).outcome = .ok .proceed
  | [], _, _, _, _, _, _, _ => rfl
  | first :: rest, d, ⟨hfirst, hrest⟩, hheight, chain, out, st, hd => by
    rw [heightAll] at hheight
    obtain ⟨chain', out', st', hstep⟩ :=
      hs.node_proceeds first hfirst (by omega : d + first.height ≤ _) chain out st hd
    -- the rest begins at the depth at which the first sibling began
    have hbooks := books_node hs.embed first chain out st
    rw [hstep] at hbooks
    have hdepth := congrArg Books.depth hbooks
    rw [walk, hstep]
    exact hs.walk_proceeds rest hrest (by omega) chain' out' st' (hdepth.trans hd)

end

mutual

/-- A row ends at a node that nests deeper than the limit allows. -/
theorem Transparent.node_refused (hs : s.Transparent) : (node : Node) → {d : Nat} →
    node.AllTags s.registry.Knows → d ≤ s.limits.maxDepth →
    s.limits.maxDepth < d + node.height → (chain : Chain) → (out : String) →
    (st : RenderState) → st.depth = d →
    ∃ w, s.node node chain out st = .ends w ∧ ¬ Spared w.outcome
  | .text _, _, _, hd, hheight, _, _, _, _ => absurd hheight (Nat.not_lt.mpr hd)
  | .interpolation _ _, _, _, hd, hheight, _, _, _, _ => absurd hheight (Nat.not_lt.mpr hd)
  | .void _, _, _, hd, hheight, _, _, _, _ => absurd hheight (Nat.not_lt.mpr hd)
  | .block tag children, d, ⟨hknown, hchildren⟩, hlimit, hheight, chain, out, st, hd => by
    rw [Node.height] at hheight
    rw [node]
    refine hs.visit_refused hknown (fun hroom st₁ h₁ => ?_) chain out
    obtain ⟨st₂, h₂, hpass⟩ := outcome_pass (s.walk children) st₁
    have hrefused := hs.walk_refused children hchildren (by omega : d + 1 ≤ _) (by omega)
      none "" st₂ (by omega)
    rw [← hpass] at hrefused
    exact hrefused

/-- Siblings that nest deeper than the limit allows are refused. -/
theorem Transparent.walk_refused (hs : s.Transparent) : (nodes : List Node) → {d : Nat} →
    AllTagsOf s.registry.Knows nodes → d ≤ s.limits.maxDepth →
    s.limits.maxDepth < d + heightAll nodes → (chain : Chain) → (out : String) →
    (st : RenderState) → st.depth = d → ¬ Spared (s.walk nodes chain out st).outcome
  | [], _, _, hlimit, hheight, _, _, _, _ => absurd hheight (Nat.not_lt.mpr hlimit)
  | first :: rest, d, ⟨hfirst, hrest⟩, hlimit, hheight, chain, out, st, hd => by
    rw [heightAll] at hheight
    rw [walk]
    by_cases hdeep : s.limits.maxDepth < d + first.height
    · obtain ⟨w, hstep, hw⟩ := hs.node_refused first hfirst hlimit hdeep chain out st hd
      rw [hstep]
      exact hw
    · -- the first sibling fits, so the row goes on to the one that does not
      obtain ⟨chain', out', st', hstep⟩ :=
        hs.node_proceeds first hfirst (Nat.not_lt.mp hdeep) chain out st hd
      have hbooks := books_node hs.embed first chain out st
      rw [hstep] at hbooks
      have hdepth := congrArg Books.depth hbooks
      rw [hstep]
      exact hs.walk_refused rest hrest hlimit (by omega) chain' out' st' (hdepth.trans hd)

end

end Setting

/-! ## No includes -/

/-- Hooks that run the same in both surroundings make an activation the same. -/
theorem Handler.activateWithin_congr {h : Handler} (s s' : Surroundings)
    (hlimits : s'.limits = s.limits) (hguard : ∀ e, (h.guard e).run s' = (h.guard e).run s)
    (henter : ∀ e, (h.enter e).run s' = (h.enter e).run s)
    (hbody : ∀ e, (h.body e).run s' = (h.body e).run s)
    (hexit : ∀ e text, (h.exit e text).run s' = (h.exit e text).run s) (e : Element)
    (st : RenderState) : h.activateWithin e s' st = h.activateWithin e s st := by
  simp only [activateWithin, activate, Program.runHook, hlimits, hguard, henter, hbody, hexit]

namespace Setting

variable {r : Registry} {limits : Limits} {embed embed' : String → Render}

/-- What a transparent tag comes to does not depend on how includes are met. -/
theorem visit_congr_embed (hr : r.AllTransparent) (e : Element) (region : Region → Render) :
    visit ⟨r, limits, embed'⟩ e region = visit ⟨r, limits, embed⟩ e region := by
  funext chain out st
  have hactivation : ∀ h, r.get? e.tag.name = some h →
      h.activateWithin e ⟨limits, region, embed'⟩ st =
        h.activateWithin e ⟨limits, region, embed⟩ st := by
    intro h hname
    have hbody : ∀ e, (h.transparent.body e).run ⟨limits, region, embed'⟩ =
        (h.transparent.body e).run ⟨limits, region, embed⟩ := by
      intro e
      funext st
      show Program.run _ (.passOn _) _ = Program.run _ (.passOn _) _
      unfold Program.passOn
      cases (region .body st).1.outcome with
      | error e => rfl
      | ok flow => rfl
    rw [hr _ h hname]
    exact Handler.activateWithin_congr ⟨limits, region, embed⟩ ⟨limits, region, embed'⟩ rfl
      (fun _ => rfl) (fun _ => rfl) hbody (fun _ _ => rfl) e st
  refine visit_of_activations ?_ ?_ ?_ hactivation chain out
  · rfl
  · rfl
  · rfl

/-- What transparent siblings come to does not depend on how includes are met. -/
theorem walk_congr_embed (hr : r.AllTransparent) (nodes : List Node) :
    walk ⟨r, limits, embed'⟩ nodes = walk ⟨r, limits, embed⟩ nodes := by
  induction nodes using siblings_induction with
  | nil => rfl
  | text text rest ih =>
    funext chain out st
    rw [walk, walk, ih]
    rfl
  | interpolation expression span rest ih =>
    funext chain out st
    rw [walk, walk, ih]
    rfl
  | tag e rest hrows ih =>
    have hvisit : visit ⟨r, limits, embed'⟩ e = visit ⟨r, limits, embed⟩ e :=
      funext (visit_congr_embed hr e)
    funext chain out st
    simp only [walk_tag, hvisit, hrows, ih]

end Setting

end TagTemplate
