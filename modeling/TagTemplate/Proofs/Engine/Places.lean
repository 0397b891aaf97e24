import TagTemplate.Proofs.Engine.Opening
import TagTemplate.Proofs.Render.Induction
import TagTemplate.Proofs.Render.Journal

/-!
# Where hooks are called

A tag stands in a row of siblings, and around the row some blocks and includes are open
(`Engine.Opens`): this can be told from the template and those that can be included, without any
rendering. The renderer only counts. It counts right: each hook that it calls is that of a tag which
stands just where so many blocks and includes are open (`journal_placed`).
-/

namespace TagTemplate

namespace Engine

/-- The rows of siblings that there are to render, for a template, with the numbers of blocks and of
includes that are open around them. -/
inductive Opens (engine : Engine) (template : Template) :
    (depth includes : Nat) → List Node → Prop
  | template : Opens engine template 0 0 template.nodes
  /-- The children of a block. -/
  | body {depth includes : Nat} {row children : List Node} {tag : Tag}
    (hrow : Opens engine template depth includes row) (hblock : .block tag children ∈ row) :
    Opens engine template (depth + 1) includes children
  /-- The children of a child that is not opened itself. -/
  | bodyOfChild {depth includes : Nat} {row children grandchildren : List Node} {tag child : Tag}
    (hrow : Opens engine template depth includes row) (hblock : .block tag children ∈ row)
    (hchild : .block child grandchildren ∈ children) :
    Opens engine template (depth + 1) includes grandchildren
  /-- A template that a tag includes. -/
  | included {depth includes : Nat} {row : List Node} {e : Element} {path : String}
    {other : Template} (hrow : Opens engine template depth includes row) (hnode : e.node ∈ row)
    (hfetch : engine.fetch path = .ok other) :
    Opens engine template (e.depthInside depth) (includes + 1) other.nodes

/-- A tag whose hooks are called, if they are, with so many blocks and includes open. -/
def Stands (engine : Engine) (template : Template) (depth includes : Nat) (tag : Tag) : Prop :=
  ∃ (around : Nat) (row : List Node) (e : Element), engine.Opens template around includes row ∧
    e.node ∈ row ∧ e.tag = tag ∧ e.depthInside around = depth

/-- If the event is the beginning of a hook, its numbers are those of a place where the tag
stands. -/
def Placed (engine : Engine) (template : Template) : Event → Prop
  | .hookBegins _ tag depth includes => engine.Stands template depth includes tag
  | _ => True

variable {engine : Engine} {template : Template}

theorem settledGood_placed : SettledGood (engine.Placed template) := by
  intro event hsettled
  cases event with
  | hookBegins => cases hsettled
  | _ => exact trivial

/-- What tags include is noted where they stand. -/
def EmbedTells (engine : Engine) (template : Template) (embed : String → Render) : Prop :=
  ∀ depth includes tag, engine.Stands template depth includes tag → ∀ path,
    Render.Tells (engine.Placed template) depth includes (embed path)

/-! ## Walking a tree -/

section

variable {embed : String → Render}

/-- What the tags of a row have rendered are rows, too. -/
theorem Opens.row {depth includes : Nat} {row : List Node} {e : Element}
    (hrow : engine.Opens template depth includes row) (hmem : e.node ∈ row) (region : Region) :
    engine.Opens template (e.depthInside depth) includes (e.row region) ∨ e.row region = [] := by
  rcases e with ⟨tag, _ | children⟩
  · cases region with
    | body => exact .inr rfl
    | bodyOfChild index => exact .inr rfl
  · rcases Element.row_cases ⟨tag, some children⟩ region with heq | ⟨child, hchild, heq⟩ | hempty
    · rw [heq]
      exact .inl (.body hrow hmem)
    · rw [heq]
      cases child with
      | block name grandchildren => exact .inl (.bodyOfChild hrow hmem hchild)
      | _ => exact .inr rfl
    · exact .inr hempty

/-- The walk over a part of a row notes hooks where their tags stand. -/
theorem walk_tells (hembed : engine.EmbedTells template embed) {depth includes : Nat}
    {row : List Node} (hrow : engine.Opens template depth includes row) (part : List Node)
    (hpart : ∀ node ∈ part, node ∈ row) : Walker.Tells (engine.Placed template) depth includes
      (Setting.walk ⟨engine.registry, engine.limits, embed⟩ part) := by
  induction part using siblings_induction generalizing depth includes row with
  | nil => exact fun _ _ _ hst => hst
  | text text rest ih =>
    obtain ⟨-, hrest⟩ := List.forall_mem_cons.mp hpart
    exact fun _ _ st hst => ih hrow hrest _ _ st hst
  | interpolation expression span rest ih =>
    obtain ⟨-, hrest⟩ := List.forall_mem_cons.mp hpart
    exact fun _ _ st hst => ih hrow hrest _ _ st hst
  | tag e rest hrows ih =>
    obtain ⟨hmem, hrest⟩ := List.forall_mem_cons.mp hpart
    have hstands : engine.Stands template (e.depthInside depth) includes e.tag :=
      ⟨depth, row, e, hrow, hmem, rfl, rfl⟩
    have hregion (region : Region) : Render.Tells (engine.Placed template) (e.depthInside depth)
        includes (Setting.pass (Setting.walk ⟨engine.registry, engine.limits, embed⟩
          (e.row region))) := by
      apply Walker.Tells.pass settledGood_placed
      rcases hrow.row hmem region with hopens | hempty
      · exact hrows region hopens fun _ h => h
      · rw [hempty]
        exact fun _ _ _ hst => hst
    intro chain out st hst
    have hvisit := Setting.visit_tells (s := ⟨engine.registry, engine.limits, embed⟩)
      settledGood_placed hregion (hembed _ _ _ hstands) (fun _ => hstands) chain out hst
    rw [Setting.walk_tag]
    cases hstep : Setting.visit ⟨engine.registry, engine.limits, embed⟩ e (fun region =>
      Setting.pass (Setting.walk ⟨engine.registry, engine.limits, embed⟩ (e.row region))) chain
      out st with
    | goesOn chain' out' st' =>
      rw [hstep] at hvisit
      exact ih hrow hrest chain' out' st' hvisit
    | ends w =>
      rw [hstep] at hvisit
      exact hvisit

end

/-! ## Includes -/

/-- A template in the place of an include is noted with one more include open. -/
theorem renderOpened_tells {good : Event → Prop} {depth includes : Nat} {walk : Walker}
    (hgood : SettledGood good) (h : walk.Tells good depth (includes + 1)) :
    Render.Tells good depth includes (renderOpened walk) := by
  intro st hst
  have hopened : RenderState.Tells good depth (includes + 1)
      { st with interpolating := false, includeDepth := st.includeDepth + 1 } :=
    ⟨hst.depth, congrArg (· + 1) hst.includes, hst.journal⟩
  have hafter := h.pass hgood _ hopened
  exact ⟨hafter.depth, congrArg (· - 1) hafter.includes, hafter.journal⟩

theorem embed_tells (budget : Nat) : engine.EmbedTells template (engine.embed budget) := by
  induction budget with
  | zero => exact fun _ _ _ _ _ _ hst => hst
  | succ budget ih =>
    rintro depth includes tag ⟨around, row, e, hrow, hnode, rfl, rfl⟩ path st hst
    rw [embed_succ]
    by_cases hfull : engine.limits.maxIncludeDepth ≤ st.includeDepth
    · rw [opening_of_full hfull]
      exact hst
    · rw [Nat.not_le] at hfull
      cases hfetch : engine.fetch path with
      | error error =>
        rw [opening_of_fetch_error hfull hfetch]
        exact hst
      | ok other =>
        rw [opening_of_fetch hfull hfetch]
        exact renderOpened_tells settledGood_placed
          (walk_tells ih (.included hrow hnode hfetch) other.nodes fun _ h => h) st hst

/-- Each hook that is called in a render is one of a tag that stands where so many blocks and
includes are open as are counted. -/
theorem journal_placed (engine : Engine) (template : Template) (scope : Scope) :
    ∀ event ∈ engine.journal template scope, engine.Placed template event := by
  have hrow : engine.Opens template 0 0 template.nodes := .template
  have hwalk := walk_tells (embed_tells engine.limits.maxIncludeDepth) hrow template.nodes
    fun _ h => h
  have hstart : (RenderState.watched scope).Tells (engine.Placed template) 0 0 :=
    ⟨rfl, rfl, List.forall_mem_nil _⟩
  exact (hwalk.pass settledGood_placed _ hstart).journal

end Engine

end TagTemplate
