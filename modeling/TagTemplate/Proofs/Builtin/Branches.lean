import TagTemplate.Proofs.Engine.Blocks

/-!
# The branches of a chain

A chain is a `cfif`, any number of `cfelseif` and perhaps a `cfelse`, with blank text between them.
Each of them is handled in the same way when it is its turn: it renders its body if its condition
holds, a `cfelse` always (`Arm.IsHandledBy`). They differ in where they can stand
(`Arm.handled_of_first`, `Arm.handled_of_later`).
-/

namespace TagTemplate.Builtin

variable {st : RenderState}

/-- A branch among its siblings, with the blank text in front of it. -/
structure Arm where
  gap : List String
  blank : ∀ text ∈ gap, Text.isBlankText text = true
  element : Element

namespace Arm

variable {arm : Arm}

def name (arm : Arm) : String := arm.element.tag.name

/-- The text in front of the branch, in one piece. -/
def space (arm : Arm) : String := String.join arm.gap

def nodes (arm : Arm) : List Node := arm.gap.map .text ++ [arm.element.node]

/-- Whether the branch runs if it is its turn. Only a `cfelse` has no condition. -/
def holds (arm : Arm) (scope : Scope) : Except RenderError Bool :=
  if arm.name = "cfelse" then .ok true
  else arm.element.tag.conditionHolds (conditionOf arm.element.tag) scope

/-- The chain after the branch once one has run: a `cfelse` ends it. -/
def after (arm : Arm) : Chain := if arm.name = "cfelse" then none else some true

/-- There is room for the branch, and its condition does not hold. -/
def Declines (limits : Limits) (st : RenderState) (arm : Arm) : Prop :=
  arm.element.Fits limits st ∧ arm.holds st.scope = .ok false

/-- A branch without a condition does not decline. -/
theorem Declines.name_ne {limits : Limits} {st : RenderState} (h : arm.Declines limits st) :
    arm.name ≠ "cfelse" := by
  intro hname
  have hholds := h.2
  rw [holds, if_pos hname] at hholds
  cases hholds

/-- The handler of the branch renders its body if the condition holds, and does nothing else. -/
structure IsHandledBy (arm : Arm) (h : Handler) : Prop where
  registered : registry.get? arm.element.tag.name = some h
  answers : ∀ scope, h.Answers arm.element scope (arm.holds scope)
  enter : h.enter arm.element = .done ()
  body : h.body arm.element = .rendered .body
  exit : ∀ text, h.exit arm.element text = .done text
  interpolation : h.interpolation = none
  chainAfter_true : chainAfter h.branch true = arm.after
  chainAfter_false : arm.name ≠ "cfelse" → chainAfter h.branch false = some false

/-- The guard of a branch with a condition asks it, and does nothing else. -/
theorem conditionGuard_run (e : Element) (surroundings : Surroundings) (st : RenderState) :
    (conditionGuard e).run surroundings st =
      (e.tag.conditionHolds (conditionOf e.tag) st.scope, st) := by
  show (Program.ofExcept (e.tag.conditionHolds (conditionOf e.tag) st.scope)).run surroundings st =
    _
  cases e.tag.conditionHolds (conditionOf e.tag) st.scope with
  | _ => rfl

theorem isHandledBy_of_condition {h : Handler} (hname : arm.name ≠ "cfelse")
    (registered : registry.get? arm.element.tag.name = some h) (guard : h.guard = conditionGuard)
    (enter : h.enter arm.element = .done ()) (body : h.body arm.element = .rendered .body)
    (exit : ∀ text, h.exit arm.element text = .done text) (interpolation : h.interpolation = none)
    (chainAfter_eq : ∀ ran, chainAfter h.branch ran = some ran) : arm.IsHandledBy h where
  registered := registered
  answers scope := by
    rintro surroundings st rfl
    rw [guard, conditionGuard_run, holds, if_neg hname]
  enter := enter
  body := body
  exit := exit
  interpolation := interpolation
  chainAfter_true := by
    rw [after, if_neg hname]
    exact chainAfter_eq true
  chainAfter_false _ := chainAfter_eq false

/-- The first branch of a chain is taken after any. -/
theorem handled_of_first (hname : arm.name = "cfif") :
    ∃ h, arm.IsHandledBy h ∧ ∀ chain, turn h.branch chain = .run := by
  have helse : arm.name ≠ "cfelse" := by
    rw [hname]
    decide
  have hget : registry.get? arm.element.tag.name = some ifBranch := by
    rw [show arm.element.tag.name = "cfif" from hname]
    rfl
  exact ⟨_, isHandledBy_of_condition helse hget rfl rfl rfl (fun _ => rfl) rfl fun _ => rfl,
    fun _ => rfl⟩

/-- A later one is taken after a branch that declined, passed over after one that ran, and refused
where there is no chain. -/
theorem handled_of_later (hname : arm.name = "cfelseif" ∨ arm.name = "cfelse") :
    ∃ h, arm.IsHandledBy h ∧ turn h.branch (some false) = .run ∧
      turn h.branch (some true) = .passOver arm.after ∧ turn h.branch none = .refuse := by
  rcases hname with hname | hname
  · have helse : arm.name ≠ "cfelse" := by
      rw [hname]
      decide
    have hget : registry.get? arm.element.tag.name = some elseIfBranch := by
      rw [show arm.element.tag.name = "cfelseif" from hname]
      rfl
    refine ⟨_, isHandledBy_of_condition helse hget rfl rfl rfl (fun _ => rfl) rfl fun _ => rfl,
      rfl, ?_, rfl⟩
    rw [after, if_neg helse]
    rfl
  · have hget : registry.get? arm.element.tag.name = some elseBranch := by
      rw [show arm.element.tag.name = "cfelse" from hname]
      rfl
    have hafter : arm.after = none := if_pos hname
    refine ⟨elseBranch, ⟨hget, fun scope => ?_, rfl, rfl, fun _ => rfl, rfl, hafter.symm,
      fun h => absurd hname h⟩, rfl, ?_, rfl⟩
    · rw [holds, if_pos hname]
      exact fun _ _ _ => rfl
    · rw [hafter]
      rfl

end Arm

/-- The nodes of some branches, in order. -/
def rows (arms : List Arm) : List Node := arms.flatMap Arm.nodes

/-- The text between some branches. -/
def spaces (arms : List Arm) : String := String.join (arms.map Arm.space)

/-- The state after the guards of branches that declined. -/
def askAll (arms : List Arm) (st : RenderState) : RenderState :=
  arms.foldl (fun st arm => st.asked arm.element (.ok false)) st

/-- The chain after branches that declined. -/
def chainBetween (chain : Chain) : List Arm → Chain
  | [] => chain
  | _ :: _ => some false

/-- The chain after branches of which one has run. -/
def closed (arms : List Arm) : Chain :=
  if arms.any (·.name == "cfelse") then none else some true

/-- What can follow the first branches of a chain: any number of `cfelseif`, and perhaps a
`cfelse`. -/
def Continues : List Arm → Prop
  | [] => True
  | arm :: rest => arm.name = "cfelseif" ∧ Continues rest ∨ arm.name = "cfelse" ∧ rest = []

/-- A chain: a `cfif`, and what can follow it. -/
def IsChain : List Arm → Prop
  | [] => False
  | first :: rest => first.name = "cfif" ∧ Continues rest

/-- What stays of a branch when its condition and its body are others. -/
def Arm.outline (arm : Arm) : List String × String := (arm.gap, arm.name)

/-- What can follow a branch of a chain: nothing if it is a `cfelse`. -/
def ContinuesAfter (arm : Arm) (after : List Arm) : Prop :=
  arm.name ≠ "cfelse" ∧ Continues after ∨ arm.name = "cfelse" ∧ after = []

variable {arm : Arm} {before after arms : List Arm}

theorem Continues.name_first (h : Continues (arm :: after)) :
    arm.name = "cfelseif" ∨ arm.name = "cfelse" :=
  h.imp And.left And.left

theorem Continues.afterFirst (h : Continues (arm :: after)) : ContinuesAfter arm after := by
  rcases h with ⟨hname, h⟩ | h
  · refine .inl ⟨?_, h⟩
    rw [hname]
    decide
  · exact .inr h

theorem ContinuesAfter.continues (h : ContinuesAfter arm after) : Continues after := by
  rcases h with ⟨-, h⟩ | ⟨-, rfl⟩
  · exact h
  · trivial

theorem Continues.of_append (h : Continues (before ++ arm :: after)) :
    Continues before ∧ Continues (arm :: after) := by
  induction before with
  | nil => exact ⟨trivial, h⟩
  | cons first before ih =>
    rcases h with ⟨hname, h⟩ | ⟨-, h⟩
    · exact ⟨.inl ⟨hname, (ih h).1⟩, (ih h).2⟩
    · -- nothing stands behind a `cfelse`
      exact absurd h (List.append_ne_nil_of_right_ne_nil before (List.cons_ne_nil arm after))

/-- Every branch of a chain but the first is a later one, and what follows each of them can. -/
theorem IsChain.continuesAfter (h : IsChain (before ++ arm :: after)) :
    ContinuesAfter arm after := by
  cases before with
  | nil =>
    refine .inl ⟨?_, h.2⟩
    rw [h.1]
    decide
  | cons first before => exact (Continues.of_append h.2).2.afterFirst

theorem closed_cons_of_ne (helse : arm.name ≠ "cfelse") (arms : List Arm) :
    closed (arm :: arms) = closed arms := by
  rw [closed, List.any_cons, beq_eq_false_iff_ne.mpr helse, Bool.false_or, closed]

theorem closed_append_of_ne (h : ∀ arm ∈ before, arm.name ≠ "cfelse") (arms : List Arm) :
    closed (before ++ arms) = closed arms := by
  induction before with
  | nil => rfl
  | cons first before ih =>
    rw [List.cons_append, closed_cons_of_ne (h first (List.mem_cons_self ..)),
      ih fun arm hmem => h arm (List.mem_cons_of_mem _ hmem)]

/-- Later branches with other conditions and bodies are a continuation, too. -/
theorem Continues.congr {after' : List Arm}
    (hsame : after'.map Arm.outline = after.map Arm.outline) (h : Continues after) :
    Continues after' := by
  induction after generalizing after' with
  | nil =>
    rw [List.map_eq_nil_iff.mp hsame]
    trivial
  | cons arm after ih =>
    cases after' with
    | nil => trivial
    | cons arm' after' =>
      injection hsame with harm hafter
      have hname : arm'.name = arm.name := congrArg Prod.snd harm
      rcases h with ⟨helseif, h⟩ | ⟨helse, rfl⟩
      · exact .inl ⟨hname.trans helseif, ih hafter h⟩
      · exact .inr ⟨hname.trans helse, List.map_eq_nil_iff.mp hafter⟩

theorem closed_congr {arms' : List Arm} (h : arms'.map Arm.outline = arms.map Arm.outline) :
    closed arms' = closed arms := by
  have houtlines : ∀ arms : List Arm,
      closed arms = if (arms.map Arm.outline).any (·.2 == "cfelse") then none else some true := by
    intro arms
    rw [List.any_map]
    rfl
  rw [houtlines, houtlines, h]

theorem spaces_congr {arms' : List Arm} (h : arms'.map Arm.outline = arms.map Arm.outline) :
    spaces arms' = spaces arms := by
  have houtlines : ∀ arms : List Arm,
      spaces arms = String.join ((arms.map Arm.outline).map (String.join ·.1)) := by
    intro arms
    rw [List.map_map]
    rfl
  rw [houtlines, houtlines, h]

theorem outlines_append {after' : List Arm}
    (hsame : after'.map Arm.outline = after.map Arm.outline) (before : List Arm) (arm : Arm) :
    (before ++ arm :: after').map Arm.outline = (before ++ arm :: after).map Arm.outline := by
  rw [List.map_append, List.map_append, List.map_cons, List.map_cons, hsame]

/-- So they make a chain with the branches before them. -/
theorem IsChain.congr {after' : List Arm} (hsame : after'.map Arm.outline = after.map Arm.outline)
    (h : IsChain (before ++ arm :: after)) : IsChain (before ++ arm :: after') := by
  cases before with
  | nil => exact ⟨h.1, Continues.congr hsame h.2⟩
  | cons first before => exact ⟨h.1, Continues.congr (outlines_append hsame before arm) h.2⟩

theorem scope_askAll (arms : List Arm) (st : RenderState) : (askAll arms st).scope = st.scope := by
  induction arms generalizing st with
  | nil => rfl
  | cons arm arms ih => exact (ih _).trans (st.scope_asked ..)

theorem books_askAll (arms : List Arm) (st : RenderState) : (askAll arms st).books = st.books := by
  induction arms generalizing st with
  | nil => rfl
  | cons arm arms ih => exact (ih _).trans (st.books_asked ..)

theorem askAll_of_unwatched (arms : List Arm) (hst : st.journal = none) : askAll arms st = st := by
  induction arms with
  | nil => rfl
  | cons arm arms ih =>
    show askAll arms (st.asked arm.element (.ok false)) = st
    rw [RenderState.asked_of_unwatched hst, ih]

/-- There is as much room after branches that declined as before. -/
theorem fits_askAll {limits : Limits} (arms : List Arm) (e : Element) (st : RenderState) :
    e.Fits limits (askAll arms st) ↔ e.Fits limits st := by
  have hdepth : (askAll arms st).depth = st.depth := congrArg Books.depth (books_askAll arms st)
  rw [Element.Fits, Element.Fits, hdepth]

theorem rows_cons (arm : Arm) (arms : List Arm) : rows (arm :: arms) = arm.nodes ++ rows arms :=
  List.flatMap_cons

theorem rows_append (before after : List Arm) :
    rows (before ++ after) = rows before ++ rows after :=
  List.flatMap_append

theorem spaces_cons (arm : Arm) (arms : List Arm) :
    spaces (arm :: arms) = arm.space ++ spaces arms := by
  rw [spaces, List.map_cons, String.join_cons, spaces]

end TagTemplate.Builtin
