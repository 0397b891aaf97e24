import TagTemplate.Proofs.Render.Limits

/-!
# Rows of siblings

A walk over a row only ever adds to its buffer (`walk_after`), and it gets to the end of the row
when it proceeds and at no other time, whatever follows the row (`walk_append`). Chains of branches
reach from one row into the next one only where the next one begins with a branch that needs a chain,
so a row that can be walked without a chain before it comes to the same after any
(`walk_of_none`).
-/

namespace TagTemplate

/-- A walk with some output before its own. -/
def Walk.after (before : String) (w : Walk) : Walk := { w with out := before ++ w.out }

/-- A step with some output before its own. -/
def Step.after (before : String) : Step → Step
  | .goesOn chain out st => .goesOn chain (before ++ out) st
  | .ends w => .ends (w.after before)

/-- A step that is the first of a walk without an error has none. -/
theorem Step.isOk_of_andThen {step : Step} {rest : Walker}
    (h : (step.andThen rest).outcome.isOk = true) : step.isOk = true := by
  cases step with
  | goesOn chain out st => rfl
  | ends w => exact h

/-- A tag that is taken without a chain before it is taken after any. -/
theorem turn_of_none {branch : Option Branch} (h : turn branch none = .run) (chain : Chain) :
    turn branch chain = .run := by
  rcases branch with _ | _ | _ | _
  · rfl
  · rfl
  · cases h
  · cases h

/-- Without a chain before it no tag is passed over. -/
theorem turn_none_ne_passOver (branch : Option Branch) (after : Chain) :
    turn branch none ≠ .passOver after := by
  intro h
  rcases branch with _ | _ | _ | _ <;> cases h

namespace Setting

variable {s : Setting}

/-! ## The buffer -/

theorem visit_after (e : Element) (region : Region → Render) (chain : Chain) (before out : String)
    (st : RenderState) :
    s.visit e region chain (before ++ out) st = (s.visit e region chain out st).after before := by
  have hvisits := s.visits_visit e region chain out st
  generalize s.visit e region chain out st = step at hvisits ⊢
  apply Visits.eq
  cases hvisits with
  | unknown hname => exact .unknown hname
  | misplaced hname hturn => exact .misplaced hname hturn
  | passedOver hname hturn => exact .passedOver hname hturn
  | fails hname hturn ha => exact .fails hname hturn ha
  | proceeds hname hturn ha =>
    rw [Step.after, ← String.append_assoc]
    exact .proceeds hname hturn ha
  | breaksOff hflow hname hturn ha =>
    rw [Step.after, Walk.after, ← String.append_assoc]
    exact .breaksOff hflow hname hturn ha

theorem node_after (node : Node) (chain : Chain) (before out : String) (st : RenderState) :
    s.node node chain (before ++ out) st = (s.node node chain out st).after before := by
  cases node with
  | text t => rw [Setting.node, Setting.node, String.append_assoc]; rfl
  | interpolation expression span => rw [Setting.node, Setting.node, String.append_assoc]; rfl
  | void tag => exact visit_after ..
  | block tag children => exact visit_after ..

/-- A walk adds to its buffer and does nothing else with it. -/
theorem walk_after (nodes : List Node) (chain : Chain) (before out : String) (st : RenderState) :
    s.walk nodes chain (before ++ out) st = (s.walk nodes chain out st).after before := by
  induction nodes generalizing chain out st with
  | nil => rfl
  | cons first rest ih =>
    rw [walk, walk, node_after]
    cases s.node first chain out st with
    | goesOn chain' out' st' => exact ih chain' out' st'
    | ends w => rfl

/-! ## One row after another -/

/-- A row ends at one of its nodes only when that does not proceed. -/
theorem ne_proceed_of_node_ends {node : Node} {chain : Chain} {out : String} {st : RenderState}
    {w : Walk} (h : s.node node chain out st = .ends w) : w.outcome ≠ .ok .proceed := by
  have hvisit : ∀ {e : Element} {region : Region → Render},
      s.visit e region chain out st = .ends w → w.outcome ≠ .ok .proceed := by
    intro e region h
    have hvisits := s.visits_visit e region chain out st
    rw [h] at hvisits
    cases hvisits with
    | unknown => nofun
    | misplaced => nofun
    | fails => nofun
    | breaksOff hflow =>
      intro hproceed
      cases hproceed
      exact hflow rfl
  cases node with
  | text t => cases h
  | interpolation expression span => cases h
  | void tag => exact hvisit h
  | block tag children => exact hvisit h

/-- Two rows are walked one after the other if the first one proceeds. If it does not, the walk is
over where the first row ends. -/
theorem walk_append (nodes : List Node) (chain : Chain) (out : String) (st : RenderState) :
    (∃ chain', (s.walk nodes chain out st).outcome = .ok .proceed ∧
      ∀ rest, s.walk (nodes ++ rest) chain out st =
        s.walk rest chain' (s.walk nodes chain out st).out (s.walk nodes chain out st).state) ∨
    ((s.walk nodes chain out st).outcome ≠ .ok .proceed ∧
      ∀ rest, s.walk (nodes ++ rest) chain out st = s.walk nodes chain out st) := by
  induction nodes generalizing chain out st with
  | nil => exact .inl ⟨chain, rfl, fun _ => rfl⟩
  | cons first tail ih =>
    rw [walk]
    cases hstep : s.node first chain out st with
    | goesOn chain' out' st' =>
      have htail : ∀ rest, s.walk (first :: tail ++ rest) chain out st =
          s.walk (tail ++ rest) chain' out' st' := by
        intro rest
        rw [List.cons_append, walk, hstep]
        rfl
      simp only [htail]
      exact ih chain' out' st'
    | ends w =>
      refine .inr ⟨ne_proceed_of_node_ends hstep, fun rest => ?_⟩
      rw [List.cons_append, walk, hstep]
      rfl

/-! ## The chain before a row -/

theorem visit_of_none {e : Element} {region : Region → Render} {out : String} {st : RenderState}
    (hok : (s.visit e region none out st).isOk = true) (chain : Chain) :
    s.visit e region chain out st = s.visit e region none out st := by
  have hvisits := s.visits_visit e region none out st
  generalize s.visit e region none out st = step at hvisits hok ⊢
  apply Visits.eq
  cases hvisits with
  | unknown => cases hok
  | misplaced => cases hok
  | passedOver _ hturn => exact absurd hturn (turn_none_ne_passOver _ _)
  | fails => cases hok
  | proceeds hname hturn ha => exact .proceeds hname (turn_of_none hturn chain) ha
  | breaksOff hflow hname hturn ha => exact .breaksOff hflow hname (turn_of_none hturn chain) ha

/-- A row that is walked without an error when no chain is before it is walked alike after any. -/
theorem walk_of_none {nodes : List Node} {out : String} {st : RenderState}
    (hok : (s.walk nodes none out st).outcome.isOk = true) (chain : Chain) :
    s.walk nodes chain out st = s.walk nodes none out st := by
  induction nodes generalizing out st with
  | nil => rfl
  | cons first rest ih =>
    rw [walk] at hok
    rw [walk, walk]
    have hfirst := Step.isOk_of_andThen hok
    cases first with
    | text t =>
      rw [Setting.node] at hok
      rw [Setting.node, Setting.node]
      -- blank text hands the chain on, and other text hands none on
      by_cases hblank : Text.isBlankText t = true
      · rw [if_pos hblank] at hok
        rw [if_pos hblank, if_pos hblank]
        exact ih hok
      · rw [if_neg hblank, if_neg hblank]
    | interpolation expression span => rfl
    | void tag =>
      have hsame : s.node (.void tag) chain out st = s.node (.void tag) none out st :=
        visit_of_none hfirst chain
      rw [hsame]
    | block tag children =>
      have hsame : s.node (.block tag children) chain out st =
          s.node (.block tag children) none out st := visit_of_none hfirst chain
      rw [hsame]

/-- So it is walked alike after anything. -/
theorem walk_of_none_empty {nodes : List Node} {st : RenderState}
    (hok : (s.walk nodes none "" st).outcome.isOk = true) (chain : Chain) (out : String) :
    s.walk nodes chain out st = (s.walk nodes none "" st).after out := by
  have hafter : s.walk nodes chain (out ++ "") st = (s.walk nodes chain "" st).after out :=
    walk_after nodes chain out "" st
  rw [String.append_empty, walk_of_none hok] at hafter
  exact hafter

end Setting

end TagTemplate
