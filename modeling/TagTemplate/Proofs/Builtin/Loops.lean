import TagTemplate.Builtin.Registry
import TagTemplate.Proofs.Builtin.Limits
import TagTemplate.Proofs.Builtin.Requests

/-!
# Loops and their limit

A loop makes no more passes than the limit allows, whatever its body renders to and changes
(`length_renderings_loopBody`). When it fails for this, and not because a pass did, depends on its
form. A loop with a condition makes all the passes it may, and then the condition still holds
(`passWhile_failsAlone`). A loop over the items of a list has too many of them, and makes no pass
(`loopBody_of_many`).
-/

namespace TagTemplate

variable {α β : Type} {s : Surroundings} {st : RenderState}

/-! ## What a program has rendered -/

/-- The rendering is complete, and what follows it is rendered too. -/
def Rendered.Completes (rendered : Rendered) : Prop := rendered.outcome = .ok .proceed

namespace Program

/-- What a program has rendered, in order. -/
def renderings (s : Surroundings) : Program α → RenderState → List Rendered
  | .done _, _ => []
  | .fail _, _ => []
  | .look next, st => (next (st.view s.limits)).renderings s st
  | .update change next, st => next.renderings s { st with scope := change st.scope }
  | .render region next, st =>
    let (rendered, st) := s.region region st
    rendered :: (next rendered).renderings s st
  | .embed path next, st =>
    let (rendered, st) := s.embed path st
    rendered :: (next rendered).renderings s st

/-- The program fails with an error of its own, and not with one in what it had rendered. -/
def FailsAlone (s : Surroundings) (p : Program α) (st : RenderState) (e : RenderError) : Prop :=
  (p.run s st).1 = .error e ∧ ∀ rendered ∈ p.renderings s st, rendered.outcome.isOk = true

end Program

namespace Builtin

open Program

variable {e : Element} {tag : Tag} {scope : Scope} {condition : String} {limit left place : Nat}
  {out : String} {items : List Value}

/-! ## One pass -/

/-- A pass, and what the loop does after it. -/
def passThen (out : String) (onward : String → Program (String × Flow)) :
    Program (String × Flow) :=
  .render .body fun rendered => afterPass out rendered onward

variable {onward : String → Program (String × Flow)}

/-- After a pass that completes the loop goes on. -/
theorem passThen_of_proceed (h : (s.region .body st).1.outcome = .ok .proceed) :
    (passThen out onward).run s st =
        (onward (out ++ (s.region .body st).1.text)).run s (s.region .body st).2 ∧
      (passThen out onward).renderings s st = (s.region .body st).1 ::
        (onward (out ++ (s.region .body st).1.text)).renderings s (s.region .body st).2 := by
  have hafter : afterPass out (s.region .body st).1 onward =
      onward (out ++ (s.region .body st).1.text) := by rw [afterPass, h]
  rw [← hafter]
  exact ⟨rfl, rfl⟩

/-- After another one it ends. If it fails, the pass has failed. -/
theorem passThen_of_not (h : (s.region .body st).1.outcome ≠ .ok .proceed) :
    (passThen out onward).renderings s st = [(s.region .body st).1] ∧
      ∀ error, ((passThen out onward).run s st).1 = .error error →
        (s.region .body st).1.outcome = .error error := by
  rw [passThen, run, renderings]
  generalize s.region .body st = pass at h ⊢
  rcases pass with ⟨⟨text, outcome⟩, after⟩
  cases outcome with
  | error error' =>
    refine ⟨rfl, fun error hrun => ?_⟩
    cases hrun
    rfl
  | ok flow =>
    cases flow with
    | proceed => exact absurd rfl h
    | breakLoop => exact ⟨rfl, fun _ hrun => nomatch hrun⟩
    | abort => exact ⟨rfl, fun _ hrun => nomatch hrun⟩

/-- It is one pass and those that follow. -/
theorem length_renderings_passThen {most : Nat}
    (h : ∀ out st, ((onward out).renderings s st).length ≤ most) :
    ((passThen out onward).renderings s st).length ≤ most + 1 := by
  by_cases hpass : (s.region .body st).1.outcome = .ok .proceed
  · rw [(passThen_of_proceed hpass).2]
    exact Nat.succ_le_succ (h _ _)
  · rw [(passThen_of_not hpass).1]
    exact Nat.succ_le_succ (Nat.zero_le most)

/-- The loop fails by itself only further on. -/
theorem passThen_failsAlone {error : RenderError} :
    (passThen out onward).FailsAlone s st error ↔ (s.region .body st).1.outcome = .ok .proceed ∧
      (onward (out ++ (s.region .body st).1.text)).FailsAlone s (s.region .body st).2 error := by
  unfold FailsAlone
  by_cases hpass : (s.region .body st).1.outcome = .ok .proceed
  · have hok : (s.region .body st).1.outcome.isOk = true := by
      rw [hpass]
      rfl
    rw [(passThen_of_proceed hpass).1, (passThen_of_proceed hpass).2, List.forall_mem_cons,
      and_iff_right hok, and_iff_right hpass]
  · refine iff_of_false ?_ fun h => hpass h.1
    rintro ⟨hrun, hok⟩
    rw [(passThen_of_not hpass).1] at hok
    have hpassed := hok _ (List.mem_singleton_self _)
    rw [(passThen_of_not hpass).2 error hrun] at hpassed
    cases hpassed

/-! ## Loops with a condition -/

/-- What the loop comes to, and has rendered, where its condition is met with an error. -/
theorem run_passWhile_of_error {error : RenderError}
    (h : tag.conditionHolds condition st.scope = .error error) :
    (passWhile tag condition limit left out).run s st = (.error error, st) ∧
      (passWhile tag condition limit left out).renderings s st = [] := by
  rw [passWhile.eq_def]
  simp only [run, renderings, RenderState.view, h]
  exact ⟨trivial, trivial⟩

theorem run_passWhile_of_not (h : tag.conditionHolds condition st.scope = .ok false) :
    (passWhile tag condition limit left out).run s st = (.ok (out, .proceed), st) ∧
      (passWhile tag condition limit left out).renderings s st = [] := by
  rw [passWhile.eq_def]
  simp only [run, renderings, RenderState.view, h]
  exact ⟨trivial, trivial⟩

theorem run_passWhile_zero (h : tag.conditionHolds condition st.scope = .ok true) :
    (passWhile tag condition limit 0 out).run s st = (.error (loopLimitExceeded tag limit), st) ∧
      (passWhile tag condition limit 0 out).renderings s st = [] := by
  rw [passWhile]
  simp only [run, renderings, RenderState.view, h]
  exact ⟨trivial, trivial⟩

theorem run_passWhile_succ (h : tag.conditionHolds condition st.scope = .ok true) :
    (passWhile tag condition limit (left + 1) out).run s st =
        (passThen out (passWhile tag condition limit left)).run s st ∧
      (passWhile tag condition limit (left + 1) out).renderings s st =
        (passThen out (passWhile tag condition limit left)).renderings s st := by
  rw [passWhile, passThen]
  simp only [run, renderings, RenderState.view, h]
  exact ⟨trivial, trivial⟩

/-- At most as many passes are made as are left. -/
theorem length_renderings_passWhile (tag : Tag) (condition : String) (limit left : Nat)
    (out : String) (s : Surroundings) (st : RenderState) :
    ((passWhile tag condition limit left out).renderings s st).length ≤ left := by
  induction left generalizing out st with
  | zero =>
    have hnone : (passWhile tag condition limit 0 out).renderings s st = [] := by
      cases h : tag.conditionHolds condition st.scope with
      | error error => exact (run_passWhile_of_error h).2
      | ok holds =>
        cases holds with
        | false => exact (run_passWhile_of_not h).2
        | true => exact (run_passWhile_zero h).2
    rw [hnone]
    exact Nat.zero_le 0
  | succ left ih =>
    cases h : tag.conditionHolds condition st.scope with
    | error error =>
      rw [(run_passWhile_of_error h).2]
      exact Nat.zero_le _
    | ok holds =>
      cases holds with
      | false =>
        rw [(run_passWhile_of_not h).2]
        exact Nat.zero_le _
      | true =>
        rw [(run_passWhile_succ h).2]
        exact length_renderings_passThen ih

/-- A condition that cannot be evaluated is another error than that of the limit. -/
theorem conditionHolds_ne_limit {error : RenderError}
    (h : tag.conditionHolds condition scope = .error error) :
    error ≠ loopLimitExceeded tag limit := by
  unfold Tag.conditionHolds at h
  split at h
  · cases h
  · cases h
    exact fun h => nomatch h
  · cases h
    exact fun h => nomatch h

/-- The passes that are left are all made and completed, and the condition still holds: then, and
only then, the loop fails by itself because of its limit. -/
theorem passWhile_failsAlone (tag : Tag) (condition : String) (limit left : Nat) (out : String)
    (s : Surroundings) (st : RenderState) :
    (passWhile tag condition limit left out).FailsAlone s st (loopLimitExceeded tag limit) ↔
      ((passWhile tag condition limit left out).renderings s st).length = left ∧
      (∀ rendered ∈ (passWhile tag condition limit left out).renderings s st, rendered.Completes) ∧
      tag.conditionHolds condition
        ((passWhile tag condition limit left out).run s st).2.scope = .ok true := by
  induction left generalizing out st with
  | zero =>
    cases h : tag.conditionHolds condition st.scope with
    | error error =>
      rw [FailsAlone, (run_passWhile_of_error h).1, (run_passWhile_of_error h).2]
      simp [h, conditionHolds_ne_limit h]
    | ok holds =>
      cases holds with
      | false =>
        rw [FailsAlone, (run_passWhile_of_not h).1, (run_passWhile_of_not h).2]
        simp [h]
      | true =>
        rw [FailsAlone, (run_passWhile_zero h).1, (run_passWhile_zero h).2]
        simp [h]
  | succ left ih =>
    cases h : tag.conditionHolds condition st.scope with
    | error error =>
      rw [FailsAlone, (run_passWhile_of_error h).1, (run_passWhile_of_error h).2]
      simp [conditionHolds_ne_limit h]
    | ok holds =>
      cases holds with
      | false =>
        rw [FailsAlone, (run_passWhile_of_not h).1, (run_passWhile_of_not h).2]
        simp
      | true =>
        rw [FailsAlone, (run_passWhile_succ h).1, (run_passWhile_succ h).2]
        rw [← FailsAlone, passThen_failsAlone, ih]
        by_cases hpass : (s.region .body st).1.outcome = .ok .proceed
        · have hcompletes : (s.region .body st).1.Completes := hpass
          rw [(passThen_of_proceed hpass).1, (passThen_of_proceed hpass).2, List.length_cons,
            List.forall_mem_cons, and_iff_right hpass, and_iff_right hcompletes, Nat.succ_inj]
        · refine iff_of_false (fun h => hpass h.1) fun hall => hpass ?_
          rw [(passThen_of_not hpass).1] at hall
          exact hall.2.1 _ (List.mem_singleton_self _)

/-! ## Loops over elements -/

/-- At most one pass is made for each element. -/
theorem length_renderings_passOver (tag : Tag) (place : Nat) (items : List Value) (out : String)
    (s : Surroundings) (st : RenderState) :
    ((passOver tag place items out).renderings s st).length ≤ items.length := by
  induction items generalizing place out st with
  | nil => exact Nat.le_refl 0
  | cons element rest ih => exact length_renderings_passThen (ih (place + 1))

/-- Passes over elements fail only if one of them does. -/
theorem not_failsAlone_passOver (tag : Tag) (place : Nat) (items : List Value) (out : String)
    (s : Surroundings) (st : RenderState) (error : RenderError) :
    ¬ (passOver tag place items out).FailsAlone s st error := by
  induction items generalizing place out st with
  | nil => exact fun h => nomatch h.1
  | cons element rest ih => exact fun h => ih _ _ _ (passThen_failsAlone.mp h).2

/-- The elements of a loop over a list or an array, if the tag is one. -/
def listed? (tag : Tag) (scope : Scope) : Option (List Value) :=
  if tag.attributes.contains "from" || tag.attributes.contains "to" then none
  else match tag.value? scope "list" with
    | some v => some (listElements tag v)
    | none =>
      match tag.value? scope "array" with
      | some (.list items) => some items
      | _ => none

/-- Only their number can speak against them. -/
theorem loopElements_of_listed (h : listed? tag scope = some items) :
    loopElements tag scope limit = withinLimit tag limit items := by
  unfold listed? at h
  unfold loopElements
  split at h
  · cases h
  · next hrange =>
    rw [if_neg hrange]
    cases hlist : tag.value? scope "list" with
    | some v =>
      rw [hlist] at h
      cases h
      rfl
    | none =>
      rw [hlist] at h
      cases harray : tag.value? scope "array" with
      | none =>
        rw [harray] at h
        cases h
      | some v =>
        rw [harray] at h
        cases v with
        | list items =>
          cases h
          rfl
        | _ => cases h

theorem length_of_withinLimit {allowed : List Value}
    (h : withinLimit tag limit items = .ok allowed) :
    allowed.length ≤ limit := by
  unfold withinLimit at h
  split at h
  · cases h
  · next hroom =>
    cases h
    exact Nat.le_of_not_lt hroom

/-- Whatever the form of a loop, it has no more elements than the limit allows. -/
theorem length_of_loopElements (h : loopElements tag scope limit = .ok items) :
    items.length ≤ limit := by
  unfold loopElements at h
  split at h
  · obtain ⟨_, -, hwithin⟩ := bind_eq_ok h
    exact length_of_withinLimit hwithin
  · split at h
    · exact length_of_withinLimit h
    · split at h
      · obtain ⟨_, -, hwithin⟩ := bind_eq_ok h
        exact length_of_withinLimit hwithin
      · cases h

/-! ## The body of a loop -/

theorem loopBody_of_condition (h : e.tag.attr? "condition" = some condition) :
    let passes := passWhile e.tag condition s.limits.loopLimit s.limits.loopLimit ""
    (loopBody e).run s st = passes.run s st ∧
      (loopBody e).renderings s st = passes.renderings s st := by
  simp only [loopBody, Program.limits, bind_eq_andThen, andThen, run, renderings,
    RenderState.view, h]
  exact ⟨trivial, trivial⟩

theorem loopBody_of_elements (hcondition : e.tag.attr? "condition" = none)
    (h : loopElements e.tag st.scope s.limits.loopLimit = .ok items) :
    (loopBody e).run s st = (passOver e.tag 0 items "").run s st ∧
      (loopBody e).renderings s st = (passOver e.tag 0 items "").renderings s st := by
  simp only [loopBody, Program.limits, Program.scope, bind_eq_andThen, andThen, run, renderings,
    RenderState.view, hcondition, h, Program.ofExcept]
  exact ⟨trivial, trivial⟩

theorem loopBody_of_error (hcondition : e.tag.attr? "condition" = none) {error : RenderError}
    (h : loopElements e.tag st.scope s.limits.loopLimit = .error error) :
    (loopBody e).run s st = (.error error, st) ∧ (loopBody e).renderings s st = [] := by
  simp only [loopBody, Program.limits, Program.scope, bind_eq_andThen, andThen, run, renderings,
    RenderState.view, hcondition, h, Program.ofExcept]
  exact ⟨trivial, trivial⟩

/-- A loop of any form makes at most as many passes as the limit allows. -/
theorem length_renderings_loopBody (e : Element) (s : Surroundings) (st : RenderState) :
    ((loopBody e).renderings s st).length ≤ s.limits.loopLimit := by
  cases hcondition : e.tag.attr? "condition" with
  | some condition =>
    rw [(loopBody_of_condition hcondition).2]
    exact length_renderings_passWhile _ _ _ _ _ _ _
  | none =>
    cases helements : loopElements e.tag st.scope s.limits.loopLimit with
    | error error =>
      rw [(loopBody_of_error hcondition helements).2]
      exact Nat.zero_le _
    | ok items =>
      rw [(loopBody_of_elements hcondition helements).2]
      exact Nat.le_trans (length_renderings_passOver _ _ _ _ _ _) (length_of_loopElements helements)

/-- A loop with a condition fails by itself because of its limit when it has made all the passes it
may, and then the condition still holds. -/
theorem loopBody_failsAlone (hcondition : e.tag.attr? "condition" = some condition) :
    (loopBody e).FailsAlone s st (loopLimitExceeded e.tag s.limits.loopLimit) ↔
      ((loopBody e).renderings s st).length = s.limits.loopLimit ∧
      (∀ rendered ∈ (loopBody e).renderings s st, rendered.Completes) ∧
      e.tag.conditionHolds condition ((loopBody e).run s st).2.scope = .ok true := by
  rw [FailsAlone, (loopBody_of_condition hcondition).1, (loopBody_of_condition hcondition).2]
  exact passWhile_failsAlone _ _ _ _ _ _ _

/-- A loop over more elements of a list than the limit allows fails before any pass. -/
theorem loopBody_of_many (hcondition : e.tag.attr? "condition" = none)
    (hlisted : listed? e.tag st.scope = some items) (hmany : s.limits.loopLimit < items.length) :
    (loopBody e).run s st = (.error (loopLimitExceeded e.tag s.limits.loopLimit), st) ∧
      (loopBody e).renderings s st = [] := by
  refine loopBody_of_error hcondition ?_
  rw [loopElements_of_listed hlisted, withinLimit, if_pos hmany]

/-- And a loop over no more of them does not fail by itself. -/
theorem not_failsAlone_of_few (hcondition : e.tag.attr? "condition" = none)
    (hlisted : listed? e.tag st.scope = some items) (hfew : items.length ≤ s.limits.loopLimit)
    (error : RenderError) : ¬ (loopBody e).FailsAlone s st error := by
  have helements : loopElements e.tag st.scope s.limits.loopLimit = .ok items := by
    rw [loopElements_of_listed hlisted, withinLimit, if_neg (Nat.not_lt.mpr hfew)]
  rw [FailsAlone, (loopBody_of_elements hcondition helements).1,
    (loopBody_of_elements hcondition helements).2]
  exact not_failsAlone_passOver _ _ _ _ _ _ _

/-- What a loop does with the limit in some surroundings, from some state. -/
structure LoopKeepsLimit (e : Element) (s : Surroundings) (st : RenderState) : Prop where
  /-- What it has rendered is its own body, and none of its other hooks renders. -/
  asks : loop.Asks e (fun _ => False) fun request => request = .render .body
  /-- It makes at most as many passes as the limit allows. -/
  passes : ((loop.body e).renderings s st).length ≤ s.limits.loopLimit
  /-- With a condition, it fails by itself because of the limit if and only if it has made just as
  many passes, all of them are completed, and the condition still holds. -/
  condition : ∀ condition, e.tag.attr? "condition" = some condition →
    ((loop.body e).FailsAlone s st (loopLimitExceeded e.tag s.limits.loopLimit) ↔
      ((loop.body e).renderings s st).length = s.limits.loopLimit ∧
      (∀ rendered ∈ (loop.body e).renderings s st, rendered.Completes) ∧
      e.tag.conditionHolds condition ((loop.body e).run s st).2.scope = .ok true)
  /-- Over a list or an array, it does so if and only if there are more elements. -/
  elements : ∀ items, e.tag.attr? "condition" = none → listed? e.tag st.scope = some items →
    ((loop.body e).FailsAlone s st (loopLimitExceeded e.tag s.limits.loopLimit) ↔
      s.limits.loopLimit < items.length)
  /-- Then nothing has been rendered yet, and nothing has changed. -/
  early : ∀ items, e.tag.attr? "condition" = none → listed? e.tag st.scope = some items →
    s.limits.loopLimit < items.length → (loop.body e).renderings s st = [] ∧
      ((loop.body e).run s st).2 = st

theorem loop_keepsLimit (e : Element) (s : Surroundings) (st : RenderState) :
    LoopKeepsLimit e s st where
  asks := ⟨trivial, trivial, @loopBody_asks (fun request => request = .render .body) rfl e,
    fun _ => trivial⟩
  passes := length_renderings_loopBody e s st
  condition condition hcondition := loopBody_failsAlone hcondition
  elements := by
    intro items hcondition hlisted
    constructor
    · intro hfails
      refine Nat.lt_of_not_le fun hfew => ?_
      exact not_failsAlone_of_few hcondition hlisted hfew _ hfails
    · intro hmany
      obtain ⟨hrun, hnone⟩ := loopBody_of_many hcondition hlisted hmany
      show (loopBody e).FailsAlone s st _
      rw [FailsAlone, hrun, hnone]
      exact ⟨rfl, List.forall_mem_nil _⟩
  early := by
    intro items hcondition hlisted hmany
    obtain ⟨hrun, hnone⟩ := loopBody_of_many hcondition hlisted hmany
    exact ⟨hnone, congrArg Prod.snd hrun⟩

end Builtin

end TagTemplate
