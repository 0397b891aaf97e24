import TagTemplate.Proofs.Builtin.Effects
import TagTemplate.Proofs.Builtin.Loops

/-!
# Checks before bindings

A tag that binds variables checks itself first: if it finds something wrong it has rendered nothing
and bound nothing (`assignAll_checksFirst`, `capture_checksFirst`, `loopBody_checksFirst`). The one
exception is a declaration, which binds its default and then checks the type of what it has bound
(`declare_failsAlone`).
-/

namespace TagTemplate

variable {α β : Type} {s : Surroundings} {st : RenderState} {error : RenderError}

namespace Program

/-! ## Programs that only look, and programs that do not fail -/

/-- The program renders nothing and changes nothing. -/
def OnlyLooks (p : Program α) : Prop :=
  ∀ s st, p.renderings s st = [] ∧ (p.run s st).2 = st

/-- The program fails only if something that it has rendered does. -/
def NeverFailsAlone (p : Program α) : Prop := ∀ s st error, ¬p.FailsAlone s st error

/-- If the program fails by itself, it has rendered nothing and changed nothing. -/
def ChecksFirst (p : Program α) : Prop :=
  ∀ s st error, p.FailsAlone s st error → p.renderings s st = [] ∧ (p.run s st).2 = st

theorem OnlyLooks.checksFirst {p : Program α} (h : p.OnlyLooks) : p.ChecksFirst :=
  fun s st _ _ => h s st

theorem NeverFailsAlone.checksFirst {p : Program α} (h : p.NeverFailsAlone) : p.ChecksFirst :=
  fun s st error hfails => absurd hfails (h s st error)

theorem onlyLooks_done (result : α) : (Program.done result).OnlyLooks := fun _ _ => ⟨rfl, rfl⟩

theorem onlyLooks_fail (error : RenderError) : (Program.fail error : Program α).OnlyLooks :=
  fun _ _ => ⟨rfl, rfl⟩

theorem onlyLooks_scope : scope.OnlyLooks := fun _ _ => ⟨rfl, rfl⟩

theorem onlyLooks_limits : limits.OnlyLooks := fun _ _ => ⟨rfl, rfl⟩

theorem onlyLooks_ofExcept (result : Except RenderError α) : (ofExcept result).OnlyLooks := by
  cases result with
  | error e => exact onlyLooks_fail e
  | ok a => exact onlyLooks_done a

theorem neverFailsAlone_done (result : α) : (Program.done result).NeverFailsAlone :=
  fun _ _ _ h => nomatch h.1

theorem NeverFailsAlone.update {p : Program α} (h : p.NeverFailsAlone) (change : Scope → Scope) :
    (Program.update change p).NeverFailsAlone :=
  fun s st => h s { st with scope := change st.scope }

theorem neverFailsAlone_rendered (region : Region) : (rendered region).NeverFailsAlone := by
  rintro s st error ⟨hrun, hok⟩
  have hrendered := hok (s.region region st).1 (List.mem_cons_self ..)
  change ((passOn (s.region region st).1).run s (s.region region st).2).1 = .error error at hrun
  rcases hr : (s.region region st).1 with ⟨text, error' | flow⟩
  · rw [hr] at hrendered
    cases hrendered
  · rw [hr] at hrun
    cases hrun

/-! ## One program after another -/

theorem run_andThen (p : Program α) (f : α → Program β) (s : Surroundings) (st : RenderState) :
    (p.andThen f).run s st =
      match p.run s st with
      | (.ok result, st₁) => (f result).run s st₁
      | (.error error, st₁) => (.error error, st₁) := by
  induction p generalizing st with
  | done result => rfl
  | fail error => rfl
  | look next ih => exact ih _ st
  | update change next ih => exact ih { st with scope := change st.scope }
  | render region next ih => exact ih _ _
  | embed path next ih => exact ih _ _

theorem renderings_andThen (p : Program α) (f : α → Program β) (s : Surroundings)
    (st : RenderState) : (p.andThen f).renderings s st =
      p.renderings s st ++
        match p.run s st with
        | (.ok result, st₁) => (f result).renderings s st₁
        | (.error _, _) => [] := by
  induction p generalizing st with
  | done result => rfl
  | fail error => rfl
  | look next ih => exact ih _ st
  | update change next ih => exact ih { st with scope := change st.scope }
  | render region next ih => exact congrArg (List.cons _) (ih _ _)
  | embed path next ih => exact congrArg (List.cons _) (ih _ _)

/-- Of two programs that fail by themselves together one does. -/
theorem FailsAlone.of_andThen {p : Program α} {f : α → Program β}
    (h : (p.andThen f).FailsAlone s st error) :
    p.FailsAlone s st error ∨
      ∃ result, (p.run s st).1 = .ok result ∧ (f result).FailsAlone s (p.run s st).2 error := by
  obtain ⟨hrun, hok⟩ := h
  rw [run_andThen] at hrun
  rw [renderings_andThen] at hok
  rcases hp : p.run s st with ⟨error' | result, st₁⟩
  · rw [hp] at hrun hok
    rw [List.append_nil] at hok
    cases hrun
    exact .inl ⟨congrArg Prod.fst hp, hok⟩
  · rw [hp] at hrun hok
    exact .inr ⟨result, rfl, hrun, fun rendered hmem => hok rendered (List.mem_append_right _ hmem)⟩

theorem NeverFailsAlone.andThen {p : Program α} {f : α → Program β} (hp : p.NeverFailsAlone)
    (hf : ∀ result, (f result).NeverFailsAlone) : (p.andThen f).NeverFailsAlone := by
  intro s st error hfails
  rcases hfails.of_andThen with hfirst | ⟨result, -, hsecond⟩
  · exact hp s st error hfirst
  · exact hf result s _ error hsecond

/-- Looking around before the checks does no harm. -/
theorem OnlyLooks.andThen {p : Program α} {f : α → Program β} (hp : p.OnlyLooks)
    (hf : ∀ result, (f result).ChecksFirst) : (p.andThen f).ChecksFirst := by
  intro s st error hfails
  obtain ⟨hnone, hsame⟩ := hp s st
  rw [renderings_andThen, run_andThen, hnone, List.nil_append]
  rcases hrun : p.run s st with ⟨error' | result, st₁⟩
  · rw [hrun] at hsame
    exact ⟨rfl, hsame⟩
  · rw [hrun] at hsame
    subst hsame
    rcases hfails.of_andThen with ⟨hfirst, -⟩ | ⟨result', hfirst, hsecond⟩
    · rw [hrun] at hfirst
      cases hfirst
    · rw [hrun] at hfirst hsecond
      cases hfirst
      exact hf result s st₁ error hsecond

end Program

/-! ## The four tags that bind variables -/

namespace Builtin

open Program

theorem assignAll_checksFirst (e : Element) : (assignAll e).ChecksFirst := by
  unfold assignAll
  simp only [bind_eq_andThen]
  split
  · exact (onlyLooks_fail _).checksFirst
  · refine onlyLooks_scope.andThen fun scope => ?_
    split
    · split
      · exact (onlyLooks_fail _).checksFirst
      · exact ((neverFailsAlone_done ()).update _).checksFirst
    · exact ((neverFailsAlone_done ()).update _).checksFirst

theorem capture_checksFirst (e : Element) : (capture e).ChecksFirst := by
  unfold capture
  simp only [bind_eq_andThen]
  refine onlyLooks_scope.andThen fun scope => (onlyLooks_ofExcept _).andThen fun name => ?_
  refine ((neverFailsAlone_rendered .body).andThen fun result => ?_).checksFirst
  split
  · exact neverFailsAlone_done _
  · exact ((neverFailsAlone_done ()).update _).andThen fun _ => neverFailsAlone_done _

theorem loopBody_checksFirst {e : Element} (hcondition : e.tag.attr? "condition" = none) :
    (loopBody e).ChecksFirst := by
  unfold loopBody
  simp only [bind_eq_andThen, hcondition]
  refine onlyLooks_limits.andThen fun limits => onlyLooks_scope.andThen fun scope =>
    (onlyLooks_ofExcept _).andThen fun items => ?_
  exact NeverFailsAlone.checksFirst fun s st error => not_failsAlone_passOver _ _ _ _ s st error

/-! ## Declarations -/

/-- A declaration binds its default: the variable is not bound, and there is one. -/
structure TakesDefault (tag : Tag) (scope : Scope) (name : String) (value : Value) : Prop where
  name_eq : tag.text? scope "name" = some name
  unbound : scope.contains name = false
  default_eq : tag.value? scope "default" = some value

variable {e : Element}

/-- The check of the type comes last, and sees what was bound. -/
theorem run_checkType (tag : Tag) (name : String) (s : Surroundings) (st : RenderState) :
    (Program.scope.andThen fun scope => ofExcept (checkType tag name scope)).run s st =
      (checkType tag name st.scope, st) := by
  show (ofExcept (checkType tag name st.scope)).run s st = _
  cases checkType tag name st.scope with
  | error error => rfl
  | ok => rfl

/-- A value of another type than the tag demands. -/
theorem checkType_of_other {tag : Tag} {name raw : String} {scope : Scope}
    (htype : tag.attr? "type" = some raw)
    (hother : isOfType? (Text.foldAscii raw) ((scope.get? name).getD .null) = some false) :
    checkType tag name scope =
      .error (.invalidParamType name (Text.foldAscii raw) tag.span.line) := by
  rw [checkType, htype]
  simp only [hother]

/-- What a declaration comes to. -/
theorem run_declare (e : Element) (s : Surroundings) (st : RenderState) : (declare e).run s st =
    match e.tag.requireText st.scope "name" with
    | .error error => (.error error, st)
    | .ok name =>
      if st.scope.contains name = true then (checkType e.tag name st.scope, st)
      else match e.tag.value? st.scope "default" with
        | none => (.error (.missingRequiredParam name e.tag.span.line), st)
        | some value => (checkType e.tag name (st.scope.insert name value),
            { st with scope := st.scope.insert name value }) := by
  show ((ofExcept (e.tag.requireText st.scope "name")).andThen _).run s st = _
  rw [run_andThen]
  cases e.tag.requireText st.scope "name" with
  | error error => rfl
  | ok name =>
    show Program.run s (if (!st.scope.contains name) = true then _ else _) st =
      if st.scope.contains name = true then _ else _
    cases st.scope.contains name with
    | true => exact run_checkType e.tag name s st
    | false =>
      simp only [RenderState.view]
      cases e.tag.value? st.scope "default" with
      | none => rfl
      | some value => exact run_checkType e.tag name s _

/-- A program that asks for nothing has rendered nothing. -/
theorem renderings_of_asks {p : Program α} (h : p.Asks fun _ => False) : p.renderings s st = [] := by
  induction p generalizing st with
  | done => rfl
  | fail => rfl
  | look next ih => exact ih _ (h _)
  | update change next ih => exact ih h
  | render region next => exact h.1.elim
  | embed path next => exact h.1.elim

/-- A declaration that fails has changed nothing, unless it has bound its default and the default is
not of the type. -/
theorem run_declare_of_error (h : ((declare e).run s st).1 = .error error) :
    (∀ name value, TakesDefault e.tag st.scope name value →
      checkType e.tag name (st.scope.insert name value) = .error error ∧
      ((declare e).run s st).2 = { st with scope := st.scope.insert name value }) ∧
    ((∀ name value, ¬TakesDefault e.tag st.scope name value) → ((declare e).run s st).2 = st) := by
  rw [run_declare] at h ⊢
  constructor
  · rintro name value ⟨hname, hunbound, hdefault⟩
    have hrequired : e.tag.requireText st.scope "name" = .ok name := by
      rw [Tag.requireText, hname]
    simp only [hrequired, hunbound, hdefault] at h ⊢
    exact ⟨h, rfl⟩
  · intro hnone
    cases hname : e.tag.requireText st.scope "name" with
    | error => rfl
    | ok name =>
      simp only
      split
      · rfl
      · next hunbound =>
        cases hdefault : e.tag.value? st.scope "default" with
        | none => rfl
        | some value =>
          have htakes : TakesDefault e.tag st.scope name value :=
            ⟨text?_of_requireText hname, Bool.eq_false_iff.mpr hunbound, hdefault⟩
          exact absurd htakes (hnone name value)

end Builtin

end TagTemplate
