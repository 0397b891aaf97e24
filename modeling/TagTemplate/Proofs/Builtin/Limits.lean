import TagTemplate.Builtin.Registry
import TagTemplate.Proofs.Decimal.Order
import TagTemplate.Proofs.Handler.Registry
import TagTemplate.Proofs.Render.Limits

/-!
# The built-in tags under wider limits

None of the built-in tags recovers from an error, and only loops look at the limits. A loop that
keeps to a narrow limit keeps to a wide one: its elements are the same, and so are its passes. So
what each of the tags does carries over to wider limits (`registry_carriesOver`).
-/

namespace TagTemplate.Builtin

open Program

variable {narrow wide : Limits}

/-! ## Loops -/

/-- Numbers that the narrow limit allows are allowed by the wide one. -/
theorem numbersBetween_of_le {tag : Tag} {limit limit' : Nat} (h : limit ≤ limit')
    {first last step : Float} {items : List Value}
    (hok : numbersBetween tag limit first last step = .ok items) :
    numbersBetween tag limit' first last step = .ok items := by
  unfold numbersBetween at hok ⊢
  simp only at hok ⊢
  split at hok
  · next hempty =>
    rw [if_pos hempty]
    exact hok
  · next hspan =>
    split at hok
    · cases hok
    · next hroom =>
      rw [if_neg hspan, if_neg fun hover => hroom (Decimal.ofRatio_lt_of_le h hover)]
      exact hok

theorem withinLimit_of_le {tag : Tag} {limit limit' : Nat} (h : limit ≤ limit')
    {items allowed : List Value} (hok : withinLimit tag limit items = .ok allowed) :
    withinLimit tag limit' items = .ok allowed := by
  unfold withinLimit at hok ⊢
  split at hok
  · cases hok
  · rw [if_neg (by omega)]
    exact hok

/-- A result of two parts succeeds when both do. -/
theorem bind_eq_ok {ε α β : Type} {x : Except ε α} {f : α → Except ε β} {b : β}
    (h : x >>= f = .ok b) : ∃ a, x = .ok a ∧ f a = .ok b := by
  cases x with
  | error e => cases h
  | ok a => exact ⟨a, rfl, h⟩

theorem rangeElements_of_le {tag : Tag} {scope : Scope} {limit limit' : Nat} (h : limit ≤ limit')
    {items : List Value} (hok : rangeElements tag scope limit = .ok items) :
    rangeElements tag scope limit' = .ok items := by
  unfold rangeElements at hok ⊢
  obtain ⟨first, hfirst, hok⟩ := bind_eq_ok hok
  obtain ⟨last, hlast, hok⟩ := bind_eq_ok hok
  rw [hfirst, hlast]
  -- the step is read or it is one, and what follows is the same
  have hnumbers : ∀ step : Float,
      (if step == 0 then .error (tag.invalid "step" "0" .zeroStep)
        else numbersBetween tag limit first last step) = .ok items →
      (if step == 0 then .error (tag.invalid "step" "0" .zeroStep)
        else numbersBetween tag limit' first last step) = .ok items := by
    intro step hok
    split at hok
    · cases hok
    · next hzero =>
      rw [if_neg hzero]
      exact numbersBetween_of_le h hok
  simp only at hok ⊢
  split at hok
  · next hcontains =>
    obtain ⟨step, hstep, hok⟩ := bind_eq_ok hok
    show (if _ then _ else _) = _
    rw [if_pos hcontains, hstep]
    exact hnumbers step hok
  · next hcontains =>
    show (if _ then _ else _) = _
    rw [if_neg hcontains]
    exact hnumbers 1 hok

/-- Elements that the narrow limit allows are allowed by the wide one. -/
theorem loopElements_of_le {tag : Tag} {scope : Scope} {limit limit' : Nat} (h : limit ≤ limit')
    {items : List Value} (hok : loopElements tag scope limit = .ok items) :
    loopElements tag scope limit' = .ok items := by
  unfold loopElements at hok ⊢
  split at hok
  · next hrange =>
    rw [if_pos hrange]
    obtain ⟨elements, helements, hwithin⟩ := bind_eq_ok hok
    rw [rangeElements_of_le h helements]
    exact withinLimit_of_le h hwithin
  · next hrange =>
    rw [if_neg hrange]
    cases hlist : tag.value? scope "list" with
    | some v =>
      rw [hlist] at hok
      exact withinLimit_of_le h hok
    | none =>
      rw [hlist] at hok
      simp only at hok ⊢
      cases harray : tag.value? scope "array" with
      | none =>
        rw [harray] at hok
        cases hok
      | some v =>
        rw [harray] at hok
        obtain ⟨elements, helements, hwithin⟩ := bind_eq_ok hok
        show arrayElements tag v >>= withinLimit tag limit' = _
        rw [helements]
        exact withinLimit_of_le h hwithin

/-- What follows a pass carries over when all further passes do. -/
theorem afterPass_carriesOver (out text : String) (flow : Flow)
    {onward onward' : String → Program (String × Flow)}
    (h : ∀ out, CarriesOver narrow wide (onward out) (onward' out)) :
    CarriesOver narrow wide (afterPass out ⟨text, .ok flow⟩ onward)
      (afterPass out ⟨text, .ok flow⟩ onward') := by
  cases flow with
  | proceed => exact h _
  | breakLoop => exact .done _
  | abort => exact .done _

theorem passesErrorsOn_afterPass (out : String) (onward : String → Program (String × Flow)) :
    PassesErrorsOn fun rendered => afterPass out rendered onward :=
  fun _ e => ⟨e, rfl⟩

/-- The passes over given elements carry over. -/
theorem passOver_carriesOver (tag : Tag) (place : Nat) (items : List Value) (out : String) :
    CarriesOver narrow wide (passOver tag place items out) (passOver tag place items out) := by
  induction items generalizing place out with
  | nil => exact .done _
  | cons element rest ih =>
    refine .update _ (.render .body (passesErrorsOn_afterPass _ _) fun text flow => ?_)
    exact afterPass_carriesOver out text flow (ih (place + 1))

/-- The passes under a condition carry over when at least as many are left. -/
theorem passWhile_carriesOver (tag : Tag) (condition : String) (limit limit' : Nat)
    {left left' : Nat} (h : left ≤ left') (out : String) :
    CarriesOver narrow wide (passWhile tag condition limit left out)
      (passWhile tag condition limit' left' out) := by
  -- Where none is left under the narrow limit, the condition either fails to hold or is refused.
  induction left generalizing left' out with
  | zero =>
    rw [passWhile, passWhile.eq_def tag condition limit' left' out]
    refine .look fun scope _ => ?_
    simp only
    split
    · exact .fail _ _
    · exact .done _
    · exact .fail _ _
  | succ left ih =>
    obtain ⟨left', rfl⟩ : ∃ n, left' = n + 1 := ⟨left' - 1, by omega⟩
    rw [passWhile, passWhile]
    refine .look fun scope _ => ?_
    simp only
    split
    · exact .fail _ _
    · exact .done _
    · refine .render .body (passesErrorsOn_afterPass _ _) fun text flow => ?_
      exact afterPass_carriesOver out text flow (ih (by omega))

/-- A loop carries over. -/
theorem loopBody_carriesOver (h : narrow ≤ wide) (e : Element) :
    CarriesOver narrow wide (loopBody e) (loopBody e) := by
  unfold loopBody
  refine .look fun scope _ => ?_
  simp only [bind_eq_andThen, andThen]
  split
  · exact passWhile_carriesOver _ _ _ _ h.1 _
  · refine .andThen .scope fun scope => .andThen (.ofExcept ?_) fun elements => ?_
    · exact fun items hok => loopElements_of_le h.1 hok
    · exact passOver_carriesOver _ _ _ _

/-! ## The other hooks -/

theorem conditionGuard_carriesOver (e : Element) :
    CarriesOver narrow wide (conditionGuard e) (conditionGuard e) :=
  .andThen .scope fun _ => .ofExcept fun _ h => h

theorem declare_carriesOver (e : Element) :
    CarriesOver narrow wide (declare e) (declare e) := by
  unfold declare
  simp only [bind_eq_andThen]
  refine .andThen .scope fun scope => .andThen (.ofExcept fun _ h => h) fun name => ?_
  have hcheck : CarriesOver narrow wide
      (Program.scope.andThen fun scope => ofExcept (checkType e.tag name scope))
      (Program.scope.andThen fun scope => ofExcept (checkType e.tag name scope)) :=
    .andThen .scope fun _ => .ofExcept fun _ h => h
  split
  · split
    · exact .fail _ _
    · exact .andThen (.assign _ _) fun _ => hcheck
  · exact hcheck

theorem assignAll_carriesOver (e : Element) :
    CarriesOver narrow wide (assignAll e) (assignAll e) := by
  unfold assignAll
  simp only [bind_eq_andThen]
  split
  · exact .fail _ _
  · refine .andThen .scope fun scope => ?_
    split
    · split
      · exact .fail _ _
      · exact .assign _ _
    · exact .update _ (.done ())

theorem capture_carriesOver (e : Element) :
    CarriesOver narrow wide (capture e) (capture e) := by
  unfold capture
  simp only [bind_eq_andThen]
  refine .andThen .scope fun scope => .andThen (.ofExcept fun _ h => h) fun name => ?_
  refine .andThen (.rendered .body) fun result => ?_
  split
  · exact .done _
  · exact .andThen (.assign _ _) fun _ => .done _

theorem switchBody_carriesOver (e : Element) :
    CarriesOver narrow wide (switchBody e) (switchBody e) := by
  unfold switchBody
  simp only [bind_eq_andThen]
  refine .andThen .scope fun scope => .andThen (.ofExcept fun _ h => h) fun expression => ?_
  refine .andThen (.ofExcept fun _ h => h) fun chosen => ?_
  split
  · exact .rendered _
  · exact .done _

theorem describeVariable_carriesOver (e : Element) (text : String) :
    CarriesOver narrow wide (describeVariable e text) (describeVariable e text) := by
  unfold describeVariable
  refine .andThen .scope fun scope => ?_
  split <;> exact .done _

theorem embedTemplate_carriesOver (e : Element) :
    CarriesOver narrow wide (embedTemplate e) (embedTemplate e) :=
  .andThen .scope fun _ => .andThen (.ofExcept fun _ h => h) fun path => .embedded path

theorem abortRender_carriesOver (e : Element) :
    CarriesOver narrow wide (abortRender e) (abortRender e) := by
  unfold abortRender
  refine .andThen .scope fun scope => ?_
  split
  · exact .fail _ _
  · exact .done _

/-! ## The registry -/

/-- Each of the built-in tags carries over. -/
theorem handlers_carriesOver (h : narrow ≤ wide) :
    ∀ entry ∈ handlers, entry.2.CarriesOver narrow wide := by
  have hguard : ∀ _ : Element, CarriesOver narrow wide (.done true) (.done true) :=
    fun _ => .done true
  have henter : ∀ _ : Element, CarriesOver narrow wide (.done ()) (.done ()) := fun _ => .done ()
  have hbody : ∀ _ : Element, CarriesOver narrow wide (Program.rendered .body) (.rendered .body) :=
    fun _ => .rendered .body
  have hexit : ∀ (_ : Element) (text : String), CarriesOver narrow wide (.done text) (.done text) :=
    fun _ text => .done text
  have houtside : ∀ e, CarriesOver narrow wide (outsideSwitch e) (outsideSwitch e) :=
    fun _ => .fail _ _
  simp only [handlers, List.forall_mem_cons, List.not_mem_nil, false_implies, implies_true,
    and_true]
  refine ⟨⟨hguard, henter, hbody, hexit⟩, ⟨hguard, henter, hbody, describeVariable_carriesOver⟩,
    ⟨conditionGuard_carriesOver, henter, hbody, hexit⟩,
    ⟨conditionGuard_carriesOver, henter, hbody, hexit⟩,
    ⟨hguard, henter, hbody, hexit⟩,
    ⟨hguard, henter, loopBody_carriesOver h, hexit⟩,
    ⟨hguard, henter, switchBody_carriesOver, hexit⟩,
    ⟨hguard, houtside, hbody, hexit⟩,
    ⟨hguard, houtside, hbody, hexit⟩,
    ⟨hguard, declare_carriesOver, hbody, hexit⟩,
    ⟨hguard, assignAll_carriesOver, hbody, hexit⟩,
    ⟨hguard, henter, capture_carriesOver, hexit⟩,
    ⟨hguard, henter, embedTemplate_carriesOver, hexit⟩,
    ⟨hguard, henter, fun _ => .done _, hexit⟩,
    ⟨hguard, henter, abortRender_carriesOver, hexit⟩⟩

/-- Each handler of the registry carries over. -/
theorem registry_carriesOver (h : narrow ≤ wide) (name : String) (handler : Handler)
    (hget : registry.get? name = some handler) : handler.CarriesOver narrow wide := by
  have hempty : ∀ name h, Registry.empty.get? name = some h → h.CarriesOver narrow wide :=
    fun _ _ hget => nomatch hget
  exact Registry.of_get?_registerAll hempty (handlers_carriesOver h) name handler hget

end TagTemplate.Builtin
