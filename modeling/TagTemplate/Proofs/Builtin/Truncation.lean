import TagTemplate.Proofs.Builtin.Flows
import TagTemplate.Proofs.Builtin.Limits
import TagTemplate.Proofs.Render.AbortRecord
import TagTemplate.Proofs.Render.Truncation

/-!
# The built-in tags where a body aborts

A built-in tag in whose body something aborts ends there, and hands on what has been put out: a loop
the output of its passes so far, any other tag that of its body, and a capture nothing at all. No
tag takes back what its body has put out. So a render with the built-in tags is a render without
aborts or that render cut off (`setting_truncates`). And only the abort itself aborts without
anything in its body doing so (`registry_innocent`).
-/

namespace TagTemplate.Builtin

open Program

variable {same : Region → Region → Prop} {α : Type}

/-! ## Steps of hooks -/

theorem truncates_scope {f f' : Scope → Program (String × Flow)}
    (h : ∀ scope, Program.Truncates same (f scope) (f' scope)) :
    Program.Truncates same (Program.scope.andThen f) (Program.scope.andThen f') :=
  .look fun view => h view.scope

theorem truncates_ofExcept (result : Except RenderError α) {f f' : α → Program (String × Flow)}
    (h : ∀ a, result = .ok a → Program.Truncates same (f a) (f' a)) :
    Program.Truncates same ((ofExcept result).andThen f) ((ofExcept result).andThen f') := by
  cases result with
  | error e => exact .fail e _
  | ok a => exact h a rfl

/-- What is passed on is cut off where it aborts. -/
theorem truncates_rendered {region region' : Region} (h : same region region') :
    Program.Truncates same (.rendered region) (.rendered region') := by
  refine .render h CarriesOver.passesErrorsOn_passOn CarriesOver.passesErrorsOn_passOn
    (fun text flow _ => .done (text, flow)) fun text text' flow hbegins => ?_
  exact ⟨text, rfl, hbegins⟩

/-! ## Loops -/

/-- What a loop begins with after a pass, whatever its further passes put out. -/
theorem afterPass_begins {start out : String} (rendered : Rendered)
    (hstart : start.toList <+: (out ++ rendered.text).toList)
    {onward : String → Program (String × Flow)}
    (h : ∀ out, (onward out).Yields (fun _ => True) (out.toList <+: ·.1.toList)) :
    (afterPass out rendered onward).Yields (fun _ => True) (start.toList <+: ·.1.toList) := by
  unfold afterPass
  split
  · trivial
  · exact (h _).mono fun _ hresult => hstart.trans hresult
  · exact hstart
  · exact hstart

theorem prefix_append_left (out text : String) : out.toList <+: (out ++ text).toList := by
  rw [String.toList_append]
  exact List.prefix_append _ _

/-- No further pass takes back what the passes so far have put out. -/
theorem passOver_begins (tag : Tag) (place : Nat) (items : List Value) (out : String) :
    (passOver tag place items out).Yields (fun _ => True) (out.toList <+: ·.1.toList) := by
  induction items generalizing place out with
  | nil => exact List.prefix_rfl
  | cons element rest ih =>
    intro rendered _
    exact afterPass_begins rendered (prefix_append_left _ _) (ih (place + 1))

theorem passWhile_begins (tag : Tag) (condition : String) (limit left : Nat) (out : String) :
    (passWhile tag condition limit left out).Yields (fun _ => True)
      (out.toList <+: ·.1.toList) := by
  induction left generalizing out with
  | zero =>
    rw [passWhile]
    intro view
    simp only
    split
    · trivial
    · exact List.prefix_rfl
    · trivial
  | succ left ih =>
    rw [passWhile]
    intro view
    simp only
    split
    · trivial
    · exact List.prefix_rfl
    · intro rendered _
      exact afterPass_begins rendered (prefix_append_left _ _) ih

/-- A pass that aborts ends the loop with the output so far, and any other pass is the same in both
renders. -/
theorem truncates_pass (hsame : same .body .body) (out : String)
    {onward : String → Program (String × Flow)}
    (hbegins : ∀ out, (onward out).Yields (fun _ => True) (out.toList <+: ·.1.toList))
    (h : ∀ out, Program.Truncates same (onward out) (onward out)) :
    Program.Truncates same (.render .body fun rendered => afterPass out rendered onward)
      (.render .body fun rendered => afterPass out rendered onward) := by
  refine .render hsame (passesErrorsOn_afterPass _ _) (passesErrorsOn_afterPass _ _) ?_ ?_
  · intro text flow hflow
    cases flow with
    | proceed => exact h _
    | breakLoop => exact .done _
    | abort => exact absurd rfl hflow
  · intro text text' flow hmore
    refine ⟨out ++ text, rfl, afterPass_begins _ ?_ hbegins⟩
    rw [String.toList_append, String.toList_append]
    exact (List.prefix_append_right_inj _).mpr hmore

theorem passOver_truncates (hsame : same .body .body) (tag : Tag) (place : Nat)
    (items : List Value) (out : String) :
    Program.Truncates same (passOver tag place items out) (passOver tag place items out) := by
  induction items generalizing place out with
  | nil => exact .done _
  | cons element rest ih =>
    exact .update _ (truncates_pass hsame out (passOver_begins tag (place + 1) rest) (ih (place + 1)))

theorem passWhile_truncates (hsame : same .body .body) (tag : Tag) (condition : String)
    (limit left : Nat) (out : String) :
    Program.Truncates same (passWhile tag condition limit left out)
      (passWhile tag condition limit left out) := by
  induction left generalizing out with
  | zero =>
    rw [passWhile]
    refine .look fun view => ?_
    split
    · exact .fail _ _
    · exact .done _
    · exact .fail _ _
  | succ left ih =>
    rw [passWhile]
    refine .look fun view => ?_
    split
    · exact .fail _ _
    · exact .done _
    · exact truncates_pass hsame out (passWhile_begins tag condition limit left) ih

theorem loopBody_truncates (e : Element) :
    Program.Truncates (SameRegion e.children) (loopBody e) (loopBody e.withoutAborts) := by
  show Program.Truncates _ (loopBody e) (loopBody e)
  have hbody : SameRegion e.children .body .body := trivial
  refine .look fun view => ?_
  simp only [bind_eq_andThen, andThen]
  split
  · exact passWhile_truncates hbody _ _ _ _ _
  · refine truncates_scope fun scope => truncates_ofExcept _ fun elements _ => ?_
    exact passOver_truncates hbody _ _ _ _

/-! ## Captures -/

/-- A capture in which something aborts puts out nothing, as any other one. -/
theorem capture_truncates (e : Element) :
    Program.Truncates (SameRegion e.children) (capture e) (capture e.withoutAborts) := by
  unfold capture
  simp only [bind_eq_andThen]
  refine truncates_scope fun scope => truncates_ofExcept _ fun name _ => ?_
  refine .render trivial (CarriesOver.passesErrorsOn_passOn.andThen _)
    (CarriesOver.passesErrorsOn_passOn.andThen _) ?_ ?_
  · intro text flow hflow
    simp only [passOn, andThen, if_neg hflow]
    exact .update _ (.done _)
  · intro text text' flow _
    refine ⟨"", rfl, ?_⟩
    exact (Yields.anything _).mono fun _ _ => List.nil_prefix

/-! ## The switch -/

/-- A switch chooses the same child when the aborts are taken out, unless it has none to choose.
`before` are the children that have been looked at. -/
theorem chosenChild_withoutAborts {scope : Scope} {expression : String} {children : List Node}
    {before nodes : List Node} (hchildren : children = before ++ nodes)
    {fallback fallback' : Option Nat} (hfallback : Option.Rel (KeptAt children) fallback fallback')
    {chosen : Option Nat}
    (h : chosenChild scope expression before.length fallback nodes = .ok chosen) :
    ∃ chosen', chosenChild scope expression (withoutAbortsAll before).length fallback'
        (withoutAbortsAll nodes) = .ok chosen' ∧ Option.Rel (KeptAt children) chosen chosen' := by
  induction nodes generalizing before fallback fallback' with
  | nil =>
    cases h
    exact ⟨fallback', rfl, hfallback⟩
  | cons node rest ih =>
    have hnext : children = (before ++ [node]) ++ rest := by rw [hchildren, List.append_cons]
    have hplace : (before ++ [node]).length = before.length + 1 := List.length_append
    have hplace' : (withoutAbortsAll (before ++ [node])).length = (withoutAbortsAll before).length +
        if node.isAbort then 0 else 1 := by
      rw [withoutAbortsAll_append, List.length_append, withoutAbortsAll]
      cases node.isAbort <;> rfl
    -- the search goes on in the same way after a child that is not chosen
    have hlater : ∀ {fallback fallback'}, Option.Rel (KeptAt children) fallback fallback' →
        chosenChild scope expression (before.length + 1) fallback rest = .ok chosen →
        ∃ chosen', chosenChild scope expression ((withoutAbortsAll before).length +
          if node.isAbort then 0 else 1) fallback' (withoutAbortsAll rest) = .ok chosen' ∧
            Option.Rel (KeptAt children) chosen chosen' := by
      intro fallback fallback' hfallback h
      rw [← hplace] at h
      rw [← hplace']
      exact ih hnext hfallback h
    rw [chosenChild] at h
    cases hkept : node.isAbort with
    | true =>
      rw [hkept] at hlater
      rw [withoutAbortsAll, if_pos hkept]
      -- an abort is neither a case nor a default
      obtain ⟨tag, htag, hname⟩ := exists_tag_of_isAbort hkept
      rw [htag] at h
      simp only at h
      rw [hname, if_neg (by decide), if_neg (by decide)] at h
      exact hlater hfallback h
    | false =>
      rw [hkept] at hlater
      rw [withoutAbortsAll, if_neg (by simp [hkept]), chosenChild, tag?_withoutAborts]
      have hat : KeptAt children before.length (withoutAbortsAll before).length :=
        ⟨before, node, rest, hchildren, hkept, rfl, rfl⟩
      cases htag : node.tag? with
      | none =>
        rw [htag] at h
        exact hlater hfallback h
      | some tag =>
        rw [htag] at h
        simp only at h ⊢
        by_cases hcase : tag.name = "cfcase"
        · rw [if_pos hcase] at h ⊢
          cases hvalue : tag.requireText scope "value" with
          | error e =>
            rw [hvalue] at h
            cases h
          | ok value =>
            rw [hvalue] at h
            simp only at h ⊢
            by_cases hmatches : caseMatches tag value expression = true
            · rw [if_pos hmatches] at h ⊢
              cases h
              exact ⟨_, rfl, .some hat⟩
            · rw [if_neg hmatches] at h ⊢
              exact hlater hfallback h
        · rw [if_neg hcase] at h ⊢
          by_cases hdefault : tag.name = "cfdefault"
          · rw [if_pos hdefault] at h ⊢
            refine hlater ?_ h
            cases hfallback with
            | none => exact .some hat
            | some hbefore => exact .some hbefore
          · rw [if_neg hdefault] at h ⊢
            exact hlater hfallback h

theorem switchBody_truncates (e : Element) :
    Program.Truncates (SameRegion e.children) (switchBody e) (switchBody e.withoutAborts) := by
  have hchildren : e.withoutAborts.children = withoutAbortsAll e.children := by
    rcases e with ⟨tag, _ | children⟩ <;> rfl
  unfold switchBody
  simp only [bind_eq_andThen, hchildren]
  refine truncates_scope fun scope => truncates_ofExcept _ fun expression _ => ?_
  cases hchosen : chosenChild scope expression 0 none e.children with
  | error error => exact .fail _ _
  | ok chosen =>
    obtain ⟨chosen', hchosen', hsame⟩ := @chosenChild_withoutAborts scope expression e.children []
      e.children (List.nil_append _).symm none none .none chosen hchosen
    rw [show chosenChild scope expression 0 none (withoutAbortsAll e.children) = _ from hchosen']
    cases hsame with
    | none => exact .done _
    | some hkept => exact truncates_rendered hkept

/-! ## The other hooks -/

theorem embedTemplate_truncates (e : Element) :
    Program.Truncates same (embedTemplate e) (embedTemplate e) :=
  truncates_scope fun _ => truncates_ofExcept _ fun path _ =>
    .embed path CarriesOver.passesErrorsOn_passOn fun text flow => .done (text, flow)

/-- The structure of a value comes after the output of the body. -/
theorem describeVariable_begins (e : Element) (text : String) :
    (describeVariable e text).Yields (fun _ => True) (text.toList <+: ·.toList) := by
  intro view
  simp only [andThen]
  split
  · exact prefix_append_left _ _
  · exact List.prefix_rfl

/-! ## The registry -/

/-- Each of the built-in tags but the abort ends where something in its body aborts. -/
theorem handlers_truncate :
    ∀ entry ∈ handlers, Text.foldAscii entry.1 = abortName ∨ entry.2.Truncates := by
  have hdone : ∀ {α : Type} {a : α}, (Program.done a).Asks fun _ => False := trivial
  have hany : ∀ p : Program (String × Flow), p.Asks fun _ => True := fun p => p.asks_anything
  have hkeeps : ∀ (_ : Element) (text : String),
      (Program.done text).Yields (fun _ => True) (text.toList <+: ·.toList) :=
    fun _ _ => List.prefix_rfl
  have hbody : ∀ e : Element, Program.Truncates (SameRegion e.children) (Program.rendered .body)
      (Program.rendered .body) := fun _ => truncates_rendered trivial
  simp only [handlers, List.forall_mem_cons, List.not_mem_nil, false_implies, implies_true,
    and_true]
  -- the hooks around the body are functions of the tag
  refine ⟨.inr ⟨fun e => ⟨hdone, hdone, hany _, fun _ => hdone⟩, fun _ => ⟨rfl, rfl, rfl⟩, hbody,
      hkeeps⟩,
    .inr ⟨fun e => ⟨hdone, hdone, hany _, describeVariable_asks e⟩, fun _ => ⟨rfl, rfl, rfl⟩,
      hbody, describeVariable_begins⟩,
    .inr ⟨fun e => ⟨conditionGuard_asks e, hdone, hany _, fun _ => hdone⟩,
      fun _ => ⟨rfl, rfl, rfl⟩, hbody, hkeeps⟩,
    .inr ⟨fun e => ⟨conditionGuard_asks e, hdone, hany _, fun _ => hdone⟩,
      fun _ => ⟨rfl, rfl, rfl⟩, hbody, hkeeps⟩,
    .inr ⟨fun e => ⟨hdone, hdone, hany _, fun _ => hdone⟩, fun _ => ⟨rfl, rfl, rfl⟩, hbody,
      hkeeps⟩,
    .inr ⟨fun e => ⟨hdone, hdone, hany _, fun _ => hdone⟩, fun _ => ⟨rfl, rfl, rfl⟩,
      loopBody_truncates, hkeeps⟩,
    .inr ⟨fun e => ⟨hdone, hdone, hany _, fun _ => hdone⟩, fun _ => ⟨rfl, rfl, rfl⟩,
      switchBody_truncates, hkeeps⟩,
    .inr ⟨fun e => ⟨hdone, trivial, hany _, fun _ => hdone⟩, fun _ => ⟨rfl, rfl, rfl⟩, hbody,
      hkeeps⟩,
    .inr ⟨fun e => ⟨hdone, trivial, hany _, fun _ => hdone⟩, fun _ => ⟨rfl, rfl, rfl⟩, hbody,
      hkeeps⟩,
    .inr ⟨fun e => ⟨hdone, declare_asks e, hany _, fun _ => hdone⟩, fun _ => ⟨rfl, rfl, rfl⟩,
      hbody, hkeeps⟩,
    .inr ⟨fun e => ⟨hdone, assignAll_asks e, hany _, fun _ => hdone⟩, fun _ => ⟨rfl, rfl, rfl⟩,
      hbody, hkeeps⟩,
    .inr ⟨fun e => ⟨hdone, hdone, hany _, fun _ => hdone⟩, fun _ => ⟨rfl, rfl, rfl⟩,
      capture_truncates, hkeeps⟩,
    .inr ⟨fun e => ⟨hdone, hdone, hany _, fun _ => hdone⟩, fun _ => ⟨rfl, rfl, rfl⟩,
      fun e => embedTemplate_truncates e, hkeeps⟩,
    .inr ⟨fun e => ⟨hdone, hdone, hany _, fun _ => hdone⟩, fun _ => ⟨rfl, rfl, rfl⟩,
      fun _ => .done _, hkeeps⟩,
    .inl (by decide)⟩

theorem get?_abort : registry.get? abortName = some abortTag := rfl

/-- A tag with the handler of aborts comes to an abort without any output, or to an error. -/
theorem ending_of_abortTag (e : Element) (s : Surroundings) (st : RenderState) {text : String}
    {flow : Flow} (hending : (abortTag.activate e s st).ending? = some (text, flow)) :
    text = "" ∧ flow = .abort := by
  have hends : ∀ {result st' st''}, (abortTag.body e).runHook s .body e.tag .body st' =
      (.ok result, st'') → result = ("", Flow.abort) := fun hrun =>
    (abortRender_yields e).of_runHook s.answers_anything (abortRender e).asks_anything hrun
  have ha := abortTag.activates_activate e s st
  generalize abortTag.activate e s st = a at ha hending
  cases ha with
  | guardFails => cases hending
  | guardDeclines hguard => cases congrArg Prod.fst hguard
  | enterFails => cases hending
  | bodyFails => cases hending
  | exitFails => cases hending
  | bodyEnds _ _ _ hbody =>
    cases hending
    exact Prod.mk.inj (hends hbody)
  | exits _ _ hbody _ =>
    obtain ⟨-, hflow⟩ := Prod.mk.inj (hends hbody)
    cases hflow

/-- With the built-in tags, nothing is lost of a render where something aborts but what would have
come after. -/
theorem setting_truncates {s : Setting} (h : s.registry = registry) : s.Truncates where
  abort handler hget := by
    rw [h, get?_abort] at hget
    cases hget
    exact ⟨rfl, fun e surroundings st _ _ => ending_of_abortTag e surroundings st⟩
  others name handler hget hname := by
    have hempty : ∀ name h, Registry.empty.get? name = some h →
        name = abortName ∨ h.Truncates := fun _ _ hget => nomatch hget
    rw [h] at hget
    exact (Registry.of_get?_registerEach hempty handlers_truncate name handler hget).resolve_left
      hname

/-- Only the abort itself aborts without anything in its body doing so. -/
theorem registry_innocent {name : String} {h : Handler} (hget : registry.get? name = some h)
    (hname : name ≠ abortName) : h.IsInnocent :=
  registry_handsOn (by decide) hget fun hsame => hname (Option.some.inj hsame)

end TagTemplate.Builtin
