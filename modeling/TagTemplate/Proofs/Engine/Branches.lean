import TagTemplate.Proofs.Builtin.Branches
import TagTemplate.Proofs.Handler.Registry
import TagTemplate.Proofs.Render.Truncation

/-!
# Chains of branches

Where a chain of branches is walked, those in front decline, one after the other and with no effect
but an entry in the journal (`walk_declined`); the first whose condition holds comes to its body
(`node_branch`); and those behind it are passed over (`walk_passed`). A branch that needs a chain
and has none before it is misplaced, and its guard is not asked (`walk_misplaced`).
-/

namespace TagTemplate

variable {s : Setting} {e : Element} {h : Handler} {chain : Chain} {out : String}
  {st : RenderState}

/-! ## Walking a chain -/

namespace Setting

open Builtin

variable {arm : Arm} {arms before after : List Arm} {rest : List Node}

/-- Blank text goes to the buffer and does not break a chain. -/
theorem walk_gap {gap : List String} (hblank : ∀ text ∈ gap, Text.isBlankText text = true) :
    s.walk (gap.map .text ++ rest) chain out st =
      s.walk rest chain (out ++ String.join gap) st := by
  induction gap generalizing out with
  | nil => rw [String.join_nil, String.append_empty]; rfl
  | cons text gap ih =>
    have htext : s.node (.text text) chain out st = .goesOn chain (out ++ text) st := by
      rw [Setting.node, if_pos (hblank text (List.mem_cons_self ..))]
    rw [List.map_cons, List.cons_append, walk, htext, Step.andThen,
      ih fun other h => hblank other (List.mem_cons_of_mem _ h), String.join_cons,
      String.append_assoc]

theorem walk_arm : s.walk (arm.nodes ++ rest) chain out st =
    (s.node arm.element.node chain (out ++ arm.space) st).andThen (s.walk rest) := by
  rw [Arm.nodes, List.append_assoc, walk_gap arm.blank]
  rfl

/-- A branch declines after another one as it does before. -/
theorem declines_asked {limits : Limits} (e : Element) (answer : Except RenderError Bool) :
    arm.Declines limits (st.asked e answer) ↔ arm.Declines limits st := by
  have hdepth : (st.asked e answer).depth = st.depth :=
    congrArg Books.depth (st.books_asked e answer)
  rw [Arm.Declines, Arm.Declines, Element.Fits, Element.Fits, RenderState.scope_asked, hdepth]

/-- Where all of them decline, the later ones still do after the first was asked. -/
theorem declines_later {limits : Limits} {first : Arm}
    (hdecline : ∀ arm ∈ first :: arms, arm.Declines limits st) :
    ∀ later ∈ arms, later.Declines limits (st.asked first.element (.ok false)) := by
  intro later hmem
  exact (declines_asked ..).mpr (hdecline later (List.mem_cons_of_mem _ hmem))

theorem get?_of_handled (hbuiltin : s.registry = Builtin.registry) (hhandled : arm.IsHandledBy h) :
    s.registry.get? arm.element.tag.name = some h := by
  rw [hbuiltin]
  exact hhandled.registered

/-- The guard of a branch answers as its condition does, whatever branches were asked before. -/
theorem answers_askAll (hhandled : arm.IsHandledBy h) {answer : Except RenderError Bool}
    (hholds : arm.holds st.scope = answer) (before : List Arm) :
    h.Answers arm.element (askAll before st).scope answer := by
  rw [scope_askAll, ← hholds]
  exact hhandled.answers st.scope

/-- After a branch that declines the row goes on as a chain in which none has run. -/
theorem walk_arm_declines (hbuiltin : s.registry = Builtin.registry) {h : Handler}
    (hhandled : arm.IsHandledBy h) (hturn : turn h.branch chain = .run)
    (hdeclines : arm.Declines s.limits st) : s.walk (arm.nodes ++ rest) chain out st =
      s.walk rest (some false) (out ++ arm.space) (st.asked arm.element (.ok false)) := by
  have hanswers := answers_askAll hhandled hdeclines.2 []
  rw [walk_arm, node_of_guard_false (get?_of_handled hbuiltin hhandled) hturn hdeclines.1 hanswers,
    hhandled.chainAfter_false hdeclines.name_ne]
  rfl

/-- The later branches of a chain decline one after the other. -/
theorem walk_later_decline (hbuiltin : s.registry = Builtin.registry) (hcontinues : Continues arms)
    (hdecline : ∀ arm ∈ arms, arm.Declines s.limits st) :
    s.walk (rows arms ++ rest) (some false) out st =
      s.walk rest (some false) (out ++ spaces arms) (askAll arms st) := by
  -- Each of them is asked in the state that the one before it has left, which differs in its
  -- journal only.
  induction arms generalizing out st with
  | nil =>
    rw [spaces, List.map_nil, String.join_nil, String.append_empty]
    rfl
  | cons arm arms ih =>
    obtain ⟨h, hhandled, hturn, -, -⟩ := Arm.handled_of_later hcontinues.name_first
    rw [rows_cons, List.append_assoc,
      walk_arm_declines hbuiltin hhandled hturn (hdecline arm (List.mem_cons_self ..)),
      ih hcontinues.afterFirst.continues (declines_later hdecline), spaces_cons,
      String.append_assoc]
    rfl

/-- The branches after one that ran are passed over, and nothing else happens. -/
theorem walk_passed (hbuiltin : s.registry = Builtin.registry)
    (hcontinues : ContinuesAfter arm after) :
    s.walk (rows after ++ rest) arm.after out st =
      s.walk rest (closed (arm :: after)) (out ++ spaces after) st := by
  induction after generalizing arm out with
  | nil =>
    have hclosed : closed [arm] = arm.after := by
      rw [closed, List.any_cons, List.any_nil, Bool.or_false, Arm.after]
      simp only [beq_iff_eq]
    rw [hclosed, spaces, List.map_nil, String.join_nil, String.append_empty]
    rfl
  | cons next after ih =>
    obtain ⟨helse, hnext⟩ : arm.name ≠ "cfelse" ∧ Continues (next :: after) := by
      rcases hcontinues with h | ⟨-, h⟩
      · exact h
      · cases h
    obtain ⟨h, hhandled, -, hturn, -⟩ := Arm.handled_of_later hnext.name_first
    have hnode : s.node next.element.node (some true) (out ++ next.space) st =
        .goesOn next.after (out ++ next.space) st := by
      rw [node_tag]
      exact (Visits.passedOver (get?_of_handled hbuiltin hhandled) hturn).eq
    rw [Arm.after, if_neg helse, rows_cons, List.append_assoc, walk_arm, hnode, Step.andThen,
      ih hnext.afterFirst, closed_cons_of_ne helse, spaces_cons, String.append_assoc]

/-- The first branches of a chain decline, and the walk comes to the one after them when it is its
turn. -/
theorem walk_reaches (hbuiltin : s.registry = Builtin.registry)
    (hchain : IsChain (before ++ arm :: after))
    (hdecline : ∀ arm ∈ before, arm.Declines s.limits st) (rest : List Node) (chain : Chain)
    (out : String) :
    ∃ h, arm.IsHandledBy h ∧ turn h.branch (chainBetween chain before) = .run ∧
      s.walk (rows (before ++ arm :: after) ++ rest) chain out st =
        (s.node arm.element.node (chainBetween chain before) (out ++ spaces before ++ arm.space)
          (askAll before st)).andThen (s.walk (rows after ++ rest)) := by
  rw [rows_append, rows_cons]
  cases before with
  | nil =>
    obtain ⟨h, hhandled, hturn⟩ := Arm.handled_of_first hchain.1
    refine ⟨h, hhandled, hturn chain, ?_⟩
    show s.walk (arm.nodes ++ rows after ++ rest) chain out st = _
    rw [List.append_assoc, walk_arm, spaces, List.map_nil, String.join_nil, String.append_empty]
    rfl
  | cons first before =>
    obtain ⟨hbefore, hafter⟩ := Continues.of_append hchain.2
    obtain ⟨h, hhandled, hturn, -, -⟩ := Arm.handled_of_later hafter.name_first
    obtain ⟨hfirst, hfirstHandled, hfirstTurn⟩ := Arm.handled_of_first hchain.1
    refine ⟨h, hhandled, hturn, ?_⟩
    rw [rows_cons, List.append_assoc, List.append_assoc,
      walk_arm_declines hbuiltin hfirstHandled (hfirstTurn chain)
        (hdecline first (List.mem_cons_self ..)),
      walk_later_decline hbuiltin hbefore (declines_later hdecline), List.append_assoc, walk_arm,
      spaces_cons, ← String.append_assoc]
    rfl

/-- If all branches decline the row goes on behind them. -/
theorem walk_declined (hbuiltin : s.registry = Builtin.registry) (hchain : IsChain arms)
    (hdecline : ∀ arm ∈ arms, arm.Declines s.limits st) :
    s.walk (rows arms ++ rest) chain out st =
      s.walk rest (some false) (out ++ spaces arms) (askAll arms st) := by
  cases arms with
  | nil => exact absurd hchain id
  | cons first arms =>
    obtain ⟨h, hhandled, hturn⟩ := Arm.handled_of_first hchain.1
    rw [rows_cons, List.append_assoc,
      walk_arm_declines hbuiltin hhandled (hturn chain) (hdecline first (List.mem_cons_self ..)),
      walk_later_decline hbuiltin hchain.2 (declines_later hdecline), spaces_cons,
      String.append_assoc]
    rfl

/-- A branch whose condition cannot be evaluated ends the row. -/
theorem walk_fails (hbuiltin : s.registry = Builtin.registry)
    (hchain : IsChain (before ++ arm :: after))
    (hdecline : ∀ arm ∈ before, arm.Declines s.limits st) (rest : List Node) (chain : Chain)
    (out : String) {error : RenderError} (hfits : arm.element.Fits s.limits st)
    (hholds : arm.holds st.scope = .error error) :
    s.walk (rows (before ++ arm :: after) ++ rest) chain out st =
      ⟨out ++ spaces before ++ arm.space, .error error,
        (askAll before st).asked arm.element (.error error)⟩ := by
  obtain ⟨h, hhandled, hturn, hwalk⟩ := walk_reaches hbuiltin hchain hdecline rest chain out
  rw [hwalk, node_of_guard_error (get?_of_handled hbuiltin hhandled) hturn
    ((fits_askAll ..).mpr hfits) (answers_askAll hhandled hholds before)]
  rfl

/-- So does one for which there is no room. -/
theorem walk_full (hbuiltin : s.registry = Builtin.registry)
    (hchain : IsChain (before ++ arm :: after))
    (hdecline : ∀ arm ∈ before, arm.Declines s.limits st) (rest : List Node) (chain : Chain)
    (out : String) (hfull : ¬arm.element.Fits s.limits st) :
    s.walk (rows (before ++ arm :: after) ++ rest) chain out st =
      ⟨out ++ spaces before ++ arm.space,
        .error (.tooDeep s.limits.maxDepth arm.element.tag.span.line), askAll before st⟩ := by
  obtain ⟨h, hhandled, hturn, hwalk⟩ := walk_reaches hbuiltin hchain hdecline rest chain out
  rw [← fits_askAll before] at hfull
  obtain ⟨hblock, hdepth⟩ := Classical.not_imp.mp hfull
  rw [hwalk, node_of_full (get?_of_handled hbuiltin hhandled) hturn hblock (Nat.not_lt.mp hdepth)]
  rfl

/-- After a branch that runs the others are passed over. -/
theorem walk_runs (hbuiltin : s.registry = Builtin.registry)
    (hchain : IsChain (before ++ arm :: after))
    (hdecline : ∀ arm ∈ before, arm.Declines s.limits st) (rest : List Node) (chain : Chain)
    (out : String) (hholds : arm.holds st.scope = .ok true) :
    s.walk (rows (before ++ arm :: after) ++ rest) chain out st =
      (s.node arm.element.node (chainBetween chain before) (out ++ spaces before ++ arm.space)
        (askAll before st)).andThen fun _ out st =>
          s.walk rest (closed (before ++ arm :: after)) (out ++ spaces after) st := by
  obtain ⟨h, hhandled, hturn, hwalk⟩ := walk_reaches hbuiltin hchain hdecline rest chain out
  have hnames : ∀ arm ∈ before, arm.name ≠ "cfelse" :=
    fun earlier hmem => (hdecline earlier hmem).name_ne
  have hstep := withChain_node_of_guard_true (get?_of_handled hbuiltin hhandled) hturn
    (answers_askAll hhandled hholds before) (out ++ spaces before ++ arm.space)
  rw [hhandled.chainAfter_true] at hstep
  rw [hwalk, ← hstep, Step.withChain_andThen, Step.withChain_andThen, closed_append_of_ne hnames]
  congr 1
  funext _ out st
  exact walk_passed hbuiltin hchain.continuesAfter

/-- A branch that runs comes to its body. -/
theorem node_branch (hs : s.Tidy) (hbuiltin : s.registry = Builtin.registry)
    (hhandled : arm.IsHandledBy h) (hturn : turn h.branch chain = .run)
    (hfits : arm.element.Fits s.limits st) (hst : st.journal = none)
    (hholds : arm.holds st.scope = .ok true) (out : String) :
    s.node arm.element.node chain out st =
      let (rendered, after) :=
        arm.element.enclose none (pass (s.walk arm.element.children)) st
      (Step.ofRendered out rendered after).withChain arm.after := by
  have hguard : (h.guard arm.element).run (s.around arm.element) (st.inside arm.element) =
      (.ok true, st.inside arm.element) := by
    rw [← hholds]
    exact hhandled.answers st.scope _ _ rfl
  have hbody : (h.body arm.element).ComesTo (s.around arm.element)
      (h.inBody (st.inside arm.element))
      (pass (s.walk arm.element.children) (h.inBody (st.inside arm.element))) := by
    rw [hhandled.body]
    exact Program.rendered_comesTo (s.around arm.element) .body _
  rw [← hhandled.chainAfter_true, ← hhandled.interpolation]
  exact node_of_body hs chain out (get?_of_handled hbuiltin hhandled) hturn hfits hst
    ⟨hguard, hhandled.enter, hhandled.exit⟩ hbody

end Setting

/-! ## Branches without a chain -/

/-- The node is a branch that others can follow. -/
def Node.IsBranch (node : Node) : Prop :=
  ∃ tag, node.tag? = some tag ∧ (tag.name = "cfif" ∨ tag.name = "cfelseif")

/-- The nearest node that is not blank, if there is one, is no branch that others can follow. -/
def FollowsNoBranch (nodes : List Node) : Prop :=
  ∀ node, nodes.reverse.find? (!·.isBlank) = some node → ¬node.IsBranch

/-- Only two tags can be followed by further branches. -/
theorem Builtin.name_of_branch {name : String} (hget : registry.get? name = some h)
    (hbranch : h.branch = some .first ∨ h.branch = some .alternative) :
    name = "cfif" ∨ name = "cfelseif" := by
  have hempty : ∀ (name : String) (h : Handler), Registry.empty.get? name = some h →
      h.branch = some .first ∨ h.branch = some .alternative → name = "cfif" ∨ name = "cfelseif" :=
    fun _ _ h => nomatch h
  have hentries : ∀ entry ∈ handlers,
      entry.2.branch = some .first ∨ entry.2.branch = some .alternative →
        Text.foldAscii entry.1 = "cfif" ∨ Text.foldAscii entry.1 = "cfelseif" := by
    decide +kernel
  exact Registry.of_get?_registerEach hempty hentries name h hget hbranch

namespace Setting

/-- After any tag but such a branch there is no chain. -/
theorem chain_of_tag (hbuiltin : s.registry = Builtin.registry) {after : Chain} {out' : String}
    {st' : RenderState} (hname : ¬(e.tag.name = "cfif" ∨ e.tag.name = "cfelseif"))
    (hnode : s.node e.node chain out st = .goesOn after out' st') : after = none := by
  have hbranch : ∀ {h : Handler}, s.registry.get? e.tag.name = some h →
      h.branch = none ∨ h.branch = some .last := by
    intro h hget
    rw [hbuiltin] at hget
    have hno := fun hbranch => hname (Builtin.name_of_branch hget hbranch)
    rcases hh : h.branch with _ | _ | _ | _
    · exact .inl rfl
    · exact absurd (.inl hh) hno
    · exact absurd (.inr hh) hno
    · exact .inr rfl
  have hvisits := s.visits_visit e (fun region => pass (s.walk (e.row region))) chain out st
  rw [node_tag] at hnode
  rw [hnode] at hvisits
  cases hvisits with
  | passedOver hget hturn =>
    rcases hbranch hget with hnone | hlast
    · rw [hnone] at hturn
      cases hturn
    · rw [hlast] at hturn
      rcases chain with _ | _ | _
      · cases hturn
      · cases hturn
      · cases hturn
        rfl
  | proceeds hget =>
    rcases hbranch hget with hnone | hlast
    · rw [hnone]
      rfl
    · rw [hlast]
      rfl

/-- After any node but blank text and such a branch there is no chain. -/
theorem chain_of_node (hbuiltin : s.registry = Builtin.registry) {node : Node} {after : Chain}
    {out' : String} {st' : RenderState} (hblank : node.isBlank = false) (hbranch : ¬node.IsBranch)
    (hnode : s.node node chain out st = .goesOn after out' st') : after = none := by
  cases node with
  | text text =>
    have hno : Text.isBlankText text = false := hblank
    rw [Setting.node, hno] at hnode
    cases hnode
    rfl
  | interpolation =>
    cases hnode
    rfl
  | void tag =>
    exact chain_of_tag (e := ⟨tag, none⟩) hbuiltin (fun h => hbranch ⟨tag, rfl, h⟩) hnode
  | block tag children =>
    exact chain_of_tag (e := ⟨tag, some children⟩) hbuiltin (fun h => hbranch ⟨tag, rfl, h⟩) hnode

/-- A row that follows on one without such a branch at its end begins without a chain. -/
theorem walk_append_of_noBranch (hbuiltin : s.registry = Builtin.registry) {nodes : List Node}
    (hnodes : FollowsNoBranch nodes)
    (hreached : (s.walk nodes none out st).outcome = .ok .proceed) (rest : List Node) :
    s.walk (nodes ++ rest) none out st =
      s.walk rest none (s.walk nodes none out st).out (s.walk nodes none out st).state := by
  induction nodes using List.reverseRecOn generalizing rest with
  | nil => rfl
  | append_singleton nodes node ih =>
    rw [List.append_assoc, List.singleton_append]
    rcases s.walk_append nodes none out st with ⟨chain, hproceeds, hwalk⟩ | ⟨hends, hwalk⟩
    · cases hblank : node.isBlank with
      | true =>
        -- blank text hands on what was before it
        have hbefore : FollowsNoBranch nodes := by
          intro other hother
          apply hnodes other
          rw [List.reverse_concat, List.find?_cons_of_neg (by rw [hblank]; decide)]
          exact hother
        obtain ⟨text, rfl⟩ : ∃ text, node = .text text := by
          cases node with
          | text text => exact ⟨text, rfl⟩
          | _ => cases hblank
        have hrest := ih hbefore hproceeds
        have htext : ∀ rest out st, s.walk (.text text :: rest) none out st =
            s.walk rest none (out ++ text) st := by
          intro rest out st
          rw [walk, Setting.node, ite_self]
          rfl
        rw [hrest, hrest, htext, htext]
        rfl
      | false =>
        have hbranch : ¬node.IsBranch := by
          apply hnodes node
          rw [List.reverse_concat, List.find?_cons_of_pos (by rw [hblank]; decide)]
        rw [hwalk] at hreached
        rw [hwalk, hwalk, walk, walk]
        rw [walk] at hreached
        cases hnode : s.node node chain (s.walk nodes none out st).out
          (s.walk nodes none out st).state with
        | goesOn after out' st' =>
          rw [chain_of_node hbuiltin hblank hbranch hnode]
          rfl
        | ends w =>
          rw [hnode] at hreached
          exact absurd hreached (ne_proceed_of_node_ends hnode)
    · rw [hwalk] at hreached
      exact absurd hreached hends

/-- A branch that needs a chain and follows none ends its row, and its guard is not asked. -/
theorem walk_misplaced (hbuiltin : s.registry = Builtin.registry) {nodes rest : List Node}
    (hname : e.tag.name = "cfelseif" ∨ e.tag.name = "cfelse") (hnodes : FollowsNoBranch nodes)
    (hreached : (s.walk nodes none out st).outcome = .ok .proceed) :
    s.walk (nodes ++ e.node :: rest) none out st =
      { s.walk nodes none out st with
        outcome := .error (.misplaced e.tag.name .afterBranch e.tag.span.line) } := by
  let arm : Builtin.Arm := ⟨[], List.forall_mem_nil _, e⟩
  have hlater : arm.name = "cfelseif" ∨ arm.name = "cfelse" := hname
  obtain ⟨h, hhandled, -, -, hturn⟩ := Builtin.Arm.handled_of_later hlater
  have hget : s.registry.get? e.tag.name = some h := by
    rw [hbuiltin]
    exact hhandled.registered
  rw [walk_append_of_noBranch hbuiltin hnodes hreached, walk_tag]
  rw [(Visits.misplaced hget hturn).eq]
  rfl

end Setting

namespace Engine

open Builtin

/-- How a chain of branches goes. If all branches decline the row goes on behind them, with the text
between them put out. Otherwise the first that does not decline decides: it fails if its condition
cannot be evaluated, or if there is no room for it; and if it runs it comes to its body, and the row
goes on behind the last branch. The branches after it make no difference; they can have any other
conditions and bodies. A later branch that follows no branch is misplaced. -/
theorem walk_branches (loader : Loader) (limits : Limits) (budget : Nat) (post : List Node)
    (chain : Chain) (out : String) (st : RenderState) :
    let s := settingAt ⟨Builtin.registry, loader, limits⟩ budget
    let row (arms : List Arm) := s.walk (rows arms ++ post) chain out st
    (∀ arms, IsChain arms → (∀ arm ∈ arms, arm.Declines limits st) →
      row arms = s.walk post (some false) (out ++ spaces arms) (askAll arms st)) ∧
    (∀ before arm after, IsChain (before ++ arm :: after) →
      (∀ earlier ∈ before, earlier.Declines limits st) →
      (∀ error, arm.element.Fits limits st → arm.holds st.scope = .error error →
        row (before ++ arm :: after) = ⟨out ++ spaces before ++ arm.space, .error error,
          (askAll before st).asked arm.element (.error error)⟩) ∧
      (¬arm.element.Fits limits st →
        row (before ++ arm :: after) = ⟨out ++ spaces before ++ arm.space,
          .error (.tooDeep limits.maxDepth arm.element.tag.span.line), askAll before st⟩) ∧
      (arm.holds st.scope = .ok true → row (before ++ arm :: after) =
        (s.node arm.element.node (chainBetween chain before) (out ++ spaces before ++ arm.space)
          (askAll before st)).andThen fun _ out st =>
            s.walk post (closed (before ++ arm :: after)) (out ++ spaces after) st) ∧
      (st.journal = none → arm.element.Fits limits st → arm.holds st.scope = .ok true →
        row (before ++ arm :: after) =
          let (rendered, st') :=
            arm.element.enclose none (Setting.pass (s.walk arm.element.children)) st
          (Step.ofRendered (out ++ spaces before ++ arm.space) rendered st').andThen
            fun _ out st =>
              s.walk post (closed (before ++ arm :: after)) (out ++ spaces after) st) ∧
      (¬arm.Declines limits st →
        ∀ after', after'.map Arm.outline = after.map Arm.outline →
          row (before ++ arm :: after') = row (before ++ arm :: after))) ∧
    (∀ (nodes : List Node) (e : Element), e.tag.name = "cfelseif" ∨ e.tag.name = "cfelse" →
      FollowsNoBranch nodes → (s.walk nodes none out st).outcome = .ok .proceed →
      s.walk (nodes ++ e.node :: post) none out st =
        { s.walk nodes none out st with
          outcome := .error (.misplaced e.tag.name .afterBranch e.tag.span.line) }) := by
  intro s row
  have hbuiltin : s.registry = Builtin.registry := rfl
  refine ⟨fun arms hchain hdecline => ?_, fun before arm after hchain hdecline => ?_,
    fun nodes e hname hnodes hreached => Setting.walk_misplaced hbuiltin hname hnodes hreached⟩
  · exact Setting.walk_declined hbuiltin hchain hdecline
  have hfails {error : RenderError} :=
    @Setting.walk_fails s st arm before after hbuiltin hchain hdecline post chain out error
  have hfull := Setting.walk_full hbuiltin hchain hdecline post chain out
  have hruns := Setting.walk_runs hbuiltin hchain hdecline post chain out
  refine ⟨fun error => hfails, hfull, hruns, fun hst hfits hholds => ?_,
    fun hdeclines after' hsame => ?_⟩
  · obtain ⟨h, hhandled, hturn, -⟩ :=
      Setting.walk_reaches hbuiltin hchain hdecline post chain out
    have hnode := Setting.node_branch (settingAt_tidy hbuiltin budget) hbuiltin hhandled hturn hfits
      hst hholds (out ++ spaces before ++ arm.space)
    have hrow := hruns hholds
    rw [askAll_of_unwatched before hst, hnode] at hrow
    exact hrow.trans (Step.withChain_andThen ..)
  · -- what was shown of the row holds of the other one, too, and says the same of it
    have hchain' := hchain.congr hsame
    by_cases hfits : arm.element.Fits limits st
    · cases hholds : arm.holds st.scope with
      | error error =>
        have hfails' := Setting.walk_fails hbuiltin hchain' hdecline post chain out hfits hholds
        exact hfails'.trans (hfails hfits hholds).symm
      | ok holds =>
        cases holds with
        | false => exact absurd ⟨hfits, hholds⟩ hdeclines
        | true =>
          have hruns' := Setting.walk_runs hbuiltin hchain' hdecline post chain out hholds
          rw [closed_congr (outlines_append hsame before arm), spaces_congr hsame] at hruns'
          exact hruns'.trans (hruns hholds).symm
    · have hfull' := Setting.walk_full hbuiltin hchain' hdecline post chain out hfits
      exact hfull'.trans (hfull hfits).symm

/-- The second of three branches runs. The third one could be any other, and is misplaced where no
branch is before it. -/
theorem walk_branches_of_second :
    let s := setting {}
    let span : Span := ⟨0, 0, 1, 1⟩
    let first : Arm := ⟨[], List.forall_mem_nil _,
      ⟨⟨"cfif", .ofList [("condition", "0")], "", span⟩, some [.text "no"]⟩⟩
    let second : Arm := ⟨["\n"], by decide +kernel,
      ⟨⟨"cfelseif", .ofList [("condition", "1")], "", span⟩, some [.text "yes"]⟩⟩
    let third (raw : String) (children : List Node) : Arm := ⟨[" "], by decide +kernel,
      ⟨⟨"cfelseif", .empty, raw, span⟩, some children⟩⟩
    let st := RenderState.start .empty
    s.walk (rows [first, second, third "" []]) none "" st = ⟨"\nyes ", .ok .proceed, st⟩ ∧
      s.walk (rows [first, second, third "(" [.text "no"]]) none "" st =
        ⟨"\nyes ", .ok .proceed, st⟩ ∧
      s.walk [.text "x", .text " ", (third "(" []).element.node] none "" st =
        ⟨"x ", .error (.misplaced "cfelseif" .afterBranch 1), st⟩ := by
  intro s span first second third st
  have hchain : IsChain ([first] ++ second :: [third "" []]) :=
    ⟨rfl, .inl ⟨rfl, .inl ⟨rfl, trivial⟩⟩⟩
  have hholds : (first.holds st.scope).toOption = some false ∧
      (second.holds st.scope).toOption = some true := by decide +kernel
  have hfirst : ∀ arm ∈ [first], arm.Declines {} st :=
    List.forall_mem_singleton.mpr ⟨fun _ => by decide, toOption_eq_some.mp hholds.1⟩
  have hsecond : second.holds st.scope = .ok true := toOption_eq_some.mp hholds.2
  obtain ⟨-, hbranches, hmisplaced⟩ :=
    walk_branches Loader.none {} ({} : Limits).maxIncludeDepth [] none "" st
  obtain ⟨-, -, -, hruns, hother⟩ := hbranches [first] second [third "" []] hchain hfirst
  have hyes : s.walk (rows [first, second, third "" []]) none "" st =
      ⟨"\nyes ", .ok .proceed, st⟩ := by
    rw [← List.append_nil (rows _)]
    exact hruns rfl (fun _ => by decide) hsecond
  have hdeclines : ¬second.Declines {} st := by
    intro h
    have hholds := h.2
    rw [hsecond] at hholds
    cases hholds
  have hsame : s.walk (rows [first, second, third "(" [.text "no"]] ++ []) none "" st =
      s.walk (rows [first, second, third "" []] ++ []) none "" st :=
    hother hdeclines [third "(" [.text "no"]] rfl
  rw [List.append_nil, List.append_nil] at hsame
  refine ⟨hyes, hsame.trans hyes, ?_⟩
  have hsolid : FollowsNoBranch [.text "x", .text " "] := by
    intro node hnode
    have htext : some (.text "x") = some node := hnode
    cases htext
    exact fun ⟨_, htag, _⟩ => nomatch htag
  exact hmisplaced [.text "x", .text " "] (third "(" []).element (.inl rfl) hsolid rfl

end Engine

end TagTemplate
