import TagTemplate.Builtin.Registry
import TagTemplate.Proofs.Render.Rows

/-!
# Rows in a row

What a walk adds to its buffer does not depend on what the buffer holds, and a row can be cut
anywhere: the walk over the whole is the walk over the first part, and if that proceeds, the walk
over the second one from there. All that the second part could know of the first beside the state is
the chain of branches in front of it, and it asks for that only if it begins with a branch that
continues a chain (`walk_of_startsApart`).
-/

namespace TagTemplate

/-- The place that the tag of a node has in a chain of branches. -/
def Registry.branch? (r : Registry) (node : Node) : Option Branch :=
  node.tag?.bind fun tag => (r.get? tag.name).bind (·.branch)

/-- The first node that is not blank, if there is one, is no branch that needs a chain before it. -/
def Registry.StartsApart (r : Registry) (nodes : List Node) : Prop :=
  ∀ node, nodes.find? (!·.isBlank) = some node →
    ¬(r.branch? node = some .alternative ∨ r.branch? node = some .last)

namespace Element

@[simp]
theorem tag?_node (e : Element) : e.node.tag? = some e.tag := by
  rcases e with ⟨tag, _ | children⟩ <;> rfl

@[simp]
theorem isBlank_node (e : Element) : e.node.isBlank = false := by
  rcases e with ⟨tag, _ | children⟩ <;> rfl

end Element

/-- A tag that needs no chain is taken after any as it is taken without one. -/
theorem turn_eq_run {branch : Option Branch}
    (h : ¬(branch = some .alternative ∨ branch = some .last)) (chain : Chain) :
    turn branch chain = .run := by
  rcases branch with _ | _ | _ | _
  · rfl
  · rfl
  · exact absurd (.inl rfl) h
  · exact absurd (.inr rfl) h

namespace Registry

variable {r : Registry} {rest : List Node}

theorem StartsApart.of_blank {text : String} (hblank : Text.isBlankText text = true)
    (h : r.StartsApart (.text text :: rest)) : r.StartsApart rest := by
  intro node hnode
  apply h node
  rw [List.find?_cons, Node.isBlank, hblank]
  exact hnode

theorem StartsApart.of_tag {e : Element} {h : Handler} (hget : r.get? e.tag.name = some h)
    (hstarts : r.StartsApart (e.node :: rest)) :
    ¬(h.branch = some .alternative ∨ h.branch = some .last) := by
  have hbranch : r.branch? e.node = h.branch := by
    rw [branch?, Element.tag?_node, Option.bind_some, hget, Option.bind_some]
  rw [← hbranch]
  apply hstarts
  rw [List.find?_cons, Element.isBlank_node]
  rfl

end Registry

namespace Setting

variable {s : Setting}

theorem visit_of_startsApart {e : Element} {rest : List Node}
    (hstarts : s.registry.StartsApart (e.node :: rest)) (region : Region → Render) (chain : Chain)
    (out : String) (st : RenderState) :
    s.visit e region chain out st = s.visit e region none out st := by
  rw [visit, visit]
  cases hget : s.registry.get? e.tag.name with
  | none => rfl
  | some h =>
    have hbranch := hstarts.of_tag hget
    simp only [turn_eq_run hbranch]

/-- A row that does not begin with a later branch of a chain is walked alike after any chain. -/
theorem walk_of_startsApart {nodes : List Node} (hstarts : s.registry.StartsApart nodes)
    (chain : Chain) (out : String) (st : RenderState) :
    s.walk nodes chain out st = s.walk nodes none out st := by
  induction nodes using siblings_induction generalizing out with
  | nil => rfl
  | text text rest ih =>
    rw [walk, walk, Setting.node, Setting.node]
    -- only blank text hands the chain on
    by_cases hblank : Text.isBlankText text = true
    · rw [if_pos hblank, if_pos hblank]
      exact ih (hstarts.of_blank hblank) (out ++ text)
    · rw [if_neg hblank, if_neg hblank]
  | interpolation expression span rest ih => rfl
  | tag e rest _ ih => rw [walk, walk, node_tag, node_tag, visit_of_startsApart hstarts]

/-- A walk adds some text to its buffer, and neither that text nor how the walk ends nor the state
after it depends on the buffer. If it does not proceed, further siblings change nothing. If it does,
siblings that do not continue a chain of branches are walked from where it ended. -/
theorem walk_composes (s : Setting) (nodes rest : List Node) (st : RenderState) :
    (∀ out, s.walk nodes none out st = (s.walk nodes none "" st).after out) ∧
    ((s.walk nodes none "" st).outcome ≠ .ok .proceed → ∀ out,
      s.walk (nodes ++ rest) none out st = s.walk nodes none out st) ∧
    ((s.walk nodes none "" st).outcome = .ok .proceed → s.registry.StartsApart rest → ∀ out,
      s.walk (nodes ++ rest) none out st =
        (s.walk rest none "" (s.walk nodes none "" st).state).after
          (out ++ (s.walk nodes none "" st).out)) := by
  have hafter : ∀ (row : List Node) (out : String) (st : RenderState),
      s.walk row none out st = (s.walk row none "" st).after out := by
    intro row out st
    have hsplit := walk_after (s := s) row none out "" st
    rwa [String.append_empty] at hsplit
  refine ⟨fun out => hafter nodes out st, ?_, ?_⟩
  · intro hends out
    rcases walk_append (s := s) nodes none out st with ⟨-, hproceeds, -⟩ | ⟨-, hstops⟩
    · rw [hafter nodes out st] at hproceeds
      exact absurd hproceeds hends
    · exact hstops rest
  · intro hproceeds hstarts out
    rcases walk_append (s := s) nodes none out st with ⟨chain, -, hgoesOn⟩ | ⟨hends, -⟩
    · rw [hgoesOn rest, walk_of_startsApart hstarts, hafter rest, hafter nodes out st]
      rfl
    · rw [hafter nodes out st] at hends
      exact absurd hproceeds hends

/-- A block goes on behind another one, and behind an abort there is nothing. -/
theorem walk_composes_of_blocks :
    let s : Setting := ⟨Builtin.registry, {}, fun _ st => (⟨"", .ok .proceed⟩, st)⟩
    let span : Span := ⟨0, 0, 1, 1⟩
    let shown (text : String) : Node := .block ⟨"cfoutput", .empty, "", span⟩ [.text text]
    let halt : Node := .void ⟨"cfabort", .empty, "", span⟩
    s.walk ([shown "a"] ++ [.text " ", shown "b"]) none "o" (.start .empty) =
        ⟨"oa b", .ok .proceed, .start .empty⟩ ∧
      s.walk ([.text "a", halt] ++ [shown "b"]) none "o" (.start .empty) =
        ⟨"oa", .ok .abort, .start .empty⟩ := by
  intro s span shown halt
  have hfirst : s.walk [shown "a"] none "" (.start .empty) = ⟨"a", .ok .proceed, .start .empty⟩ := rfl
  have hsecond : s.walk [.text " ", shown "b"] none "" (.start .empty) =
      ⟨" b", .ok .proceed, .start .empty⟩ := rfl
  have hhalt : s.walk [.text "a", halt] none "" (.start .empty) =
      ⟨"a", .ok .abort, .start .empty⟩ := rfl
  have hstarts : s.registry.StartsApart [.text " ", shown "b"] := by
    have hblank : Text.isBlankText " " = true := by decide
    intro node hnode
    rw [List.find?_cons, Node.isBlank, hblank] at hnode
    have hshown : some (shown "b") = some node := hnode
    cases hshown
    decide +kernel
  obtain ⟨-, -, hgoesOn⟩ := walk_composes s [shown "a"] [.text " ", shown "b"] (.start .empty)
  obtain ⟨hafter, hstops, -⟩ := walk_composes s [.text "a", halt] [shown "b"] (.start .empty)
  rw [hfirst, hsecond] at hgoesOn
  rw [hhalt] at hafter hstops
  have hwhole := hgoesOn rfl hstarts "o"
  have hstopped := (hstops nofun "o").trans (hafter "o")
  exact ⟨hwhole, hstopped⟩

end Setting

end TagTemplate
