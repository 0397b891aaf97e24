import TagTemplate.Proofs.Engine.Hosting

/-!
# Books under any hooks

Whatever the hooks of a host ask for, and however it ends, the books are after it as they were
before (`books_kept`).
-/

namespace TagTemplate.Engine

/-- What is met by a name leaves the books as they were. -/
theorem meet_restores (engine : Engine) (stands : String → Named) (budget : Nat) (name : String) :
    Render.Restores (engine.meet stands budget name) := by
  induction budget generalizing name with
  | zero => exact fun _ => rfl
  | succ budget ih =>
    have hwalk (nodes : List Node) : Walker.Restores ((engine.hosting stands budget).walk nodes) :=
      Setting.walk_restores ih nodes
    rw [meet]
    cases stands name with
    | row nodes => exact (hwalk nodes).pass
    | template path => exact opening_restores hwalk path

/-- Rendering a row of nodes leaves the books as they were, and so does an include, whatever the
handlers are, whatever their hooks have rendered on the way and however that ends. -/
theorem books_kept (engine : Engine) (st : RenderState) :
    (∀ nodes chain out, (engine.setting.walk nodes chain out st).state.books = st.books) ∧
    (∀ path, (engine.setting.embed path st).2.books = st.books) ∧
    ∀ stands budget,
      (∀ nodes chain out,
        ((engine.hosting stands budget).walk nodes chain out st).state.books = st.books) ∧
      ∀ path, (engine.opening (engine.hosting stands budget).walk path st).2.books = st.books := by
  have hrow (stands : String → Named) (budget : Nat) (nodes : List Node) :
      Walker.Restores ((engine.hosting stands budget).walk nodes) :=
    Setting.walk_restores (engine.meet_restores stands budget) nodes
  refine ⟨fun nodes chain out => ?_, fun path => engine.embed_restores _ path st,
    fun stands budget => ⟨fun nodes chain out => hrow stands budget nodes chain out st,
      fun path => opening_restores (hrow stands budget) path st⟩⟩
  rw [← hosting_template]
  exact hrow _ _ nodes chain out st

end TagTemplate.Engine
