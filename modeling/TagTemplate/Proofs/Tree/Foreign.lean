import TagTemplate.Proofs.Source.Rounds
import TagTemplate.Proofs.Tree.Building
import TagTemplate.Proofs.Tree.Pieces

/-!
# Sources without known tags

Where no name of a tag is known, every token is accepted, and the tree holds text and references
only. Read from left to right they stand for the lexemes of the tokens, so nothing of a tag is lost
when its source is cut at the `#` marks in it (`TreeBuilder.StandsFor.acceptAll`).
-/

namespace TagTemplate

/-! ## What tokens and nodes stand for -/

/-- The name that a tag has in the source, folded. -/
def Token.tagName? (t : Token) : Option String :=
  match t.kind with
  | .tagOpen name _ _ => some name
  | .tagClose name => some name
  | _ => none

/-- The token is no tag, or none that the table knows. -/
def Token.Foreign (table : TagTable) (t : Token) : Prop := ∀ name ∈ t.tagName?, table name = none

/-- Text is its own lexeme, and the lexeme of a reference is the source of that reference. -/
structure Token.Verbatim (t : Token) : Prop where
  text : ∀ {text}, t.kind = .text text → t.lexeme = text
  interpolation : ∀ {expression}, t.kind = .interpolation expression →
    t.lexeme = interpolationSource expression

/-- The characters that a text or a reference stands for. -/
def Node.source : Node → List Char
  | .text t => t.toList
  | .interpolation expression _ => (interpolationSource expression).toList
  | _ => []

/-- The characters that some nodes stand for. -/
def sourceOf (nodes : List Node) : List Char := nodes.flatMap Node.source

theorem sourceOf_append (nodes more : List Node) :
    sourceOf (nodes ++ more) = sourceOf nodes ++ sourceOf more := List.flatMap_append

theorem sourceOf_cons (node : Node) (nodes : List Node) :
    sourceOf (node :: nodes) = node.source ++ sourceOf nodes := List.flatMap_cons

theorem ofTag_ne_interpolation (inside : List Char) (expression : String) :
    Token.Kind.ofTag inside ≠ .interpolation expression := by
  unfold Token.Kind.ofTag
  split
  · simp
  · simp only
    split <;> simp

namespace Scanner

/-- Reading markup yields verbatim tokens. -/
theorem verbatim_of_readMarkup {rest : List Char} {pos : Position} {markup : Option Markup}
    {token : Token} {after : Scanner} (h : readMarkup rest pos markup = (some (.ok token), after)) :
    token.Verbatim := by
  rcases markup with _ | ⟨afterMark⟩ | ⟨expression, left⟩
  · cases h
  · rw [readMarkup] at h
    split at h
    · cases h
      exact ⟨fun hkind => absurd hkind (ofTag_ne_text _ _),
        fun hkind => absurd hkind (ofTag_ne_interpolation _ _)⟩
    · cases h
  · cases h
    refine ⟨fun hkind => ?_, fun hkind => ?_⟩
    · cases hkind
    · cases hkind
      rw [interpolationSource, ← String.toList_inj]
      simp

theorem verbatim_of_next {s after : Scanner} {token : Token}
    (h : s.next = (some (.ok token), after)) : token.Verbatim := by
  unfold next at h
  split at h
  · cases h
  · split at h
    · cases h
    · split at h
      · exact verbatim_of_readMarkup h
      · cases h
        refine ⟨fun hkind => ?_, nofun⟩
        cases hkind
        rfl

/-- All tokens that a scanner yields are verbatim. -/
theorem verbatim_of_items {s : Scanner} {token : Token} (h : .ok token ∈ s.items) :
    token.Verbatim := by
  fun_induction items s with
  | case1 s next after hnext ih =>
    rcases List.mem_cons.mp h with h | h
    · cases h
      exact verbatim_of_next hnext
    · exact ih h
  | case2 => cases List.mem_singleton.mp h
  | case3 => cases h

end Scanner

/-! ## Building the tree -/

namespace TreeBuilder

variable {table : TagTable}

/-- What has been built is text and references, which stand for some characters. -/
structure StandsFor (b : TreeBuilder) (source : List Char) : Prop where
  opened : b.opened = []
  plain : ∀ node ∈ b.current, node.tag? = none
  source : sourceOf b.current.reverse = source

variable {b : TreeBuilder} {source : List Char}

theorem standsFor_empty : empty.StandsFor [] := ⟨rfl, nofun, rfl⟩

theorem StandsFor.push (h : b.StandsFor source) {node : Node} (hnode : node.tag? = none) :
    (b.push node).StandsFor (source ++ node.source) where
  opened := h.opened
  plain := List.forall_mem_cons.mpr ⟨hnode, h.plain⟩
  source := by
    show sourceOf (node :: b.current).reverse = _
    rw [List.reverse_cons, sourceOf_append, h.source]
    exact congrArg _ (List.append_nil _)

/-- Text that joins the text before it adds its characters all the same. -/
theorem StandsFor.pushText (h : b.StandsFor source) (text : String) :
    (b.pushText text).StandsFor (source ++ text.toList) := by
  refine pushText_cases b text ?_ ?_ fun _ _ => h.push rfl
  · intro hempty
    rw [hempty]
    simpa using h
  · intro previous rest _ hcurrent
    obtain ⟨hopened, hplain, hsource⟩ := h
    rw [hcurrent] at hplain hsource
    refine ⟨hopened, List.forall_mem_cons.mpr ⟨rfl, (List.forall_mem_cons.mp hplain).2⟩, ?_⟩
    rw [List.reverse_cons, sourceOf_append] at hsource
    rw [← hsource, List.reverse_cons, sourceOf_append, List.append_assoc]
    simp [sourceOf, Node.source]

theorem StandsFor.pushPiece (h : b.StandsFor source) {piece : Node} (hpiece : piece.tag? = none) :
    (b.pushPiece piece).StandsFor (source ++ piece.source) := by
  cases piece with
  | text t => exact h.pushText t
  | interpolation expression span => exact h.push hpiece
  | void tag => cases hpiece
  | block tag children => cases hpiece

/-- The pieces of an unknown tag make up its source. -/
theorem sourceOf_foreignPieces (span : Span) (cs : List Char) :
    sourceOf (foreignPieces span cs) = cs := by
  induction cs using reading_induction with
  | plain cs hplain =>
    rw [foreignPieces_plain span hplain]
    simp [sourceOf, Node.source]
  | pair before expression rest hbefore hplain ih =>
    rw [foreignPieces_pair span hbefore hplain, sourceOf_cons, sourceOf_cons, ih]
    simp [Node.source, interpolationSource]
  | stray before after hbefore hnone ih =>
    rw [foreignPieces_stray span hbefore hnone, sourceOf_cons, ih]
    simp [Node.source]

theorem tag?_foreignPieces (span : Span) (cs : List Char) :
    ∀ piece ∈ foreignPieces span cs, piece.tag? = none := by
  intro piece hpiece
  rcases foreignPieces_kinds span cs piece hpiece with ⟨text, rfl⟩ | ⟨expression, rfl⟩ <;> rfl

theorem StandsFor.pushForeign (h : b.StandsFor source) (lexeme : String) (span : Span) :
    (b.pushForeign lexeme span).StandsFor (source ++ lexeme.toList) := by
  have hpieces : ∀ pieces : List Node, (∀ piece ∈ pieces, piece.tag? = none) →
      ∀ {b source}, StandsFor b source →
        (pieces.foldl TreeBuilder.pushPiece b).StandsFor (source ++ sourceOf pieces) := by
    intro pieces hplain
    induction pieces with
    | nil =>
      intro b source h
      rw [sourceOf, List.flatMap_nil, List.append_nil]
      exact h
    | cons piece rest ih =>
      intro b source h
      obtain ⟨hpiece, hrest⟩ := List.forall_mem_cons.mp hplain
      rw [sourceOf_cons, ← List.append_assoc]
      exact ih hrest (h.pushPiece hpiece)
  have hall := hpieces _ (tag?_foreignPieces span lexeme.toList) h
  rwa [sourceOf_foreignPieces] at hall

/-- A token that is no known tag adds its lexeme. -/
theorem StandsFor.accept (h : b.StandsFor source) (depth : Nat) {token : Token}
    (hverbatim : token.Verbatim) (hforeign : token.Foreign table) :
    ∃ after, b.accept table depth token = .ok after ∧
      after.StandsFor (source ++ token.lexeme.toList) := by
  cases hkind : token.kind with
  | text text =>
    refine ⟨_, Accepts.eq (.text hkind), ?_⟩
    rw [hverbatim.text hkind]
    exact h.pushText text
  | interpolation expression =>
    refine ⟨_, Accepts.eq (.interpolation hkind), ?_⟩
    rw [hverbatim.interpolation hkind]
    exact h.push rfl
  | tagOpen name raw selfClosing =>
    have hname : table name = none := hforeign name (by rw [Token.tagName?, hkind]; rfl)
    exact ⟨_, Accepts.eq (.foreign hkind hname), h.pushForeign _ _⟩
  | tagClose name =>
    have hname : table name = none := hforeign name (by rw [Token.tagName?, hkind]; rfl)
    exact ⟨_, Accepts.eq (.foreignClose hkind hname), h.pushText _⟩

/-- Tokens without a known tag add their lexemes one after the other. -/
theorem StandsFor.acceptAll (h : b.StandsFor source) (depth : Nat) {tokens : List Token}
    (hverbatim : ∀ token ∈ tokens, token.Verbatim)
    (hforeign : ∀ token ∈ tokens, token.Foreign table) :
    ∃ after, b.acceptAll table depth (tokens.map .ok) = .ok after ∧
      after.StandsFor (source ++ tokens.flatMap (·.lexeme.toList)) := by
  induction tokens generalizing b source with
  | nil => exact ⟨b, rfl, by simpa using h⟩
  | cons token rest ih =>
    obtain ⟨hv, hvs⟩ := List.forall_mem_cons.mp hverbatim
    obtain ⟨hf, hfs⟩ := List.forall_mem_cons.mp hforeign
    obtain ⟨next, hnext, hstands⟩ := h.accept depth hv hf
    obtain ⟨after, hafter, hall⟩ := ih hstands hvs hfs
    refine ⟨after, ?_, ?_⟩
    · rw [List.map_cons, TreeBuilder.acceptAll, hnext]
      exact hafter
    · rwa [List.flatMap_cons, ← List.append_assoc]

end TreeBuilder

end TagTemplate
