import TagTemplate.Proofs.Handler.Registry
import TagTemplate.Proofs.Source.Account
import TagTemplate.Proofs.Tree.Nesting
import TagTemplate.Proofs.Tree.Relocation
import TagTemplate.Proofs.Tree.Tags

/-!
# Trees that were parsed

What is true of every tree that a registry has parsed, whatever the source (`parse_wellFormed`).
Each of its tags comes from an opening tag of the source and goes by the name of a handler; its
texts are not empty, and apart; the blocks that are left open nest within the limit; and its nodes
stand in the order of the source.
-/

namespace TagTemplate

/-! ## The places of tokens -/

/-- The tokens of a source begin one after the other. -/
theorem Account.inOrder {source : List Char} {a b : Nat} {tokens : List Token}
    {comments : List Stretch} (h : Account source a b tokens comments) :
    InOrder (tokens.map (·.span)) := by
  refine List.pairwise_map.mpr (h.token_ordered.imp_of_mem ?_)
  intro t u ht _ hbefore
  have hnonempty := (h.read t ht).nonempty
  omega

/-- No two of them have the same place. -/
theorem Account.eq_of_span_eq {source : List Char} {a b : Nat} {tokens : List Token}
    {comments : List Stretch} (h : Account source a b tokens comments) :
    ∀ t ∈ tokens, ∀ u ∈ tokens, t.span = u.span → t = u := by
  have hnodup : (tokens.map (·.span)).Nodup := by
    refine List.pairwise_map.mpr (h.token_ordered.imp_of_mem ?_)
    intro t u ht _ hbefore hsame
    have hnonempty := (h.read t ht).nonempty
    rw [← hsame] at hbefore
    omega
  exact fun t ht u hu hsame => List.inj_on_of_nodup_map hnodup ht hu hsame

/-! ## Well-formed trees -/

/-- A tag with the name of a handler, which says whether it owns a body, with the attributes that
its text denotes, and with the place of a token that opens it. -/
structure Tag.WellFormed (registry : Registry) (tokens : List Token) (hasBody : Bool) (tag : Tag) :
    Prop where
  registered : ∃ handler, registry.get? tag.name = some handler ∧ handler.hasBody = hasBody
  attributes : Attributes.parse tag.raw = .ok tag.attributes
  opening : ∃ token ∈ tokens, token.span = tag.span ∧ ∃ name selfClosing,
    token.kind = .tagOpen name tag.raw selfClosing ∧ registry.table name = some ⟨tag.name, hasBody⟩

/-- A tree as a registry makes it of some tokens, under a limit on how deep blocks nest. -/
structure Template.WellFormed (registry : Registry) (limit : Nat) (tokens : List Token)
    (template : Template) : Prop where
  tags : AllTagsOf (Tag.WellFormed registry tokens) template.nodes
  /-- No text is empty or stands beside another one in the same row. -/
  texts : ∀ row, RowIn template.nodes row → Merged row
  /-- No chain of nested blocks that their opening tags leave open is longer than the limit. -/
  nesting : ∀ chain, Nested template.nodes chain → (∀ node ∈ chain, LeftOpen tokens node) →
    chain.length ≤ limit
  /-- A walk that comes to a tag before what it encloses meets places in the order of the source. -/
  order : InOrder (spansAll template.nodes)

/-- A tag that a token opens has the name of a handler. -/
theorem Tag.wellFormed_of_openedBy {registry : Registry} (hnames : registry.names.Nodup)
    {tokens : List Token} {hasBody : Bool} {tag : Tag}
    (h : OpenedBy registry.table (tokens.map .ok) hasBody tag) :
    tag.WellFormed registry tokens hasBody := by
  obtain ⟨token, selfClosing, hmem, hopens⟩ := h
  obtain ⟨_, htoken, heq⟩ := List.mem_map.mp hmem
  cases heq
  obtain ⟨hspan, hattributes, name, hkind, hname⟩ := hopens.eq
  obtain ⟨⟨canonical, handler⟩, hresolve, hinfo⟩ := Option.map_eq_some_iff.mp hname
  cases hinfo
  exact
    { registered := ⟨handler, Registry.get?_of_resolve? hnames hresolve, rfl⟩
      attributes := hattributes
      opening := ⟨token, htoken, hspan, name, selfClosing, hkind, hname⟩ }

/-- A tree that was parsed is well formed. -/
theorem Template.parse_wellFormed {registry : Registry} (hnames : registry.names.Nodup)
    {limit : Nat} {source : String} {template : Template}
    (hparse : Template.parse registry.table limit source = .ok template) :
    ∃ tokens, Scanner.tokenize source = .ok tokens ∧
      template.WellFormed registry limit tokens := by
  have hbuild : Template.build registry.table limit (Scanner.itemsAt source.toList .start) =
    .ok template := hparse
  obtain ⟨b, hb, -, -⟩ := Template.build_eq_ok_iff.mp hbuild
  -- a tree is built of tokens only, so the source has no scan error
  obtain ⟨tokens, hitems⟩ := TreeBuilder.tokens_of_acceptAll hb
  have htokenize := Scanner.tokenize_eq_ok_iff.mpr hitems
  obtain ⟨comments, haccount, -⟩ := tokenize_account htokenize
  rw [hitems] at hbuild
  refine ⟨tokens, htokenize, ?_⟩
  exact
    { tags := (Template.build_allTags hbuild).mono fun _ _ h => Tag.wellFormed_of_openedBy hnames h
      texts := Template.build_merged hbuild
      nesting := Template.build_nesting haccount.eq_of_span_eq hbuild
      order := Template.build_ordered haccount.inOrder hbuild }

end TagTemplate
