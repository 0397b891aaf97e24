import TagTemplate.Proofs.Source.Seam
import TagTemplate.Proofs.Source.Stretch
import TagTemplate.Proofs.Tree.Building
import TagTemplate.Proofs.Tree.Pieces

/-!
# A tree as part of another

The tokens of a source make the same nodes elsewhere, and when tags go by other names of theirs
(`acceptAll_renamed`). Only the spans of the nodes are those of the tokens, so the nodes are
compared with all spans sent elsewhere (`Node.relocate`). Inside of an open tag they make the same
nodes as well, if there is room for one more open tag (`acceptAll_within`), and a source with a tag
around it is a block around its nodes (`parse_block`).
-/

namespace TagTemplate

def Tag.relocate (f : Span → Span) (tag : Tag) : Tag := { tag with span := f tag.span }

/-- Two names of one tag. -/
def TagTable.SameTag (table : TagTable) (name name' : String) : Prop :=
  ∃ info, table name = some info ∧ table name' = some info

mutual

/-- The node with other spans, at every depth. -/
def Node.relocate (f : Span → Span) : Node → Node
  | .text t => .text t
  | .interpolation expression span => .interpolation expression (f span)
  | .void tag => .void (tag.relocate f)
  | .block tag children => .block (tag.relocate f) (relocateAll f children)

/-- The siblings with other spans. -/
def relocateAll (f : Span → Span) : List Node → List Node
  | [] => []
  | first :: rest => first.relocate f :: relocateAll f rest

end

variable {f f' : Span → Span}

theorem relocateAll_eq_map (f : Span → Span) (nodes : List Node) :
    relocateAll f nodes = nodes.map (Node.relocate f) := by
  induction nodes with
  | nil => rfl
  | cons first rest ih => rw [relocateAll, ih, List.map_cons]

theorem relocateAll_reverse (f : Span → Span) (nodes : List Node) :
    relocateAll f nodes.reverse = (relocateAll f nodes).reverse := by
  rw [relocateAll_eq_map, relocateAll_eq_map, List.map_reverse]

namespace TreeBuilder

/-- An open tag with other spans, and with it the nodes before it. -/
def relocateFrame (f : Span → Span) (frame : Tag × List Node) : Tag × List Node :=
  (frame.1.relocate f, relocateAll f frame.2)

/-- The tree under construction with other spans. -/
def relocate (f : Span → Span) (b : TreeBuilder) : TreeBuilder :=
  ⟨relocateAll f b.current, b.opened.map (relocateFrame f)⟩

/-- The tree under construction inside of one more open tag. -/
def within (frame : Tag × List Node) (b : TreeBuilder) : TreeBuilder :=
  ⟨b.current, b.opened ++ [frame]⟩

variable {b c : TreeBuilder} (frame : Tag × List Node)

/-! ## Text and references -/

theorem relocate_push (b : TreeBuilder) (node : Node) :
    (b.push node).relocate f = (b.relocate f).push (node.relocate f) := by
  rw [push, relocate, relocateAll]
  rfl

theorem relocate_pushText (b : TreeBuilder) (text : String) :
    (b.pushText text).relocate f = (b.relocate f).pushText text := by
  unfold pushText
  split
  · rfl
  · rcases b with ⟨_ | ⟨last, before⟩, opened⟩
    · rfl
    · cases last <;> simp [relocate, relocateAll, Node.relocate, push]

theorem relocate_pushPiece (b : TreeBuilder) (piece : Node) :
    (b.pushPiece piece).relocate f = (b.relocate f).pushPiece (piece.relocate f) := by
  cases piece with
  | text t => exact relocate_pushText b t
  | interpolation expression span => exact relocate_push b _
  | void tag => exact relocate_push b _
  | block tag children => exact relocate_push b _

theorem foreignPieces_relocate (f : Span → Span) (span : Span) (cs : List Char) :
    foreignPieces (f span) cs = (foreignPieces span cs).map (Node.relocate f) := by
  induction cs using reading_induction with
  | plain cs hplain =>
    rw [foreignPieces_plain (f span) hplain, foreignPieces_plain span hplain]
    rfl
  | pair before expression rest hbefore hplain ih =>
    rw [foreignPieces_pair (f span) hbefore hplain, foreignPieces_pair span hbefore hplain, ih]
    rfl
  | stray before after hbefore hnone ih =>
    rw [foreignPieces_stray (f span) hbefore hnone, foreignPieces_stray span hbefore hnone, ih]
    rfl

theorem relocate_pushForeign (b : TreeBuilder) (lexeme : String) (span : Span) :
    (b.pushForeign lexeme span).relocate f = (b.relocate f).pushForeign lexeme (f span) := by
  rw [pushForeign, pushForeign, foreignPieces_relocate, List.foldl_map]
  exact (List.foldl_hom (relocate f) fun b piece => (relocate_pushPiece b piece).symm).symm

theorem within_pushText (b : TreeBuilder) (text : String) :
    (b.pushText text).within frame = (b.within frame).pushText text := by
  unfold pushText
  split
  · rfl
  · rcases b with ⟨_ | ⟨last, before⟩, opened⟩
    · rfl
    · cases last <;> rfl

theorem within_pushForeign (b : TreeBuilder) (lexeme : String) (span : Span) :
    (b.pushForeign lexeme span).within frame = (b.within frame).pushForeign lexeme span := by
  refine (List.foldl_hom (within frame) fun b piece => ?_).symm
  cases piece with
  | text t => exact (within_pushText frame b t).symm
  | interpolation expression span => rfl
  | void tag => rfl
  | block tag children => rfl

/-! ## Tokens -/

variable {table : TagTable} {depth depth' : Nat} {token token' : Token} {after : TreeBuilder}

/-- What tokens have in common that differ in their spans. -/
theorem same_of_relocate (h : token'.relocate f' = token.relocate f) :
    token'.kind = token.kind ∧ f' token'.span = f token.span ∧ token'.lexeme = token.lexeme :=
  Token.mk.inj h

/-- A tag is opened with the span of its token, whatever its name there. -/
theorem opens_renamed {hasBody selfClosing : Bool} {tag : Tag}
    (htoken : token.Renamed table.SameTag f f' token')
    (h : token.Opens table hasBody selfClosing tag) :
    ∃ tag', token'.Opens table hasBody selfClosing tag' ∧ tag'.relocate f' = tag.relocate f := by
  obtain ⟨hkind, hname, hraw⟩ := h
  cases htoken with
  | kept hrelocate =>
    obtain ⟨hkind', hspan, -⟩ := same_of_relocate hrelocate
    refine ⟨_, .intro (hkind'.trans hkind) hname hraw, ?_⟩
    rw [Tag.relocate, Tag.relocate, hspan]
  | opening hwritten hwritten' hsame hspan =>
    rw [hkind] at hwritten
    cases hwritten
    obtain ⟨info, hinfo, hinfo'⟩ := hsame
    rw [hname] at hinfo
    cases hinfo
    refine ⟨_, .intro hwritten' hinfo' hraw, ?_⟩
    rw [Tag.relocate, Tag.relocate, hspan]
  | closing hwritten =>
    rw [hkind] at hwritten
    cases hwritten

/-- A closing tag has a name of the same tag, and the span of its token. -/
theorem closes_renamed {name : String} {info : TagInfo}
    (htoken : token.Renamed table.SameTag f f' token') (hkind : token.kind = .tagClose name)
    (hname : table name = some info) :
    ∃ name', token'.kind = .tagClose name' ∧ table name' = some info := by
  cases htoken with
  | kept hrelocate =>
    obtain ⟨hkind', -, -⟩ := same_of_relocate hrelocate
    exact ⟨name, hkind'.trans hkind, hname⟩
  | opening hwritten =>
    rw [hkind] at hwritten
    cases hwritten
  | closing hwritten hwritten' hsame =>
    rw [hkind] at hwritten
    cases hwritten
    obtain ⟨info', hinfo, hinfo'⟩ := hsame
    rw [hname] at hinfo
    cases hinfo
    exact ⟨_, hwritten', hinfo'⟩

/-- A token that is no tag of the table is another one in its span at most. -/
theorem kept_of_foreign (htoken : token.Renamed table.SameTag f f' token')
    (hopen : ∀ {name raw selfClosing}, token.kind = .tagOpen name raw selfClosing →
      table name = none)
    (hclose : ∀ {name}, token.kind = .tagClose name → table name = none) :
    token'.relocate f' = token.relocate f := by
  cases htoken with
  | kept hrelocate => exact hrelocate
  | opening hkind _ hsame =>
    obtain ⟨info, hinfo, -⟩ := hsame
    rw [hopen hkind] at hinfo
    cases hinfo
  | closing hkind _ hsame =>
    obtain ⟨info, hinfo, -⟩ := hsame
    rw [hclose hkind] at hinfo
    cases hinfo

/-- What is made of a token is made of it elsewhere, too, and by another name. -/
theorem Accepts.renamed (h : b.Accepts table depth token after)
    (hb : c.relocate f' = b.relocate f) (htoken : token.Renamed table.SameTag f f' token') :
    ∃ after' : TreeBuilder, c.Accepts table depth token' after' ∧
      after'.relocate f' = after.relocate f := by
  have hpush : ∀ {node node' : Node}, node'.relocate f' = node.relocate f →
      (c.push node').relocate f' = (b.push node).relocate f := by
    intro node node' hnode
    rw [relocate_push, relocate_push, hb, hnode]
  cases h with
  | @text text hkind =>
    have hrelocate := kept_of_foreign htoken (by rw [hkind]; nofun) (by rw [hkind]; nofun)
    obtain ⟨hkind', -, -⟩ := same_of_relocate hrelocate
    refine ⟨c.pushText text, .text (hkind'.trans hkind), ?_⟩
    rw [relocate_pushText, relocate_pushText, hb]
  | @interpolation expression hkind =>
    have hrelocate := kept_of_foreign htoken (by rw [hkind]; nofun) (by rw [hkind]; nofun)
    obtain ⟨hkind', hspan, -⟩ := same_of_relocate hrelocate
    refine ⟨_, .interpolation (hkind'.trans hkind), hpush ?_⟩
    rw [Node.relocate, Node.relocate, hspan]
  | foreign hkind hname =>
    have hrelocate := kept_of_foreign htoken
      (by rw [hkind]; rintro _ _ _ ⟨⟩; exact hname) (by rw [hkind]; nofun)
    obtain ⟨hkind', hspan, hlexeme⟩ := same_of_relocate hrelocate
    refine ⟨_, .foreign (hkind'.trans hkind) hname, ?_⟩
    rw [relocate_pushForeign, relocate_pushForeign, hb, hspan, hlexeme]
  | void htag =>
    obtain ⟨tag', htag', hsame⟩ := opens_renamed htoken htag
    refine ⟨_, .void htag', hpush ?_⟩
    rw [Node.relocate, Node.relocate, hsame]
  | selfClosed htag =>
    obtain ⟨tag', htag', hsame⟩ := opens_renamed htoken htag
    refine ⟨_, .selfClosed htag', hpush ?_⟩
    rw [Node.relocate, Node.relocate, hsame]
    rfl
  | opened htag hfew =>
    obtain ⟨tag', htag', hsame⟩ := opens_renamed htoken htag
    obtain ⟨hcurrent, hopened⟩ := TreeBuilder.mk.inj hb
    have hlength := congrArg List.length hopened
    rw [List.length_map, List.length_map] at hlength
    refine ⟨_, .opened htag' (hlength ▸ hfew), ?_⟩
    rw [relocate, relocate, List.map_cons, List.map_cons, hopened, relocateFrame, relocateFrame,
      hsame, hcurrent]
    rfl
  | foreignClose hkind hname =>
    have hrelocate := kept_of_foreign htoken (by rw [hkind]; nofun)
      (by rw [hkind]; rintro _ ⟨⟩; exact hname)
    obtain ⟨hkind', -, hlexeme⟩ := same_of_relocate hrelocate
    refine ⟨_, .foreignClose (hkind'.trans hkind) hname, ?_⟩
    rw [relocate_pushText, relocate_pushText, hb, hlexeme]
  | voidClose hkind hname hbody =>
    obtain ⟨name', hkind', hname'⟩ := closes_renamed htoken hkind hname
    exact ⟨c, .voidClose hkind' hname' hbody, hb⟩
  | @closed name info tag before opened hkind hname hbody hopened hclose =>
    obtain ⟨name', hkind', hname'⟩ := closes_renamed htoken hkind hname
    obtain ⟨hcurrent, hopened'⟩ := TreeBuilder.mk.inj hb
    rw [hopened, List.map_cons] at hopened'
    obtain ⟨⟨tag', before'⟩, outer', houter, hframe, hothers⟩ := List.map_eq_cons_iff.mp hopened'
    obtain ⟨htag, hbefore⟩ := Prod.mk.inj hframe
    have hsame : tag'.name = tag.name := (Tag.mk.inj htag).1
    refine ⟨_, .closed hkind' hname' hbody houter (hsame.trans hclose), ?_⟩
    rw [relocate, relocate, hothers, relocateAll, relocateAll, Node.relocate, Node.relocate,
      relocateAll_reverse, relocateAll_reverse, hcurrent, htag, hbefore]

/-- What is made of a token is made of it inside of one more open tag, if there is room for that. -/
theorem Accepts.within (h : b.Accepts table depth token after) (hroom : depth < depth') :
    (b.within frame).Accepts table depth' token (after.within frame) := by
  cases h with
  | text hkind =>
    rw [within_pushText frame]
    exact .text hkind
  | interpolation hkind => exact .interpolation hkind
  | foreign hkind hname =>
    rw [within_pushForeign frame]
    exact .foreign hkind hname
  | void htag => exact .void htag
  | selfClosed htag => exact .selfClosed htag
  | opened htag hfew =>
    have hmore : (b.within frame).opened.length < depth' := by
      rw [TreeBuilder.within, List.length_append, List.length_singleton]
      omega
    exact .opened htag hmore
  | foreignClose hkind hname =>
    rw [within_pushText frame]
    exact .foreignClose hkind hname
  | voidClose hkind hname hbody => exact .voidClose hkind hname hbody
  | @closed name info tag before opened hkind hname hbody hopened hclose =>
    have hinner : (b.within frame).opened = (tag, before) :: (opened ++ [frame]) := by
      rw [TreeBuilder.within, hopened]
      rfl
    exact .closed hkind hname hbody hinner hclose

/-- What is made of the tokens of a source is made of them elsewhere, too, and by other names. -/
theorem acceptAll_renamed {items items' : List (Except ScanError Token)}
    (hitems : List.Forall₂ (Scanner.RenamedItem table.SameTag f f') items items')
    (hb : c.relocate f' = b.relocate f) (h : b.acceptAll table depth items = .ok after) :
    ∃ after' : TreeBuilder, c.acceptAll table depth items' = .ok after' ∧
      after'.relocate f' = after.relocate f := by
  induction hitems generalizing b c with
  | nil =>
    cases h
    exact ⟨c, rfl, hb⟩
  | @cons item item' rest rest' hitem hrest ih =>
    obtain @⟨token, token', htoken⟩ := hitem
    rw [acceptAll] at h
    cases haccept : b.accept table depth token with
    | error e =>
      rw [haccept] at h
      cases h
    | ok next =>
      rw [haccept] at h
      obtain ⟨next', haccepts, hnext⟩ := (accept_iff.mp haccept).renamed hb htoken
      rw [acceptAll, haccepts.eq]
      exact ih hnext h

/-- Inside of one more open tag they make the same nodes. -/
theorem acceptAll_within {tokens tokens' : List Token} (hroom : depth < depth')
    (hb : c.relocate f' = b.relocate f)
    (htokens : tokens'.map (Token.relocate f') = tokens.map (Token.relocate f))
    (h : b.acceptAll table depth (tokens.map .ok) = .ok after)
    (items : List (Except ScanError Token)) :
    ∃ after' : TreeBuilder, (c.within frame).acceptAll table depth' (tokens'.map .ok ++ items) =
        (after'.within frame).acceptAll table depth' items ∧
      after'.relocate f' = after.relocate f := by
  induction tokens generalizing tokens' b c with
  | nil =>
    cases h
    rw [List.map_nil, List.map_eq_nil_iff] at htokens
    subst htokens
    exact ⟨c, rfl, hb⟩
  | cons token rest ih =>
    obtain ⟨token', rest', rfl, htoken, hrest⟩ := List.map_eq_cons_iff.mp htokens
    rw [List.map_cons, acceptAll] at h
    cases haccept : b.accept table depth token with
    | error e =>
      rw [haccept] at h
      cases h
    | ok next =>
      rw [haccept] at h
      obtain ⟨next', haccepts, hnext⟩ := (accept_iff.mp haccept).renamed hb (.kept htoken)
      rw [List.map_cons, List.cons_append, acceptAll, (haccepts.within frame hroom).eq]
      exact ih hnext hrest h

/-- What is accepted to its end has no fault in it. -/
theorem tokens_of_acceptAll {items : List (Except ScanError Token)}
    (h : b.acceptAll table depth items = .ok after) :
    ∃ tokens : List Token, items = tokens.map .ok := by
  induction items generalizing b with
  | nil => exact ⟨[], rfl⟩
  | cons item rest ih =>
    cases item with
    | error e => cases h
    | ok token =>
      rw [acceptAll] at h
      cases haccept : b.accept table depth token with
      | error e =>
        rw [haccept] at h
        cases h
      | ok next =>
        rw [haccept] at h
        obtain ⟨tokens, rfl⟩ := ih h
        exact ⟨token :: tokens, rfl⟩

end TreeBuilder

/-- Tokens by other names make the same tree. -/
theorem Template.build_renamed {table : TagTable} {depth : Nat}
    {items items' : List (Except ScanError Token)}
    (hitems : List.Forall₂ (Scanner.RenamedItem table.SameTag f f') items items')
    {template : Template} (h : build table depth items = .ok template) :
    ∃ template', build table depth items' = .ok template' ∧
      relocateAll f' template'.nodes = relocateAll f template.nodes := by
  obtain ⟨b, haccept, hopened, rfl⟩ := build_eq_ok_iff.mp h
  have hempty : TreeBuilder.empty.relocate f' = TreeBuilder.empty.relocate f := rfl
  obtain ⟨b', haccept', hsame⟩ := TreeBuilder.acceptAll_renamed hitems hempty haccept
  obtain ⟨hcurrent, hframes⟩ := TreeBuilder.mk.inj hsame
  rw [hopened, List.map_nil, List.map_eq_nil_iff] at hframes
  refine ⟨_, build_eq_ok_iff.mpr ⟨b', haccept', hframes, rfl⟩, ?_⟩
  rw [relocateAll_reverse, relocateAll_reverse, hcurrent]

/-! ## A block -/

/-- A closing tag as it stands in a source. -/
def closingSource (name : String) : List Char := '<' :: closingInside name ++ ['>']

/-- A block as it stands in a source, with what its opening tag holds. -/
def blockSource (name : String) (inside body : List Char) : List Char :=
  '<' :: inside ++ '>' :: (body ++ closingSource name)

variable {table : TagTable} {depth depth' : Nat} {name : String}

/-- A closing tag does not touch what stands before it. -/
theorem isSeam_closingSource (hname : IsTagName name) : IsSeam (closingSource name) where
  tag := ⟨closingInside name ++ ['>'], rfl, opensTag_closingInside hname _⟩
  plain := by
    intro c hc
    have hchars := List.all_eq_true.mp hname.chars
    rw [closingSource, closingInside, List.cons_append, List.cons_append, List.mem_cons,
      List.mem_cons, List.mem_append, List.mem_singleton] at hc
    rcases hc with rfl | rfl | hc | rfl
    · decide
    · decide
    · rintro (rfl | rfl)
      · exact absurd (hchars _ hc) (by decide +kernel)
      · exact absurd (hchars _ hc) (by decide +kernel)
    · decide

/-- The tokens of a block: that of its opening tag, which is given by what the tag holds, those of
its body, as many lines further down as the opening tag has line feeds, and that of its closing
tag. -/
theorem Scanner.itemsAt_blockSource {inside body : List Char} (hname : IsTagName name)
    (hhidden : Hidden inside) (hopens : ∀ rest, opensTag (inside ++ rest) = true)
    {tokens : List Token} (h : itemsAt body .start = tokens.map .ok) :
    ∃ (opening closing : Token) (tokens' : List Token),
      itemsAt (blockSource name inside body) .start =
        .ok opening :: (tokens'.map .ok ++ [.ok closing]) ∧
      opening.kind = .ofTag inside ∧ opening.span.line = 1 ∧ closing.kind = .tagClose name ∧
      tokens'.map (Token.relocate (.down 0)) =
        tokens.map (Token.relocate (.down (inside.count '\n'))) := by
  have hbelow : Position.start.Below (inside.count '\n')
      (Position.start.advance ('<' :: inside ++ ['>'])) := by
    show (Position.start.advance _).line = _
    rw [advance_line]
    simp
  obtain ⟨tokens', stop, hitems, hsame⟩ :=
    itemsAt_append (isSeam_closingSource hname) hbelow h
  have hend : AtMarkup [] none := rfl
  have hclosing : itemsAt (closingSource name) stop = _ :=
    itemsAt_tag (hidden_closingInside hname) [] (opensTag_closingInside hname _) stop
  rw [ofTag_closingInside hname, itemsAt_of_atMarkup hend] at hclosing
  have hall := itemsAt_tag hhidden (body ++ closingSource name) (hopens _) .start
  rw [hitems, hclosing] at hall
  exact ⟨_, _, tokens', hall, rfl, rfl, rfl, hsame⟩

/-- A tag around a source that has a tree is a block around the nodes of that tree, which are as
many lines further down as the opening tag has line feeds. -/
theorem parse_block {inside : List Char} {raw body : String} {attributes : Attributes}
    {template : Template} (hhidden : Hidden inside)
    (hopens : ∀ rest, opensTag (inside ++ rest) = true)
    (hkind : Token.Kind.ofTag inside = .tagOpen name raw false)
    (hraw : Attributes.parse raw = .ok attributes) (hname : IsTagName name)
    (hresolved : table name = some ⟨name, true⟩)
    (hbody : Template.parse table depth body = .ok template) (hroom : depth < depth') :
    ∃ (span : Span) (children : List Node), span.line = 1 ∧
      Template.parse table depth' (String.ofList (blockSource name inside body.toList)) =
        .ok ⟨[.block ⟨name, attributes, raw, span⟩ children]⟩ ∧
      relocateAll (.down 0) children =
        relocateAll (.down (inside.count '\n')) template.nodes := by
  obtain ⟨alone, halone, hopened, rfl⟩ := Template.build_eq_ok_iff.mp hbody
  obtain ⟨tokens, htokens⟩ := TreeBuilder.tokens_of_acceptAll halone
  rw [htokens] at halone
  obtain ⟨opening, closing, tokens', hitems, hopening, hline, hclosing, hsame⟩ :=
    Scanner.itemsAt_blockSource hname hhidden hopens htokens
  -- the opening tag, the nodes of the body within it, and the closing tag
  set tag : Tag := ⟨name, attributes, raw, opening.span⟩ with htag
  have hfirst := (TreeBuilder.Accepts.opened (b := .empty)
    (.intro (hopening.trans hkind) hresolved hraw) (Nat.zero_lt_of_lt hroom)).eq
  have hempty : TreeBuilder.empty.relocate (.down 0) =
      TreeBuilder.empty.relocate (.down (inside.count '\n')) := rfl
  obtain ⟨inner, hinner, hnodes⟩ :=
    TreeBuilder.acceptAll_within (tag, []) hroom hempty hsame halone [.ok closing]
  obtain ⟨hcurrent, hframes⟩ := TreeBuilder.mk.inj hnodes
  rw [hopened, List.map_nil, List.map_eq_nil_iff] at hframes
  have hlast : (inner.within (tag, [])).Accepts table depth' closing
      ⟨[.block tag inner.current.reverse], []⟩ := by
    refine .closed hclosing hresolved rfl ?_ rfl
    rw [TreeBuilder.within, hframes]
    rfl
  refine ⟨opening.span, inner.current.reverse, hline, ?_, ?_⟩
  · rw [Template.parse, Scanner.ofSource, String.toList_ofList]
    refine Template.build_eq_ok_iff.mpr ⟨⟨[.block tag inner.current.reverse], []⟩, ?_, rfl, rfl⟩
    show TreeBuilder.empty.acceptAll table depth' (Scanner.itemsAt _ _) = _
    rw [hitems, TreeBuilder.acceptAll, hfirst]
    show TreeBuilder.acceptAll table depth' (TreeBuilder.empty.within (tag, [])) _ = _
    rw [hinner, TreeBuilder.acceptAll, hlast.eq]
    rfl
  · rw [relocateAll_reverse, relocateAll_reverse, hcurrent]

end TagTemplate
