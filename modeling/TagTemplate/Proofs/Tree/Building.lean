import TagTemplate.Tree.Builder

/-!
# How a tree is built

`TreeBuilder.Accepts` says what a tree builder can make of a token, one case for each way to accept
one. It holds of what is accepted and of nothing else (`accept_iff`). So what is true of the empty
tree and is kept by each of its cases is true of whatever is built (`acceptAll_keeps`).
-/

namespace TagTemplate

variable {table : TagTable} {depth : Nat}

/-- The token opens a tag, which a table says to have a body or not. -/
inductive Token.Opens (table : TagTable) (token : Token) : (hasBody selfClosing : Bool) → Tag → Prop
  | intro {name raw : String} {selfClosing : Bool} {info : TagInfo} {attributes : Attributes}
    (hkind : token.kind = .tagOpen name raw selfClosing) (hname : table name = some info)
    (hraw : Attributes.parse raw = .ok attributes) :
    Opens table token info.hasBody selfClosing ⟨info.name, attributes, raw, token.span⟩

/-- What a tag takes from the token that opens it. -/
theorem Token.Opens.eq {token : Token} {hasBody selfClosing : Bool} {tag : Tag}
    (h : token.Opens table hasBody selfClosing tag) :
    token.span = tag.span ∧ Attributes.parse tag.raw = .ok tag.attributes ∧
      ∃ name, token.kind = .tagOpen name tag.raw selfClosing ∧
        table name = some ⟨tag.name, hasBody⟩ := by
  cases h with
  | intro hkind hname hraw => exact ⟨rfl, hraw, _, hkind, hname⟩

namespace TreeBuilder

/-! ## Text -/

/-- An empty text changes nothing. Any other joins the text before it, if there is one, and is a node
of its own if there is none. -/
@[elab_as_elim]
theorem pushText_cases {motive : TreeBuilder → Prop} (b : TreeBuilder) (text : String)
    (empty : text = "" → motive b)
    (joins : ∀ previous rest, text ≠ "" → b.current = .text previous :: rest →
      motive { b with current := .text (previous ++ text) :: rest })
    (apart : text ≠ "" → (∀ previous rest, b.current ≠ .text previous :: rest) →
      motive (b.push (.text text))) : motive (b.pushText text) := by
  unfold pushText
  split
  · next hempty => exact empty (String.isEmpty_iff.mp hempty)
  · next hempty =>
    have hne : text ≠ "" := mt String.isEmpty_iff.mpr hempty
    split
    · next previous rest hcurrent => exact joins previous rest hne hcurrent
    · next hapart => exact apart hne hapart

/-! ## One token -/

/-- What a builder makes of a token. -/
inductive Accepts (table : TagTable) (depth : Nat) (b : TreeBuilder) (token : Token) :
    TreeBuilder → Prop
  | text {text : String} (hkind : token.kind = .text text) :
    Accepts table depth b token (b.pushText text)
  | interpolation {expression : String} (hkind : token.kind = .interpolation expression) :
    Accepts table depth b token (b.push (.interpolation expression token.span))
  | foreign {name raw : String} {selfClosing : Bool}
    (hkind : token.kind = .tagOpen name raw selfClosing) (hname : table name = none) :
    Accepts table depth b token (b.pushForeign token.lexeme token.span)
  | void {selfClosing : Bool} {tag : Tag} (htag : token.Opens table false selfClosing tag) :
    Accepts table depth b token (b.push (.void tag))
  | selfClosed {tag : Tag} (htag : token.Opens table true true tag) :
    Accepts table depth b token (b.push (.block tag []))
  | opened {tag : Tag} (htag : token.Opens table true false tag) (hroom : b.opened.length < depth) :
    Accepts table depth b token ⟨[], (tag, b.current) :: b.opened⟩
  | foreignClose {name : String} (hkind : token.kind = .tagClose name) (hname : table name = none) :
    Accepts table depth b token (b.pushText token.lexeme)
  | voidClose {name : String} {info : TagInfo} (hkind : token.kind = .tagClose name)
    (hname : table name = some info) (hbody : info.hasBody = false) :
    Accepts table depth b token b
  | closed {name : String} {info : TagInfo} {tag : Tag} {before : List Node}
    {opened : List (Tag × List Node)} (hkind : token.kind = .tagClose name)
    (hname : table name = some info) (hbody : info.hasBody = true)
    (hopened : b.opened = (tag, before) :: opened) (hclose : tag.name = info.name) :
    Accepts table depth b token ⟨.block tag b.current.reverse :: before, opened⟩

variable {b after : TreeBuilder} {token : Token}

/-- A token that opens a tag is accepted if the builder can open that tag. -/
theorem accept_of_opens {tag : Tag} {hasBody selfClosing : Bool}
    (htag : token.Opens table hasBody selfClosing tag) :
    b.accept table depth token = b.openTag depth tag hasBody selfClosing := by
  obtain ⟨hkind, hname, hraw⟩ := htag
  simp only [accept, hkind, hname, hraw]

theorem Accepts.eq (h : b.Accepts table depth token after) :
    b.accept table depth token = .ok after := by
  cases h with
  | text hkind => simp only [accept, hkind]
  | interpolation hkind => simp only [accept, hkind]
  | foreign hkind hname => simp only [accept, hkind, hname]
  | void htag =>
    rw [accept_of_opens htag]
    rfl
  | selfClosed htag =>
    rw [accept_of_opens htag]
    rfl
  | opened htag hroom =>
    rw [accept_of_opens htag]
    exact if_neg (Nat.not_le.mpr hroom)
  | foreignClose hkind hname => simp only [accept, hkind, hname]
  | voidClose hkind hname hbody =>
    simp only [accept, hkind, hname, hbody]
    rfl
  | closed hkind hname hbody hopened hclose =>
    simp only [accept, hkind, hname, hbody, if_true, closeTag, hopened, hclose]

theorem Accepts.of_openTag {tag : Tag} {hasBody selfClosing : Bool}
    (htag : token.Opens table hasBody selfClosing tag)
    (h : b.openTag depth tag hasBody selfClosing = .ok after) :
    b.Accepts table depth token after := by
  unfold openTag at h
  cases hasBody with
  | false =>
    cases h
    exact .void htag
  | true =>
    cases selfClosing with
    | true =>
      cases h
      exact .selfClosed htag
    | false =>
      simp only [Bool.not_true, Bool.false_eq_true, if_false] at h
      split at h
      · cases h
      · next hroom =>
        cases h
        exact .opened htag (Nat.not_le.mp hroom)

theorem Accepts.of_closeTag {name : String} {info : TagInfo} (hkind : token.kind = .tagClose name)
    (hname : table name = some info) (hbody : info.hasBody = true)
    (h : b.closeTag info.name name token.span = .ok after) :
    b.Accepts table depth token after := by
  unfold closeTag at h
  split at h
  · cases h
  · next hopened =>
    split at h
    · next hclose =>
      cases h
      exact .closed hkind hname hbody hopened hclose
    · cases h

theorem Accepts.of_accept (h : b.accept table depth token = .ok after) :
    b.Accepts table depth token after := by
  unfold accept at h
  cases hkind : token.kind with
  | text text =>
    rw [hkind] at h
    cases h
    exact .text hkind
  | interpolation expression =>
    rw [hkind] at h
    cases h
    exact .interpolation hkind
  | tagOpen name raw selfClosing =>
    rw [hkind] at h
    simp only at h
    cases hname : table name with
    | none =>
      rw [hname] at h
      cases h
      exact .foreign hkind hname
    | some info =>
      rw [hname] at h
      simp only at h
      cases hraw : Attributes.parse raw with
      | error e =>
        rw [hraw] at h
        cases h
      | ok attributes =>
        rw [hraw] at h
        have htag := Token.Opens.intro hkind hname hraw
        exact of_openTag htag h
  | tagClose name =>
    rw [hkind] at h
    simp only at h
    cases hname : table name with
    | none =>
      rw [hname] at h
      cases h
      exact .foreignClose hkind hname
    | some info =>
      rw [hname] at h
      simp only at h
      cases hbody : info.hasBody with
      | false =>
        rw [if_neg (by rw [hbody]; exact Bool.false_ne_true)] at h
        cases h
        exact .voidClose hkind hname hbody
      | true =>
        rw [if_pos hbody] at h
        exact of_closeTag hkind hname hbody h

/-- A token is accepted in one of these ways and in no other. -/
theorem accept_iff : b.accept table depth token = .ok after ↔ b.Accepts table depth token after :=
  ⟨.of_accept, Accepts.eq⟩

/-! ## Unknown tags -/

/-- A piece of an unknown tag is text or an interpolation. -/
theorem foreignPieces_kinds (span : Span) (cs : List Char) : ∀ piece ∈ foreignPieces span cs,
    (∃ text, piece = .text text) ∨ ∃ expression, piece = .interpolation expression span := by
  fun_induction foreignPieces span cs with
  | case1 cs => exact List.forall_mem_singleton.mpr (.inl ⟨_, rfl⟩)
  | case2 cs before mark after hmark rest hrest ih =>
    exact List.forall_mem_cons.mpr ⟨.inl ⟨_, rfl⟩, List.forall_mem_cons.mpr ⟨.inr ⟨_, rfl⟩, ih⟩⟩
  | case3 cs before mark after hmark _ ih =>
    exact List.forall_mem_cons.mpr ⟨.inl ⟨_, rfl⟩, ih⟩

/-- What texts and interpolations keep true, unknown tags keep true. -/
theorem pushForeign_keeps {Inv : TreeBuilder → Prop}
    (htext : ∀ b text, Inv b → Inv (b.pushText text))
    (hinterpolation : ∀ b expression span, Inv b → Inv (b.push (.interpolation expression span)))
    (h : Inv b) (lexeme : String) (span : Span) : Inv (b.pushForeign lexeme span) := by
  unfold pushForeign
  have hkinds := foreignPieces_kinds span lexeme.toList
  generalize foreignPieces span lexeme.toList = pieces at hkinds
  induction pieces generalizing b with
  | nil => exact h
  | cons piece rest ih =>
    obtain ⟨hpiece, hrest⟩ := List.forall_mem_cons.mp hkinds
    rcases hpiece with ⟨text, rfl⟩ | ⟨expression, rfl⟩
    · exact ih (htext b text h) hrest
    · exact ih (hinterpolation b expression span h) hrest

/-! ## All tokens -/

/-- What each token that is accepted keeps true stays true. -/
theorem acceptAll_keeps {Inv : TreeBuilder → Prop} {items : List (Except ScanError Token)}
    (hstep : ∀ token, .ok token ∈ items → ∀ b after, Inv b → b.Accepts table depth token after →
      Inv after)
    (h : Inv b) (hok : b.acceptAll table depth items = .ok after) : Inv after := by
  -- A scan error is never passed, so all items that matter are tokens.
  induction items generalizing b with
  | nil =>
    cases hok
    exact h
  | cons item rest ih =>
    cases item with
    | error e => cases hok
    | ok token =>
      rw [acceptAll] at hok
      cases haccept : b.accept table depth token with
      | error e =>
        rw [haccept] at hok
        cases hok
      | ok next =>
        rw [haccept] at hok
        have hnext := hstep token (List.mem_cons_self ..) b next h (accept_iff.mp haccept)
        exact ih (fun token htoken => hstep token (List.mem_cons_of_mem _ htoken)) hnext hok

end TreeBuilder

/-- A template is built when all tokens are accepted and no tag is left open. -/
theorem Template.build_eq_ok_iff {items : List (Except ScanError Token)} {template : Template} :
    build table depth items = .ok template ↔
      ∃ b, TreeBuilder.empty.acceptAll table depth items = .ok b ∧ b.opened = [] ∧
        template = ⟨b.current.reverse⟩ := by
  unfold build
  cases TreeBuilder.empty.acceptAll table depth items with
  | error e =>
    constructor
    · intro h
      cases h
    · rintro ⟨_, h, _⟩
      cases h
  | ok b =>
    simp only [Except.ok.injEq, exists_eq_left']
    unfold TreeBuilder.finish
    cases b.opened with
    | nil =>
      simp only [true_and, Except.ok.injEq]
      exact eq_comm
    | cons frame rest => simp

end TagTemplate
