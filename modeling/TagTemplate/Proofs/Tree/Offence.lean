import TagTemplate.Proofs.Tree.Building
import TagTemplate.Proofs.Tree.Marks

/-!
# Tokens that offend

For the question whether tokens make a tree, all that matters of them is the word of their marks: a
tag that opens a block and the tag that closes one, by canonical name. The rest is neutral: text,
interpolations, unknown tags, void tags with their closing tags, blocks that close themselves.

A row of tokens is without offence when all could be scanned, the attributes of all known tags can be
read, and the word leaves some blocks open, never more of them than the limit allows. Where a token
offends, a row without offence ends (`Sound.not_offends`).
-/

namespace TagTemplate

variable {table : TagTable} {depth : Nat}

/-- The mark of a token, if it opens or closes a block. -/
def Token.mark? (table : TagTable) (token : Token) : Option Mark :=
  match token.kind with
  | .text _ => none
  | .interpolation _ => none
  | .tagOpen name _ selfClosing =>
    match table name with
    | none => none
    | some info =>
      if info.hasBody && !selfClosing then some (.opens (info.name, token.span)) else none
  | .tagClose name =>
    match table name with
    | none => none
    | some info => if info.hasBody then some (.closes info.name) else none

/-- Of the tokens that open a tag, those of blocks that do not close themselves have a mark. -/
theorem Token.Opens.mark? {token : Token} {hasBody selfClosing : Bool} {tag : Tag}
    (h : token.Opens table hasBody selfClosing tag) : token.mark? table =
      if hasBody && !selfClosing then some (.opens (tag.name, tag.span)) else none := by
  obtain ⟨hkind, hname, -⟩ := h
  simp only [Token.mark?, hkind, hname]

theorem Token.mark?_of_close {token : Token} {name : String} {info : TagInfo}
    (hkind : token.kind = .tagClose name) (hname : table name = some info)
    (hbody : info.hasBody = true) : token.mark? table = some (.closes info.name) := by
  simp only [Token.mark?, hkind, hname, hbody, if_true]

/-- The marks of a row of tokens. -/
def marks (table : TagTable) : List (Except ScanError Token) → List Mark
  | [] => []
  | .error _ :: rest => marks table rest
  | .ok token :: rest => (token.mark? table).toList ++ marks table rest

/-- There is no scan error. -/
def Scanned (items : List (Except ScanError Token)) : Prop := ∀ e, .error e ∉ items

/-- The attribute text of the token can be read, if it is an opening tag that the table knows. -/
def Token.AttributesRead (table : TagTable) (token : Token) : Prop :=
  ∀ name raw selfClosing info, token.kind = .tagOpen name raw selfClosing →
    table name = some info → ∃ attributes, Attributes.parse raw = .ok attributes

theorem Token.Opens.attributesRead {token : Token} {hasBody selfClosing : Bool} {tag : Tag}
    (h : token.Opens table hasBody selfClosing tag) : token.AttributesRead table := by
  obtain ⟨hkind, -, hraw⟩ := h
  intro name raw selfClosing info hopen _
  rw [hkind] at hopen
  cases hopen
  exact ⟨_, hraw⟩

theorem Token.attributesRead_of_ne {token : Token}
    (h : ∀ name raw selfClosing, token.kind ≠ .tagOpen name raw selfClosing) :
    token.AttributesRead table :=
  fun name raw selfClosing _ hopen _ => absurd hopen (h name raw selfClosing)

/-- The attribute text of each opening tag that the table knows can be read. -/
def AttributesRead (table : TagTable) (items : List (Except ScanError Token)) : Prop :=
  ∀ token, .ok token ∈ items → token.AttributesRead table

/-- A row of tokens without offence, which leaves some blocks open. -/
structure Sound (table : TagTable) (depth : Nat) (items : List (Except ScanError Token))
    (blocks : List OpenBlock) : Prop where
  scanned : Scanned items
  attributesRead : AttributesRead table items
  leavesOpen : LeavesOpen (marks table items) blocks
  neverDeeper : NeverDeeper depth (marks table items)

/-- How the next token offends where some blocks are open. Attributes that cannot be read come
before the depth. -/
inductive Offends (table : TagTable) (depth : Nat) (blocks : List OpenBlock) :
    Except ScanError Token → ParseError → Prop
  | scan (e : ScanError) : Offends table depth blocks (.error e) (.scan e)
  | malformedAttribute {token : Token} {name raw : String} {selfClosing : Bool} {info : TagInfo}
    {e : AttributeError} (hkind : token.kind = .tagOpen name raw selfClosing)
    (hname : table name = some info) (hraw : Attributes.parse raw = .error e) :
    Offends table depth blocks (.ok token)
      (.malformedAttribute name e token.span.line token.span.column)
  | tooDeep {token : Token} {name raw : String} {info : TagInfo} {attributes : Attributes}
    (hkind : token.kind = .tagOpen name raw false) (hname : table name = some info)
    (hbody : info.hasBody = true) (hraw : Attributes.parse raw = .ok attributes)
    (hfull : depth ≤ blocks.length) :
    Offends table depth blocks (.ok token)
      (.tooDeep info.name depth token.span.line token.span.column)
  | unexpectedClose {token : Token} {name : String} {info : TagInfo}
    (hkind : token.kind = .tagClose name) (hname : table name = some info)
    (hbody : info.hasBody = true) (hnone : blocks = []) :
    Offends table depth blocks (.ok token)
      (.unexpectedClose name token.span.line token.span.column)
  | unbalancedTag {token : Token} {name : String} {info : TagInfo} {innermost : OpenBlock}
    {others : List OpenBlock} (hkind : token.kind = .tagClose name)
    (hname : table name = some info) (hbody : info.hasBody = true)
    (hblocks : blocks = innermost :: others) (hother : innermost.1 ≠ info.name) :
    Offends table depth blocks (.ok token)
      (.unbalancedTag innermost.1 name token.span.line token.span.column)

/-- What is to blame when tokens make no tree: the first that offends, or else the innermost block
that is still open after all of them. -/
inductive Blames (table : TagTable) (depth : Nat) (items : List (Except ScanError Token)) :
    ParseError → Prop
  | offender {before after : List (Except ScanError Token)} {item : Except ScanError Token}
    {blocks : List OpenBlock} {e : ParseError} (hitems : items = before ++ item :: after)
    (hbefore : Sound table depth before blocks) (hitem : Offends table depth blocks item e) :
    Blames table depth items e
  | unclosedTag {innermost : OpenBlock} {others : List OpenBlock}
    (hsound : Sound table depth items (innermost :: others)) :
    Blames table depth items
      (.unclosedTag innermost.1 innermost.2.line innermost.2.column)

theorem marks_append (items items' : List (Except ScanError Token)) :
    marks table (items ++ items') = marks table items ++ marks table items' := by
  induction items with
  | nil => rfl
  | cons item rest ih =>
    cases item with
    | error e => exact ih
    | ok token => rw [List.cons_append, marks, marks, ih, List.append_assoc]

theorem marks_concat (items : List (Except ScanError Token)) (token : Token) :
    marks table (items ++ [.ok token]) = marks table items ++ (token.mark? table).toList := by
  rw [marks_append, marks, marks, List.append_nil]

/-- A row without offence leaves no other blocks open. -/
theorem Sound.blocks_eq {items : List (Except ScanError Token)} {blocks blocks' : List OpenBlock}
    (h : Sound table depth items blocks) (h' : Sound table depth items blocks') :
    blocks' = blocks := by
  have hleft := leavesOpen_iff.mp h.leavesOpen
  have hright := leavesOpen_iff.mp h'.leavesOpen
  rw [hleft] at hright
  cases hright
  rfl

theorem Sound.length_le {items : List (Except ScanError Token)} {blocks : List OpenBlock}
    (h : Sound table depth items blocks) : blocks.length ≤ depth := by
  have hlength := length_of_followAll? (leavesOpen_iff.mp h.leavesOpen)
  have hdeep := h.neverDeeper _ (List.prefix_refl _)
  rw [List.length_nil] at hlength
  omega

theorem sound_nil : Sound table depth [] [] where
  scanned e he := by cases he
  attributesRead token htoken := by cases htoken
  leavesOpen := .balanced .nil
  neverDeeper := neverDeeper_nil depth

/-- A row is without offence when what comes before its last token is, the attributes of that token
can be read, and its mark makes no more blocks than the limit allows of those that are open. -/
theorem sound_concat_iff {items : List (Except ScanError Token)} {token : Token}
    {after : List OpenBlock} : Sound table depth (items ++ [.ok token]) after ↔
      ∃ blocks, Sound table depth items blocks ∧ token.AttributesRead table ∧
        followAll? (token.mark? table).toList blocks = some after ∧ after.length ≤ depth := by
  constructor
  · intro h
    have hword := leavesOpen_iff.mp h.leavesOpen
    have hdeep := h.neverDeeper
    rw [marks_concat, followAll?_append] at hword
    rw [marks_concat] at hdeep
    obtain ⟨blocks, hblocks, hmark⟩ := Option.bind_eq_some_iff.mp hword
    refine ⟨blocks, ⟨fun e he => ?_, fun other hother => ?_, leavesOpen_iff.mpr hblocks,
      hdeep.of_append⟩, ?_, hmark, h.length_le⟩
    · exact h.scanned e (List.mem_append_left _ he)
    · exact h.attributesRead other (List.mem_append_left _ hother)
    · exact h.attributesRead token (List.mem_append_right _ (List.mem_singleton.mpr rfl))
  · rintro ⟨blocks, h, hread, hmark, hroom⟩
    have hword : LeavesOpen (marks table items ++ (token.mark? table).toList) after := by
      rw [leavesOpen_iff, followAll?_append, leavesOpen_iff.mp h.leavesOpen]
      exact hmark
    refine ⟨fun e he => ?_, fun other hother => ?_, by rwa [marks_concat], ?_⟩
    · rcases List.mem_append.mp he with he | he
      · exact h.scanned e he
      · cases List.mem_singleton.mp he
    · rcases List.mem_append.mp hother with hother | hother
      · exact h.attributesRead other hother
      · cases List.mem_singleton.mp hother
        exact hread
    · rw [marks_concat]
      cases hsome : token.mark? table with
      | none =>
        rw [Option.toList_none, List.append_nil]
        exact h.neverDeeper
      | some mark =>
        rw [hsome] at hword
        exact (neverDeeper_concat hword).mpr ⟨h.neverDeeper, hroom⟩

/-- What stands at the front of a row without offence is without offence. -/
theorem Sound.of_append {items items' : List (Except ScanError Token)} {blocks : List OpenBlock}
    (h : Sound table depth (items ++ items') blocks) :
    ∃ before, Sound table depth items before := by
  have hword := leavesOpen_iff.mp h.leavesOpen
  have hdeep := h.neverDeeper
  rw [marks_append, followAll?_append] at hword
  rw [marks_append] at hdeep
  obtain ⟨before, hbefore, -⟩ := Option.bind_eq_some_iff.mp hword
  refine ⟨before, fun e he => ?_, fun token htoken => ?_, leavesOpen_iff.mpr hbefore,
    hdeep.of_append⟩
  · exact h.scanned e (List.mem_append_left _ he)
  · exact h.attributesRead token (List.mem_append_left _ htoken)

/-- A token that offends is in no row without offence. -/
theorem Sound.not_offends {items rest : List (Except ScanError Token)}
    {item : Except ScanError Token} {blocks before : List OpenBlock} {e : ParseError}
    (h : Sound table depth (items ++ item :: rest) blocks) (hbefore : Sound table depth items before)
    (hitem : Offends table depth before item e) : False := by
  cases item with
  | error fault => exact h.scanned fault (List.mem_append_right _ (List.mem_cons_self ..))
  | ok token =>
    rw [← List.singleton_append, ← List.append_assoc] at h
    obtain ⟨after, hafter⟩ := h.of_append
    obtain ⟨before', hbefore', hread, hmark, hroom⟩ := sound_concat_iff.mp hafter
    cases hbefore.blocks_eq hbefore'
    cases hitem with
    | malformedAttribute hkind hname hraw =>
      obtain ⟨attributes, hok⟩ := hread _ _ _ _ hkind hname
      rw [hraw] at hok
      cases hok
    | tooDeep hkind hname hbody hraw hfull =>
      have hopens : token.Opens table _ _ _ := .intro hkind hname hraw
      rw [hopens.mark?, hbody] at hmark
      cases hmark
      rw [List.length_cons] at hroom
      omega
    | unexpectedClose hkind hname hbody hnone =>
      rw [Token.mark?_of_close hkind hname hbody, hnone] at hmark
      cases hmark
    | unbalancedTag hkind hname hbody hblocks hother =>
      rw [Token.mark?_of_close hkind hname hbody, hblocks, Option.toList_some, followAll?,
        Mark.follow?, if_neg hother] at hmark
      cases hmark

end TagTemplate
