import TagTemplate.Proofs.Tree.Offence

/-!
# Balanced templates

The builder keeps the open blocks on a stack and does with them what the marks of the tokens say. So
it builds a tree of exactly the rows of tokens that are without offence and leave no block open, and
of any other row it blames the first token that offends or else the innermost block that is still
open (`build_iff_balanced`).
-/

namespace TagTemplate

variable {table : TagTable} {depth : Nat}

namespace TreeBuilder

variable {b after : TreeBuilder} {token : Token}

/-- The blocks that are open, the innermost first. -/
def blocks (b : TreeBuilder) : List OpenBlock :=
  b.opened.map fun frame => (frame.1.name, frame.1.span)

theorem length_blocks (b : TreeBuilder) : b.blocks.length = b.opened.length := List.length_map _

theorem blocks_pushText (b : TreeBuilder) (text : String) : (b.pushText text).blocks = b.blocks :=
  pushText_cases b text (fun _ => rfl) (fun _ _ _ _ => rfl) fun _ _ => rfl

theorem blocks_pushForeign (b : TreeBuilder) (lexeme : String) (span : Span) :
    (b.pushForeign lexeme span).blocks = b.blocks := by
  have htext : ∀ (c : TreeBuilder) text, c.blocks = b.blocks →
      (c.pushText text).blocks = b.blocks := by
    intro c text h
    rw [blocks_pushText, h]
  exact @pushForeign_keeps b (fun c => c.blocks = b.blocks) htext (fun _ _ _ h => h) rfl lexeme span

/-- What a builder makes of a token: the attributes could be read, the blocks changed as the mark of
the token says, and there are no more of them than the limit allows. -/
structure Follows (table : TagTable) (depth : Nat) (b : TreeBuilder) (token : Token)
    (after : TreeBuilder) : Prop where
  attributesRead : token.AttributesRead table
  blocks : followAll? (token.mark? table).toList b.blocks = some after.blocks
  length_le : b.blocks.length ≤ depth → after.blocks.length ≤ depth

/-- A token without a mark leaves the blocks as they are. -/
theorem Follows.neutral (hread : token.AttributesRead table) (hmark : token.mark? table = none)
    (hblocks : after.blocks = b.blocks) : Follows table depth b token after := by
  refine ⟨hread, ?_, fun h => by rwa [hblocks]⟩
  rw [hmark, hblocks]
  rfl

/-- Each way to accept a token does what its mark says. -/
theorem Accepts.follows (h : b.Accepts table depth token after) :
    Follows table depth b token after := by
  cases h with
  | text hkind =>
    refine .neutral (Token.attributesRead_of_ne ?_) ?_ (b.blocks_pushText _)
    · simp only [hkind, ne_eq, reduceCtorEq, not_false_eq_true, implies_true]
    · simp only [Token.mark?, hkind]
  | interpolation hkind =>
    refine .neutral (Token.attributesRead_of_ne ?_) ?_ rfl
    · simp only [hkind, ne_eq, reduceCtorEq, not_false_eq_true, implies_true]
    · simp only [Token.mark?, hkind]
  | foreign hkind hname =>
    refine .neutral (fun name raw selfClosing info hopen hfound => ?_) ?_
      (b.blocks_pushForeign _ _)
    · rw [hkind] at hopen
      cases hopen
      rw [hname] at hfound
      cases hfound
    · simp only [Token.mark?, hkind, hname]
  | void htag => exact .neutral htag.attributesRead htag.mark? rfl
  | selfClosed htag => exact .neutral htag.attributesRead htag.mark? rfl
  | opened htag hroom =>
    rw [← length_blocks] at hroom
    refine ⟨htag.attributesRead, ?_, fun _ => hroom⟩
    rw [htag.mark?]
    rfl
  | foreignClose hkind hname =>
    refine .neutral (Token.attributesRead_of_ne ?_) ?_ (b.blocks_pushText _)
    · simp only [hkind, ne_eq, reduceCtorEq, not_false_eq_true, implies_true]
    · simp only [Token.mark?, hkind, hname]
  | voidClose hkind hname hbody =>
    refine .neutral (Token.attributesRead_of_ne ?_) ?_ rfl
    · simp only [hkind, ne_eq, reduceCtorEq, not_false_eq_true, implies_true]
    · simp only [Token.mark?, hkind, hname, hbody, Bool.false_eq_true, if_false]
  | @closed _ info tag before opened hkind hname hbody hopened hclose =>
    have hblocks : b.blocks = (info.name, tag.span) :: opened.map
        fun frame => (frame.1.name, frame.1.span) := by
      rw [blocks, hopened, ← hclose]
      rfl
    refine ⟨Token.attributesRead_of_ne ?_, ?_, fun h => ?_⟩
    · simp only [hkind, ne_eq, reduceCtorEq, not_false_eq_true, implies_true]
    · rw [hblocks, Token.mark?_of_close hkind hname hbody, Option.toList_some, followAll?,
        Mark.follow?, if_pos rfl]
      rfl
    · rw [hblocks, List.length_cons] at h
      exact Nat.le_of_succ_le h

/-- A token that is refused offends. -/
theorem offends_of_accept {e : ParseError} (h : b.accept table depth token = .error e) :
    Offends table depth b.blocks (.ok token) e := by
  unfold accept at h
  cases hkind : token.kind with
  | text text =>
    rw [hkind] at h
    cases h
  | interpolation expression =>
    rw [hkind] at h
    cases h
  | tagOpen name raw selfClosing =>
    rw [hkind] at h
    simp only at h
    cases hname : table name with
    | none =>
      rw [hname] at h
      cases h
    | some info =>
      rw [hname] at h
      simp only at h
      cases hraw : Attributes.parse raw with
      | error fault =>
        rw [hraw] at h
        cases h
        exact .malformedAttribute hkind hname hraw
      | ok attributes =>
        rw [hraw] at h
        simp only [openTag] at h
        split at h
        · cases h
        · next hbody =>
          split at h
          · cases h
          · next hself =>
            split at h
            · next hfull =>
              cases h
              rw [← length_blocks] at hfull
              have hself : selfClosing = false := Bool.eq_false_iff.mpr hself
              have hbody : info.hasBody = true := by
                simpa only [Bool.not_eq_true', Bool.not_eq_false] using hbody
              subst hself
              exact .tooDeep hkind hname hbody hraw hfull
            · cases h
  | tagClose name =>
    rw [hkind] at h
    simp only at h
    cases hname : table name with
    | none =>
      rw [hname] at h
      cases h
    | some info =>
      rw [hname] at h
      simp only at h
      split at h
      · next hbody =>
        unfold closeTag at h
        split at h
        · next hopened =>
          cases h
          exact .unexpectedClose hkind hname hbody (by rw [blocks, hopened]; rfl)
        · next tag before opened hopened =>
          split at h
          · cases h
          · next hother =>
            cases h
            have hblocks : b.blocks = (tag.name, tag.span) :: opened.map
                fun frame => (frame.1.name, frame.1.span) := by
              rw [blocks, hopened]
              rfl
            exact .unbalancedTag hkind hname hbody hblocks hother
      · cases h

/-! ## All tokens -/

theorem acceptAll_append (items items' : List (Except ScanError Token)) :
    b.acceptAll table depth (items ++ items') =
      b.acceptAll table depth items >>= fun next => next.acceptAll table depth items' := by
  induction items generalizing b with
  | nil => rfl
  | cons item rest ih =>
    cases item with
    | error e => rfl
    | ok token =>
      rw [List.cons_append, acceptAll, acceptAll]
      cases b.accept table depth token with
      | error e => rfl
      | ok next => exact ih

/-- The row is refused at the first item that is not accepted. -/
theorem exists_of_acceptAll_error {items : List (Except ScanError Token)} {e : ParseError}
    (h : b.acceptAll table depth items = .error e) :
    ∃ before item rest next, items = before ++ item :: rest ∧
      b.acceptAll table depth before = .ok next ∧ Offends table depth next.blocks item e := by
  induction items generalizing b with
  | nil => cases h
  | cons item rest ih =>
    cases item with
    | error fault =>
      cases h
      exact ⟨[], _, rest, b, rfl, rfl, .scan fault⟩
    | ok token =>
      rw [acceptAll] at h
      cases haccept : b.accept table depth token with
      | error fault =>
        rw [haccept] at h
        cases h
        exact ⟨[], _, rest, b, rfl, rfl, offends_of_accept haccept⟩
      | ok next =>
        rw [haccept] at h
        obtain ⟨before, item, rest, last, rfl, hbefore, hitem⟩ := ih h
        refine ⟨.ok token :: before, item, rest, last, rfl, ?_, hitem⟩
        rw [acceptAll, haccept]
        exact hbefore

theorem accept_of_offends {e : ParseError} (h : Offends table depth b.blocks (.ok token) e) :
    b.accept table depth token = .error e := by
  cases h with
  | malformedAttribute hkind hname hraw => simp only [accept, hkind, hname, hraw]
  | tooDeep hkind hname hbody hraw hfull =>
    rw [length_blocks] at hfull
    have hopens : token.Opens table _ _ _ := .intro hkind hname hraw
    rw [accept_of_opens hopens, openTag, hbody]
    exact if_pos hfull
  | unexpectedClose hkind hname hbody hnone =>
    have hopened : b.opened = [] := List.map_eq_nil_iff.mp hnone
    simp only [accept, hkind, hname, hbody, if_true, closeTag, hopened]
  | unbalancedTag hkind hname hbody hblocks hother =>
    obtain ⟨⟨tag, before⟩, opened, hopened, rfl, -⟩ := List.map_eq_cons_iff.mp hblocks
    simp only [accept, hkind, hname, hbody, if_true, closeTag, hopened, if_neg hother]

/-- An item that offends where the builder stands ends the row. -/
theorem acceptAll_of_offends {item : Except ScanError Token} {e : ParseError}
    (h : Offends table depth b.blocks item e) (rest : List (Except ScanError Token)) :
    b.acceptAll table depth (item :: rest) = .error e := by
  cases item with
  | error fault =>
    cases h
    rfl
  | ok token => rw [acceptAll, accept_of_offends h]

/-- What was accepted is without offence. -/
theorem sound_of_acceptAll {items : List (Except ScanError Token)}
    (h : empty.acceptAll table depth items = .ok b) : Sound table depth items b.blocks := by
  -- By the last token: all before it is without offence, and it does what its mark says.
  induction items using List.reverseRecOn generalizing b with
  | nil =>
    cases h
    exact sound_nil
  | append_singleton items item ih =>
    rw [acceptAll_append] at h
    cases hbefore : empty.acceptAll table depth items with
    | error e =>
      rw [hbefore] at h
      cases h
    | ok before =>
      rw [hbefore] at h
      have hsound := ih hbefore
      cases item with
      | error e => cases h
      | ok token =>
        have haccept : before.accept table depth token = .ok b := by
          change before.acceptAll table depth [.ok token] = .ok b at h
          rw [acceptAll] at h
          split at h
          · cases h
          · next htoken =>
            cases h
            exact htoken
        have hfollows := (accept_iff.mp haccept).follows
        exact sound_concat_iff.mpr ⟨before.blocks, hsound, hfollows.attributesRead,
          hfollows.blocks, hfollows.length_le hsound.length_le⟩

/-- What is without offence is accepted. -/
theorem acceptAll_of_sound {items : List (Except ScanError Token)} {blocks : List OpenBlock}
    (h : Sound table depth items blocks) :
    ∃ b, empty.acceptAll table depth items = .ok b ∧ b.blocks = blocks := by
  cases hall : empty.acceptAll table depth items with
  | error e =>
    obtain ⟨before, item, rest, next, rfl, hbefore, hitem⟩ := exists_of_acceptAll_error hall
    exact (h.not_offends (sound_of_acceptAll hbefore) hitem).elim
  | ok b => exact ⟨b, rfl, h.blocks_eq (sound_of_acceptAll hall)⟩

end TreeBuilder

namespace Template

variable {items : List (Except ScanError Token)}

theorem build_ok_iff_sound :
    (∃ template, build table depth items = .ok template) ↔ Sound table depth items [] := by
  constructor
  · rintro ⟨template, h⟩
    obtain ⟨b, hb, hopened, -⟩ := build_eq_ok_iff.mp h
    have hsound := TreeBuilder.sound_of_acceptAll hb
    rw [TreeBuilder.blocks, hopened] at hsound
    exact hsound
  · intro h
    obtain ⟨b, hb, hblocks⟩ := TreeBuilder.acceptAll_of_sound h
    exact ⟨_, build_eq_ok_iff.mpr ⟨b, hb, List.map_eq_nil_iff.mp hblocks, rfl⟩⟩

theorem blames_of_build {e : ParseError} (h : build table depth items = .error e) :
    Blames table depth items e := by
  unfold build at h
  cases hall : TreeBuilder.empty.acceptAll table depth items with
  | error fault =>
    rw [hall] at h
    cases h
    obtain ⟨before, item, rest, next, hitems, hbefore, hitem⟩ :=
      TreeBuilder.exists_of_acceptAll_error hall
    exact .offender hitems (TreeBuilder.sound_of_acceptAll hbefore) hitem
  | ok b =>
    have hsound := TreeBuilder.sound_of_acceptAll hall
    rw [hall] at h
    simp only [TreeBuilder.finish] at h
    split at h
    · cases h
    · next tag before opened hopened =>
      cases h
      rw [TreeBuilder.blocks, hopened] at hsound
      exact .unclosedTag hsound

theorem build_of_blames {e : ParseError} (h : Blames table depth items e) :
    build table depth items = .error e := by
  cases h with
  | offender hitems hbefore hitem =>
    obtain ⟨b, hb, hblocks⟩ := TreeBuilder.acceptAll_of_sound hbefore
    rw [← hblocks] at hitem
    have hall : TreeBuilder.empty.acceptAll table depth items = .error e := by
      rw [hitems, TreeBuilder.acceptAll_append, hb]
      exact TreeBuilder.acceptAll_of_offends hitem _
    rw [build, hall]
  | unclosedTag hsound =>
    obtain ⟨b, hb, hblocks⟩ := TreeBuilder.acceptAll_of_sound hsound
    obtain ⟨⟨tag, before⟩, opened, hopened, rfl, -⟩ := List.map_eq_cons_iff.mp hblocks
    simp only [build, hb, TreeBuilder.finish, hopened]

/-- Tokens make a tree exactly when all could be scanned, the attributes of all known tags can be
read, and their marks are balanced and never open more blocks than the limit allows. The error is
otherwise that of the first token that offends, and when none does, it blames the innermost block
that is still open. -/
theorem build_iff_balanced (table : TagTable) (depth : Nat)
    (items : List (Except ScanError Token)) :
    ((∃ template, build table depth items = .ok template) ↔
      Scanned items ∧ AttributesRead table items ∧ Balanced (marks table items) ∧
        NeverDeeper depth (marks table items)) ∧
    ∀ e, build table depth items = .error e ↔ Blames table depth items e := by
  refine ⟨build_ok_iff_sound.trans ?_, fun e => ⟨blames_of_build, build_of_blames⟩⟩
  constructor
  · intro h
    exact ⟨h.scanned, h.attributesRead, balanced_iff.mpr h.leavesOpen, h.neverDeeper⟩
  · rintro ⟨hscanned, hread, hbalanced, hdeep⟩
    exact ⟨hscanned, hread, .balanced hbalanced, hdeep⟩

end Template

end TagTemplate
