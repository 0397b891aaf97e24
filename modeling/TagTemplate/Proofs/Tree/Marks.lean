import Mathlib.Data.List.Induction
import TagTemplate.Source.Position

/-!
# Words of marks

A block is opened and closed by two tags of one name. Of a row of tags only these marks matter for
what is open: a word of marks is balanced when each block is closed under its own name, and any word
whose closings match leaves some blocks open. Taking the marks one after the other, with the open
blocks on a stack, finds out the same (`leavesOpen_iff`).
-/

namespace TagTemplate

/-- A block that is open: its canonical name, and where its opening tag stands. -/
abbrev OpenBlock := String × Span

/-- What a token means for the blocks that are open. -/
inductive Mark where
  | opens (block : OpenBlock)
  | closes (name : String)
deriving Repr, DecidableEq

/-- The mark opens a block. -/
def Mark.isOpening : Mark → Bool
  | .opens _ => true
  | .closes _ => false

/-- The mark closes a block. -/
def Mark.isClosing : Mark → Bool
  | .opens _ => false
  | .closes _ => true

/-- Words in which each block that is opened is closed under its own name. -/
inductive Balanced : List Mark → Prop
  | nil : Balanced []
  | block (block : OpenBlock) {inner rest : List Mark} (hinner : Balanced inner)
    (hrest : Balanced rest) : Balanced (.opens block :: inner ++ .closes block.1 :: rest)

/-- The blocks that a word leaves open, the innermost first: what stands after the opening of each
of them is balanced, up to the opening of the next. -/
inductive LeavesOpen : List Mark → List OpenBlock → Prop
  | balanced {word : List Mark} (h : Balanced word) : LeavesOpen word []
  | opened {word inner : List Mark} {blocks : List OpenBlock} (h : LeavesOpen word blocks)
    (block : OpenBlock) (hinner : Balanced inner) :
    LeavesOpen (word ++ .opens block :: inner) (block :: blocks)

/-- At no point of a word are more blocks open than so many. -/
def NeverDeeper (depth : Nat) (word : List Mark) : Prop :=
  ∀ before, before <+: word →
    before.countP Mark.isOpening ≤ before.countP Mark.isClosing + depth

/-- What a mark makes of the blocks that are open, unless it closes one that is not the innermost. -/
def Mark.follow? : Mark → List OpenBlock → Option (List OpenBlock)
  | .opens block, blocks => some (block :: blocks)
  | .closes _, [] => none
  | .closes name, block :: blocks => if block.1 = name then some blocks else none

/-- What a word makes of the blocks that are open. -/
def followAll? : List Mark → List OpenBlock → Option (List OpenBlock)
  | [], blocks => some blocks
  | mark :: rest, blocks => (mark.follow? blocks).bind (followAll? rest)

theorem followAll?_append (word word' : List Mark) (blocks : List OpenBlock) :
    followAll? (word ++ word') blocks = (followAll? word blocks).bind (followAll? word') := by
  induction word generalizing blocks with
  | nil => rfl
  | cons mark rest ih =>
    rw [List.cons_append, followAll?, followAll?]
    cases mark.follow? blocks with
    | none => rfl
    | some next => exact ih next

/-- A balanced word leaves open what was open. -/
theorem Balanced.followAll? {word : List Mark} (h : Balanced word) (blocks : List OpenBlock) :
    followAll? word blocks = some blocks := by
  induction h generalizing blocks with
  | nil => rfl
  | block block _ _ ihinner ihrest =>
    rw [followAll?_append, TagTemplate.followAll?, Mark.follow?, Option.bind_some, ihinner,
      Option.bind_some, TagTemplate.followAll?, Mark.follow?, if_pos rfl]
    exact ihrest blocks

theorem Balanced.append {word word' : List Mark} (h : Balanced word) (h' : Balanced word') :
    Balanced (word ++ word') := by
  induction h with
  | nil => exact h'
  | block block hinner _ _ ihrest =>
    rw [List.append_assoc, List.cons_append]
    exact .block block hinner ihrest

theorem LeavesOpen.append {word inner : List Mark} {blocks : List OpenBlock}
    (h : LeavesOpen word blocks) (hinner : Balanced inner) : LeavesOpen (word ++ inner) blocks := by
  cases h with
  | balanced h => exact .balanced (h.append hinner)
  | opened h block hbefore =>
    rw [List.append_assoc, List.cons_append]
    exact .opened h block (hbefore.append hinner)

/-- A word leaves open what its marks, one after the other, make of no open block. -/
theorem leavesOpen_iff {word : List Mark} {blocks : List OpenBlock} :
    LeavesOpen word blocks ↔ followAll? word [] = some blocks := by
  constructor
  · intro h
    induction h with
    | balanced h => exact h.followAll? []
    | opened _ block hinner ih =>
      rw [followAll?_append, ih, Option.bind_some, followAll?, Mark.follow?, Option.bind_some]
      exact hinner.followAll? _
  · intro h
    -- By the last mark: a block that it closes was opened before, with a balanced word in between.
    induction word using List.reverseRecOn generalizing blocks with
    | nil =>
      cases h
      exact .balanced .nil
    | append_singleton word mark ih =>
      rw [followAll?_append] at h
      obtain ⟨before, hbefore, hmark⟩ := Option.bind_eq_some_iff.mp h
      have hword := ih hbefore
      rw [followAll?] at hmark
      obtain ⟨after, hafter, hlast⟩ := Option.bind_eq_some_iff.mp hmark
      cases hlast
      cases mark with
      | opens block =>
        cases hafter
        exact .opened hword block .nil
      | closes name =>
        cases hword with
        | balanced _ => cases hafter
        | opened hword block hinner =>
          rw [Mark.follow?] at hafter
          split at hafter
          · next hname =>
            cases hafter
            rw [List.append_assoc, List.cons_append, ← hname]
            exact hword.append (.block block hinner .nil)
          · cases hafter

theorem balanced_iff {word : List Mark} : Balanced word ↔ LeavesOpen word [] := by
  constructor
  · exact .balanced
  · intro h
    cases h with
    | balanced h => exact h

/-- So many blocks are left open as are opened and not closed. -/
theorem length_of_followAll? {word : List Mark} {blocks after : List OpenBlock}
    (h : followAll? word blocks = some after) :
    word.countP Mark.isOpening + blocks.length = word.countP Mark.isClosing + after.length := by
  induction word generalizing blocks with
  | nil =>
    cases h
    rfl
  | cons mark rest ih =>
    rw [followAll?] at h
    obtain ⟨next, hmark, hrest⟩ := Option.bind_eq_some_iff.mp h
    have hnext := ih hrest
    cases mark with
    | opens block =>
      cases hmark
      rw [List.length_cons] at hnext
      rw [List.countP_cons_of_pos rfl, List.countP_cons_of_neg Bool.false_ne_true]
      omega
    | closes name =>
      cases blocks with
      | nil => cases hmark
      | cons block blocks =>
        rw [Mark.follow?] at hmark
        split at hmark
        · cases hmark
          rw [List.countP_cons_of_neg Bool.false_ne_true, List.countP_cons_of_pos rfl, List.length_cons]
          omega
        · cases hmark

theorem neverDeeper_nil (depth : Nat) : NeverDeeper depth [] := by
  intro before hbefore
  rw [List.prefix_nil.mp hbefore]
  exact Nat.zero_le _

theorem NeverDeeper.of_append {depth : Nat} {word word' : List Mark}
    (h : NeverDeeper depth (word ++ word')) : NeverDeeper depth word :=
  fun before hbefore => h before (hbefore.trans (List.prefix_append _ _))

/-- A word with one more mark is never deeper if there is room for what it leaves open. -/
theorem neverDeeper_concat {depth : Nat} {word : List Mark} {mark : Mark}
    {blocks : List OpenBlock} (h : LeavesOpen (word ++ [mark]) blocks) :
    NeverDeeper depth (word ++ [mark]) ↔ NeverDeeper depth word ∧ blocks.length ≤ depth := by
  have hlength := length_of_followAll? (leavesOpen_iff.mp h)
  rw [List.length_nil] at hlength
  constructor
  · intro hdeep
    have hwhole := hdeep _ (List.prefix_refl _)
    exact ⟨hdeep.of_append, by omega⟩
  · rintro ⟨hdeep, hroom⟩ before hbefore
    rcases List.prefix_concat_iff.mp hbefore with rfl | hbefore
    · omega
    · exact hdeep before hbefore

end TagTemplate
