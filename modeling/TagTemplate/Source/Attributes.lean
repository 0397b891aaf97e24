import TagTemplate.Names.NameMap
import TagTemplate.Text.Blank

/-!
# Attributes

The attribute text of a tag, such as `name="x" count = 3 flag`, read into a map by name. A name
is an ASCII letter followed by ASCII letters, digits and underscores. A value follows an equals
sign, blanks allowed on both sides: a quoted value holds its own mark doubled, any other value
runs to the next blank. A name without a value has the empty one.

Nothing but a quote that never closes makes a text unreadable. Characters that cannot begin a
name are passed over, and a quoted text where a name is expected is passed over whole; so a bare
condition such as `x gt 1` reads as flags.
-/

namespace TagTemplate

/-- The attributes of a tag in the order written, by folded name. -/
abbrev Attributes := NameMap String

/-- A quote that never closes: its mark, and the offset of that mark in the attribute text. -/
structure AttributeError where
  mark : Char
  offset : Nat
deriving Repr, DecidableEq

/-- What is wrong, without the place. -/
def AttributeError.reason (e : AttributeError) : String := s!"Unterminated {e.mark} quote"

def AttributeError.message (e : AttributeError) : String :=
  s!"{e.reason} (at offset {e.offset})"

namespace Attributes

/-- A character that may follow the first one of a name. -/
def isNameChar (c : Char) : Bool := c.isAlphanum || c == '_'

/-- Reads the rest of a quoted text: its content, with doubled marks made single, and what follows
the closing mark. -/
def readQuoted (mark : Char) : List Char → Option (List Char × List Char)
  | [] => none
  | c :: rest =>
    if c = mark then
      match rest with
      | d :: rest' =>
        if d = mark then (readQuoted mark rest').map fun (value, after) => (mark :: value, after)
        else some ([], rest)
      | [] => some ([], [])
    else (readQuoted mark rest).map fun (value, after) => (c :: value, after)

/-- A quoted text takes at least its closing mark. -/
theorem length_lt_of_readQuoted {mark : Char} {cs value after : List Char}
    (h : readQuoted mark cs = some (value, after)) : after.length < cs.length := by
  fun_induction readQuoted mark cs generalizing value with
  | case1 => simp at h
  | case2 rest ih =>
    obtain ⟨⟨v, a⟩, hv, he⟩ := Option.map_eq_some_iff.1 h
    simp only [Prod.mk.injEq] at he
    obtain ⟨rfl, rfl⟩ := he
    have := ih hv
    simp only [List.length_cons]
    omega
  | case3 => simp_all
  | case4 => simp_all
  | case5 c rest _ ih =>
    obtain ⟨⟨v, a⟩, hv, he⟩ := Option.map_eq_some_iff.1 h
    simp only [Prod.mk.injEq] at he
    obtain ⟨rfl, rfl⟩ := he
    have := ih hv
    simp only [List.length_cons]
    omega

/-- A value after its equals sign, and what follows it. Fails with the mark of a quote that never
closes and what is left after that mark. -/
def readValue (cs : List Char) : Except (Char × List Char) (List Char × List Char) :=
  match cs with
  | [] => .ok ([], [])
  | c :: rest =>
    if c = '"' ∨ c = '\'' then
      match readQuoted c rest with
      | some split => .ok split
      | none => .error (c, rest)
    else
      .ok ((c :: rest).takeWhile (!Text.isBlank ·), (c :: rest).dropWhile (!Text.isBlank ·))

theorem length_dropWhile_le {α : Type} (p : α → Bool) (cs : List α) :
    (cs.dropWhile p).length ≤ cs.length := by
  have h := congrArg List.length (List.takeWhile_append_dropWhile (p := p) (l := cs))
  simp only [List.length_append] at h
  omega

theorem length_le_of_readValue {cs value after : List Char}
    (h : readValue cs = .ok (value, after)) : after.length ≤ cs.length := by
  unfold readValue at h
  split at h
  · simp_all
  · split at h
    · split at h
      · rename_i hq
        simp only [Except.ok.injEq] at h
        subst h
        have := length_lt_of_readQuoted hq
        simp only [List.length_cons]
        omega
      · simp at h
    · simp only [Except.ok.injEq, Prod.mk.injEq] at h
      obtain ⟨_, rfl⟩ := h
      exact length_dropWhile_le _ _

/-- What follows a name: a value and the text after it, or no value and the same text. -/
def readAssignment (cs : List Char) : Except (Char × List Char) (List Char × List Char) :=
  match Text.dropBlanks cs with
  | '=' :: rest => readValue (Text.dropBlanks rest)
  | _ => .ok ([], cs)

theorem length_le_of_readAssignment {cs value after : List Char}
    (h : readAssignment cs = .ok (value, after)) : after.length ≤ cs.length := by
  unfold readAssignment at h
  split at h
  · rename_i rest hd
    have h1 := Text.length_dropBlanks_le cs
    have h2 := Text.length_dropBlanks_le rest
    have h3 := length_le_of_readValue h
    simp only [hd, List.length_cons] at h1
    omega
  · simp_all

/-- Reads attributes into a map. `size` is the length of the whole text: an offset is what has
been read of it. -/
def readInto (map : Attributes) (size : Nat) (cs : List Char) : Except AttributeError Attributes :=
  match cs with
  | [] => .ok map
  | c :: rest =>
    if c = '"' ∨ c = '\'' then
      match _h : readQuoted c rest with
      | some (_, after) => readInto map size after
      | none => .error ⟨c, size - (rest.length + 1)⟩
    else if c.isAlpha then
      match _h : readAssignment (rest.dropWhile isNameChar) with
      | .ok (value, after) =>
        let name := String.ofList (c :: rest.takeWhile isNameChar)
        readInto (map.insert name (String.ofList value)) size after
      | .error (mark, left) => .error ⟨mark, size - (left.length + 1)⟩
    else readInto map size rest
termination_by cs.length
decreasing_by
  · have := length_lt_of_readQuoted _h
    simp only [List.length_cons]
    omega
  · have h1 := length_le_of_readAssignment _h
    have h2 := length_dropWhile_le isNameChar rest
    simp only [List.length_cons]
    omega
  · simp

/-- Reads the attribute text of a tag. -/
def parse (text : String) : Except AttributeError Attributes :=
  readInto .empty text.toList.length text.toList

end Attributes

end TagTemplate
