import TagTemplate.Text.CaseTable

/-!
# Small letters

Two foldings. Names of tags, attributes and variables fold the ASCII letters only, so `É` and
`é` stay two names. Comparisons in conditions fold every script: each capital becomes its small
form, `İ` becomes two characters, and a capital sigma at the end of a word becomes `ς`.
-/

namespace TagTemplate.Text

/-! ## Names -/

/-- The text with its ASCII capitals made small. -/
def foldAscii (s : String) : String := String.ofList (s.toList.map Char.toLower)

/-! ## Texts -/

/-- The small form of one character, apart from the sigma rule. -/
def lowerChar (c : Char) : List Char :=
  if c.val < 128 then [c.toLower]
  else if c == 'İ' then ['i', Char.ofNat 775]
  else match capitalRuns.find? (·.contains c.toNat) with
    | some run => [Char.ofNat (c.toNat + run.shift).toNat]
    | none => [c]

/-- The first character that is not case-ignorable is a cased one. -/
def meetsCased (cs : List Char) : Bool :=
  match cs.find? (fun c => !caseIgnorable.contains c) with
  | some c => cased.contains c
  | none => false

/-- The small forms of a text, given what stands before it, latest first. A capital sigma is
final when a cased letter stands before it and none after it. -/
def lowerAfter (before : List Char) : List Char → List Char
  | [] => []
  | c :: rest =>
    let small :=
      if c == 'Σ' then [if meetsCased before && !meetsCased rest then 'ς' else 'σ']
      else lowerChar c
    small ++ lowerAfter (c :: before) rest

/-- The text in small letters. -/
def lowercase (s : String) : String := String.ofList (lowerAfter [] s.toList)

end TagTemplate.Text
