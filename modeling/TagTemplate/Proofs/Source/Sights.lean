import TagTemplate.Proofs.Source.Comments
import TagTemplate.Proofs.Source.Printed

/-!
# What a source shows

A token shows its kind and its lexeme, and a fault shows what it is; where they stand is another
matter. What a scanner in text shows from there on (`sights`) depends on the characters that it has
kept of a text run and on what is left, and on no place. Its equations follow the scanner along the
source: a literal character is kept (`sights_literal`), a comment is passed over (`sights_comment`),
and markup ends the text run (`sights_interpolation`, `sights_tag`).
-/

namespace TagTemplate

namespace Scanner

/-- What there is to see of an item, its place apart. -/
abbrev Sight := Except ScanFault (Token.Kind × String)

/-- What an item shows. -/
def sightOf : Except ScanError Token → Sight
  | .ok token => .ok (token.kind, token.lexeme)
  | .error e => .error e.fault

/-- What a text run shows: one token, or none without text. -/
def showText (text : List Char) : List Sight :=
  if text.isEmpty then [] else [.ok (.text (String.ofList text), String.ofList text)]

/-- What a token shows that is made of a lexeme. -/
def showLexeme (kind : Token.Kind) (lexeme : List Char) : Sight := .ok (kind, String.ofList lexeme)

theorem map_sightOf_tokens (run : TextRun) :
    (run.tokens.map Except.ok).map sightOf = showText run.text := by
  unfold TextRun.tokens showText
  split <;> rfl

end Scanner

/-! ## Text runs -/

/-- What a text run has found, its places apart. -/
def TextRun.found (run : TextRun) : List Char × Option Markup := (run.text, run.markup)

/-- A comment is passed over by a text run. -/
theorem textRun_of_comment {c : Char} {rest inside skipped after : List Char}
    (hlead : lead c rest = .comment inside) (hclose : closeComment 1 inside = some (skipped, after))
    (kept : List Char) (start pos : Position) :
    textRun kept start (c :: rest) pos =
      textRun kept start after (pos.advance ("<!---".toList ++ skipped)) := by
  rw [textRun]
  split
  · next hm => rw [hlead] at hm; cases hm
  · next hm => rw [hlead] at hm; cases hm
  · next hm =>
    rw [hlead] at hm
    cases hm
    split
    · next hc => rw [hclose] at hc; cases hc
    · next hc =>
      rw [hclose] at hc
      cases hc
      rfl

/-- A comment that never ends is the end of a text run. -/
theorem textRun_of_openComment {c : Char} {rest inside : List Char}
    (hlead : lead c rest = .comment inside) (hclose : closeComment 1 inside = none)
    (kept : List Char) (start pos : Position) :
    textRun kept start (c :: rest) pos = .error pos := by
  rw [textRun]
  split
  · next hm => rw [hlead] at hm; cases hm
  · next hm => rw [hlead] at hm; cases hm
  · next hm =>
    rw [hlead] at hm
    cases hm
    split
    · rfl
    · next hc => rw [hclose] at hc; cases hc

/-- What a text run finds does not depend on where it is read. -/
theorem found_textRun (kept rest : List Char) (start pos start' pos' : Position) :
    (textRun kept start' rest pos').toOption.map TextRun.found =
      (textRun kept start rest pos).toOption.map TextRun.found := by
  fun_induction textRun kept start rest pos generalizing start' pos' with
  | case1 kept start pos =>
    rw [textRun]
    rfl
  | case2 kept start pos c rest markup hlead =>
    have hmark : AtMarkup (c :: rest) (some markup) := ⟨c, rest, rfl, hlead⟩
    rw [textRun_of_atMarkup hmark]
    rfl
  | case3 kept start pos c rest hlead ih =>
    rw [textRun_of_literal hlead]
    exact ih _ _
  | case4 kept start pos c rest inside hlead hclose =>
    rw [textRun_of_openComment hlead hclose]
    rfl
  | case5 kept start pos c rest inside hlead skipped after hclose ih =>
    rw [textRun_of_comment hlead hclose]
    exact ih _ _

namespace Scanner

/-! ## What is seen from a place on -/

/-- The places behind markup do not show, if those further on do not. -/
theorem map_sightOf_itemsFromMarkup {rest : List Char} {markup : Option Markup}
    (hmark : AtMarkup rest markup) {pos pos' : Position}
    (h : ∀ after p p', after.length < rest.length →
      (itemsAt after p').map sightOf = (itemsAt after p).map sightOf) :
    (itemsFromMarkup pos' markup).map sightOf = (itemsFromMarkup pos markup).map sightOf := by
  cases markup with
  | none => rfl
  | some markup =>
    obtain ⟨c, inner, rfl, hlead⟩ := hmark
    have hhead := eq_of_lead_markup hlead
    rcases markup with ⟨afterMark⟩ | ⟨expression, after⟩
    · obtain ⟨rfl, rfl⟩ := hhead
      rw [itemsFromMarkup, itemsFromMarkup]
      cases hclose : closeTag inner with
      | none => rfl
      | some split =>
        obtain ⟨inside, after⟩ := split
        have hlength := congrArg List.length (closeTag_append hclose)
        refine congrArg (List.cons (showLexeme _ ('<' :: inside ++ ['>']))) (h after _ _ ?_)
        simp only [List.length_append, List.length_cons] at hlength ⊢
        omega
    · obtain ⟨rfl, rfl⟩ := hhead
      refine congrArg (List.cons (showLexeme _ ('#' :: expression ++ ['#']))) (h after _ _ ?_)
      simp only [List.length_append, List.length_cons]
      omega

/-- What a scanner shows does not depend on where it stands. -/
theorem map_sightOf_itemsAt (rest : List Char) (pos pos' : Position) :
    (itemsAt rest pos').map sightOf = (itemsAt rest pos).map sightOf := by
  -- By rounds: what follows the markup of a round is shorter.
  induction hn : rest.length using Nat.strongRecOn generalizing rest pos pos' with
  | ind n ih =>
    subst hn
    have hfound := found_textRun [] rest pos pos pos' pos'
    rcases hr : textRun [] pos rest pos with p | run <;>
      rcases hr' : textRun [] pos' rest pos' with p' | run' <;> rw [hr, hr'] at hfound
    · rw [itemsAt_of_error hr, itemsAt_of_error hr']
      rfl
    · cases hfound
    · cases hfound
    · obtain ⟨htext, hmarkup⟩ := Prod.mk.inj (Option.some.inj hfound)
      have hlength := length_le_of_textRun hr
      rw [List.length_nil, Nat.zero_add] at hlength
      rw [itemsAt_eq_round hr, itemsAt_eq_round hr', List.map_append, List.map_append,
        map_sightOf_tokens, map_sightOf_tokens, htext, hmarkup]
      refine congrArg _ (map_sightOf_itemsFromMarkup (atMarkup_of_textRun hr) ?_)
      exact fun after p p' hshort => ih _ (by omega) after p p' rfl

/-- What a text run shows that has found the given text and markup, and all behind it. A run that
finds nothing has met a comment without end. -/
def showFound : Option (List Char × Option Markup) → List Sight
  | none => [.error .unterminatedComment]
  | some (text, markup) => showText text ++ (itemsFromMarkup .start markup).map sightOf

/-- What a scanner in text shows that has kept some characters, latest first, of a text run. -/
def sights (kept rest : List Char) : List Sight :=
  showFound ((textRun kept .start rest .start).toOption.map TextRun.found)

/-- Text runs that find the same show the same. -/
theorem sights_congr {kept kept' rest rest' : List Char} {start pos start' pos' : Position}
    (h : textRun kept' start' rest' pos' = textRun kept start rest pos) :
    sights kept' rest' = sights kept rest := by
  rw [sights, sights, found_textRun kept' rest' start' pos', h, found_textRun]

/-- What a scanner in text shows is what its text run shows, and all behind it. -/
theorem map_sightOf_itemsAt_eq_sights (rest : List Char) (pos : Position) :
    (itemsAt rest pos).map sightOf = sights [] rest := by
  rw [map_sightOf_itemsAt rest .start, sights]
  cases hr : textRun [] .start rest .start with
  | error p =>
    rw [itemsAt_of_error hr]
    rfl
  | ok run =>
    rw [itemsAt_eq_round hr, List.map_append, map_sightOf_tokens]
    refine congrArg (showText run.text ++ ·) ?_
    exact map_sightOf_itemsFromMarkup (atMarkup_of_textRun hr)
      fun after p p' _ => map_sightOf_itemsAt after p p'

/-- What a source shows from its start. -/
theorem map_sightOf_items (source : String) :
    (ofSource source).items.map sightOf = sights [] source.toList :=
  map_sightOf_itemsAt_eq_sights source.toList .start

/-- A literal character is kept. -/
theorem sights_literal {c : Char} {rest : List Char} (h : lead c rest = .literal)
    (kept : List Char) : sights kept (c :: rest) = sights (c :: kept) rest :=
  sights_congr (textRun_of_literal h kept .start .start)

/-- A comment is passed over, and the text run goes on behind it. -/
theorem sights_comment {c : Char} {rest inside skipped after : List Char}
    (hlead : lead c rest = .comment inside) (hclose : closeComment 1 inside = some (skipped, after))
    (kept : List Char) : sights kept (c :: rest) = sights kept after :=
  sights_congr (textRun_of_comment hlead hclose kept .start .start)

/-- Markup ends the text run. -/
theorem sights_of_atMarkup {rest : List Char} {markup : Option Markup} (h : AtMarkup rest markup)
    (kept : List Char) :
    sights kept rest = showText kept.reverse ++ (itemsFromMarkup .start markup).map sightOf := by
  rw [sights, textRun_of_atMarkup h]
  rfl

/-- An interpolation is seen behind the text run, and then what follows it. -/
theorem sights_interpolation {expression after rest : List Char}
    (h : closeInterpolation rest = some (expression, after)) (kept : List Char) :
    sights kept ('#' :: rest) = showText kept.reverse ++
      showLexeme (.interpolation (String.ofList expression)) ('#' :: expression ++ ['#']) ::
        sights [] after := by
  have hmark : AtMarkup ('#' :: rest) (some (.interpolation expression after)) := by
    refine ⟨'#', rest, rfl, ?_⟩
    unfold lead
    rw [if_neg (by decide), if_pos rfl, h]
  rw [sights_of_atMarkup hmark, itemsFromMarkup, List.map_cons, map_sightOf_itemsAt_eq_sights]
  rfl

/-- So is a tag. -/
theorem sights_tag {afterMark inside after : List Char} (hopens : opensTag afterMark = true)
    (hclose : closeTag afterMark = some (inside, after)) (kept : List Char) :
    sights kept ('<' :: afterMark) = showText kept.reverse ++
      showLexeme (.ofTag inside) ('<' :: inside ++ ['>']) :: sights [] after := by
  rw [sights_of_atMarkup (atMarkup_tag hopens), itemsFromMarkup, hclose]
  rw [List.map_cons, map_sightOf_itemsAt_eq_sights]
  rfl

end Scanner

end TagTemplate
