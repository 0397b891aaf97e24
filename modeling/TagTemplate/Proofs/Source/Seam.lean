import Mathlib.Data.List.Basic
import TagTemplate.Proofs.Source.Printed

/-!
# A source as part of another

The tokens of a source are found again in a longer one, if what follows it begins with a tag and
holds no quotes: no tag, comment or reference of the source can then go on into what follows, and
a quote that is left open stays so. The places are other ones. Where the source begins some lines
further down, each token stands that many lines further down (`itemsAt_append`).
-/

namespace TagTemplate

/-- Of a span only the line, and that some lines further down. -/
def Span.down (lines : Nat) (span : Span) : Span := ⟨0, 0, span.line + lines, 0⟩

/-- The token with another span. -/
def Token.relocate (f : Span → Span) (token : Token) : Token := { token with span := f token.span }

/-- Two tokens that are the same but for their spans, or two tags that differ besides in their
names, which are the same to whoever looks them up. -/
inductive Token.Renamed (same : String → String → Prop) (f f' : Span → Span)
    (token token' : Token) : Prop
  | kept (h : token'.relocate f' = token.relocate f)
  | opening {name name' raw : String} {selfClosing : Bool}
    (hkind : token.kind = .tagOpen name raw selfClosing)
    (hkind' : token'.kind = .tagOpen name' raw selfClosing) (hsame : same name name')
    (hspan : f' token'.span = f token.span)
  | closing {name name' : String} (hkind : token.kind = .tagClose name)
    (hkind' : token'.kind = .tagClose name') (hsame : same name name')
    (hspan : f' token'.span = f token.span)

/-- Two items that are such tokens, and no faults. -/
inductive Scanner.RenamedItem (same : String → String → Prop) (f f' : Span → Span) :
    Except ScanError Token → Except ScanError Token → Prop
  | token {token token' : Token} (h : token.Renamed same f f' token') :
    RenamedItem same f f' (.ok token) (.ok token')

/-- The second place is so many lines below the first one. -/
def Position.Below (lines : Nat) (p p' : Position) : Prop := p'.line = p.line + lines

namespace Position.Below

variable {lines : Nat} {p p' q q' : Position}

theorem advance (h : p.Below lines p') (cs : List Char) :
    (p.advance cs).Below lines (p'.advance cs) := by
  induction cs generalizing p p' with
  | nil => exact h
  | cons c cs ih =>
    refine ih ?_
    show (p'.step c).line = (p.step c).line + lines
    have hline : p'.line = p.line + lines := h
    unfold step
    split
    · show p'.line + 1 = p.line + 1 + lines
      omega
    · exact hline

theorem between (h : p.Below lines p') :
    (Span.between p' q').down 0 = (Span.between p q).down lines := by
  have hline : p'.line = p.line + lines := h
  show (⟨0, 0, p'.line + 0, 0⟩ : Span) = ⟨0, 0, p.line + lines, 0⟩
  rw [hline, Nat.add_zero]

end Position.Below

/-- What can follow a source without touching it: a tag, and no quotes. -/
structure IsSeam (suffix : List Char) : Prop where
  tag : ∃ afterMark, suffix = '<' :: afterMark ∧ opensTag afterMark = true
  plain : ∀ c ∈ suffix, ¬ (c = '"' ∨ c = '\'')

variable {suffix : List Char}

/-! ## Comments and references -/

theorem closeComment_append_right (afterMark : List Char) {depth : Nat}
    {cs inside after : List Char} (h : closeComment depth cs = some (inside, after)) :
    closeComment depth (cs ++ '<' :: afterMark) = some (inside, after ++ '<' :: afterMark) := by
  fun_induction closeComment depth cs generalizing inside with
  | case1 rest =>
    cases h
    rw [closeComment]
  | case2 => cases h
  | case3 depth rest ih =>
    obtain ⟨⟨inside', after'⟩, hclose, hpair⟩ := Option.map_eq_some_iff.mp h
    cases hpair
    simp [closeComment, ih hclose]
  | case4 depth rest ih =>
    obtain ⟨⟨inside', after'⟩, hclose, hpair⟩ := Option.map_eq_some_iff.mp h
    cases hpair
    simp [closeComment, ih hclose]
  | case5 depth c rest hopens hcloses ih =>
    obtain ⟨⟨inside', after'⟩, hclose, hpair⟩ := Option.map_eq_some_iff.mp h
    cases hpair
    -- no mark begins here and ends in what follows
    have hopens' : ∀ inner, c = '<' →
        rest ++ '<' :: afterMark = '!' :: '-' :: '-' :: '-' :: inner → False := by
      intro inner hc hrest
      rcases rest with _ | ⟨d₁, _ | ⟨d₂, _ | ⟨d₃, _ | ⟨d₄, rest⟩⟩⟩⟩ <;> simp_all
    have hcloses' : ∀ inner, c = '-' →
        rest ++ '<' :: afterMark = '-' :: '-' :: '>' :: inner → False := by
      intro inner hc hrest
      rcases rest with _ | ⟨d₁, _ | ⟨d₂, _ | ⟨d₃, rest⟩⟩⟩ <;> simp_all
    rw [List.cons_append, closeComment.eq_5 _ _ _ hopens' hcloses', ih hclose]
    rfl

theorem closeInterpolation_append_right (afterMark cs : List Char) :
    closeInterpolation (cs ++ '<' :: afterMark) =
      (closeInterpolation cs).map fun split => (split.1, split.2 ++ '<' :: afterMark) := by
  induction cs with
  | nil => rfl
  | cons c cs ih =>
    rw [List.cons_append, closeInterpolation, closeInterpolation, ih]
    split
    · rfl
    · split
      · rfl
      · rw [Option.map_map, Option.map_map]
        rfl

/-! ## Tags -/

theorem opensTag_append_right (afterMark cs : List Char) :
    opensTag (cs ++ '<' :: afterMark) = opensTag cs := by
  rcases cs with _ | ⟨c, cs⟩
  · rfl
  · by_cases hc : c = '/'
    · subst hc
      cases cs <;> rfl
    · cases cs <;> simp [opensTag, hc]

theorem closeTagOutsideQuotes_append_right {quote : Option Char} {cs inside after : List Char}
    (h : closeTagOutsideQuotes quote cs = .ok (inside, after)) (suffix : List Char) :
    closeTagOutsideQuotes quote (cs ++ suffix) = .ok (inside, after ++ suffix) := by
  induction cs generalizing quote inside with
  | nil => cases h
  | cons c cs ih =>
    have hstep : ∀ {next : Option Char}, (closeTagOutsideQuotes next cs).map
          (fun (split : List Char × List Char) => (c :: split.1, split.2)) = .ok (inside, after) →
        (closeTagOutsideQuotes next (cs ++ suffix)).map
          (fun (split : List Char × List Char) => (c :: split.1, split.2)) =
            .ok (inside, after ++ suffix) := by
      intro next h
      cases hclose : closeTagOutsideQuotes next cs with
      | error open' =>
        rw [hclose] at h
        cases h
      | ok split =>
        rw [hclose] at h
        cases h
        rw [ih hclose]
        rfl
    cases quote with
    | some mark =>
      rw [closeTagOutsideQuotes_inside] at h
      rw [List.cons_append, closeTagOutsideQuotes_inside]
      exact hstep h
    | none =>
      by_cases hend : c = '>'
      · subst hend
        cases h
        rfl
      · rw [closeTagOutsideQuotes_outside hend] at h
        rw [List.cons_append, closeTagOutsideQuotes_outside hend]
        exact hstep h

/-- A quote that is open at the end stays open where nothing that follows is a mark. -/
theorem closeTagOutsideQuotes_append_plain (hplain : ∀ c ∈ suffix, ¬ (c = '"' ∨ c = '\''))
    {quote : Option Char} (hquote : ∀ mark, quote = some mark → mark = '"' ∨ mark = '\'')
    {cs : List Char} (h : closeTagOutsideQuotes quote cs = .error true) :
    closeTagOutsideQuotes quote (cs ++ suffix) = .error true := by
  induction cs generalizing quote with
  | nil =>
    obtain ⟨mark, rfl⟩ : ∃ mark, quote = some mark :=
      Option.isSome_iff_exists.mp (Except.error.inj h)
    clear h
    induction suffix with
    | nil => rfl
    | cons c suffix ih =>
      obtain ⟨hc, hsuffix⟩ := List.forall_mem_cons.mp hplain
      have hne : c ≠ mark := fun heq => hc (heq ▸ hquote mark rfl)
      rw [List.nil_append, closeTagOutsideQuotes_inside, if_neg hne]
      rw [List.nil_append] at ih
      rw [ih hsuffix]
      rfl
  | cons c cs ih =>
    have hstep : ∀ {next : Option Char}, (∀ mark, next = some mark → mark = '"' ∨ mark = '\'') →
        (closeTagOutsideQuotes next cs).map
          (fun (split : List Char × List Char) => (c :: split.1, split.2)) = .error true →
        (closeTagOutsideQuotes next (cs ++ suffix)).map
          (fun (split : List Char × List Char) => (c :: split.1, split.2)) = .error true := by
      intro next hnext h
      cases hclose : closeTagOutsideQuotes next cs with
      | ok split =>
        rw [hclose] at h
        cases h
      | error open' =>
        rw [hclose] at h
        cases h
        rw [ih hnext hclose]
        rfl
    cases quote with
    | some mark =>
      rw [closeTagOutsideQuotes_inside] at h
      rw [List.cons_append, closeTagOutsideQuotes_inside]
      refine hstep ?_ h
      split
      · exact nofun
      · exact hquote
    | none =>
      by_cases hend : c = '>'
      · subst hend
        cases h
      · rw [closeTagOutsideQuotes_outside hend] at h
        rw [List.cons_append, closeTagOutsideQuotes_outside hend]
        refine hstep ?_ h
        split
        · next hc =>
          rintro mark ⟨⟩
          exact hc
        · exact nofun

theorem closeTagAnywhere_append_right {cs inside after : List Char}
    (h : closeTagAnywhere cs = some (inside, after)) (suffix : List Char) :
    closeTagAnywhere (cs ++ suffix) = some (inside, after ++ suffix) := by
  induction cs generalizing inside with
  | nil => cases h
  | cons c cs ih =>
    rw [closeTagAnywhere] at h
    rw [List.cons_append, closeTagAnywhere]
    split at h
    · next hc =>
      cases h
      rw [if_pos hc]
    · next hc =>
      obtain ⟨⟨inside', after'⟩, hclose, hpair⟩ := Option.map_eq_some_iff.mp h
      cases hpair
      rw [if_neg hc, ih hclose]
      rfl

/-- A tag ends where it did. -/
theorem closeTag_append_right (hplain : ∀ c ∈ suffix, ¬ (c = '"' ∨ c = '\''))
    {cs inside after : List Char} (h : closeTag cs = some (inside, after)) :
    closeTag (cs ++ suffix) = some (inside, after ++ suffix) := by
  unfold closeTag at h ⊢
  cases hclose : closeTagOutsideQuotes none cs with
  | ok split =>
    rw [hclose] at h
    cases h
    rw [closeTagOutsideQuotes_append_right hclose]
  | error isOpen =>
    rw [hclose] at h
    cases isOpen with
    | false => cases h
    | true =>
      have hnone : ∀ mark, (none : Option Char) = some mark → mark = '"' ∨ mark = '\'' := by
        intro mark h
        cases h
      rw [closeTagOutsideQuotes_append_plain hplain hnone hclose]
      exact closeTagAnywhere_append_right h suffix

/-! ## Text -/

/-- Markup with more behind it. -/
def Markup.append (suffix : List Char) : Markup → Markup
  | .tag afterMark => .tag (afterMark ++ suffix)
  | .interpolation expression after => .interpolation expression (after ++ suffix)

/-- What a character begins, with more behind it. -/
def Lead.append (suffix : List Char) : Lead → Lead
  | .comment inside => .comment (inside ++ suffix)
  | .markup found => .markup (found.append suffix)
  | .literal => .literal

theorem lead_append (afterMark : List Char) (c : Char) (rest : List Char) :
    lead c (rest ++ '<' :: afterMark) = (lead c rest).append ('<' :: afterMark) := by
  by_cases hlt : c = '<'
  · subst hlt
    have hmark : ∀ {cs : List Char}, (∀ inside, cs = '!' :: '-' :: '-' :: '-' :: inside → False) →
        lead '<' cs = if opensTag cs then .markup (.tag cs) else .literal := by
      intro cs hcs
      unfold lead
      rw [if_pos rfl]
      split
      · next inside => exact absurd rfl (hcs inside)
      · rfl
    by_cases hcomment : ∃ inside, rest = '!' :: '-' :: '-' :: '-' :: inside
    · obtain ⟨inside, rfl⟩ := hcomment
      rfl
    · have hrest : ∀ inside, rest = '!' :: '-' :: '-' :: '-' :: inside → False :=
        fun inside h => hcomment ⟨inside, h⟩
      have hlonger : ∀ inside,
          rest ++ '<' :: afterMark = '!' :: '-' :: '-' :: '-' :: inside → False := by
        intro inner h
        rcases rest with _ | ⟨d₁, _ | ⟨d₂, _ | ⟨d₃, _ | ⟨d₄, rest⟩⟩⟩⟩ <;> simp_all
      rw [hmark hrest, hmark hlonger, opensTag_append_right]
      split <;> rfl
  · unfold lead
    rw [if_neg hlt, if_neg hlt]
    split
    · rw [closeInterpolation_append_right]
      cases closeInterpolation rest with
      | none => rfl
      | some split => rfl
    · rfl

/-- A text run is the same in front of a seam, where it ends at the latest. -/
theorem textRun_append {lines : Nat} {afterMark : List Char} (hopens : opensTag afterMark = true)
    {kept rest : List Char} {start pos start' pos' : Position} {run : TextRun}
    (h : textRun kept start rest pos = .ok run) (hstart : start.Below lines start')
    (hpos : pos.Below lines pos') :
    ∃ run', textRun kept start' (rest ++ '<' :: afterMark) pos' = .ok run' ∧
      run'.text = run.text ∧ run.start.Below lines run'.start ∧ run.stop.Below lines run'.stop ∧
      run'.markup = some ((run.markup.map (·.append ('<' :: afterMark))).getD (.tag afterMark)) := by
  fun_induction textRun kept start rest pos generalizing start' pos' with
  | case1 kept start pos =>
    cases h
    refine ⟨_, textRun_of_atMarkup (atMarkup_tag hopens) kept start' pos', rfl, hstart, hpos, rfl⟩
  | case2 kept start pos c rest markup hlead =>
    cases h
    have hat : AtMarkup (c :: (rest ++ '<' :: afterMark))
        (some (markup.append ('<' :: afterMark))) :=
      ⟨c, _, rfl, by rw [lead_append, hlead]; rfl⟩
    exact ⟨_, textRun_of_atMarkup hat kept start' pos', rfl, hstart, hpos, rfl⟩
  | case3 kept start pos c rest hlead ih =>
    have hliteral : lead c (rest ++ '<' :: afterMark) = .literal := by
      rw [lead_append, hlead]
      rfl
    rw [List.cons_append, textRun_of_literal hliteral]
    refine ih h ?_ (hpos.advance [c])
    split
    · exact hpos
    · exact hstart
  | case4 => cases h
  | case5 kept start pos c rest inside hlead skipped after hclose ih =>
    have hcomment : lead c (rest ++ '<' :: afterMark) = .comment (inside ++ '<' :: afterMark) := by
      rw [lead_append, hlead]
      rfl
    rw [List.cons_append, textRun]
    split
    · next hm => rw [hcomment] at hm; cases hm
    · next hm => rw [hcomment] at hm; cases hm
    · next hm =>
      rw [hcomment] at hm
      cases hm
      have hclose' := closeComment_append_right afterMark hclose
      split
      · next hc => rw [hclose'] at hc; cases hc
      · next hc =>
        rw [hclose'] at hc
        cases hc
        exact ih h hstart (hpos.advance _)

/-! ## Tokens -/

namespace Scanner

theorem map_ok_inj {tokens tokens' : List Token}
    (h : tokens.map (Except.ok : Token → Except ScanError Token) = tokens'.map .ok) :
    tokens = tokens' :=
  List.map_injective_iff.mpr (fun _ _ => Except.ok.inj) h

/-- The token of a text run is the same some lines further down. -/
theorem tokens_relocate {lines : Nat} {run run' : TextRun} (htext : run'.text = run.text)
    (hstart : run.start.Below lines run'.start) :
    run'.tokens.map (Token.relocate (.down 0)) = run.tokens.map (Token.relocate (.down lines)) := by
  have htoken : run'.token.relocate (.down 0) = run.token.relocate (.down lines) := by
    rw [Token.relocate, Token.relocate, TextRun.token, TextRun.token, htext]
    exact congrArg (Token.mk _ · _) hstart.between
  rw [TextRun.tokens, TextRun.tokens, htext]
  split
  · rfl
  · exact congrArg (fun token => [token]) htoken

/-- The tokens of a source stand in front of those of what follows it, each of them so many lines
further down. -/
theorem itemsAt_append {suffix : List Char} (hsuffix : IsSeam suffix) {lines : Nat}
    {cs : List Char} {pos pos' : Position} (hpos : pos.Below lines pos') {tokens : List Token}
    (h : itemsAt cs pos = tokens.map .ok) :
    ∃ (tokens' : List Token) (stop : Position),
      itemsAt (cs ++ suffix) pos' = tokens'.map .ok ++ itemsAt suffix stop ∧
        tokens'.map (Token.relocate (.down 0)) = tokens.map (Token.relocate (.down lines)) := by
  obtain ⟨afterMark, rfl, hopens⟩ := hsuffix.tag
  cases hrun : textRun [] pos cs pos with
  | error p =>
    rw [itemsAt_of_error hrun] at h
    cases tokens <;> cases h
  | ok run =>
    obtain ⟨run', hrun', htext, hstart, hstop, hmarkup⟩ := textRun_append hopens hrun hpos hpos
    have hrest := rest_of_textRun hrun
    have hlength := length_le_of_textRun hrun
    rw [itemsAt_eq_round hrun] at h
    rw [itemsAt_eq_round hrun', hmarkup]
    have hround := tokens_relocate htext hstart
    -- a token that stands where the run ends, and the tokens after it
    have hmore : ∀ {kind : Token.Kind} {lexeme after : List Char}, after.length < cs.length →
        run.tokens.map .ok ++ .ok ⟨kind, .between run.stop (run.stop.advance lexeme),
          String.ofList lexeme⟩ :: itemsAt after (run.stop.advance lexeme) = tokens.map .ok →
        ∃ (tokens' : List Token) (stop : Position),
          run'.tokens.map .ok ++ .ok ⟨kind, .between run'.stop (run'.stop.advance lexeme),
            String.ofList lexeme⟩ :: itemsAt (after ++ '<' :: afterMark) (run'.stop.advance lexeme) =
              tokens'.map .ok ++ itemsAt ('<' :: afterMark) stop ∧
            tokens'.map (Token.relocate (.down 0)) =
              tokens.map (Token.relocate (.down lines)) := by
      intro kind lexeme after hshorter h
      obtain ⟨first, others, rfl, hfirst, hothers⟩ := List.append_eq_map_iff.mp h
      obtain ⟨token, later, rfl, htoken, hlater⟩ := List.map_eq_cons_iff.mp hothers
      obtain ⟨later', stop, hitems, hsame⟩ :=
        itemsAt_append hsuffix (hstop.advance lexeme) hlater.symm
      rw [map_ok_inj hfirst, Except.ok.inj htoken]
      refine ⟨run'.tokens ++ ⟨kind, .between run'.stop (run'.stop.advance lexeme),
        String.ofList lexeme⟩ :: later', stop, ?_, ?_⟩
      · rw [hitems]
        simp
      · rw [List.map_append, List.map_append, hround, List.map_cons, List.map_cons, hsame]
        have hspan : (Span.between run'.stop (run'.stop.advance lexeme)).down 0 =
            (Span.between run.stop (run.stop.advance lexeme)).down lines := hstop.between
        simp only [Token.relocate, hspan]
    rcases hm : run.markup with _ | ⟨inner⟩ | ⟨expression, after⟩
    · rw [hm] at h
      refine ⟨run'.tokens, run'.stop, ?_, ?_⟩
      · rw [itemsAt_of_atMarkup (atMarkup_tag hopens)]
        rfl
      · rw [itemsFromMarkup, List.append_nil] at h
        rw [hround, map_ok_inj h]
    · rw [hm] at h hrest
      rw [itemsFromMarkup] at h
      cases hclose : closeTag inner with
      | none =>
        rw [hclose] at h
        obtain ⟨first, others, -, -, hothers⟩ := List.append_eq_map_iff.mp h
        obtain ⟨token, later, -, htoken, -⟩ := List.map_eq_cons_iff.mp hothers
        cases htoken
      | some split =>
        obtain ⟨inside, after⟩ := split
        rw [hclose] at h
        have hclose' := closeTag_append_right hsuffix.plain hclose
        show ∃ (tokens' : List Token) (stop : Position), run'.tokens.map .ok ++
          itemsFromMarkup run'.stop (some (.tag (inner ++ '<' :: afterMark))) = _ ∧ _
        rw [itemsFromMarkup, hclose']
        refine hmore ?_ h
        have hinner := congrArg List.length (closeTag_append hclose)
        simp only [hrest, List.length_append, List.length_cons, List.length_nil] at hinner hlength
        omega
    · rw [hm] at h hrest
      refine hmore ?_ h
      simp only [hrest, List.length_append, List.length_cons, List.length_nil] at hlength
      omega
termination_by cs.length

end Scanner

end TagTemplate
